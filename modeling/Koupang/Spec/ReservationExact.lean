import Koupang.ForStd.List
import Koupang.Spec.ServiceContracts

/-!
# Reserving the lines of an order

The consumer reserves the lines of an order one after the other, each against
the row that the lines before it have changed. All of them are reserved, or
none is and the order service is told.

Two lines of one SKU cannot both be reserved, whatever the stock: the table of
the reservations has one row for an order and a SKU.

## Key results

- `forM_reserveInventory_iff`: when the loop over the lines comes to its end
- `allOrNothing_iff`: when reserving an order goes by its total for each SKU
-/

namespace Koupang.Catalog

open Repository (insertReservation reserveInventory reserveSku)

/-- The quantity that the lines ask of a SKU. -/
def requested (items : List ReservationItem) (skuId : Uuid) : Int :=
  ((items.filter (·.1 = skuId)).map (·.2)).sum

theorem requested_cons (item : ReservationItem) (items : List ReservationItem) (skuId : Uuid) :
    requested (item :: items) skuId =
      (if item.1 = skuId then item.2 else 0) + requested items skuId :=
  List.sum_filter_key_cons item items

/-- A SKU that has one line is asked for the quantity of that line. -/
theorem requested_of_nodup {items : List ReservationItem} (h : (items.map (·.1)).Nodup)
    {item : ReservationItem} (hitem : item ∈ items) : requested items item.1 = item.2 :=
  List.sum_filter_key_of_nodup h hitem

/-- Every SKU of the order is there, is not deleted, and has stock for all its lines. -/
def Reservable (db : CatalogDb) (items : List ReservationItem) : Prop :=
  ∀ item ∈ items, ∃ sku, db.skus.find? item.1 = some sku ∧ sku.deleted = false ∧
    requested items item.1 ≤ sku.stockQuantity - sku.reservedQuantity

/-- Every line by itself has stock. -/
def Available (db : CatalogDb) (items : List ReservationItem) : Prop :=
  ∀ item ∈ items, ∃ sku, db.skus.find? item.1 = some sku ∧ sku.deleted = false ∧
    item.2 ≤ sku.stockQuantity - sku.reservedQuantity

theorem reservable_iff_available {db : CatalogDb} {items : List ReservationItem}
    (h : (items.map (·.1)).Nodup) : Reservable db items ↔ Available db items := by
  unfold Reservable Available
  refine forall₂_congr fun item hitem => ?_
  rw [requested_of_nodup h hitem]

/-- A state that the tables can be in: the rows meet the constraints of `skus`, and the generator
    gives no identifier twice. -/
structure Sound (db : CatalogDb) : Prop where
  checked : ∀ sku ∈ db.skus.rows, sku.check = .ok sku
  fresh : ∀ r ∈ db.inventoryReservations.rows, ∀ n, r.id = ⟨1, n⟩ → n < db.uuids

/-- No line of the order has a reservation yet. -/
def NotReserved (db : CatalogDb) (o : Uuid) (items : List ReservationItem) : Prop :=
  ∀ item ∈ items, ∀ r ∈ db.inventoryReservations.rows, ¬(r.orderId = o ∧ r.skuId = item.1)

/-! ## One line -/

section Line

variable {o skuId : Uuid} {quantity : Int} {db db' : CatalogDb} {s t : TxState CatalogDb}

/-- `db'` is `db` with one line reserved. -/
structure ReservesLine (db db' : CatalogDb) (o skuId : Uuid) (quantity : Int) : Prop where
  skus : db'.skus = db.skus.modify skuId
    (fun s => { s with reservedQuantity := s.reservedQuantity + quantity }) fun _ => rfl
  sku : ∃ sku, db.skus.find? skuId = some sku ∧ sku.deleted = false ∧
    quantity ≤ sku.stockQuantity - sku.reservedQuantity ∧
    ({ sku with reservedQuantity := sku.reservedQuantity + quantity } : Sku).check =
      .ok { sku with reservedQuantity := sku.reservedQuantity + quantity }
  rows : ∃ row, db'.inventoryReservations.rows = db.inventoryReservations.rows ++ [row] ∧
    row.item = (o, skuId, quantity) ∧ row.status = .reserved ∧ row.id = ⟨1, db.uuids⟩
  absent : ∀ r ∈ db.inventoryReservations.rows, ¬(r.orderId = o ∧ r.skuId = skuId)
  uuids : db'.uuids = db.uuids + 1
  outbox : db'.outbox = db.outbox

/-- The row that `INSERT INTO inventory_reservations` adds, when there is none. -/
theorem insertReservation_succeeds (hfresh : ∀ r ∈ db.inventoryReservations.rows, ∀ n,
    r.id = ⟨1, n⟩ → n < db.uuids) (hpos : 0 < quantity) (hmax : quantity ≤ 2147483647)
    (hsku : (db.skus.find? skuId).isSome)
    (habsent : ∀ r ∈ db.inventoryReservations.rows, ¬(r.orderId = o ∧ r.skuId = skuId)) :
    ∃ db', insertReservation o skuId quantity db = .ok ((), db') := by
  have hint : int4 quantity = .ok quantity := if_pos ⟨by omega, hmax⟩
  have hany : db.inventoryReservations.rows.any
      (fun r => r.orderId = o && r.skuId = skuId) = false := by
    rw [List.any_eq_false]
    intro r hr
    simpa using habsent r hr
  have hnone : db.inventoryReservations.find? (nowV7 db).1 = none := by
    rw [Table.find?_eq_none_iff]
    intro r hr hid
    exact absurd (hfresh r hr db.uuids hid) (Nat.lt_irrefl _)
  obtain ⟨rows, hrows⟩ := (nowV7 db).2.inventoryReservations.exists_insert
    (a := { id := (nowV7 db).1, orderId := o, skuId, quantity, status := .reserved }) hnone
  refine ⟨{ db with inventoryReservations := rows, uuids := db.uuids + 1 }, ?_⟩
  unfold insertReservation
  simp only [hint, hany, Except.bind_eq_ok]
  refine ⟨quantity, rfl, ?_⟩
  have hsome : (db.skus.find? skuId).isNone = false := by
    cases hfind : db.skus.find? skuId with
    | none =>
      rw [hfind] at hsku
      cases hsku
    | some sku => rfl
  rw [if_neg (by omega)]
  simp only [nowV7] at hrows
  simp only [hsome, Bool.false_eq_true, if_false, nowV7]
  rw [hrows]
  rfl

/-- The identifier of the row comes from the generator. -/
theorem insertReservation_id {row : InventoryReservationEntity}
    (h : insertReservation o skuId quantity db = .ok ((), db'))
    (hrows : db'.inventoryReservations.rows = db.inventoryReservations.rows ++ [row]) :
    row.id = ⟨1, db.uuids⟩ ∧ db'.uuids = db.uuids + 1 := by
  simp only [insertReservation, Except.bind_eq_ok] at h
  obtain ⟨q, -, h⟩ := h
  split at h
  · exact absurd h Except.throw_ne_ok
  split at h
  · exact absurd h Except.throw_ne_ok
  split at h
  · exact absurd h Except.throw_ne_ok
  simp only [nowV7] at h
  split at h
  · exact absurd h Except.throw_ne_ok
  · rename_i rows hinsert
    cases h
    have hrows' := ((Table.insert_eq_some ..).mp hinsert).2
    have hsame := List.append_cancel_left (hrows.symm.trans hrows')
    cases List.singleton_inj.mp hsame
    exact ⟨rfl, rfl⟩

/-- A line that was reserved had stock for it, and no reservation. -/
theorem reservesLine_of_ok (h : reserveInventory o skuId quantity s = .ok () t) :
    s.aborted = false ∧ ∃ db, t = { s with db } ∧ ReservesLine s.db db o skuId quantity := by
  simp only [reserveInventory, Tx.bind_ok, Tx.statement_ok] at h
  obtain ⟨n, _, ⟨hab, db₁, hupdate, rfl⟩, h⟩ := h
  cases updateSku_ok hupdate with
  | inl hnothing =>
    obtain ⟨rfl, -, -⟩ := hnothing
    obtain ⟨_, _, hthrow, -⟩ := Tx.bind_ok.mp h
    exact absurd hthrow Tx.throw_ok
  | inr hone =>
    obtain ⟨rfl, sku, hfind, hdeleted, hcond, hcheck, rfl⟩ := hone
    obtain ⟨-, db₂, hinsert, rfl⟩ := Tx.statement_ok.mp h
    obtain ⟨row, hitem, hstatus, -, hunique, -, hskus, houtbox, hrows⟩ :=
      insertReservation_ok hinsert
    obtain ⟨hid, huuids⟩ := insertReservation_id hinsert hrows
    refine ⟨hab, db₂, rfl, hskus, ⟨sku, hfind, hdeleted, of_decide_eq_true hcond, hcheck⟩,
      ⟨row, hrows, hitem, hstatus, hid⟩, ?_, huuids, houtbox⟩
    intro r hr hsame
    exact hunique r hr (Prod.ext hsame.1 hsame.2)

theorem reserveInventory_succeeds (hsound : Sound s.db) (hab : s.aborted = false)
    (hpos : 0 < quantity) (hmax : quantity ≤ 2147483647) {sku : Sku}
    (hfind : s.db.skus.find? skuId = some sku) (hdeleted : sku.deleted = false)
    (hstock : quantity ≤ sku.stockQuantity - sku.reservedQuantity)
    (habsent : ∀ r ∈ s.db.inventoryReservations.rows, ¬(r.orderId = o ∧ r.skuId = skuId)) :
    ∃ t, reserveInventory o skuId quantity s = .ok () t := by
  have hmem : sku ∈ s.db.skus.rows := ((s.db.skus.find?_eq_some_iff skuId sku).mp hfind).1
  obtain ⟨-, hstock₀, hstock₁, hreserved₀, hreserved₁⟩ := check_eq_ok.mp (hsound.checked sku hmem)
  have hcheck : ({ sku with reservedQuantity := sku.reservedQuantity + quantity } : Sku).check =
      .ok { sku with reservedQuantity := sku.reservedQuantity + quantity } := by
    rw [check_eq_ok]
    refine ⟨rfl, hstock₀, hstock₁, ?_, ?_⟩
    · show 0 ≤ sku.reservedQuantity + quantity
      omega
    · show sku.reservedQuantity + quantity ≤ 2147483647
      omega
  have hupdate : reserveSku skuId quantity s.db = .ok (1, { s.db with
      skus := s.db.skus.modify skuId
        (fun s => { s with reservedQuantity := s.reservedQuantity + quantity }) fun _ => rfl }) := by
    unfold reserveSku updateSku
    rw [hfind]
    dsimp only
    rw [if_pos (by simp [hdeleted, hstock]), hcheck]
    rfl
  have hsome : ((s.db.skus.modify skuId
      (fun s => { s with reservedQuantity := s.reservedQuantity + quantity })
        fun _ => rfl).find? skuId).isSome := by
    rw [Table.find?_modify, if_pos rfl, hfind]
    rfl
  obtain ⟨db', hinsert⟩ : ∃ db', insertReservation o skuId quantity { s.db with
      skus := s.db.skus.modify skuId
        (fun s => { s with reservedQuantity := s.reservedQuantity + quantity }) fun _ => rfl } =
        .ok ((), db') :=
    insertReservation_succeeds hsound.fresh hpos hmax hsome habsent
  refine ⟨{ s with db := db' }, ?_⟩
  simp only [reserveInventory, Tx.bind_ok, Tx.statement_ok]
  refine ⟨1, _, ⟨hab, _, hupdate, rfl⟩, ?_⟩
  rw [if_neg Nat.one_ne_zero]
  exact Tx.statement_ok.mpr ⟨hab, db', hinsert, rfl⟩

theorem ReservesLine.sound (h : ReservesLine db db' o skuId quantity) (hsound : Sound db) :
    Sound db' := by
  obtain ⟨sku, hfind, -, -, hcheck⟩ := h.sku
  obtain ⟨row, hrows, -, -, hid⟩ := h.rows
  constructor
  · intro sku' hsku'
    rw [h.skus, Table.mem_modify_of_find? _ hfind] at hsku'
    cases hsku' with
    | inl hother => exact hsound.checked sku' hother.1
    | inr hset =>
      rw [hset]
      exact hcheck
  · intro r hr n hn
    rw [h.uuids]
    rw [hrows, List.mem_append, List.mem_singleton] at hr
    cases hr with
    | inl hold => exact Nat.lt_succ_of_lt (hsound.fresh r hold n hn)
    | inr hnew =>
      rw [hnew, hid] at hn
      cases hn
      exact Nat.lt_succ_self _

/-- The other SKUs are as before. -/
theorem ReservesLine.find?_other (h : ReservesLine db db' o skuId quantity) {id : Uuid}
    (hne : id ≠ skuId) : db'.skus.find? id = db.skus.find? id := by
  rw [h.skus, Table.find?_modify, if_neg hne]

end Line

/-! ## All lines -/

section Lines

variable {o : Uuid} {db db' : CatalogDb}

/-- After a line was reserved, the rest can be reserved exactly as before, unless it has another
    line of this SKU. -/
theorem ReservesLine.rest {skuId : Uuid} {quantity : Int} {rest : List ReservationItem}
    (h : ReservesLine db db' o skuId quantity) :
    Available db' rest ∧ NotReserved db' o rest ↔
      skuId ∉ rest.map (·.1) ∧ Available db rest ∧ NotReserved db o rest := by
  obtain ⟨row, hrows, hitem, -, -⟩ := h.rows
  obtain ⟨ho, hsku, -⟩ : row.orderId = o ∧ row.skuId = skuId ∧ row.quantity = quantity := by
    simpa [InventoryReservationEntity.item] using hitem
  have hsame (hnot : skuId ∉ rest.map (·.1)) (item : ReservationItem) (hmem : item ∈ rest) :
      db'.skus.find? item.1 = db.skus.find? item.1 := by
    refine h.find?_other ?_
    intro heq
    exact hnot (heq ▸ List.mem_map_of_mem hmem)
  constructor
  · intro hafter
    obtain ⟨havailable, habsent⟩ := hafter
    have hnot : skuId ∉ rest.map (·.1) := by
      intro hmem
      obtain ⟨item, hmem, hid⟩ := List.mem_map.mp hmem
      have hrow : row ∈ db'.inventoryReservations.rows := by
        rw [hrows]
        exact List.mem_append_right _ (List.mem_singleton_self row)
      exact habsent item hmem row hrow ⟨ho, hsku.trans hid.symm⟩
    refine ⟨hnot, ?_, ?_⟩
    · intro item hmem
      rw [← hsame hnot item hmem]
      exact havailable item hmem
    · intro item hmem r hr
      have hr' : r ∈ db'.inventoryReservations.rows := by
        rw [hrows]
        exact List.mem_append_left _ hr
      exact habsent item hmem r hr'
  · intro hbefore
    obtain ⟨hnot, havailable, habsent⟩ := hbefore
    constructor
    · intro item hmem
      rw [hsame hnot item hmem]
      exact havailable item hmem
    · intro item hmem r hr
      rw [hrows, List.mem_append, List.mem_singleton] at hr
      cases hr with
      | inl hold => exact habsent item hmem r hold
      | inr hnew =>
        rw [hnew]
        intro hsameRow
        exact hnot (List.mem_map.mpr ⟨item, hmem, hsameRow.2.symm.trans hsku⟩)

/-- The loop over the lines comes to its end exactly when no SKU has two lines, no line is
    reserved yet, and every line has stock. -/
theorem forM_reserveInventory_iff {items : List ReservationItem} {s : TxState CatalogDb}
    (hsound : Sound s.db) (hab : s.aborted = false)
    (hquantity : ∀ item ∈ items, 0 < item.2 ∧ item.2 ≤ 2147483647) :
    (∃ t, (items.forM fun (skuId, quantity) => reserveInventory o skuId quantity) s = .ok () t) ↔
      (items.map (·.1)).Nodup ∧ Available s.db items ∧ NotReserved s.db o items := by
  induction items generalizing s with
  | nil =>
    constructor
    · intro _
      exact ⟨List.nodup_nil, List.forall_mem_nil _, List.forall_mem_nil _⟩
    · intro _
      exact ⟨s, rfl⟩
  | cons item rest ih =>
    obtain ⟨skuId, quantity⟩ := item
    obtain ⟨⟨hpos, hmax⟩, hquantity⟩ := List.forall_mem_cons.mp hquantity
    rw [List.map_cons, List.nodup_cons]
    constructor
    · intro ⟨t, h⟩
      obtain ⟨_, s₁, h₁, h₂⟩ := Tx.bind_ok.mp h
      obtain ⟨-, db₁, rfl, hline⟩ := reservesLine_of_ok h₁
      obtain ⟨hnodup, hrest⟩ := (ih (s := { s with db := db₁ }) (hline.sound hsound) hab hquantity).mp ⟨t, h₂⟩
      obtain ⟨hnot, havailable, habsent⟩ := hline.rest.mp hrest
      obtain ⟨sku, hfind, hdeleted, hstock, -⟩ := hline.sku
      refine ⟨⟨hnot, hnodup⟩, ?_, ?_⟩
      · exact List.forall_mem_cons.mpr ⟨⟨sku, hfind, hdeleted, hstock⟩, havailable⟩
      · exact List.forall_mem_cons.mpr ⟨hline.absent, habsent⟩
    · intro ⟨⟨hnot, hnodup⟩, havailable, habsent⟩
      obtain ⟨⟨sku, hfind, hdeleted, hstock⟩, havailable⟩ := List.forall_mem_cons.mp havailable
      obtain ⟨hfirst, habsent⟩ := List.forall_mem_cons.mp habsent
      obtain ⟨s₁, h₁⟩ :=
        reserveInventory_succeeds hsound hab hpos hmax hfind hdeleted hstock hfirst
      obtain ⟨-, db₁, rfl, hline⟩ := reservesLine_of_ok h₁
      have hrest := hline.rest.mpr ⟨hnot, havailable, habsent⟩
      obtain ⟨t, h₂⟩ := (ih (s := { s with db := db₁ }) (hline.sound hsound) hab hquantity).mpr ⟨hnodup, hrest⟩
      exact ⟨t, Tx.bind_ok.mpr ⟨(), _, h₁, h₂⟩⟩

/-- `db'` is `db` with every line of the order reserved, and nothing else. -/
structure ReservesAll (db db' : CatalogDb) (o : Uuid) (items : List ReservationItem) : Prop where
  skus : ∀ id, db'.skus.find? id = (db.skus.find? id).map fun sku =>
    { sku with reservedQuantity := sku.reservedQuantity + requested items id }
  rows : ∃ new, db'.inventoryReservations.rows = db.inventoryReservations.rows ++ new ∧
    new.map (·.item) = items.map (fun item => (o, item)) ∧ ∀ r ∈ new, r.status = .reserved
  outbox : db'.outbox = db.outbox

theorem ReservesLine.cons {skuId : Uuid} {quantity : Int} {rest : List ReservationItem}
    {db'' : CatalogDb} (h : ReservesLine db db' o skuId quantity)
    (hrest : ReservesAll db' db'' o rest) : ReservesAll db db'' o ((skuId, quantity) :: rest) := by
  obtain ⟨row, hrows, hitem, hstatus, -⟩ := h.rows
  obtain ⟨new, hnew, hitems, hall⟩ := hrest.rows
  refine ⟨?_, ⟨row :: new, ?_, ?_, ?_⟩, hrest.outbox.trans h.outbox⟩
  · intro id
    rw [hrest.skus, h.skus, Table.find?_modify, requested_cons]
    by_cases hid : id = skuId
    · rw [if_pos hid, if_pos hid.symm, hid, Option.map_map]
      refine Option.map_congr fun sku _ => ?_
      show ({ sku with reservedQuantity := sku.reservedQuantity + quantity + _ } : Sku) = _
      rw [add_assoc]
    · rw [if_neg hid, if_neg (Ne.symm hid), zero_add]
  · rw [hnew, hrows, List.append_assoc]
    rfl
  · rw [List.map_cons, hitems, hitem]
    rfl
  · exact List.forall_mem_cons.mpr ⟨hstatus, hall⟩

theorem reservesAll_of_ok {items : List ReservationItem} {s t : TxState CatalogDb}
    (h : (items.forM fun (skuId, quantity) => reserveInventory o skuId quantity) s = .ok () t) :
    ∃ db, t = { s with db } ∧ ReservesAll s.db db o items := by
  induction items generalizing s with
  | nil =>
    obtain ⟨-, rfl⟩ := Tx.pure_ok.mp h
    refine ⟨s.db, rfl, ?_, ⟨[], (List.append_nil _).symm, rfl, List.forall_mem_nil _⟩, rfl⟩
    intro id
    have hzero : requested [] id = 0 := rfl
    rw [hzero]
    simp
  | cons item rest ih =>
    obtain ⟨_, s₁, h₁, h₂⟩ := Tx.bind_ok.mp h
    obtain ⟨-, db₁, rfl, hline⟩ := reservesLine_of_ok h₁
    obtain ⟨db₂, rfl, hrest⟩ := ih h₂
    exact ⟨db₂, rfl, hline.cons hrest⟩

end Lines

/-! ## What is said when a line cannot be reserved -/

/-- The text of an error that fits an event. -/
def ShortText (e : AppError) : Prop := (toString e : String).utf8ByteSize ≤ 300

theorem shortText_internal {label m : String} (hlabel : label.utf8ByteSize ≤ 100)
    (hm : m.utf8ByteSize ≤ 100) : ShortText (.internalServerError (label ++ m)) := by
  show ("Internal server error: " ++ (label ++ m)).utf8ByteSize ≤ 300
  have hkind : "Internal server error: ".utf8ByteSize = 23 := by decide
  rw [String.utf8ByteSize_append, String.utf8ByteSize_append]
  omega

theorem shortText_insufficient {skuId : Uuid} (h : (toString skuId : String).utf8ByteSize ≤ 36) :
    ShortText (.badRequest s!"Insufficient stock for SKU {skuId}") := by
  show ("Bad request: " ++ ("Insufficient stock for SKU " ++ toString skuId)).utf8ByteSize ≤ 300
  have hkind : "Bad request: ".utf8ByteSize = 13 := by decide
  have hlabel : "Insufficient stock for SKU ".utf8ByteSize = 27 := by decide
  rw [String.utf8ByteSize_append, String.utf8ByteSize_append]
  omega

theorem check_error {sku : Sku} {m : String} (h : sku.check = .error m) :
    m.utf8ByteSize ≤ 100 := by
  simp only [Sku.check, int4] at h
  split at h
  · split at h
    · change (if sku.reservedQuantity < 0 then _ else _) = _ at h
      split at h
      · cases h
        decide
      · split at h
        · cases h
          decide
        · cases h
    · cases h
      decide
  · cases h
    decide

theorem updateSku_error {id : Uuid} {cond : Sku → Bool} {set : Sku → Sku}
    {hset : ∀ s, (set s).id = s.id} {db : CatalogDb} {m : String}
    (h : updateSku id cond set hset db = .error m) : m.utf8ByteSize ≤ 100 := by
  unfold updateSku at h
  split at h
  · cases h
  · rename_i sku _
    split at h
    · cases hcheck : (set sku).check with
      | error m' =>
        rw [hcheck] at h
        cases h
        exact check_error hcheck
      | ok sku' =>
        rw [hcheck] at h
        cases h
    · cases h

theorem insertReservation_error {o skuId : Uuid} {quantity : Int} {db : CatalogDb} {m : String}
    (h : insertReservation o skuId quantity db = .error m) : m.utf8ByteSize ≤ 100 := by
  simp only [insertReservation, Except.bind_eq_error] at h
  cases h with
  | inl hint =>
    unfold int4 at hint
    split at hint <;> cases hint
    decide
  | inr h =>
    obtain ⟨q, -, h⟩ := h
    -- CHECK, the foreign key, the unique constraint
    split at h
    · cases h
      decide
    split at h
    · cases h
      decide
    split at h
    · cases h
      decide
    -- the primary key
    simp only [nowV7] at h
    split at h
    · cases h
      decide
    · cases h

theorem reserveInventory_error {o skuId : Uuid} {quantity : Int} {s t : TxState CatalogDb}
    {e : AppError} (hid : (toString skuId : String).utf8ByteSize ≤ 36)
    (h : reserveInventory o skuId quantity s = .error e t) : ShortText e := by
  have haborted : Tx.abortedMessage.utf8ByteSize ≤ 100 := by decide
  cases Tx.bind_error.mp h with
  | inl hupdate =>
    obtain ⟨m, rfl, hm⟩ := Tx.statement_error hupdate
    refine shortText_internal (by decide) ?_
    cases hm with
    | inl hm => exact hm ▸ haborted
    | inr hm => exact updateSku_error hm
  | inr hrest =>
    obtain ⟨n, u, -, hrest⟩ := hrest
    by_cases hn : n = 0
    · rw [if_pos hn] at hrest
      cases hrest
      exact shortText_insufficient hid
    · rw [if_neg hn] at hrest
      obtain ⟨m, rfl, hm⟩ := Tx.statement_error hrest
      refine shortText_internal (by decide) ?_
      cases hm with
      | inl hm => exact hm ▸ haborted
      | inr hm => exact insertReservation_error hm

/-! ## The order -/

section Service

variable [SerdeJson]

theorem writeReservationFailedOnPool_emits {o : Uuid} {reason : String} {s : TxState CatalogDb}
    [SerdeJson.Estimated] (hreason : reason.utf8ByteSize ≤ 300) :
    ∃ t, writeReservationFailedOnPool o reason s = .ok () t ∧
      Emits s.pool t.pool o .inventoryReservationFailed := by
  let ins : OutboxInsert :=
    { topic := .catalogEvents
      envelope :=
        { metadata := { eventId := (nowV7 s.pool).1, eventType := .inventoryReservationFailed,
                        aggregateType := .inventory, aggregateId := o, sourceService := .catalog }
          payload := { orderId := some o, reason := some reason } } }
  have hfits : SerdeJson.payloadBytes ins.envelope ≤ maxPayloadBytes := by
    have hestimate := SerdeJson.Estimated.payloadBytes_le ins.envelope
    change _ ≤ 1000 + 6 * reason.utf8ByteSize + 0 + 0 + 40 + 250 * 0 at hestimate
    have hmax : maxPayloadBytes = 900000 := rfl
    omega
  have hcommitted : Tx.attempt (do
      let metadata ← newMetadata .inventoryReservationFailed o
      let payload : Payload := { orderId := some o, reason := some reason }
      insertOutboxEvent { topic := .catalogEvents, envelope := { metadata, payload } }) s.pool =
        .committed () (insertOutboxRow ins (nowV7 s.pool).2).2 := by
    rw [Tx.attempt_eq_committed]
    refine ⟨{ Tx.begin s.pool with db := (insertOutboxRow ins (nowV7 s.pool).2).2 }, ?_, rfl, rfl⟩
    simp only [newMetadata, Tx.bind_ok, Tx.client_ok, Tx.pure_ok, insertOutboxEvent_ok]
    exact ⟨_, _, ⟨_, _, ⟨rfl, rfl⟩, rfl, rfl⟩, hfits, rfl, rfl⟩
  refine ⟨{ s with pool := (insertOutboxRow ins (nowV7 s.pool).2).2 }, ?_,
    ⟨⟨ins, rfl, rfl, rfl, rfl, rfl⟩, rfl, rfl⟩⟩
  unfold writeReservationFailedOnPool Tx.onPool withTransaction
  rw [hcommitted]

variable {o buyerId : Uuid} {totalAmount : Decimal} {currency : String}
  {items : List ReservationItem} {db : CatalogDb}

/-- The lines of an order fit the event about their reservation. -/
theorem doReserveAndWriteEvent_iff [SerdeJson.Estimated] (hlength : items.length ≤ 100)
    (hcurrency : currency.utf8ByteSize ≤ 3) {s : TxState CatalogDb} :
    (∃ t, doReserveAndWriteEvent o buyerId (.decimal totalAmount) currency items s = .ok () t) ↔
      s.aborted = false ∧
      ∃ t, (items.forM fun (skuId, quantity) => reserveInventory o skuId quantity) s =
        .ok () t := by
  simp only [doReserveAndWriteEvent, newMetadata, Tx.bind_ok, Tx.client_ok, Tx.pure_ok,
    insertOutboxEvent_ok]
  constructor
  · intro h
    obtain ⟨t, _, u, hitems, _, _, ⟨_, _, ⟨rfl, rfl⟩, rfl, rfl⟩, -, hab, -⟩ := h
    obtain ⟨db', rfl, -⟩ := reservesAll_of_ok hitems
    exact ⟨hab, _, hitems⟩
  · intro h
    obtain ⟨hab, t, hitems⟩ := h
    obtain ⟨db', rfl, -⟩ := reservesAll_of_ok hitems
    refine ⟨_, (), _, hitems, _, _, ⟨_, _, ⟨rfl, rfl⟩, rfl, rfl⟩, ?_, hab, rfl⟩
    refine (SerdeJson.Estimated.payloadBytes_le _).trans ?_
    show 1000 + 0 + 6 * currency.utf8ByteSize + 0 + 40 + 250 * (items.map _).length ≤ 900000
    rw [List.length_map]
    omega

/-- What an order asks of the catalog, as its OrderCreated event says it. -/
def linesOf (valid : Order.ValidCreateOrderReq) : List ReservationItem :=
  valid.items.map fun i => (i.skuId, i.quantity)

/-- Reserving `items` for the order `o` goes by what they ask of each SKU: where every SKU has
    stock for all of it, all lines are reserved and InventoryReserved is emitted, and elsewhere
    the inventory stays as it is and InventoryReservationFailed is emitted. -/
def AllOrNothing (db : CatalogDb) (o buyerId : Uuid) (totalAmount : Decimal) (currency : String)
    (items : List ReservationItem) : Prop :=
  let answer := Tx.attempt
    (reserveForOrderOnTx o buyerId (.decimal totalAmount) currency items) db
  (Reservable db items → ∃ reserved db', answer = .committed () db' ∧
    ReservesAll db reserved o items ∧ Emits reserved db' o .inventoryReserved) ∧
  (¬Reservable db items → ∃ e db', answer = .failed e db' ∧
    Emits db db' o .inventoryReservationFailed)

/-- The lines are all reserved. -/
theorem attempt_reserveForOrderOnTx_ok {t : TxState CatalogDb}
    (h : doReserveAndWriteEvent o buyerId (.decimal totalAmount) currency items (Tx.begin db) =
      .ok () t) :
    ∃ reserved db', Tx.attempt
        (reserveForOrderOnTx o buyerId (.decimal totalAmount) currency items) db =
          .committed () db' ∧
      ReservesAll db reserved o items ∧ Emits reserved db' o .inventoryReserved := by
  have hreserve : reserveForOrderOnTx o buyerId (.decimal totalAmount) currency items
      (Tx.begin db) = .ok () t := by
    unfold reserveForOrderOnTx
    rw [h]
  simp only [doReserveAndWriteEvent, newMetadata, Tx.bind_ok, Tx.client_ok, Tx.pure_ok,
    insertOutboxEvent_ok] at h
  obtain ⟨_, _, hitems, _, _, ⟨_, _, ⟨rfl, rfl⟩, rfl, rfl⟩, -, hab, rfl⟩ := h
  obtain ⟨reserved, rfl, hall⟩ := reservesAll_of_ok hitems
  exact ⟨reserved, _, Tx.attempt_eq_committed.mpr ⟨_, hreserve, hab, rfl⟩, hall,
    ⟨_, rfl, rfl, rfl, rfl, rfl⟩, rfl, rfl⟩

/-- The lines are not all reserved. -/
theorem attempt_reserveForOrderOnTx_error [SerdeJson.Estimated]
    (hids : ∀ item ∈ items, (toString item.1 : String).utf8ByteSize ≤ 36)
    (h : ¬∃ t, (items.forM fun (skuId, quantity) => reserveInventory o skuId quantity)
      (Tx.begin db) = .ok () t) :
    ∃ e db', Tx.attempt (reserveForOrderOnTx o buyerId (.decimal totalAmount) currency items) db =
        .failed e db' ∧ Emits db db' o .inventoryReservationFailed := by
  have hkeeps := keepsPool_doReserveAndWriteEvent o buyerId (.decimal totalAmount) currency items
    (Tx.begin db)
  cases hitems : (items.forM fun (skuId, quantity) => reserveInventory o skuId quantity)
      (Tx.begin db) with
  | ok u t => exact absurd ⟨t, hitems⟩ h
  | error e t =>
    have hdo : doReserveAndWriteEvent o buyerId (.decimal totalAmount) currency items
        (Tx.begin db) = .error e t := Tx.bind_error.mpr (.inl hitems)
    rw [hdo] at hkeeps
    obtain ⟨item, hitem, u, hu⟩ := Tx.forM_error hitems
    have htext : ShortText e := reserveInventory_error (hids item hitem) hu
    obtain ⟨t', hwrite, hemits⟩ := writeReservationFailedOnPool_emits (o := o) (s := t) htext
    refine ⟨e, t'.pool, ?_, ?_⟩
    · have hreserve : reserveForOrderOnTx o buyerId (.decimal totalAmount) currency items
          (Tx.begin db) = .error e t' := by
        unfold reserveForOrderOnTx
        rw [hdo]
        exact Tx.bind_error.mpr (.inr ⟨(), t', hwrite, rfl⟩)
      unfold Tx.attempt
      rw [hreserve]
    · have hpool : t.pool = db := hkeeps
      rwa [hpool] at hemits

omit [SerdeJson] in
/-- What `create_order` lets through. -/
theorem linesOf_admitted {key : String} {req : Order.CreateOrderReq}
    {valid : Order.ValidCreateOrderReq} (h : Order.Admitted key req valid) :
    (linesOf valid).length ≤ 100 ∧ valid.currency.utf8ByteSize ≤ 3 ∧
      ∀ item ∈ linesOf valid, 0 < item.2 ∧ item.2 ≤ 2147483647 := by
  obtain ⟨-, hcount, -, hsupported, -, -⟩ := Saga.passed_creationRules.mp h.passed
  refine ⟨?_, ?_, ?_⟩
  · unfold linesOf
    rw [List.length_map]
    exact hcount
  · have hall : ∀ c ∈ Order.supportedCurrencies, c.utf8ByteSize ≤ 3 := by decide
    exact hall valid.currency hsupported
  · have hquantities := Except.forall_of_mapM_ok (fun _ _ => Saga.quantity_bounds)
      (Order.validated_ok h.validated).2.1
    have hbound : Order.maxOrderQuantity = 9999 := rfl
    intro item hitem
    obtain ⟨i, hi, rfl⟩ := List.mem_map.mp hitem
    obtain ⟨hpos, hmax⟩ := hquantities i hi
    show 0 < i.quantity ∧ i.quantity ≤ 2147483647
    omega

/-- Reserving an order that `create_order` has admitted, and that has no reservations yet, goes by
    what it asks of each SKU, unless the stock would do but a SKU has two lines. -/
theorem allOrNothing_iff [SerdeJson.Estimated] {key : String} {req : Order.CreateOrderReq}
    {valid : Order.ValidCreateOrderReq} (hadmitted : Order.Admitted key req valid)
    {db : CatalogDb} (hsound : Sound db) {o : Uuid}
    (hnew : ∀ r ∈ db.inventoryReservations.rows, r.orderId ≠ o)
    (hids : ∀ item ∈ valid.items, (toString item.skuId : String).utf8ByteSize ≤ 36)
    (buyerId : Uuid) :
    AllOrNothing db o buyerId valid.totalAmount valid.currency (linesOf valid) ↔
      (Reservable db (linesOf valid) → ((linesOf valid).map (·.1)).Nodup) := by
  obtain ⟨hlength, hcurrency, hquantity⟩ := linesOf_admitted hadmitted
  have hids : ∀ item ∈ linesOf valid, (toString item.1 : String).utf8ByteSize ≤ 36 := by
    intro item hitem
    obtain ⟨i, hi, rfl⟩ := List.mem_map.mp hitem
    exact hids i hi
  have habsent : NotReserved db o (linesOf valid) := by
    intro item _ r hr hsame
    exact hnew r hr hsame.1
  have hloop := forM_reserveInventory_iff (o := o) (s := Tx.begin db) hsound rfl hquantity
  constructor
  · intro h hreservable
    by_contra hrepeated
    -- the loop stops at the second line of a SKU, and the order is told to have failed
    obtain ⟨_, db', hcommitted, -⟩ := h.1 hreservable
    have hfails : ¬∃ t, ((linesOf valid).forM fun (skuId, quantity) =>
        reserveInventory o skuId quantity) (Tx.begin db) = .ok () t :=
      fun hok => hrepeated (hloop.mp hok).1
    obtain ⟨e, db'', hfailed, -⟩ := attempt_reserveForOrderOnTx_error hids hfails
    cases hcommitted.symm.trans hfailed
  · intro hnodup
    constructor
    · intro hreservable
      have hdistinct := hnodup hreservable
      have havailable := (reservable_iff_available hdistinct).mp hreservable
      obtain ⟨t, ht⟩ := (doReserveAndWriteEvent_iff hlength hcurrency).mpr
        ⟨rfl, hloop.mpr ⟨hdistinct, havailable, habsent⟩⟩
      exact attempt_reserveForOrderOnTx_ok ht
    · intro hscarce
      refine attempt_reserveForOrderOnTx_error hids ?_
      intro hok
      obtain ⟨hdistinct, havailable, -⟩ := hloop.mp hok
      exact hscarce ((reservable_iff_available hdistinct).mpr havailable)

end Service

/-! ## Two lines of one SKU -/

/-- Ten pieces of the SKU that the sample order asks for. -/
def tenMugs : CatalogDb where
  skus := Table.empty.set { id := ⟨1, 0⟩, stockQuantity := 10, reservedQuantity := 0, deleted := false }

/-- The sample order with its line in it twice, of two pieces each. -/
def twoLinesReq : Order.CreateOrderReq :=
  { Order.sampleReq with items := Order.sampleReq.items ++ Order.sampleReq.items }

theorem sound_tenMugs : Sound tenMugs := by
  constructor
  · decide
  · intro r hr
    cases hr

/-- `ValidCreateOrderReq::new` and the rules let a request through. -/
theorem admitted_of_passed {key : String} {req : Order.CreateOrderReq}
    {items : List ReservationItem}
    (h : ((Order.ValidCreateOrderReq.new key req).map fun valid =>
      decide ((Order.creationRules.evaluateDetailed
        (Order.evalCreation (Order.creationContext valid))).passed = true ∧
          linesOf valid = items)).toOption = some true) :
    ∃ valid, Order.Admitted key req valid ∧ linesOf valid = items := by
  cases hvalid : Order.ValidCreateOrderReq.new key req with
  | error e =>
    rw [hvalid] at h
    cases h
  | ok valid =>
    rw [hvalid] at h
    obtain ⟨hpassed, hlines⟩ := of_decide_eq_true (Option.some.inj h)
    exact ⟨valid, ⟨hvalid, hpassed⟩, hlines⟩

/-- A property of the SKUs of an order is one of its lines. -/
theorem forall_lines {P : Uuid → Prop} {valid : Order.ValidCreateOrderReq}
    {items : List ReservationItem} (hlines : linesOf valid = items)
    (h : ∀ item ∈ items, P item.1) : ∀ item ∈ valid.items, P item.skuId := by
  intro item hitem
  have hmem : (item.skuId, item.quantity) ∈ items := by
    rw [← hlines]
    exact List.mem_map_of_mem hitem
  exact h (item.skuId, item.quantity) hmem

/-- Four of ten pieces are asked for in two lines, and nothing is reserved. -/
theorem twoLines_not_reserved : ∃ valid, Order.Admitted "key-1" twoLinesReq valid ∧
    Reservable tenMugs (linesOf valid) ∧
    ¬AllOrNothing tenMugs ⟨0, 0⟩ ⟨9, 2⟩ valid.totalAmount valid.currency (linesOf valid) := by
  have hlines : ∃ valid, Order.Admitted "key-1" twoLinesReq valid ∧
      linesOf valid = [(⟨1, 0⟩, 2), (⟨1, 0⟩, 2)] := admitted_of_passed (by decide +kernel)
  obtain ⟨valid, hadmitted, hlines⟩ := hlines
  have hreservable : Reservable tenMugs (linesOf valid) := by
    rw [hlines]
    intro item hitem
    have hid : item = (⟨1, 0⟩, 2) := by simpa using hitem
    rw [hid]
    exact ⟨{ id := ⟨1, 0⟩, stockQuantity := 10, reservedQuantity := 0, deleted := false }, rfl, rfl,
      by decide⟩
  refine ⟨valid, hadmitted, hreservable, ?_⟩
  intro h
  obtain ⟨reserved, db', hcommitted, -⟩ := h.1 hreservable
  obtain ⟨s, hs, -, -⟩ := Tx.attempt_eq_committed.mp hcommitted
  have hdo := Saga.reserveForOrderOnTx_ok hs
  obtain ⟨_, u, hitems, -⟩ := Tx.bind_ok.mp hdo
  have hdistinct := (forM_reserveInventory_iff sound_tenMugs rfl
    (linesOf_admitted hadmitted).2.2).mp ⟨u, hitems⟩
  rw [hlines] at hdistinct
  exact absurd hdistinct.1 (by decide)

/-- One line of two pieces. -/
theorem allOrNothing_iff_sample : ∃ valid, Order.Admitted "key-1" Order.sampleReq valid ∧
    Reservable tenMugs (linesOf valid) ∧
    AllOrNothing tenMugs ⟨0, 0⟩ ⟨9, 2⟩ valid.totalAmount valid.currency (linesOf valid) := by
  have hlines : ∃ valid, Order.Admitted "key-1" Order.sampleReq valid ∧
      linesOf valid = [(⟨1, 0⟩, 2)] := admitted_of_passed (by decide +kernel)
  obtain ⟨valid, hadmitted, hlines⟩ := hlines
  have hreservable : Reservable tenMugs (linesOf valid) := by
    rw [hlines]
    intro item hitem
    have hid : item = (⟨1, 0⟩, 2) := by simpa using hitem
    rw [hid]
    exact ⟨{ id := ⟨1, 0⟩, stockQuantity := 10, reservedQuantity := 0, deleted := false }, rfl, rfl,
      by decide⟩
  refine ⟨valid, hadmitted, hreservable, ?_⟩
  refine (allOrNothing_iff hadmitted sound_tenMugs (List.forall_mem_nil _)
    (forall_lines (P := fun id => (toString id : String).utf8ByteSize ≤ 36) hlines (by decide))
    ⟨9, 2⟩).mpr ?_
  intro _
  rw [hlines]
  decide

end Koupang.Catalog
