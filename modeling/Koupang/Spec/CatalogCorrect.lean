import Mathlib.Algebra.Order.BigOperators.Group.List
import Mathlib.Algebra.Order.Ring.Int
import Koupang.Model.Catalog
import Koupang.Spec.SharedCorrect

/-!
# What the catalog service's operations do

The stock is conserved: `reserved_quantity` of a SKU is the sum of its open
reservations. Because of that, releasing a reservation never violates a
constraint, so an OrderCancelled that reaches the catalog always releases every
reservation of the order.

## Key results

- `StockInv`: the invariant of the inventory tables
- `handle_orderCreated`: everything is reserved, or nothing and the order is refused
- `handle_orderCancelled`: everything is released
- `stockInv_stockOp`: the seller's operations keep the invariant
- `reservedQuantity_eq_openQuantity`: conservation over every sequence of operations
-/

namespace Koupang.Catalog

/-! ## Conservation of the stock -/

/-- An open reservation of the SKU. -/
def InventoryReservationEntity.isOpen (skuId : Uuid) (r : InventoryReservationEntity) : Bool :=
  r.skuId = skuId && r.status = .reserved

/-- The quantity of a SKU in open reservations. -/
def openQuantity (rows : List InventoryReservationEntity) (skuId : Uuid) : Int :=
  ((rows.filter (·.isOpen skuId)).map (·.quantity)).sum

theorem openQuantity_append (rows rows' : List InventoryReservationEntity) (skuId : Uuid) :
    openQuantity (rows ++ rows') skuId = openQuantity rows skuId + openQuantity rows' skuId := by
  simp [openQuantity]

theorem openQuantity_cons (r : InventoryReservationEntity) (rows : List InventoryReservationEntity)
    (skuId : Uuid) : openQuantity (r :: rows) skuId =
      (if r.isOpen skuId then r.quantity else 0) + openQuantity rows skuId := by
  unfold openQuantity
  rw [List.filter_cons]
  split <;> simp

theorem openQuantity_nonneg {rows : List InventoryReservationEntity}
    (h : ∀ r ∈ rows, 0 < r.quantity) (skuId : Uuid) : 0 ≤ openQuantity rows skuId := by
  refine List.sum_nonneg fun q hq => ?_
  obtain ⟨r, hr, rfl⟩ := List.mem_map.mp hq
  exact Int.le_of_lt (h r (List.mem_of_mem_filter hr))

/-- What identifies a reservation, apart from its status. -/
def InventoryReservationEntity.item (r : InventoryReservationEntity) : Uuid × Uuid × Int :=
  (r.orderId, r.skuId, r.quantity)

/-- The invariant of the inventory tables. -/
structure StockInv (db : CatalogDb) : Prop where
  checked : ∀ sku ∈ db.skus.rows, sku.check = .ok sku
  reserved : ∀ sku ∈ db.skus.rows, sku.deleted = false →
    sku.reservedQuantity = openQuantity db.inventoryReservations.rows sku.id
  positive : ∀ r ∈ db.inventoryReservations.rows, 0 < r.quantity
  known : ∀ r ∈ db.inventoryReservations.rows, ∃ sku ∈ db.skus.rows, sku.id = r.skuId
  /-- `uq_reservation_order_sku` -/
  unique : (db.inventoryReservations.rows.map fun r => (r.orderId, r.skuId)).Nodup

theorem stockInv_empty : StockInv {} := ⟨nofun, nofun, nofun, nofun, .nil⟩

theorem check_eq_ok {sku sku' : Sku} : sku.check = .ok sku' ↔
    sku' = sku ∧ 0 ≤ sku.stockQuantity ∧ sku.stockQuantity ≤ 2147483647 ∧
      0 ≤ sku.reservedQuantity ∧ sku.reservedQuantity ≤ 2147483647 := by
  simp only [Sku.check, int4]
  constructor
  · intro h
    split at h
    · rename_i hstock
      split at h
      · rename_i hreserved
        obtain ⟨_, -, h⟩ := Except.bind_eq_ok.mp h
        obtain ⟨_, -, h⟩ := Except.bind_eq_ok.mp h
        -- the two CHECK constraints
        split at h
        · exact absurd h Except.throw_ne_ok
        split at h
        · exact absurd h Except.throw_ne_ok
        cases h
        exact ⟨rfl, by omega, hstock.2, by omega, hreserved.2⟩
      · exact nomatch h
    · exact nomatch h
  · rintro ⟨rfl, h₁, h₂, h₃, h₄⟩
    rw [if_pos ⟨by omega, h₂⟩, if_pos ⟨by omega, h₄⟩]
    change (if sku'.reservedQuantity < 0 then _ else _) = _
    rw [if_neg (by omega), if_neg (by omega)]
    rfl

/-- What an `UPDATE skus ..` that succeeds does: nothing, or it sets one row that is not
    deleted. -/
theorem updateSku_ok {id : Uuid} {cond : Sku → Bool} {set : Sku → Sku}
    {hset : ∀ s, (set s).id = s.id} {db db' : CatalogDb} {n : Nat}
    (h : updateSku id cond set hset db = .ok (n, db')) :
    (n = 0 ∧ db' = db ∧ ∀ sku, db.skus.find? id = some sku → sku.deleted = false →
      cond sku = false) ∨
    n = 1 ∧ ∃ sku, db.skus.find? id = some sku ∧ sku.deleted = false ∧ cond sku = true ∧
      (set sku).check = .ok (set sku) ∧
      db' = { db with skus := db.skus.modify id set hset } := by
  unfold updateSku at h
  split at h
  · rename_i hfind
    cases h
    refine .inl ⟨rfl, rfl, fun sku hsku => ?_⟩
    cases hfind.symm.trans hsku
  · rename_i sku hfind
    split at h
    · rename_i hcond
      simp only [Bool.and_eq_true, Bool.not_eq_true'] at hcond
      obtain ⟨sku', hcheck, heq⟩ := Except.bind_eq_ok.mp h
      cases heq
      cases (check_eq_ok.mp hcheck).1
      exact .inr ⟨rfl, sku, hfind, hcond.1, hcond.2, hcheck, rfl⟩
    · -- the row does not meet the WHERE condition
      rename_i hcond
      cases h
      refine .inl ⟨rfl, rfl, fun sku' hsku' hdeleted => ?_⟩
      cases hfind.symm.trans hsku'
      simpa [hdeleted] using hcond

/-- The invariant after one row of `skus` was set and the reservations changed with it. -/
theorem StockInv.modify {db db' : CatalogDb} (h : StockInv db) {id : Uuid} (set : Sku → Sku)
    (hset : ∀ s, (set s).id = s.id) {sku : Sku} (hfind : db.skus.find? id = some sku)
    (hskus : db'.skus = db.skus.modify id set hset)
    (hcheck : (set sku).check = .ok (set sku))
    (hreserved : (set sku).deleted = false →
      (set sku).reservedQuantity = openQuantity db'.inventoryReservations.rows id)
    (hother : ∀ s ∈ db.skus.rows, s.id ≠ id → openQuantity db'.inventoryReservations.rows s.id =
      openQuantity db.inventoryReservations.rows s.id)
    (hpositive : ∀ r ∈ db'.inventoryReservations.rows, 0 < r.quantity)
    (hknown : ∀ r ∈ db'.inventoryReservations.rows, ∃ s ∈ db.skus.rows, s.id = r.skuId)
    (hunique : (db'.inventoryReservations.rows.map fun r => (r.orderId, r.skuId)).Nodup) :
    StockInv db' := by
  obtain ⟨hmem, rfl⟩ := (db.skus.find?_eq_some_iff id sku).mp hfind
  refine ⟨fun s hs => ?_, fun s hs hdeleted => ?_, hpositive, fun r hr => ?_, hunique⟩
  · rw [hskus] at hs
    rcases (db.skus.mem_modify_of_find? hfind set hset s).mp hs with ⟨hs, -⟩ | rfl
    · exact h.checked s hs
    · exact hcheck
  · rw [hskus] at hs
    rcases (db.skus.mem_modify_of_find? hfind set hset s).mp hs with ⟨hs, hid⟩ | rfl
    · rw [h.reserved s hs hdeleted, hother s hs hid]
    · rw [hset]
      exact hreserved hdeleted
  · obtain ⟨s, hs, hid⟩ := hknown r hr
    obtain ⟨s', hs', hid'⟩ := db.skus.exists_mem_modify sku.id set hset hs
    exact ⟨s', hskus ▸ hs', hid'.trans hid⟩

/-! ## Reserving -/

/-- `db'` is `db` with open reservations of `items` for order `o`. -/
structure Reserves (db db' : CatalogDb) (o : Uuid) (items : List ReservationItem) : Prop where
  rows : ∃ new, db'.inventoryReservations.rows = db.inventoryReservations.rows ++ new ∧
    new.map (·.item) = items.map fun i => (o, i)
  stockInv : StockInv db → StockInv db'

theorem Reserves.trans {db db' db'' : CatalogDb} {o : Uuid} {items items' : List ReservationItem}
    (h : Reserves db db' o items) (h' : Reserves db' db'' o items') :
    Reserves db db'' o (items ++ items') := by
  obtain ⟨new, hrows, hitems⟩ := h.rows
  obtain ⟨new', hrows', hitems'⟩ := h'.rows
  refine ⟨⟨new ++ new', ?_, ?_⟩, fun hinv => h'.stockInv (h.stockInv hinv)⟩
  · rw [hrows', hrows, List.append_assoc]
  · rw [List.map_append, List.map_append, hitems, hitems']

theorem insertReservation_ok {o skuId : Uuid} {quantity : Int} {db db' : CatalogDb} {u : Unit}
    (h : Repository.insertReservation o skuId quantity db = .ok (u, db')) :
    ∃ row, row.item = (o, skuId, quantity) ∧ row.status = .reserved ∧ 0 < quantity ∧
      (∀ r ∈ db.inventoryReservations.rows, (r.orderId, r.skuId) ≠ (o, skuId)) ∧
      (∃ sku ∈ db.skus.rows, sku.id = skuId) ∧ db'.skus = db.skus ∧ db'.outbox = db.outbox ∧
      db'.inventoryReservations.rows = db.inventoryReservations.rows ++ [row] := by
  simp only [Repository.insertReservation, Except.bind_eq_ok] at h
  obtain ⟨q, hq, h⟩ := h
  obtain rfl : q = quantity := by
    unfold int4 at hq
    split at hq <;> cases hq
    rfl
  -- CHECK (quantity > 0)
  split at h
  · exact absurd h Except.throw_ne_ok
  rename_i hpos
  -- the foreign key on skus
  split at h
  · exact absurd h Except.throw_ne_ok
  rename_i hknown
  -- uq_reservation_order_sku
  split at h
  · exact absurd h Except.throw_ne_ok
  rename_i hunique
  -- the primary key
  simp only [nowV7] at h
  split at h
  · exact absurd h Except.throw_ne_ok
  rename_i rows hins
  cases h
  obtain ⟨sku, hfind⟩ := Option.ne_none_iff_exists'.mp (by simpa using hknown)
  obtain ⟨hmem, hid⟩ := (db.skus.find?_eq_some_iff skuId sku).mp hfind
  refine ⟨_, rfl, rfl, by omega, fun r hr heq => hunique ?_, ⟨sku, hmem, hid⟩, rfl, rfl,
    ((Table.insert_eq_some ..).mp hins).2⟩
  obtain ⟨ho, hs⟩ := Prod.mk.inj heq
  exact List.any_eq_true.mpr ⟨r, hr, by simp [ho, hs]⟩

/-- Reserving a quantity of a SKU and recording it keeps the invariant. -/
theorem StockInv.reserve {db db' : CatalogDb} (h : StockInv db) {skuId o : Uuid} {quantity : Int}
    {sku : Sku} (hfind : db.skus.find? skuId = some sku) (hdeleted : sku.deleted = false)
    (hcheck : { sku with reservedQuantity := sku.reservedQuantity + quantity }.check =
      .ok { sku with reservedQuantity := sku.reservedQuantity + quantity })
    (hskus : db'.skus = db.skus.modify skuId
      (fun s => { s with reservedQuantity := s.reservedQuantity + quantity }) fun _ => rfl)
    {row : InventoryReservationEntity} (hitem : row.item = (o, skuId, quantity))
    (hstatus : row.status = .reserved) (hpos : 0 < quantity)
    (hunique : ∀ r ∈ db.inventoryReservations.rows, (r.orderId, r.skuId) ≠ (o, skuId))
    (hrows : db'.inventoryReservations.rows = db.inventoryReservations.rows ++ [row]) :
    StockInv db' := by
  obtain ⟨ho, hs, hq⟩ : row.orderId = o ∧ row.skuId = skuId ∧ row.quantity = quantity := by
    simpa [InventoryReservationEntity.item] using hitem
  obtain ⟨hmem, hid⟩ := (db.skus.find?_eq_some_iff skuId sku).mp hfind
  -- the open quantity grows for this SKU only
  have hopen (id : Uuid) : openQuantity db'.inventoryReservations.rows id =
      openQuantity db.inventoryReservations.rows id + if skuId = id then quantity else 0 := by
    rw [hrows, openQuantity_append, openQuantity_cons]
    simp [InventoryReservationEntity.isOpen, hs, hstatus, hq, openQuantity]
  refine h.modify _ _ hfind hskus hcheck (fun _ => ?_) (fun s _ hne => ?_) (fun r hr => ?_)
    (fun r hr => ?_) ?_
  · have := h.reserved sku hmem hdeleted
    rw [hopen, ← hid, this, if_pos rfl]
  · rw [hopen, if_neg (Ne.symm hne), add_zero]
  · rw [hrows, List.mem_append, List.mem_singleton] at hr
    rcases hr with hr | rfl
    · exact h.positive r hr
    · exact hq ▸ hpos
  · rw [hrows, List.mem_append, List.mem_singleton] at hr
    rcases hr with hr | rfl
    · exact h.known r hr
    · exact ⟨sku, hmem, hid.trans hs.symm⟩
  · rw [hrows, List.map_append, List.map_singleton, ho, hs]
    refine List.nodup_append.mpr ⟨h.unique, List.nodup_singleton _, ?_⟩
    rintro x hx y hy rfl
    obtain ⟨r, hr, hrx⟩ := List.mem_map.mp hx
    exact hunique r hr (hrx.trans (List.mem_singleton.mp hy))

theorem reserveInventory_ok {o skuId : Uuid} {quantity : Int} {s t : TxState CatalogDb} {u : Unit}
    (h : Repository.reserveInventory o skuId quantity s = .ok u t) :
    ∃ db, t = { s with db } ∧ Reserves s.db db o [(skuId, quantity)] ∧
      db.outbox = s.db.outbox := by
  simp only [Repository.reserveInventory, Tx.bind_ok, Tx.statement_ok] at h
  obtain ⟨n, _, ⟨-, db₁, hupdate, rfl⟩, h⟩ := h
  rcases updateSku_ok hupdate with ⟨rfl, -, -⟩ | ⟨rfl, sku, hfind, hdeleted, -, hcheck, rfl⟩
  · -- no row was updated: not enough stock
    obtain ⟨_, _, hthrow, -⟩ := Tx.bind_ok.mp h
    exact absurd hthrow Tx.throw_ok
  · obtain ⟨-, db₂, hinsert, rfl⟩ := Tx.statement_ok.mp h
    obtain ⟨row, hitem, hstatus, hpos, hunique, -, hskus, houtbox, hrows⟩ :=
      insertReservation_ok hinsert
    refine ⟨db₂, rfl, ⟨⟨[row], hrows, by simp [hitem]⟩, fun hinv => ?_⟩, houtbox⟩
    exact hinv.reserve hfind hdeleted hcheck hskus hitem hstatus hpos hunique hrows

theorem forM_reserveInventory_ok {o : Uuid} {items : List ReservationItem}
    {s t : TxState CatalogDb} {u : Unit}
    (h : (items.forM fun (skuId, quantity) => Repository.reserveInventory o skuId quantity) s =
      .ok u t) :
    ∃ db, t = { s with db } ∧ Reserves s.db db o items ∧ db.outbox = s.db.outbox := by
  induction items generalizing s with
  | nil =>
    obtain ⟨-, rfl⟩ := Tx.pure_ok.mp h
    exact ⟨s.db, rfl, ⟨⟨[], by simp, rfl⟩, id⟩, rfl⟩
  | cons item items ih =>
    obtain ⟨_, s₁, h₁, h₂⟩ := Tx.bind_ok.mp h
    obtain ⟨db₁, rfl, hres₁, hout₁⟩ := reserveInventory_ok h₁
    obtain ⟨db₂, rfl, hres₂, hout₂⟩ := ih h₂
    exact ⟨db₂, rfl, hres₁.trans hres₂, hout₂.trans hout₁⟩

/-! ## Releasing -/

/-- `db'` is `db` with reservations of order `o` released. -/
structure Releases (db db' : CatalogDb) (o : Uuid) : Prop where
  items : db'.inventoryReservations.rows.map (·.item) =
    db.inventoryReservations.rows.map (·.item)
  others : ∀ o', o' ≠ o → Repository.findAllReserved o' db' = Repository.findAllReserved o' db
  outbox : db'.outbox = db.outbox
  stockInv : StockInv db'

theorem Releases.trans {db db' db'' : CatalogDb} {o : Uuid} (h : Releases db db' o)
    (h' : Releases db' db'' o) : Releases db db'' o :=
  ⟨h'.items.trans h.items, fun o' ho' => (h'.others o' ho').trans (h.others o' ho'),
    h'.outbox.trans h.outbox, h'.stockInv⟩

section Release

variable {db : CatalogDb} {r : InventoryReservationEntity}

/-- The reservations after the status of `r` was set. -/
theorem setReservationStatus_split (hr : r ∈ db.inventoryReservations.rows)
    (status : ReservationStatus) :
    ∃ pre post, db.inventoryReservations.rows = pre ++ r :: post ∧
      (Repository.setReservationStatus r.id status db).inventoryReservations.rows =
        pre ++ { r with status } :: post := by
  have hfind := (db.inventoryReservations.find?_eq_some_iff r.id r).mpr ⟨hr, rfl⟩
  obtain ⟨pre, post, hrows, hmodify⟩ := db.inventoryReservations.exists_split hfind
  exact ⟨pre, post, hrows, hmodify (fun r => { r with status }) fun _ => rfl⟩

theorem setReservationStatus_items (hr : r ∈ db.inventoryReservations.rows)
    (status : ReservationStatus) :
    (Repository.setReservationStatus r.id status db).inventoryReservations.rows.map (·.item) =
      db.inventoryReservations.rows.map (·.item) := by
  obtain ⟨pre, post, hrows, hrows'⟩ := setReservationStatus_split hr status
  rw [hrows, hrows']
  simp [InventoryReservationEntity.item]

theorem openQuantity_setReservationStatus (hr : r ∈ db.inventoryReservations.rows)
    (hopen : r.status = .reserved) {status : ReservationStatus} (hstatus : status ≠ .reserved)
    (id : Uuid) :
    openQuantity (Repository.setReservationStatus r.id status db).inventoryReservations.rows id =
      openQuantity db.inventoryReservations.rows id - if r.skuId = id then r.quantity else 0 := by
  obtain ⟨pre, post, hrows, hrows'⟩ := setReservationStatus_split hr status
  rw [hrows, hrows', openQuantity_append, openQuantity_append, openQuantity_cons,
    openQuantity_cons]
  simp only [InventoryReservationEntity.isOpen, hopen, hstatus, decide_true, Bool.and_true,
    decide_eq_true_eq, decide_false, Bool.and_false, Bool.false_eq_true, if_false]
  omega

/-- `r` is no longer an open reservation, and every other one still is. -/
theorem mem_findAllReserved_setReservationStatus (hr : r ∈ db.inventoryReservations.rows)
    (o : Uuid) (x : InventoryReservationEntity) :
    x ∈ Repository.findAllReserved o (Repository.setReservationStatus r.id .released db) ↔
      x ∈ Repository.findAllReserved o db ∧ x ≠ r := by
  simp only [Repository.findAllReserved, Repository.setReservationStatus, List.mem_filter,
    Bool.and_eq_true, decide_eq_true_eq]
  rw [Table.mem_modify]
  constructor
  · rintro ⟨⟨hx, hid⟩ | ⟨y, hy, hid, rfl⟩, ho, hstatus⟩
    · exact ⟨⟨hx, ho, hstatus⟩, fun h => hid (h ▸ rfl)⟩
    · exact nomatch hstatus
  · rintro ⟨⟨hx, ho, hstatus⟩, hne⟩
    exact ⟨.inl ⟨hx, fun hid => hne (db.inventoryReservations.eq_of_key_eq hx hr hid)⟩, ho, hstatus⟩

/-- The reservations of the other orders stay as they are. -/
theorem findAllReserved_setReservationStatus (hr : r ∈ db.inventoryReservations.rows) {o : Uuid}
    (ho : o ≠ r.orderId) :
    Repository.findAllReserved o (Repository.setReservationStatus r.id .released db) =
      Repository.findAllReserved o db := by
  obtain ⟨pre, post, hrows, hrows'⟩ := setReservationStatus_split hr .released
  simp [Repository.findAllReserved, hrows, hrows', Ne.symm ho]

theorem StockInv.findReserved (h : StockInv db) (hr : r ∈ db.inventoryReservations.rows)
    (hopen : r.status = .reserved) :
    Repository.findReserved r.orderId r.skuId db = some r := by
  unfold Repository.findReserved
  cases hfind : db.inventoryReservations.rows.find? fun r' =>
      decide (r'.orderId = r.orderId) && decide (r'.skuId = r.skuId) &&
        decide (r'.status = .reserved) with
  | none =>
    have := List.find?_eq_none.mp hfind r hr
    simp [hopen] at this
  | some r' =>
    -- it is `r`, as no two reservations are of the same order and SKU
    have hr' := List.find?_some hfind
    simp only [Bool.and_eq_true, decide_eq_true_eq] at hr'
    rw [List.inj_on_of_nodup_map h.unique (List.mem_of_find?_eq_some hfind) hr
      (Prod.ext hr'.1.1 hr'.1.2)]

/-- An open reservation is covered by the reserved quantity of its SKU. -/
theorem StockInv.quantity_le (h : StockInv db) (hr : r ∈ db.inventoryReservations.rows)
    (hopen : r.status = .reserved) {sku : Sku} (hsku : sku ∈ db.skus.rows)
    (hid : sku.id = r.skuId) (hdeleted : sku.deleted = false) :
    r.quantity ≤ sku.reservedQuantity := by
  obtain ⟨pre, post, hrows⟩ := List.append_of_mem hr
  have hpos (rows : List InventoryReservationEntity)
      (hsub : ∀ r ∈ rows, r ∈ db.inventoryReservations.rows) : 0 ≤ openQuantity rows sku.id :=
    openQuantity_nonneg (fun r hr => h.positive r (hsub r hr)) _
  -- the other open reservations of the SKU are not negative
  have hpre := hpos pre fun x hx => by simp [hrows, hx]
  have hpost := hpos post fun x hx => by simp [hrows, hx]
  rw [h.reserved sku hsku hdeleted, hrows, openQuantity_append, openQuantity_cons]
  simp only [InventoryReservationEntity.isOpen, hid, hopen, decide_true, Bool.and_self, if_true]
  rw [hid] at hpre hpost
  omega

/-- What depends on the items of the reservations only, and not on their status. -/
theorem StockInv.of_items (h : StockInv db) {rows : List InventoryReservationEntity}
    (hitems : rows.map (·.item) = db.inventoryReservations.rows.map (·.item)) :
    (∀ r ∈ rows, 0 < r.quantity) ∧ (∀ r ∈ rows, ∃ sku ∈ db.skus.rows, sku.id = r.skuId) ∧
      (rows.map fun r => (r.orderId, r.skuId)).Nodup := by
  have hmem : ∀ r ∈ rows, ∃ r₀ ∈ db.inventoryReservations.rows, r₀.item = r.item := by
    intro r hr
    have := List.mem_map_of_mem (f := (·.item)) hr
    rw [hitems] at this
    exact List.mem_map.mp this
  refine ⟨fun r hr => ?_, fun r hr => ?_, ?_⟩
  · obtain ⟨r₀, hr₀, heq⟩ := hmem r hr
    have hq : r₀.quantity = r.quantity := congrArg (·.2.2) heq
    exact hq ▸ h.positive r₀ hr₀
  · obtain ⟨r₀, hr₀, heq⟩ := hmem r hr
    have hs : r₀.skuId = r.skuId := congrArg (·.2.1) heq
    exact hs ▸ h.known r₀ hr₀
  · have hkeys : ∀ rows : List InventoryReservationEntity,
        (rows.map fun r => (r.orderId, r.skuId)) =
          (rows.map (·.item)).map fun i => (i.1, i.2.1) := by
      intro rows
      rw [List.map_map]
      rfl
    have := h.unique
    rwa [hkeys, ← hitems, ← hkeys] at this

/-- Taking an open reservation off the reserved quantity of its SKU and closing it keeps the
    invariant, whether the SKU is there, deleted or not. -/
theorem StockInv.settle (h : StockInv db) (hr : r ∈ db.inventoryReservations.rows)
    (hopen : r.status = .reserved) {status : ReservationStatus} (hstatus : status ≠ .reserved)
    {set : Sku → Sku} {hset : ∀ s, (set s).id = s.id} {n : Nat} {db' : CatalogDb}
    (hupdate : updateSku r.skuId (fun _ => true) set hset db = .ok (n, db'))
    (hreserved : ∀ s, (set s).reservedQuantity = s.reservedQuantity - r.quantity) :
    StockInv (Repository.setReservationStatus r.id status db') := by
  obtain ⟨hpositive, hknown, hunique⟩ := h.of_items (setReservationStatus_items hr status)
  have hquantity := openQuantity_setReservationStatus hr hopen hstatus
  rcases updateSku_ok hupdate with ⟨-, rfl, hnone⟩ | ⟨-, sku, hfind, hdeleted, -, hcheck, rfl⟩
  · -- the update passes over a deleted SKU, and the invariant says nothing about it
    refine ⟨h.checked, fun sku hsku hdeleted => ?_, hpositive, hknown, hunique⟩
    have hne : sku.id ≠ r.skuId := fun hid =>
      nomatch hnone sku ((db'.skus.find?_eq_some_iff _ _).mpr ⟨hsku, hid⟩) hdeleted
    rw [h.reserved sku hsku hdeleted]
    refine ((hquantity sku.id).trans ?_).symm
    rw [if_neg (Ne.symm hne), sub_zero]
  · obtain ⟨hmem, hid⟩ := (db.skus.find?_eq_some_iff _ _).mp hfind
    refine h.modify set hset hfind rfl hcheck (fun _ => ?_) (fun sku' _ hne => ?_) hpositive
      hknown hunique
    · refine Eq.trans ?_ (hquantity r.skuId).symm
      rw [hreserved, if_pos rfl, ← hid, h.reserved sku hmem hdeleted]
    · refine (hquantity sku'.id).trans ?_
      rw [if_neg (Ne.symm hne), sub_zero]

/-- The update of the SKU of an open reservation that is released succeeds. -/
theorem StockInv.release (h : StockInv db) (hr : r ∈ db.inventoryReservations.rows)
    (hopen : r.status = .reserved) :
    ∃ n skus, updateSku r.skuId (fun _ => true)
        (fun s => { s with reservedQuantity := s.reservedQuantity - r.quantity }) (fun _ => rfl)
        db = .ok (n, { db with skus }) := by
  unfold updateSku
  cases hfind : db.skus.find? r.skuId with
  | none => exact ⟨0, db.skus, rfl⟩
  | some sku =>
    obtain ⟨hmem, hid⟩ := (db.skus.find?_eq_some_iff _ _).mp hfind
    cases hdeleted : sku.deleted with
    | true => exact ⟨0, db.skus, by simp [hdeleted]⟩
    | false =>
      -- the reserved quantity covers `r`, so it does not become negative
      have hle := h.quantity_le hr hopen hmem hid hdeleted
      have hpos := h.positive r hr
      obtain ⟨-, hstock, hstock', hreserved, hreserved'⟩ := check_eq_ok.mp (h.checked sku hmem)
      have hcheck : ({ sku with reservedQuantity := sku.reservedQuantity - r.quantity } : Sku).check
          = .ok { sku with reservedQuantity := sku.reservedQuantity - r.quantity } :=
        check_eq_ok.mpr ⟨rfl, hstock, hstock', by dsimp only; omega, by dsimp only; omega⟩
      refine ⟨1, db.skus.modify r.skuId
        (fun s => { s with reservedQuantity := s.reservedQuantity - r.quantity }) fun _ => rfl, ?_⟩
      refine (if_pos (by simp [hdeleted])).trans ?_
      exact Except.bind_eq_ok.mpr ⟨_, hcheck, rfl⟩

/-- Releasing an open reservation succeeds, and keeps the invariant. -/
theorem releaseReservation_ok {s : TxState CatalogDb} (hab : s.aborted = false)
    (h : StockInv s.db) (hr : r ∈ s.db.inventoryReservations.rows)
    (hopen : r.status = .reserved) :
    ∃ db, Repository.releaseReservation r.orderId r.skuId s = .ok () { s with db } ∧
      Releases s.db db r.orderId ∧ ∀ x, x ∈ Repository.findAllReserved r.orderId db ↔
        x ∈ Repository.findAllReserved r.orderId s.db ∧ x ≠ r := by
  obtain ⟨n, skus, hupdate⟩ := h.release hr hopen
  have hinv := h.settle hr hopen (show ReservationStatus.released ≠ .reserved by decide) hupdate
    fun _ => rfl
  refine ⟨Repository.setReservationStatus r.id .released { s.db with skus }, ?_,
    ⟨setReservationStatus_items hr _, fun o' ho' => findAllReserved_setReservationStatus hr ho',
      rfl, hinv⟩, mem_findAllReserved_setReservationStatus hr r.orderId⟩
  simp only [Repository.releaseReservation, Tx.bind_ok, Tx.fetchOne_ok, Tx.statement_ok]
  exact ⟨r, s, ⟨hab, h.findReserved hr hopen, rfl⟩, n, _, ⟨hab, _, hupdate, rfl⟩, hab, _, rfl, rfl⟩

/-- Releasing the reservations of a list, one after the other. -/
theorem forM_releaseReservation_ok {o : Uuid} (rs : List InventoryReservationEntity)
    {s : TxState CatalogDb} (hab : s.aborted = false) (h : StockInv s.db)
    (hmem : ∀ r ∈ rs, r ∈ Repository.findAllReserved o s.db) (hnodup : rs.Nodup) :
    ∃ db, (rs.forM fun r => Repository.releaseReservation o r.skuId) s = .ok () { s with db } ∧
      Releases s.db db o ∧ ∀ x, x ∈ Repository.findAllReserved o db ↔
        x ∈ Repository.findAllReserved o s.db ∧ x ∉ rs := by
  induction rs generalizing s with
  | nil => exact ⟨s.db, rfl, ⟨rfl, fun _ _ => rfl, rfl, h⟩, by simp⟩
  | cons r rs ih =>
    obtain ⟨hr, hprop⟩ := List.mem_filter.mp (hmem r (List.mem_cons_self ..))
    simp only [Bool.and_eq_true, decide_eq_true_eq] at hprop
    obtain ⟨rfl, hopen⟩ := hprop
    obtain ⟨hnotin, hnodup⟩ := List.nodup_cons.mp hnodup
    obtain ⟨db₁, hok₁, hrel₁, hiff₁⟩ := releaseReservation_ok hab h hr hopen
    -- the rest of the list is still open
    obtain ⟨db₂, hok₂, hrel₂, hiff₂⟩ := ih (s := { s with db := db₁ }) hab hrel₁.stockInv
      (fun x hx => (hiff₁ x).mpr ⟨hmem x (List.mem_cons_of_mem _ hx), fun heq => hnotin (heq ▸ hx)⟩)
      hnodup
    refine ⟨db₂, Tx.bind_ok.mpr ⟨(), _, hok₁, hok₂⟩, hrel₁.trans hrel₂, fun x => ?_⟩
    rw [hiff₂, hiff₁, List.mem_cons, not_or, and_assoc]

/-- Releasing all the reservations of an order always succeeds. -/
theorem releaseAllReservations_ok {o : Uuid} {s : TxState CatalogDb} (hab : s.aborted = false)
    (h : StockInv s.db) : ∃ db, Repository.releaseAllReservations o s = .ok () { s with db } ∧
      Releases s.db db o ∧ Repository.findAllReserved o db = [] := by
  have hnodup : (Repository.findAllReserved o s.db).Nodup :=
    (List.Nodup.of_map _ s.db.inventoryReservations.nodup).filter _
  obtain ⟨db, hok, hrel, hiff⟩ :=
    forM_releaseReservation_ok (o := o) _ hab h (fun _ hx => hx) hnodup
  refine ⟨db, ?_, hrel, List.eq_nil_iff_forall_not_mem.mpr fun x hx => ?_⟩
  · exact Tx.bind_ok.mpr ⟨_, s, Tx.statement_ok.mpr ⟨hab, s.db, rfl, rfl⟩, hok⟩
  · exact ((hiff x).mp hx).2 ((hiff x).mp hx).1

end Release

/-! ## The seller's operations -/

/-- An update of a SKU that leaves its reserved quantity alone. -/
theorem StockInv.setSku {db : CatalogDb} (h : StockInv db) {id : Uuid} {set : Sku → Sku}
    {hset : ∀ s, (set s).id = s.id} {sku : Sku} (hfind : db.skus.find? id = some sku)
    (hdeleted : sku.deleted = false) (hcheck : (set sku).check = .ok (set sku))
    (hreserved : (set sku).reservedQuantity = sku.reservedQuantity) :
    StockInv { db with skus := db.skus.modify id set hset } := by
  obtain ⟨hmem, rfl⟩ := (db.skus.find?_eq_some_iff id sku).mp hfind
  exact h.modify set hset hfind rfl hcheck
    (fun _ => hreserved.trans (h.reserved sku hmem hdeleted)) (fun _ _ _ => rfl) h.positive
    h.known h.unique

/-- `db'` has the reservations and events of `db`, and the stock is still conserved. -/
structure Restocks (db db' : CatalogDb) : Prop where
  stockInv : StockInv db'
  inventoryReservations : db'.inventoryReservations = db.inventoryReservations
  outbox : db'.outbox = db.outbox

/-- An `UPDATE skus ..` that must affect a row. -/
theorem restocks_updateSku {db : CatalogDb} (h : StockInv db) {id : Uuid} {cond : Sku → Bool}
    {set : Sku → Sku} {hset : ∀ s, (set s).id = s.id}
    {onError : String → AppError} {e : AppError} {t : TxState CatalogDb} {u : Unit}
    (hok : (do
      let n ← Tx.statement onError (updateSku id cond set hset)
      if n = 0 then throw e : Tx AppError CatalogDb Unit) (Tx.begin db) = .ok u t)
    (hreserved : ∀ s, (set s).reservedQuantity = s.reservedQuantity) : Restocks db t.db := by
  obtain ⟨n, _, hstmt, hok⟩ := Tx.bind_ok.mp hok
  obtain ⟨-, db', hupdate, rfl⟩ := Tx.statement_ok.mp hstmt
  rcases updateSku_ok hupdate with ⟨rfl, -⟩ | ⟨rfl, sku, hfind, hdeleted, -, hcheck, rfl⟩
  · -- no row was updated: the operation fails
    exact absurd hok Tx.throw_ok
  · obtain ⟨-, rfl⟩ := Tx.pure_ok.mp hok
    exact ⟨h.setSku hfind hdeleted hcheck (hreserved sku), rfl, rfl⟩

theorem restocks_createSku {s t : TxState CatalogDb} (h : StockInv s.db) {stockQuantity : Int}
    {id : Uuid} (hok : Products.createSku stockQuantity s = .ok id t) : Restocks s.db t.db := by
  obtain ⟨-, db₁, hinsert, rfl⟩ := Tx.statement_ok.mp hok
  simp only [nowV7] at hinsert
  obtain ⟨sku, hcheck, hinsert⟩ := Except.bind_eq_ok.mp hinsert
  obtain ⟨rfl, -⟩ := check_eq_ok.mp hcheck
  split at hinsert
  · exact absurd hinsert Except.throw_ne_ok
  rename_i skus hins
  cases hinsert
  obtain ⟨hnone, hrows⟩ := (Table.insert_eq_some ..).mp hins
  have hmem : ∀ sku ∈ skus.rows, sku ∈ s.db.skus.rows ∨ sku = _ := fun sku hsku => by
    rw [hrows, List.mem_append, List.mem_singleton] at hsku
    exact hsku
  refine ⟨⟨fun sku hsku => ?_, fun sku hsku hdeleted => ?_, h.positive, fun r hr => ?_, h.unique⟩,
    rfl, rfl⟩
  · rcases hmem sku hsku with hsku | rfl
    · exact h.checked sku hsku
    · exact hcheck
  · rcases hmem sku hsku with hsku | rfl
    · exact h.reserved sku hsku hdeleted
    · -- no reservation is of a SKU that did not exist
      have hnil : s.db.inventoryReservations.rows.filter
          (·.isOpen ⟨HasOutbox.node CatalogDb, HasOutbox.uuids s.db⟩) = [] := by
        refine List.filter_eq_nil_iff.mpr fun r hr hopen => ?_
        simp only [InventoryReservationEntity.isOpen, Bool.and_eq_true, decide_eq_true_eq] at hopen
        obtain ⟨sku, hsku, hid⟩ := h.known r hr
        exact (Table.find?_eq_none_iff ..).mp hnone sku hsku (hid.trans hopen.1)
      exact (congrArg (fun rows => (rows.map (·.quantity)).sum) hnil).symm
  · obtain ⟨sku, hsku, hid⟩ := h.known r hr
    exact ⟨sku, by rw [hrows]; exact List.mem_append_left _ hsku, hid⟩

/-- A statement that must affect a row. -/
theorem keepsPool_affecting {ε σ : Type} (onError : String → ε)
    (f : σ → Except String (Nat × σ)) (e : ε) :
    Tx.KeepsPool (do let n ← Tx.statement onError f; if n = 0 then throw e : Tx ε σ Unit) := by
  refine Tx.keepsPool_bind (Tx.keepsPool_statement _ _) fun n => ?_
  split
  · exact Tx.keepsPool_throw _
  · exact Tx.keepsPool_pure _

theorem keepsPool_stockOp (op : StockOp) : Tx.KeepsPool op.tx := by
  cases op with
  | createSku q =>
    exact Tx.keepsPool_bind (Tx.keepsPool_statement _ _) fun _ => Tx.keepsPool_pure _
  | updateSku id req =>
    simp only [StockOp.tx, Products.updateSku]
    split
    · exact Tx.keepsPool_pure _
    · exact keepsPool_affecting _ _ _
  | deleteSku id => exact keepsPool_affecting _ _ _
  | adjustStock id delta => exact keepsPool_affecting _ _ _

/-- The seller's operations keep the stock conserved, and touch no reservation. -/
theorem stockInv_stockOp (op : StockOp) {db : CatalogDb} (h : StockInv db) :
    Restocks db (Tx.attempt op.tx db).db := by
  rcases Tx.attempt_db_eq (keepsPool_stockOp op) db with ⟨u, hatt⟩ | heq
  · obtain ⟨t, ht, -, hdb⟩ := Tx.attempt_eq_committed.mp hatt
    rw [← hdb]
    cases op with
    | createSku q =>
      obtain ⟨id, t', hcreate, hpure⟩ := Tx.bind_ok.mp ht
      obtain ⟨-, rfl⟩ := Tx.pure_ok.mp hpure
      exact restocks_createSku h hcreate
    | updateSku id req =>
      simp only [StockOp.tx, Products.updateSku] at ht
      split at ht
      · -- no field is set
        obtain ⟨-, rfl⟩ := Tx.pure_ok.mp ht
        exact ⟨h, rfl, rfl⟩
      · exact restocks_updateSku h ht fun _ => rfl
    | deleteSku id => exact restocks_updateSku h ht fun _ => rfl
    | adjustStock id delta => exact restocks_updateSku h ht fun _ => rfl
  · -- a failed operation is rolled back
    rw [heq]
    exact ⟨h, rfl, rfl⟩

/-! ## Runs of operations -/

theorem keepsPool_reserveInventory (o skuId : Uuid) (quantity : Int) :
    Tx.KeepsPool (Repository.reserveInventory o skuId quantity) := by
  refine Tx.keepsPool_bind (Tx.keepsPool_statement _ _) fun n => ?_
  dsimp only
  split
  · exact Tx.keepsPool_bind (Tx.keepsPool_throw _) fun _ => Tx.keepsPool_statement _ _
  · exact Tx.keepsPool_statement _ _

theorem keepsPool_releaseReservation (o skuId : Uuid) :
    Tx.KeepsPool (Repository.releaseReservation o skuId) :=
  Tx.keepsPool_bind (Tx.keepsPool_fetchOne _ _ _) fun _ =>
    Tx.keepsPool_bind (Tx.keepsPool_statement _ _) fun _ => Tx.keepsPool_statement _ _

theorem keepsPool_confirmReservation (o skuId : Uuid) :
    Tx.KeepsPool (Repository.confirmReservation o skuId) :=
  Tx.keepsPool_bind (Tx.keepsPool_fetchOne _ _ _) fun _ =>
    Tx.keepsPool_bind (Tx.keepsPool_statement _ _) fun _ => Tx.keepsPool_statement _ _

theorem keepsPool_inventoryOp (op : InventoryOp) : Tx.KeepsPool op.tx := by
  cases op with
  | reserveInventory o skuId q => exact keepsPool_reserveInventory o skuId q
  | releaseReservation o skuId => exact keepsPool_releaseReservation o skuId
  | releaseAllReservations o =>
    rw [InventoryOp.tx, Repository.releaseAllReservations]
    refine Tx.keepsPool_bind (Tx.keepsPool_statement _ _) fun reservations => ?_
    refine Tx.keepsPool_forM (fun r => ?_) reservations
    exact keepsPool_releaseReservation o r.skuId
  | confirmReservation o skuId => exact keepsPool_confirmReservation o skuId
  | stock op => exact keepsPool_stockOp op

theorem findReserved_some {o skuId : Uuid} {db : CatalogDb} {r : InventoryReservationEntity}
    (h : Repository.findReserved o skuId db = some r) :
    r ∈ db.inventoryReservations.rows ∧ r.orderId = o ∧ r.skuId = skuId ∧
      r.status = .reserved := by
  have hprop := List.find?_some h
  simp only [Bool.and_eq_true, decide_eq_true_eq] at hprop
  exact ⟨List.mem_of_find?_eq_some h, hprop.1.1, hprop.1.2, hprop.2⟩

/-- Releasing a reservation, when it succeeds. -/
theorem stockInv_releaseReservation {o skuId : Uuid} {s t : TxState CatalogDb} {u : Unit}
    (h : StockInv s.db) (hok : Repository.releaseReservation o skuId s = .ok u t) :
    StockInv t.db := by
  simp only [Repository.releaseReservation, Tx.bind_ok, Tx.fetchOne_ok, Tx.statement_ok] at hok
  obtain ⟨r, _, ⟨-, hfind, rfl⟩, n, _, ⟨-, db₁, hupdate, rfl⟩, -, db₂, heq, rfl⟩ := hok
  obtain ⟨hr, -, rfl, hopen⟩ := findReserved_some hfind
  cases heq
  exact h.settle hr hopen (show ReservationStatus.released ≠ .reserved by decide) hupdate
    fun _ => rfl

/-- Confirming a reservation, when it succeeds. -/
theorem stockInv_confirmReservation {o skuId : Uuid} {s t : TxState CatalogDb} {u : Unit}
    (h : StockInv s.db) (hok : Repository.confirmReservation o skuId s = .ok u t) :
    StockInv t.db := by
  simp only [Repository.confirmReservation, Tx.bind_ok, Tx.fetchOne_ok, Tx.statement_ok] at hok
  obtain ⟨r, _, ⟨-, hfind, rfl⟩, n, _, ⟨-, db₁, hupdate, rfl⟩, -, db₂, heq, rfl⟩ := hok
  obtain ⟨hr, -, rfl, hopen⟩ := findReserved_some hfind
  cases heq
  exact h.settle hr hopen (show ReservationStatus.confirmed ≠ .reserved by decide) hupdate
    fun _ => rfl

/-- Every operation keeps the stock conserved. -/
theorem stockInv_execute {db : CatalogDb} (h : StockInv db) (op : InventoryOp) :
    StockInv (op.execute db) := by
  unfold InventoryOp.execute
  rcases Tx.attempt_db_eq (keepsPool_inventoryOp op) db with ⟨u, hatt⟩ | heq
  · obtain ⟨t, ht, hab, hdb⟩ := Tx.attempt_eq_committed.mp hatt
    rw [← hdb]
    cases op with
    | reserveInventory o skuId q =>
      obtain ⟨db', rfl, hres, -⟩ := reserveInventory_ok ht
      exact hres.stockInv h
    | releaseReservation o skuId => exact stockInv_releaseReservation h ht
    | releaseAllReservations o =>
      obtain ⟨db', hok, hrel, -⟩ := releaseAllReservations_ok (o := o) (s := Tx.begin db) rfl h
      cases hok.symm.trans ht
      exact hrel.stockInv
    | confirmReservation o skuId => exact stockInv_confirmReservation h ht
    | stock op =>
      rw [hdb]
      exact (stockInv_stockOp op h).stockInv
  · -- a failed operation is rolled back
    rw [heq]
    exact h

theorem stockInv_foldl_execute (ops : List InventoryOp) {db : CatalogDb} (h : StockInv db) :
    StockInv (ops.foldl InventoryOp.execute db) := by
  induction ops generalizing db with
  | nil => exact h
  | cons op ops ih => exact ih (stockInv_execute h op)

/-- After any sequence of operations from a database without SKUs, the reserved quantity of a
    SKU that is not deleted is what its open reservations add up to, and is not negative. -/
theorem reservedQuantity_eq_openQuantity {db : CatalogDb} (hskus : db.skus.rows = [])
    (hfk : ∀ r ∈ db.inventoryReservations.rows, ∃ sku ∈ db.skus.rows, sku.id = r.skuId)
    (ops : List InventoryOp) :
    ∀ sku ∈ (ops.foldl InventoryOp.execute db).skus.rows, sku.deleted = false →
      sku.reservedQuantity =
        openQuantity (ops.foldl InventoryOp.execute db).inventoryReservations.rows sku.id ∧
      0 ≤ sku.reservedQuantity := by
  -- without SKUs there are no reservations either
  have hrows : db.inventoryReservations.rows = [] := by
    refine List.eq_nil_iff_forall_not_mem.mpr fun r hr => ?_
    obtain ⟨sku, hsku, -⟩ := hfk r hr
    rw [hskus] at hsku
    exact List.not_mem_nil hsku
  have hinv : StockInv db := by
    refine ⟨?_, ?_, ?_, ?_, ?_⟩ <;> simp [hskus, hrows]
  intro sku hsku hdeleted
  have hrun := stockInv_foldl_execute ops hinv
  have heq := hrun.reserved sku hsku hdeleted
  exact ⟨heq, heq ▸ openQuantity_nonneg hrun.positive sku.id⟩

/-- Two orders reserve a SKU; one is released, the other confirmed. -/
def sampleOps : List InventoryOp :=
  [.stock (.createSku 5), .reserveInventory ⟨0, 0⟩ ⟨1, 0⟩ 2, .reserveInventory ⟨0, 1⟩ ⟨1, 0⟩ 3,
   .reserveInventory ⟨0, 2⟩ ⟨1, 0⟩ 1, .stock (.adjustStock ⟨1, 0⟩ 4),
   .releaseAllReservations ⟨0, 0⟩, .confirmReservation ⟨0, 1⟩ ⟨1, 0⟩,
   .reserveInventory ⟨0, 3⟩ ⟨1, 0⟩ 4]

theorem reservedQuantity_sampleOps :
    ((sampleOps.foldl InventoryOp.execute {}).skus.rows.map fun s =>
      (s.stockQuantity, s.reservedQuantity)) = [(6, 4)] ∧
    ∀ sku ∈ (sampleOps.foldl InventoryOp.execute {}).skus.rows, sku.deleted = false →
      sku.reservedQuantity =
        openQuantity (sampleOps.foldl InventoryOp.execute {}).inventoryReservations.rows sku.id ∧
      0 ≤ sku.reservedQuantity :=
  ⟨by decide, reservedQuantity_eq_openQuantity rfl (by decide) sampleOps⟩

/-! ## Events -/

section Service

variable [SerdeJson]

omit [SerdeJson] in
/-- The invariant is about the inventory tables only. -/
theorem StockInv.frame {db db' : CatalogDb} (h : StockInv db) (hskus : db'.skus = db.skus)
    (hrows : db'.inventoryReservations = db.inventoryReservations) : StockInv db' := by
  refine ⟨?_, ?_, ?_, ?_, ?_⟩ <;> simp only [hskus, hrows]
  · exact h.checked
  · exact h.reserved
  · exact h.positive
  · exact h.known
  · exact h.unique

/-- `db'` is `db` with one more event in the outbox. -/
structure Emits (db db' : CatalogDb) (o : Uuid) (t : EventType) : Prop where
  outbox : ∃ ins, db'.outbox = db.outbox ++ [ins] ∧ IsEvent ins .catalogEvents o t
  skus : db'.skus = db.skus
  inventoryReservations : db'.inventoryReservations = db.inventoryReservations

theorem doReserveAndWriteEvent_ok {o buyerId : Uuid} {totalAmount : DecimalText}
    {currency : String} {items : List ReservationItem} {s t : TxState CatalogDb} {u : Unit}
    (h : doReserveAndWriteEvent o buyerId totalAmount currency items s = .ok u t) :
    ∃ db, t = { s with db } ∧ Reserves s.db db o items ∧
      ∃ ins, db.outbox = s.db.outbox ++ [ins] ∧
        IsEvent ins .catalogEvents o .inventoryReserved := by
  simp only [doReserveAndWriteEvent, newMetadata, Tx.bind_ok, Tx.client_ok, Tx.pure_ok,
    insertOutboxEvent_ok] at h
  obtain ⟨_, _, hitems, _, _, ⟨_, _, ⟨rfl, rfl⟩, rfl, rfl⟩, -, -, rfl⟩ := h
  obtain ⟨db, rfl, hres, hout⟩ := forM_reserveInventory_ok hitems
  exact ⟨_, rfl, ⟨hres.rows, fun hinv => (hres.stockInv hinv).frame rfl rfl⟩, _,
    congrArg (· ++ [_]) hout, ⟨rfl, rfl, rfl, rfl⟩⟩

theorem keepsPool_doReserveAndWriteEvent (o buyerId : Uuid) (totalAmount : DecimalText)
    (currency : String) (items : List ReservationItem) :
    Tx.KeepsPool (doReserveAndWriteEvent o buyerId totalAmount currency items) := by
  refine Tx.keepsPool_bind (Tx.keepsPool_forM (fun item => ?_) items) fun _ =>
    Tx.keepsPool_bind (Tx.keepsPool_bind (Tx.keepsPool_client _) fun _ => Tx.keepsPool_pure _)
      fun _ => keepsPool_insertOutboxEvent _
  exact keepsPool_reserveInventory o item.1 item.2

/-- Writing InventoryReservationFailed on the pool: the committed tables gain the event, or
    stay as they are. -/
theorem writeReservationFailedOnPool_pool (o : Uuid) (reason : String) (s : TxState CatalogDb) :
    match writeReservationFailedOnPool o reason s with
    | .ok _ t | .error _ t =>
      t.pool = s.pool ∨ Emits s.pool t.pool o .inventoryReservationFailed := by
  have hkeeps (metadata : EventMetadata → OutboxInsert) :
      Tx.KeepsPool (do
        let m ← newMetadata .inventoryReservationFailed o
        insertOutboxEvent (metadata m) : Tx AppError CatalogDb Unit) :=
    Tx.keepsPool_bind (Tx.keepsPool_bind (Tx.keepsPool_client _) fun _ => Tx.keepsPool_pure _)
      fun _ => keepsPool_insertOutboxEvent _
  unfold writeReservationFailedOnPool Tx.onPool
  dsimp only
  split
  · rename_i heq
    split at heq
    · rename_i u pool htx
      cases heq
      rcases withTransaction_ok (hkeeps _) htx with hatt | rfl
      · obtain ⟨t, ht, -, rfl⟩ := Tx.attempt_eq_committed.mp hatt
        simp only [newMetadata, Tx.bind_ok, Tx.client_ok, Tx.pure_ok, insertOutboxEvent_ok] at ht
        obtain ⟨_, _, ⟨_, _, ⟨rfl, rfl⟩, rfl, rfl⟩, -, -, rfl⟩ := ht
        exact .inr ⟨⟨_, rfl, ⟨rfl, rfl, rfl, rfl⟩⟩, rfl, rfl⟩
      · exact .inl rfl
    · exact nomatch heq
  · rename_i heq
    split at heq
    · exact nomatch heq
    · cases heq
      exact .inl rfl

omit [SerdeJson] in
theorem parseItem_error {item : ItemPayload} {e : HandlerError} (h : parseItem item = .error e) :
    ∃ msg, e = .permanent msg := by
  obtain ⟨productId, skuId, quantity, unitPrice⟩ := item
  cases skuId with
  | none =>
    cases h
    exact ⟨_, rfl⟩
  | some id =>
    cases quantity with
    | none =>
      cases h
      exact ⟨_, rfl⟩
    | some q => exact nomatch h

omit [SerdeJson] in
/-- A payload that cannot be parsed is a permanent error. -/
theorem parseItems_error {payload : Payload} {e : HandlerError}
    (h : parseItems payload = .error e) : ∃ msg, e = .permanent msg := by
  unfold parseItems at h
  split at h
  · cases h
    exact ⟨_, rfl⟩
  · rename_i items _
    clear * - h
    -- the first item that cannot be parsed decides the error
    induction items with
    | nil => exact nomatch h
    | cons item items ih =>
      rw [List.mapM_cons] at h
      cases hitem : parseItem item with
      | error e' =>
        rw [hitem] at h
        cases h
        exact parseItem_error hitem
      | ok i =>
        rw [hitem] at h
        cases hrest : items.mapM parseItem with
        | error e' =>
          rw [hrest] at h
          cases h
          exact ih hrest
        | ok is =>
          rw [hrest] at h
          exact nomatch h

/-- What the catalog answers to an order. -/
inductive Decision (db : CatalogDb) (env : EventEnvelope) :
    Tx.Attempt HandlerError CatalogDb Unit → Prop
  /-- every item is reserved, and InventoryReserved is written with it -/
  | reserved {db' : CatalogDb} {o : Uuid} {items : List ReservationItem} (ins : OutboxInsert)
    (ho : env.payload.orderId = some o) (hitems : parseItems env.payload = .ok items)
    (hreserves : Reserves db db' o items) (houtbox : db'.outbox = db.outbox ++ [ins])
    (hevent : IsEvent ins .catalogEvents o .inventoryReserved) :
    Decision db env (.committed () db')
  /-- nothing is reserved, and the event goes to the DLQ -/
  | refused {msg : String} {db' : CatalogDb}
    (h : db' = db ∨ ∃ o, env.payload.orderId = some o ∧
      Emits db db' o .inventoryReservationFailed) :
    Decision db env (.failed (.permanent msg) db')

theorem handle_orderCreated {env : EventEnvelope} (db : CatalogDb)
    (henv : env.eventType = .orderCreated) : Decision db env (Tx.attempt (handle env) db) := by
  unfold Tx.attempt
  simp only [handle, henv, handleOrderCreated, bind, EStateM.bind, Tx.mapErr, Tx.ofExcept]
  cases ho : env.payloadOrderId with
  | error e => exact .refused (.inl rfl)
  | ok o =>
    cases hb : env.payloadBuyerId with
    | error e => exact .refused (.inl rfl)
    | ok buyerId =>
      cases hitems : parseItems env.payload with
      | error e =>
        obtain ⟨msg, rfl⟩ := parseItems_error hitems
        exact .refused (.inl rfl)
      | ok items =>
        have ho' := payloadOrderId_ok.mp ho
        have hkeeps := keepsPool_doReserveAndWriteEvent o buyerId
          (env.payload.totalAmount.getD (.decimal 0)) (env.payload.currency.getD "USD") items
          (Tx.begin db)
        simp only [pure, EStateM.pure, reserveForOrderOnTx]
        cases hdo : doReserveAndWriteEvent o buyerId (env.payload.totalAmount.getD (.decimal 0))
            (env.payload.currency.getD "USD") items (Tx.begin db) with
        | ok u t =>
          obtain ⟨db', rfl, hres, ins, hout, hevent⟩ := doReserveAndWriteEvent_ok hdo
          exact .reserved ins ho' hitems hres hout hevent
        | error e t =>
          -- the reservations are rolled back; the failure is written on the pool, and when
          -- that fails too the order gets no answer
          rw [hdo] at hkeeps
          have hpool := writeReservationFailedOnPool_pool o (toString e) t
          rw [show t.pool = db from hkeeps] at hpool
          simp only [bind, EStateM.bind]
          cases hwrite : writeReservationFailedOnPool o (toString e) t with
          | ok _ t' =>
            rw [hwrite] at hpool
            exact .refused (hpool.imp_right fun h => ⟨o, ho', h⟩)
          | error _ t' =>
            rw [hwrite] at hpool
            exact .refused (hpool.imp_right fun h => ⟨o, ho', h⟩)

/-- An OrderCancelled event releases every reservation of the order, and is committed. -/
theorem handle_orderCancelled {env : EventEnvelope} {db : CatalogDb} (h : StockInv db)
    (henv : env.eventType = .orderCancelled) {o : Uuid} (ho : env.payload.orderId = some o) :
    ∃ db', Tx.attempt (handle env) db = .committed () db' ∧ Releases db db' o ∧
      Repository.findAllReserved o db' = [] := by
  obtain ⟨db', hok, hrel, hnil⟩ := releaseAllReservations_ok (o := o) (s := Tx.begin db) rfl h
  refine ⟨db', Tx.attempt_eq_committed.mpr ⟨{ Tx.begin db with db := db' }, ?_, rfl, rfl⟩, hrel,
    hnil⟩
  simp only [handle, henv, Tx.mapErr_ok, handleOrderCancelled, Tx.bind_ok, Tx.ofExcept_ok,
    payloadOrderId_ok]
  refine ⟨o, _, ⟨ho, rfl⟩, ?_⟩
  simp only [Tx.catching, releaseForOrderOnTx, hok]

end Service

end Koupang.Catalog
