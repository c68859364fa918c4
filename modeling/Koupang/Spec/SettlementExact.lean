import Koupang.ForStd.List
import Koupang.Spec.CatalogCorrect
import Koupang.Spec.CatalogService

/-!
# What confirming and releasing take off the stock

Confirming a reservation takes its quantity off both columns of its SKU, and
releasing it takes it off the reserved one. Both statements pass over a SKU that
was deleted after it had been reserved; the reservation is settled nevertheless.

## Key results

- `forM_confirmReservation_iff`: when the reservations of a list of items can be confirmed
- `Settles`: what a list of settled reservations has changed
- `settled_exactly_iff`: when the stock of an order's SKUs is what the reservations say
-/

namespace Koupang.Catalog

open Repository (confirmReservation findAllReserved releaseAllReservations releaseReservation
  setReservationStatus)

/-- What settling a quantity changes of a SKU. -/
def Sku.settle (status : ReservationStatus) (quantity : Int) (sku : Sku) : Sku :=
  match status with
  | .reserved => sku
  | .released => { sku with reservedQuantity := sku.reservedQuantity - quantity }
  | .confirmed => { sku with stockQuantity := sku.stockQuantity - quantity
                             reservedQuantity := sku.reservedQuantity - quantity }

@[simp] theorem Sku.id_settle (status : ReservationStatus) (quantity : Int) (sku : Sku) :
    (sku.settle status quantity).id = sku.id := by
  cases status <;> rfl

@[simp] theorem Sku.deleted_settle (status : ReservationStatus) (quantity : Int) (sku : Sku) :
    (sku.settle status quantity).deleted = sku.deleted := by
  cases status <;> rfl

@[simp] theorem Sku.settle_zero (status : ReservationStatus) (sku : Sku) :
    sku.settle status 0 = sku := by
  cases status <;> simp [Sku.settle]

theorem Sku.settle_settle (status : ReservationStatus) (q q' : Int) (sku : Sku) :
    (sku.settle status q).settle status q' = sku.settle status (q + q') := by
  cases status <;> simp [Sku.settle, sub_sub]

/-- Settling a quantity that is not zero shows. -/
theorem Sku.settle_ne {status : ReservationStatus} (hstatus : status ≠ .reserved) {q : Int}
    (hq : 0 < q) (sku : Sku) : sku.settle status q ≠ sku := by
  intro h
  have hreserved : (sku.settle status q).reservedQuantity = sku.reservedQuantity - q := by
    cases status with
    | reserved => exact absurd rfl hstatus
    | released => rfl
    | confirmed => rfl
  rw [h] at hreserved
  omega

/-- The quantity of a SKU in these reservations. -/
def quantityOf (rs : List InventoryReservationEntity) (skuId : Uuid) : Int :=
  ((rs.filter (·.skuId = skuId)).map (·.quantity)).sum

theorem quantityOf_cons (r : InventoryReservationEntity) (rs : List InventoryReservationEntity)
    (skuId : Uuid) :
    quantityOf (r :: rs) skuId =
      (if r.skuId = skuId then r.quantity else 0) + quantityOf rs skuId :=
  List.sum_filter_key_cons r rs

theorem quantityOf_of_not_mem {rs : List InventoryReservationEntity} {skuId : Uuid}
    (h : skuId ∉ rs.map (·.skuId)) : quantityOf rs skuId = 0 :=
  List.sum_filter_key_of_not_mem h

/-- Of a SKU that has one reservation. -/
theorem quantityOf_of_nodup {rs : List InventoryReservationEntity}
    (h : (rs.map (·.skuId)).Nodup) {r : InventoryReservationEntity} (hr : r ∈ rs) :
    quantityOf rs r.skuId = r.quantity :=
  List.sum_filter_key_of_nodup h hr

/-! ## Settled reservations -/

/-- `db'` is `db` after the reservations `rs` were settled. -/
structure Settles (db db' : CatalogDb) (status : ReservationStatus)
    (rs : List InventoryReservationEntity) : Prop where
  /-- a deleted SKU stays as it is -/
  skus : ∀ id, db'.skus.find? id = (db.skus.find? id).map fun sku =>
    if sku.deleted then sku else sku.settle status (quantityOf rs id)
  reservations : ∀ id, db'.inventoryReservations.find? id =
    (db.inventoryReservations.find? id).map fun r =>
      if r.id ∈ rs.map (·.id) then { r with status } else r

theorem settles_nil (db : CatalogDb) (status : ReservationStatus) : Settles db db status [] := by
  constructor
  · intro id
    have hzero : quantityOf [] id = 0 := rfl
    simp [hzero]
  · intro id
    simp

theorem Settles.cons {db db' db'' : CatalogDb} {status : ReservationStatus}
    {r : InventoryReservationEntity} {rs : List InventoryReservationEntity}
    (h : Settles db db' status [r]) (h' : Settles db' db'' status rs) :
    Settles db db'' status (r :: rs) := by
  constructor
  · intro id
    have hfirst : quantityOf [r] id = if r.skuId = id then r.quantity else 0 := by
      rw [quantityOf_cons]
      exact add_zero _
    rw [h'.skus, h.skus, Option.map_map, hfirst, quantityOf_cons]
    refine Option.map_congr fun sku _ => ?_
    by_cases hdeleted : sku.deleted = true
    · simp [hdeleted]
    · simp [hdeleted, Sku.settle_settle]
  · intro id
    rw [h'.reservations, h.reservations, Option.map_map]
    refine Option.map_congr fun x _ => ?_
    by_cases hx : x.id = r.id <;> by_cases hx' : x.id ∈ rs.map (·.id) <;> simp_all

section Open

variable {db db' : CatalogDb} {status : ReservationStatus} {rs : List InventoryReservationEntity}

/-- A reservation is open after the settlement if it was open before and was not settled. -/
theorem Settles.mem_open (h : Settles db db' status rs) (hstatus : status ≠ .reserved)
    (x : InventoryReservationEntity) :
    x ∈ db'.inventoryReservations.rows ∧ x.status = .reserved ↔
      x ∈ db.inventoryReservations.rows ∧ x.status = .reserved ∧ x.id ∉ rs.map (·.id) := by
  have hmem (t : CatalogDb) : x ∈ t.inventoryReservations.rows ↔
      t.inventoryReservations.find? x.id = some x := by
    rw [Table.find?_eq_some_iff]
    exact (and_iff_left rfl).symm
  rw [hmem, hmem, h.reservations]
  constructor
  · intro ⟨hfind, hopen⟩
    obtain ⟨y, hy, hxy⟩ := Option.map_eq_some_iff.mp hfind
    by_cases hsettled : y.id ∈ rs.map (·.id)
    · rw [if_pos hsettled] at hxy
      rw [← hxy] at hopen
      exact absurd hopen hstatus
    · rw [if_neg hsettled] at hxy
      subst hxy
      exact ⟨hy, hopen, hsettled⟩
  · intro ⟨hfind, hopen, hnot⟩
    rw [hfind, Option.map_some, if_neg hnot]
    exact ⟨rfl, hopen⟩

/-- The update of a SKU that succeeds, with the closing of the reservation. -/
theorem settles_of_update {r : InventoryReservationEntity} {n : Nat} {db₁ : CatalogDb}
    (hupdate : updateSku r.skuId (fun _ => true) (Sku.settle status r.quantity)
      (Sku.id_settle status r.quantity) db = .ok (n, db₁)) :
    Settles db (setReservationStatus r.id status db₁) status [r] := by
  have hquantity (id : Uuid) : quantityOf [r] id = if id = r.skuId then r.quantity else 0 := by
    rw [quantityOf_cons]
    by_cases hid : id = r.skuId
    · rw [if_pos hid, if_pos hid.symm]
      exact add_zero _
    · rw [if_neg hid, if_neg (Ne.symm hid)]
      exact add_zero _
  have hreservations (t : CatalogDb) (id : Uuid) :
      (setReservationStatus r.id status t).inventoryReservations.find? id =
        (t.inventoryReservations.find? id).map fun x =>
          if x.id ∈ [r].map (·.id) then { x with status } else x := by
    refine (Table.find?_modify t.inventoryReservations r.id id (fun x => { x with status })
      fun _ => rfl).trans ?_
    by_cases hid : id = r.id
    · rw [if_pos hid, hid]
      refine Option.map_congr fun x hx => ?_
      have hxid := ((Table.find?_eq_some_iff ..).mp hx).2
      simp [hxid]
    · rw [if_neg hid]
      have hsame : ∀ x ∈ t.inventoryReservations.find? id,
          (if x.id ∈ [r].map (·.id) then { x with status } else x) = x := by
        intro x hx
        have hxid := ((Table.find?_eq_some_iff ..).mp hx).2
        simp [hxid, hid]
      rw [Option.map_congr hsame, Option.map_id']
  cases updateSku_ok hupdate with
  | inl hnothing =>
    obtain ⟨-, rfl, hdeleted⟩ := hnothing
    refine ⟨?_, hreservations db₁⟩
    intro id
    show db₁.skus.find? id = _
    cases hfind : db₁.skus.find? id with
    | none => rfl
    | some sku =>
      rw [Option.map_some, hquantity]
      by_cases hid : id = r.skuId
      · rw [hid] at hfind
        have hgone : sku.deleted = true := by
          by_contra hthere
          cases hdeleted sku hfind (by simpa using hthere)
        rw [if_pos hgone]
      · rw [if_neg hid, Sku.settle_zero, ite_self]
  | inr hone =>
    obtain ⟨-, sku, hfind, hthere, -, -, rfl⟩ := hone
    refine ⟨?_, hreservations _⟩
    intro id
    refine (Table.find?_modify db.skus r.skuId id (Sku.settle status r.quantity)
      (Sku.id_settle status r.quantity)).trans ?_
    by_cases hid : id = r.skuId
    · rw [if_pos hid, hid, hfind, Option.map_some, Option.map_some, hthere, hquantity, if_pos rfl]
      rfl
    · rw [if_neg hid, hquantity, if_neg hid]
      simp

end Open

/-! ## Confirming -/

section Confirm

variable {o skuId : Uuid} {db : CatalogDb} {s t : TxState CatalogDb}

theorem StockInv.findReserved_iff (h : StockInv db) {r : InventoryReservationEntity} :
    Repository.findReserved o skuId db = some r ↔
      (r ∈ db.inventoryReservations.rows ∧ r.status = .reserved) ∧ r.orderId = o ∧
        r.skuId = skuId := by
  constructor
  · intro hfind
    obtain ⟨hr, ho, hsku, hopen⟩ := findReserved_some hfind
    exact ⟨⟨hr, hopen⟩, ho, hsku⟩
  · intro ⟨⟨hr, hopen⟩, ho, hsku⟩
    rw [← ho, ← hsku]
    exact h.findReserved hr hopen

/-- Two open reservations of an order for one SKU are the same. -/
theorem StockInv.eq_of_skuId (h : StockInv db) {r r' : InventoryReservationEntity}
    (hr : r ∈ db.inventoryReservations.rows) (hr' : r' ∈ db.inventoryReservations.rows)
    (ho : r.orderId = r'.orderId) (hsku : r.skuId = r'.skuId) : r = r' :=
  List.inj_on_of_nodup_map h.unique hr hr' (Prod.ext ho hsku)

theorem confirmReservation_ok (h : confirmReservation o skuId s = .ok () t) (hinv : StockInv s.db) :
    ∃ r db n db₁, t = { s with db } ∧ Repository.findReserved o skuId s.db = some r ∧
      updateSku r.skuId (fun _ => true) (Sku.settle .confirmed r.quantity)
        (Sku.id_settle .confirmed r.quantity) s.db = .ok (n, db₁) ∧
      db = setReservationStatus r.id .confirmed db₁ ∧ StockInv db := by
  have hinv' := stockInv_confirmReservation hinv h
  simp only [confirmReservation, Tx.bind_ok, Tx.fetchOne_ok, Tx.statement_ok] at h
  obtain ⟨r, _, ⟨-, hfind, rfl⟩, n, _, ⟨-, db₁, hupdate, rfl⟩, -, db₂, heq, rfl⟩ := h
  cases heq
  obtain ⟨-, -, hsku, -⟩ := findReserved_some hfind
  subst hsku
  exact ⟨r, _, n, db₁, rfl, hfind, hupdate, rfl, hinv'⟩

/-- An open reservation can be confirmed, unless its SKU is there with less stock. -/
theorem confirmReservation_succeeds (hinv : StockInv s.db) (hab : s.aborted = false)
    {r : InventoryReservationEntity} (hfind : Repository.findReserved o skuId s.db = some r)
    (hstock : ∀ sku, s.db.skus.find? skuId = some sku → sku.deleted = false →
      r.quantity ≤ sku.stockQuantity) : ∃ t, confirmReservation o skuId s = .ok () t := by
  obtain ⟨hr, -, hsku, hopen⟩ := findReserved_some hfind
  have hupdate : ∃ n db₁, updateSku skuId (fun _ => true) (Sku.settle .confirmed r.quantity)
      (Sku.id_settle .confirmed r.quantity) s.db = .ok (n, db₁) := by
    unfold updateSku
    cases hskus : s.db.skus.find? skuId with
    | none => exact ⟨0, s.db, rfl⟩
    | some sku =>
      cases hdeleted : sku.deleted with
      | true => exact ⟨0, s.db, by simp [hdeleted]⟩
      | false =>
        obtain ⟨hmem, hid⟩ := (Table.find?_eq_some_iff ..).mp hskus
        have hle := hinv.quantity_le hr hopen hmem (hid.trans hsku.symm) hdeleted
        have hpos := hinv.positive r hr
        have henough := hstock sku hskus hdeleted
        obtain ⟨-, h₁, h₂, h₃, h₄⟩ := check_eq_ok.mp (hinv.checked sku hmem)
        have hcheck : (sku.settle .confirmed r.quantity).check =
            .ok (sku.settle .confirmed r.quantity) := by
          refine check_eq_ok.mpr ⟨rfl, ?_, ?_, ?_, ?_⟩ <;> dsimp only [Sku.settle] <;> omega
        let skus := s.db.skus.modify skuId (Sku.settle .confirmed r.quantity)
          (Sku.id_settle .confirmed r.quantity)
        refine ⟨1, { s.db with skus }, ?_⟩
        refine (if_pos (by simp [hdeleted])).trans ?_
        exact Except.bind_eq_ok.mpr ⟨_, hcheck, rfl⟩
  obtain ⟨n, db₁, hupdate⟩ := hupdate
  refine ⟨{ s with db := setReservationStatus r.id .confirmed db₁ }, ?_⟩
  simp only [confirmReservation, Tx.bind_ok, Tx.fetchOne_ok, Tx.statement_ok]
  exact ⟨r, s, ⟨hab, hfind, rfl⟩, n, _, ⟨hab, db₁, hupdate, rfl⟩, hab, _, rfl, rfl⟩

/-- The items have an open reservation each, and the stock for it where the SKU is there. -/
def Confirmable (db : CatalogDb) (o : Uuid) (items : List ReservationItem) : Prop :=
  (items.map (·.1)).Nodup ∧ ∀ item ∈ items, ∃ r, Repository.findReserved o item.1 db = some r ∧
    ∀ sku, db.skus.find? item.1 = some sku → sku.deleted = false →
      r.quantity ≤ sku.stockQuantity

/-- The other SKUs are as before. -/
theorem Settles.find?_other {db' : CatalogDb} {status : ReservationStatus}
    {rs : List InventoryReservationEntity} (h : Settles db db' status rs) {id : Uuid}
    (hid : id ∉ rs.map (·.skuId)) : db'.skus.find? id = db.skus.find? id := by
  rw [h.skus, quantityOf_of_not_mem hid]
  simp

/-- After one reservation was confirmed, the rest can be confirmed exactly as before, unless the
    same SKU is among them. -/
theorem Settles.confirmable_rest {db' : CatalogDb} {r : InventoryReservationEntity}
    {rest : List ReservationItem} (h : Settles db db' .confirmed [r]) (hinv : StockInv db)
    (hinv' : StockInv db') (hfind : Repository.findReserved o skuId db = some r) :
    Confirmable db' o rest ↔ skuId ∉ rest.map (·.1) ∧ Confirmable db o rest := by
  have hdiffers : ReservationStatus.confirmed ≠ .reserved := by decide
  obtain ⟨⟨hr, hopen⟩, ho, hsku⟩ := hinv.findReserved_iff.mp hfind
  have hsame (item : ReservationItem) (hne : item.1 ≠ skuId) (x : InventoryReservationEntity) :
      Repository.findReserved o item.1 db' = some x ↔
        Repository.findReserved o item.1 db = some x := by
    rw [hinv'.findReserved_iff, hinv.findReserved_iff, h.mem_open hdiffers]
    constructor
    · intro ⟨⟨hx, hxopen, _⟩, hxo, hxsku⟩
      exact ⟨⟨hx, hxopen⟩, hxo, hxsku⟩
    · intro ⟨⟨hx, hxopen⟩, hxo, hxsku⟩
      refine ⟨⟨hx, hxopen, ?_⟩, hxo, hxsku⟩
      intro hid
      have heq := db.inventoryReservations.eq_of_key_eq hx hr (List.mem_singleton.mp hid)
      rw [heq] at hxsku
      exact hne (hxsku.symm.trans hsku)
  have hskus (item : ReservationItem) (hne : item.1 ≠ skuId) :
      db'.skus.find? item.1 = db.skus.find? item.1 := by
    refine h.find?_other ?_
    rw [List.map_singleton, List.mem_singleton, hsku]
    exact hne
  constructor
  · intro ⟨hnodup, hall⟩
    have hnot : skuId ∉ rest.map (·.1) := by
      intro hmem
      obtain ⟨item, hitem, hid⟩ := List.mem_map.mp hmem
      obtain ⟨x, hx, -⟩ := hall item hitem
      rw [hid] at hx
      obtain ⟨hxopen, hxo, hxsku⟩ := hinv'.findReserved_iff.mp hx
      obtain ⟨hx', -, hxid⟩ := (h.mem_open hdiffers x).mp hxopen
      have heq := hinv.eq_of_skuId hx' hr (hxo.trans ho.symm) (hxsku.trans hsku.symm)
      exact hxid (List.mem_singleton.mpr (congrArg (·.id) heq))
    refine ⟨hnot, hnodup, ?_⟩
    intro item hitem
    have hne : item.1 ≠ skuId := fun heq => hnot (heq ▸ List.mem_map_of_mem hitem)
    obtain ⟨x, hx, hstock⟩ := hall item hitem
    rw [hskus item hne] at hstock
    exact ⟨x, (hsame item hne x).mp hx, hstock⟩
  · intro ⟨hnot, hnodup, hall⟩
    refine ⟨hnodup, ?_⟩
    intro item hitem
    have hne : item.1 ≠ skuId := fun heq => hnot (heq ▸ List.mem_map_of_mem hitem)
    obtain ⟨x, hx, hstock⟩ := hall item hitem
    rw [hskus item hne]
    exact ⟨x, (hsame item hne x).mpr hx, hstock⟩

/-- The loop over the items comes to its end exactly when all of them can be confirmed. -/
theorem forM_confirmReservation_iff {items : List ReservationItem} (hinv : StockInv s.db)
    (hab : s.aborted = false) :
    (∃ t, (items.forM fun (skuId, _) => confirmReservation o skuId) s = .ok () t) ↔
      Confirmable s.db o items := by
  induction items generalizing s with
  | nil =>
    constructor
    · intro _
      exact ⟨List.nodup_nil, List.forall_mem_nil _⟩
    · intro _
      exact ⟨s, rfl⟩
  | cons item rest ih =>
    obtain ⟨skuId, quantity⟩ := item
    constructor
    · intro ⟨t, h⟩
      obtain ⟨_, s₁, h₁, h₂⟩ := Tx.bind_ok.mp h
      obtain ⟨r, db₁, n, db₂, rfl, hfind, hupdate, hdb, hinv₁⟩ := confirmReservation_ok h₁ hinv
      have hsettles : Settles s.db db₁ .confirmed [r] := hdb ▸ settles_of_update hupdate
      obtain ⟨hnot, hnodup, hall⟩ := (hsettles.confirmable_rest hinv hinv₁ hfind).mp
        ((ih (s := { s with db := db₁ }) hinv₁ hab).mp ⟨t, h₂⟩)
      refine ⟨List.nodup_cons.mpr ⟨hnot, hnodup⟩, List.forall_mem_cons.mpr ⟨⟨r, hfind, ?_⟩, hall⟩⟩
      -- a SKU that is there has passed the CHECK
      intro sku hsku hthere
      obtain ⟨-, -, hrsku, -⟩ := findReserved_some hfind
      cases updateSku_ok hupdate with
      | inl hnothing =>
        rw [← show r.skuId = skuId from hrsku] at hsku
        cases hnothing.2.2 sku hsku hthere
      | inr hone =>
        obtain ⟨-, sku', hsku', -, -, hcheck, -⟩ := hone
        rw [show r.skuId = skuId from hrsku] at hsku'
        cases hsku.symm.trans hsku'
        have hstock : 0 ≤ sku.stockQuantity - r.quantity := (check_eq_ok.mp hcheck).2.1
        omega
    · intro ⟨hnodup, hall⟩
      obtain ⟨hnot, hnodup⟩ := List.nodup_cons.mp hnodup
      obtain ⟨⟨r, hfind, hstock⟩, hall⟩ := List.forall_mem_cons.mp hall
      obtain ⟨s₁, h₁⟩ := confirmReservation_succeeds hinv hab hfind hstock
      obtain ⟨r', db₁, n, db₂, rfl, hfind', hupdate, hdb, hinv₁⟩ := confirmReservation_ok h₁ hinv
      cases hfind.symm.trans hfind'
      have hsettles : Settles s.db db₁ .confirmed [r] := hdb ▸ settles_of_update hupdate
      have hrest := (hsettles.confirmable_rest hinv hinv₁ hfind).mpr ⟨hnot, hnodup, hall⟩
      obtain ⟨t, h₂⟩ := (ih (s := { s with db := db₁ }) hinv₁ hab).mpr hrest
      exact ⟨t, Tx.bind_ok.mpr ⟨(), _, h₁, h₂⟩⟩

/-- The open reservations of an order among some rows. -/
def OpenOf (db : CatalogDb) (o : Uuid) (rs : List InventoryReservationEntity) : Prop :=
  ∀ r ∈ rs, (r ∈ db.inventoryReservations.rows ∧ r.status = .reserved) ∧ r.orderId = o

/-- What the loop has settled, when it has come to its end. -/
theorem forM_confirmReservation_settles {items : List ReservationItem} (hinv : StockInv s.db)
    (h : (items.forM fun (skuId, _) => confirmReservation o skuId) s = .ok () t) :
    ∃ db rs, t = { s with db } ∧ Settles s.db db .confirmed rs ∧ OpenOf s.db o rs ∧
      rs.map (·.skuId) = items.map (·.1) := by
  induction items generalizing s with
  | nil =>
    obtain ⟨-, rfl⟩ := Tx.pure_ok.mp h
    exact ⟨s.db, [], rfl, settles_nil s.db .confirmed, List.forall_mem_nil _, rfl⟩
  | cons item rest ih =>
    obtain ⟨_, s₁, h₁, h₂⟩ := Tx.bind_ok.mp h
    obtain ⟨r, db₁, n, db₂, rfl, hfind, hupdate, hdb, hinv₁⟩ := confirmReservation_ok h₁ hinv
    have hsettles : Settles s.db db₁ .confirmed [r] := hdb ▸ settles_of_update hupdate
    obtain ⟨db', rs, rfl, hrest, hopen, hskus⟩ := ih (s := { s with db := db₁ }) hinv₁ h₂
    obtain ⟨hr, ho, hsku⟩ := hinv.findReserved_iff.mp hfind
    refine ⟨db', r :: rs, rfl, hsettles.cons hrest, ?_, ?_⟩
    · refine List.forall_mem_cons.mpr ⟨⟨hr, ho⟩, ?_⟩
      intro x hx
      obtain ⟨hxopen, hxo⟩ := hopen x hx
      obtain ⟨hmem, hstatus, -⟩ := (hsettles.mem_open (by decide) x).mp hxopen
      exact ⟨⟨hmem, hstatus⟩, hxo⟩
    · rw [List.map_cons, List.map_cons, hskus, hsku]

end Confirm

/-! ## Releasing -/

section Release

variable {o : Uuid} {db : CatalogDb} {s t : TxState CatalogDb}

theorem mem_findAllReserved {r : InventoryReservationEntity} :
    r ∈ findAllReserved o db ↔
      (r ∈ db.inventoryReservations.rows ∧ r.status = .reserved) ∧ r.orderId = o := by
  unfold findAllReserved
  rw [List.mem_filter]
  simp only [Bool.and_eq_true, decide_eq_true_eq]
  tauto

theorem forM_releaseReservation_settles {rs : List InventoryReservationEntity}
    (hinv : StockInv s.db) (hopen : OpenOf s.db o rs) (hnodup : rs.Nodup)
    (h : (rs.forM fun r => releaseReservation o r.skuId) s = .ok () t) :
    ∃ db, t = { s with db } ∧ Settles s.db db .released rs := by
  induction rs generalizing s with
  | nil =>
    obtain ⟨-, rfl⟩ := Tx.pure_ok.mp h
    exact ⟨s.db, rfl, settles_nil s.db .released⟩
  | cons r rest ih =>
    obtain ⟨⟨hr, ho⟩, hopen⟩ := List.forall_mem_cons.mp hopen
    obtain ⟨hnot, hnodup⟩ := List.nodup_cons.mp hnodup
    obtain ⟨_, s₁, h₁, h₂⟩ := Tx.bind_ok.mp h
    have hinv₁ := stockInv_releaseReservation hinv h₁
    simp only [releaseReservation, Tx.bind_ok, Tx.fetchOne_ok, Tx.statement_ok] at h₁
    obtain ⟨r', s, ⟨-, hfind, rfl⟩, n, _, ⟨-, db₁, hupdate, rfl⟩, -, db₂, heq, rfl⟩ := h₁
    cases heq
    cases (hinv.findReserved_iff.mpr ⟨hr, ho, rfl⟩).symm.trans hfind
    have hsettles : Settles s.db (setReservationStatus r.id .released db₁) .released [r] :=
      settles_of_update hupdate
    have hopen' : OpenOf (setReservationStatus r.id .released db₁) o rest := by
      intro x hx
      obtain ⟨⟨hmem, hstatus⟩, hxo⟩ := hopen x hx
      refine ⟨(hsettles.mem_open (by decide) x).mpr ⟨hmem, hstatus, ?_⟩, hxo⟩
      intro hid
      have heq := s.db.inventoryReservations.eq_of_key_eq hmem hr.1 (List.mem_singleton.mp hid)
      exact hnot (heq ▸ hx)
    obtain ⟨db', rfl, hrest⟩ := ih hinv₁ hopen' hnodup h₂
    exact ⟨db', rfl, hsettles.cons hrest⟩

theorem releaseAllReservations_settles (hinv : StockInv s.db) (hab : s.aborted = false) :
    ∃ db, releaseAllReservations o s = .ok () { s with db } ∧
      Settles s.db db .released (findAllReserved o s.db) := by
  obtain ⟨db, hok, -⟩ := releaseAllReservations_ok (o := o) hab hinv
  have h := hok
  obtain ⟨_, s₁, hselect, hloop⟩ := Tx.bind_ok.mp h
  obtain ⟨-, _, heq, rfl⟩ := Tx.statement_ok.mp hselect
  cases heq
  have hnodup : (findAllReserved o s.db).Nodup :=
    (List.Nodup.of_map _ s.db.inventoryReservations.nodup).filter _
  have hopen : OpenOf s.db o (findAllReserved o s.db) := fun r hr => mem_findAllReserved.mp hr
  obtain ⟨db', heq, hsettles⟩ := forM_releaseReservation_settles hinv hopen hnodup hloop
  cases heq
  exact ⟨db, hok, hsettles⟩

end Release

/-! ## What the stock shows of it -/

/-- Every reservation that was confirmed has been taken off both columns of its SKU. -/
def ConfirmedExactly (db db' : CatalogDb) : Prop :=
  ∀ r ∈ db.inventoryReservations.rows, r.status = .reserved →
    (∃ r', db'.inventoryReservations.find? r.id = some r' ∧ r'.status = .confirmed) →
    ∀ sku, db.skus.find? r.skuId = some sku →
      db'.skus.find? r.skuId = some (sku.settle .confirmed r.quantity)

/-- The reservations that were open, and are released. -/
def released (db db' : CatalogDb) : List InventoryReservationEntity :=
  db.inventoryReservations.rows.filter fun r =>
    r.status = .reserved && (db'.inventoryReservations.find? r.id).any (·.status = .released)

/-- The reserved quantity of every SKU has dropped by what was released of it. -/
def ReleasedExactly (db db' : CatalogDb) : Prop :=
  ∀ id sku, db.skus.find? id = some sku →
    db'.skus.find? id = some (sku.settle .released (quantityOf (released db db') id))

/-- None of these SKUs is deleted. -/
def NoneDeleted (db : CatalogDb) (ids : List Uuid) : Prop :=
  ∀ id ∈ ids, ∀ sku, db.skus.find? id = some sku → sku.deleted = false

section Exactly

variable {db db' : CatalogDb} {o : Uuid} {rs : List InventoryReservationEntity}

/-- A settled reservation is there, with its new status. -/
theorem Settles.find?_settled {status : ReservationStatus} (h : Settles db db' status rs)
    {r : InventoryReservationEntity} (hr : r ∈ db.inventoryReservations.rows)
    (hsettled : r.id ∈ rs.map (·.id)) :
    db'.inventoryReservations.find? r.id = some { r with status } := by
  have hfind := (db.inventoryReservations.find?_eq_some_iff r.id r).mpr ⟨hr, rfl⟩
  rw [h.reservations, hfind, Option.map_some, if_pos hsettled]

theorem Settles.find?_unsettled {status : ReservationStatus} (h : Settles db db' status rs)
    {r : InventoryReservationEntity} (hr : r ∈ db.inventoryReservations.rows)
    (hnot : r.id ∉ rs.map (·.id)) : db'.inventoryReservations.find? r.id = some r := by
  have hfind := (db.inventoryReservations.find?_eq_some_iff r.id r).mpr ⟨hr, rfl⟩
  rw [h.reservations, hfind, Option.map_some, if_neg hnot]

/-- A deleted SKU does not show a settlement. -/
theorem Settles.noneDeleted {status : ReservationStatus} (h : Settles db db' status rs)
    (hstatus : status ≠ .reserved) {id : Uuid} {sku : Sku} (hfind : db.skus.find? id = some sku)
    (hpos : 0 < quantityOf rs id)
    (hexact : db'.skus.find? id = some (sku.settle status (quantityOf rs id))) :
    sku.deleted = false := by
  by_contra hdeleted
  rw [h.skus, hfind, Option.map_some, if_pos (by simpa using hdeleted)] at hexact
  exact Sku.settle_ne hstatus hpos sku (Option.some.inj hexact).symm

theorem mem_of_id_mem (hopen : OpenOf db o rs) {r : InventoryReservationEntity}
    (hr : r ∈ db.inventoryReservations.rows) (hid : r.id ∈ rs.map (·.id)) : r ∈ rs := by
  obtain ⟨x, hx, hxid⟩ := List.mem_map.mp hid
  have heq := db.inventoryReservations.eq_of_key_eq (hopen x hx).1.1 hr hxid
  exact heq ▸ hx

theorem Settles.confirmedExactly_iff (h : Settles db db' .confirmed rs) (hinv : StockInv db)
    (hopen : OpenOf db o rs) (hnodup : (rs.map (·.skuId)).Nodup) :
    ConfirmedExactly db db' ↔ NoneDeleted db (rs.map (·.skuId)) := by
  constructor
  · intro hexact id hid sku hfind
    obtain ⟨r, hr, rfl⟩ := List.mem_map.mp hid
    obtain ⟨⟨hmem, hstatus⟩, -⟩ := hopen r hr
    have hquantity := quantityOf_of_nodup hnodup hr
    have hsettled := h.find?_settled hmem (List.mem_map_of_mem hr)
    have hsku := hexact r hmem hstatus ⟨_, hsettled, rfl⟩ sku hfind
    rw [← hquantity] at hsku
    refine h.noneDeleted (by decide) hfind ?_ hsku
    rw [hquantity]
    exact hinv.positive r hmem
  · intro hthere r hr hstatus ⟨r', hfind', hconfirmed⟩ sku hfind
    have hid : r.id ∈ rs.map (·.id) := by
      by_contra hnot
      rw [h.find?_unsettled hr hnot] at hfind'
      cases hfind'
      rw [hstatus] at hconfirmed
      cases hconfirmed
    have hmem := mem_of_id_mem hopen hr hid
    have hdeleted := hthere r.skuId (List.mem_map_of_mem hmem) sku hfind
    rw [h.skus, hfind, Option.map_some, hdeleted, quantityOf_of_nodup hnodup hmem]
    rfl

theorem Settles.released_eq (h : Settles db db' .released (findAllReserved o db)) :
    released db db' = findAllReserved o db := by
  unfold released
  refine List.filter_congr fun r hr => ?_
  by_cases hopen : r.status = .reserved
  · by_cases ho : r.orderId = o
    · have hmem : r ∈ findAllReserved o db := mem_findAllReserved.mpr ⟨⟨hr, hopen⟩, ho⟩
      rw [h.find?_settled hr (List.mem_map_of_mem hmem)]
      simp [hopen, ho]
    · have hnot : r.id ∉ (findAllReserved o db).map (·.id) := by
        intro hid
        have hmem := mem_of_id_mem (fun x hx => mem_findAllReserved.mp hx) hr hid
        exact ho (mem_findAllReserved.mp hmem).2
      rw [h.find?_unsettled hr hnot]
      simp [hopen, ho]
  · simp [hopen]

theorem StockInv.nodup_skuId (hinv : StockInv db) :
    ((findAllReserved o db).map (·.skuId)).Nodup := by
  refine List.Nodup.map_on ?_ ((List.Nodup.of_map _ db.inventoryReservations.nodup).filter _)
  intro r hr r' hr' hsku
  obtain ⟨⟨hmem, -⟩, ho⟩ := mem_findAllReserved.mp hr
  obtain ⟨⟨hmem', -⟩, ho'⟩ := mem_findAllReserved.mp hr'
  exact hinv.eq_of_skuId hmem hmem' (ho.trans ho'.symm) hsku

theorem Settles.releasedExactly_iff (h : Settles db db' .released (findAllReserved o db))
    (hinv : StockInv db) :
    ReleasedExactly db db' ↔ NoneDeleted db ((findAllReserved o db).map (·.skuId)) := by
  unfold ReleasedExactly
  rw [h.released_eq]
  constructor
  · intro hexact id hid sku hfind
    refine h.noneDeleted (by decide) hfind ?_ (hexact id sku hfind)
    obtain ⟨r, hr, rfl⟩ := List.mem_map.mp hid
    rw [quantityOf_of_nodup hinv.nodup_skuId hr]
    exact hinv.positive r (mem_findAllReserved.mp hr).1.1
  · intro hthere id sku hfind
    rw [h.skus, hfind, Option.map_some]
    by_cases hdeleted : sku.deleted = true
    · have hnot : id ∉ (findAllReserved o db).map (·.skuId) := by
        intro hid
        rw [hthere id hid sku hfind] at hdeleted
        cases hdeleted
      rw [if_pos hdeleted, quantityOf_of_not_mem hnot, Sku.settle_zero]
    · rw [if_neg hdeleted]

end Exactly

end Koupang.Catalog

namespace Koupang.Store

open Catalog

/-! ## The service functions -/

variable {s : AppState} {o : Uuid} {items : List ReservationItem}

/-- What the settlement has written is what the tables show. -/
theorem settles_setInventory {db : Db} {inventory : CatalogDb} {status : ReservationStatus}
    {rs : List InventoryReservationEntity} (h : Settles db.inventory inventory status rs) :
    Settles db.inventory (db.setInventory inventory).inventory status rs := by
  refine ⟨?_, h.reservations⟩
  intro id
  have hview (t : Db) : t.inventory.skus.find? id = (t.skus.find? id).map SkuEntity.inventory :=
    t.skus.find?_view SkuEntity.inventory (fun _ => rfl) id
  have hset : (db.setInventory inventory).skus.find? id =
      (db.skus.find? id).map (SkuEntity.setInventory db.now inventory) :=
    db.skus.find?_map _ (SkuEntity.id_setInventory db.now inventory) id
  rw [hview, hview, hset, Option.map_map, Option.map_map]
  refine Option.map_congr fun sku hsku => ?_
  obtain ⟨-, hid⟩ := (Table.find?_eq_some_iff ..).mp hsku
  have hrow := h.skus id
  rw [hview, hsku, Option.map_some, Option.map_some] at hrow
  show (sku.setInventory db.now inventory).inventory = _
  unfold SkuEntity.setInventory
  rw [hid, hrow]
  dsimp only [Function.comp_apply]
  by_cases hsame : (if sku.inventory.deleted = true then sku.inventory
      else sku.inventory.settle status (quantityOf rs id)) = sku.inventory
  · rw [if_pos hsame, hsame]
  · rw [if_neg hsame]
    cases status <;> by_cases hdeleted : sku.inventory.deleted = true <;>
      simp_all [SkuEntity.inventory, Sku.settle]

section Service

variable {α : Type} {what : String} {x : Tx AppError CatalogDb α}

theorem inTransaction_onInventory_ok {a : α} {inventory : CatalogDb}
    (h : x (Tx.begin s.pool.inventory) = .ok a { Tx.begin s.pool.inventory with db := inventory }) :
    inTransaction what (Inventory.onInventory x) s =
      .ok a { s with pool := s.pool.setInventory inventory } := by
  have htx : withTransaction (Inventory.onInventory x) s.pool =
      .ok (a, s.pool.setInventory inventory) := by
    have hzoom : Inventory.onInventory x (Tx.begin s.pool) =
        .ok a { Tx.begin s.pool with
          db := s.pool.setInventory inventory
          pool := s.pool.setInventory s.pool.inventory } := by
      unfold Inventory.onInventory Tx.zoom
      rw [show x { db := (Tx.begin s.pool).db.inventory, pool := (Tx.begin s.pool).pool.inventory,
                   aborted := (Tx.begin s.pool).aborted } = _ from h]
      rfl
    have hattempt : Tx.attempt (Inventory.onInventory x) s.pool =
        .committed a (s.pool.setInventory inventory) :=
      Tx.attempt_eq_committed.mpr ⟨_, hzoom, rfl, rfl⟩
    unfold withTransaction
    rw [hattempt]
  unfold inTransaction Call.write
  dsimp only
  rw [htx]

theorem inTransaction_onInventory_error
    (h : ¬∃ a t, x (Tx.begin s.pool.inventory) = .ok a t) :
    ∃ e, inTransaction what (Inventory.onInventory x) s = .error e s := by
  have htx : ∃ e, withTransaction (Inventory.onInventory x) s.pool = .error e := by
    have hzoom : ∃ e t, Inventory.onInventory x (Tx.begin s.pool) = .error e t := by
      unfold Inventory.onInventory Tx.zoom
      cases hx : x (Tx.begin s.pool.inventory) with
      | ok a t => exact absurd ⟨a, t, hx⟩ h
      | error e t =>
        rw [show x { db := (Tx.begin s.pool).db.inventory, pool := (Tx.begin s.pool).pool.inventory,
                     aborted := (Tx.begin s.pool).aborted } = _ from hx]
        exact ⟨e, _, rfl⟩
    obtain ⟨e, t, hzoom⟩ := hzoom
    unfold withTransaction Tx.attempt
    rw [hzoom]
    exact ⟨_, rfl⟩
  obtain ⟨e, htx⟩ := htx
  unfold inTransaction Call.write
  dsimp only
  rw [htx]
  exact ⟨_, rfl⟩

end Service

/-- `confirm_for_order` that returns Ok has taken what it has confirmed off the stock, and one
    that returns Err has changed nothing. -/
def ConfirmsExactly (s : AppState) (o : Uuid) (items : List ReservationItem) : Prop :=
  match Inventory.confirmForOrder o items s with
  | .ok () t => ConfirmedExactly s.pool.inventory t.pool.inventory
  | .error _ t => t = s

/-- `release_for_order` that returns Ok has taken what it has released off the reserved quantity,
    and one that returns Err has changed nothing. -/
def ReleasesExactly (s : AppState) (o : Uuid) : Prop :=
  match Inventory.releaseForOrder o s with
  | .ok () t => ReleasedExactly s.pool.inventory t.pool.inventory
  | .error _ t => t = s

theorem confirmsExactly_iff (hinv : StockInv s.pool.inventory) :
    ConfirmsExactly s o items ↔
      (Confirmable s.pool.inventory o items → NoneDeleted s.pool.inventory (items.map (·.1))) := by
  have hiff : (∃ t, (items.forM fun (skuId, _) => Repository.confirmReservation o skuId)
      (Tx.begin s.pool.inventory) = .ok () t) ↔ Confirmable s.pool.inventory o items :=
    forM_confirmReservation_iff hinv rfl
  unfold ConfirmsExactly
  by_cases hconfirmable : Confirmable s.pool.inventory o items
  · obtain ⟨t, h⟩ := hiff.mpr hconfirmable
    obtain ⟨inventory, rs, rfl, hsettles, hopen, hskus⟩ := forM_confirmReservation_settles hinv h
    have hnodup : (rs.map (·.skuId)).Nodup := by
      rw [hskus]
      exact hconfirmable.1
    have hok : Inventory.confirmForOrder o items s =
        .ok () { s with pool := s.pool.setInventory inventory } := inTransaction_onInventory_ok h
    rw [hok, ← hskus]
    have hexact := (settles_setInventory hsettles).confirmedExactly_iff hinv hopen hnodup
    exact hexact.trans (imp_iff_right hconfirmable).symm
  · have herror : ∃ e, Inventory.confirmForOrder o items s = .error e s := by
      refine inTransaction_onInventory_error ?_
      intro ⟨_, t, h⟩
      exact hconfirmable (hiff.mp ⟨t, h⟩)
    obtain ⟨e, herror⟩ := herror
    rw [herror]
    exact iff_of_true rfl fun h => absurd h hconfirmable

theorem releasesExactly_iff (hinv : StockInv s.pool.inventory) :
    ReleasesExactly s o ↔ NoneDeleted s.pool.inventory
      ((Repository.findAllReserved o s.pool.inventory).map (·.skuId)) := by
  obtain ⟨inventory, h, hsettles⟩ :=
    releaseAllReservations_settles (o := o) (s := Tx.begin s.pool.inventory) hinv rfl
  have hok : Inventory.releaseForOrder o s =
      .ok () { s with pool := s.pool.setInventory inventory } := inTransaction_onInventory_ok h
  unfold ReleasesExactly
  rw [hok]
  exact (settles_setInventory hsettles).releasedExactly_iff hinv

/-- The stock is what the settled reservations say, unless a SKU was deleted that an order still
    reserves. -/
theorem settled_exactly_iff (s : AppState) (hinv : StockInv s.pool.inventory) (o : Uuid)
    (items : List ReservationItem) :
    (ConfirmsExactly s o items ↔
      (Confirmable s.pool.inventory o items → NoneDeleted s.pool.inventory (items.map (·.1)))) ∧
    (ReleasesExactly s o ↔ NoneDeleted s.pool.inventory
      ((Repository.findAllReserved o s.pool.inventory).map (·.skuId))) :=
  ⟨confirmsExactly_iff hinv, releasesExactly_iff hinv⟩

/-! ## A SKU that is deleted too early -/

/-- A product with one SKU, of which there are ten pieces. -/
def tenPieces : AppState where
  pool :=
    { products := Table.empty.set
        { id := ⟨1, 0⟩, createdAt := 0, updatedAt := none, deletedAt := none
          sellerId := sampleSeller.id, name := "Mug", slug := "mug", description := none
          basePrice := 10, currency := "USD", categoryId := none, brandId := none
          status := .active }
      skus := Table.empty.set
        { id := ⟨1, 1⟩, createdAt := 0, updatedAt := none, deletedAt := none, productId := ⟨1, 0⟩
          skuCode := "MUG-1", price := 10, stockQuantity := 10, reservedQuantity := 0
          attributes := ⟨"{}"⟩, status := .active }
      uuids := 2 }

/-- Two pieces are reserved for an order. -/
def reservedOps : List CatalogOp :=
  [.inventory (.reserveForOrder ⟨0, 0⟩ ⟨9, 2⟩ (.decimal 20) "USD" [(⟨1, 1⟩, 2)])]

/-- The seller deletes the SKU meanwhile. -/
def deletedOps : List CatalogOp := reservedOps ++ [.deleteSku sampleSeller ⟨1, 1⟩]

/-- The inventory after these operations. -/
def reservedStock (deleted : Bool) : CatalogDb where
  skus := Table.empty.set { id := ⟨1, 1⟩, stockQuantity := 10, reservedQuantity := 2, deleted }
  inventoryReservations := Table.empty.set
    { id := ⟨1, 2⟩, orderId := ⟨0, 0⟩, skuId := ⟨1, 1⟩, quantity := 2, status := .reserved }

theorem stockInv_reservedStock (deleted : Bool) : StockInv (reservedStock deleted) := by
  cases deleted with
  | true => exact ⟨by decide, by decide, by decide, by decide, by decide⟩
  | false => exact ⟨by decide, by decide, by decide, by decide, by decide⟩

theorem confirmable_reservedStock (deleted : Bool) :
    Confirmable (reservedStock deleted) ⟨0, 0⟩ [(⟨1, 1⟩, 2)] := by
  refine ⟨List.nodup_singleton _, ?_⟩
  intro item hitem
  cases List.mem_singleton.mp hitem
  refine ⟨_, rfl, ?_⟩
  intro sku hsku _
  cases hsku
  show (2 : Int) ≤ 10
  decide

section Sample

variable {db : CatalogDb} {deleted : Bool} (hskus : db.skus = (reservedStock deleted).skus)
  (hrows : db.inventoryReservations = (reservedStock deleted).inventoryReservations)

include hskus hrows

theorem stockInv_of_reservedStock : StockInv db :=
  (stockInv_reservedStock deleted).frame hskus hrows

theorem confirmable_of_reservedStock : Confirmable db ⟨0, 0⟩ [(⟨1, 1⟩, 2)] := by
  have h := confirmable_reservedStock deleted
  unfold Confirmable Repository.findReserved at h ⊢
  rw [hskus, hrows]
  exact h

omit hrows in
theorem noneDeleted_of_reservedStock :
    NoneDeleted db [⟨1, 1⟩] ↔ deleted = false := by
  unfold NoneDeleted
  rw [hskus]
  constructor
  · intro h
    exact h ⟨1, 1⟩ (List.mem_singleton_self _) _ rfl
  · intro h id hid sku hsku
    cases List.mem_singleton.mp hid
    cases hsku
    exact h

omit hskus in
theorem findAllReserved_of_reservedStock :
    (Repository.findAllReserved ⟨0, 0⟩ db).map (·.skuId) = [⟨1, 1⟩] := by
  unfold Repository.findAllReserved
  rw [hrows]
  rfl

end Sample

/-- Confirming the order takes nothing off a SKU that was deleted, and neither does releasing
    it. -/
theorem deletedSku_not_settled :
    ∃ s, deletedOps.foldl (fun s op => op.execute s) tenPieces = s ∧
      ¬ConfirmsExactly s ⟨0, 0⟩ [(⟨1, 1⟩, 2)] ∧ ¬ReleasesExactly s ⟨0, 0⟩ := by
  have hskus : (deletedOps.foldl (fun s op => op.execute s) tenPieces).pool.inventory.skus =
      (reservedStock true).skus := by decide +kernel
  have hrows : (deletedOps.foldl (fun s op => op.execute s)
      tenPieces).pool.inventory.inventoryReservations =
        (reservedStock true).inventoryReservations := by decide +kernel
  have hinv := stockInv_of_reservedStock hskus hrows
  refine ⟨_, rfl, ?_, ?_⟩
  · intro h
    have hthere := (confirmsExactly_iff hinv).mp h (confirmable_of_reservedStock hskus hrows)
    exact absurd ((noneDeleted_of_reservedStock hskus).mp hthere) (by decide)
  · intro h
    have hthere := (releasesExactly_iff hinv).mp h
    rw [findAllReserved_of_reservedStock hrows] at hthere
    exact absurd ((noneDeleted_of_reservedStock hskus).mp hthere) (by decide)

/-- As long as the SKU is there, both are exact. -/
theorem settled_exactly_iff_reserved :
    ∃ s, reservedOps.foldl (fun s op => op.execute s) tenPieces = s ∧
      ConfirmsExactly s ⟨0, 0⟩ [(⟨1, 1⟩, 2)] ∧ ReleasesExactly s ⟨0, 0⟩ := by
  have hskus : (reservedOps.foldl (fun s op => op.execute s) tenPieces).pool.inventory.skus =
      (reservedStock false).skus := by decide +kernel
  have hrows : (reservedOps.foldl (fun s op => op.execute s)
      tenPieces).pool.inventory.inventoryReservations =
        (reservedStock false).inventoryReservations := by decide +kernel
  have hinv := stockInv_of_reservedStock hskus hrows
  obtain ⟨hconfirms, hreleases⟩ := settled_exactly_iff
    (reservedOps.foldl (fun s op => op.execute s) tenPieces) hinv ⟨0, 0⟩ [(⟨1, 1⟩, 2)]
  have hthere := (noneDeleted_of_reservedStock hskus).mpr rfl
  refine ⟨_, rfl, hconfirms.mpr fun _ => hthere, hreleases.mpr ?_⟩
  rw [findAllReserved_of_reservedStock hrows]
  exact hthere

end Koupang.Store
