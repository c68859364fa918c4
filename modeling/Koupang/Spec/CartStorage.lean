import Koupang.Spec.CartOverflow

/-!
# What is stored is read back

A stored item is validated once more on every reading, by constructors that trim,
uppercase and bound what they are given. What a request has stored passes them
as it is, so that a cart can always be read.

Key results:
- `toDomain_toStored`: an accepted item comes back with all its fields
- `run_updateItemQuantity`: an update changes a quantity and nothing else
- `loadCart_interleaved`: a cart is read in every state that requests come to
-/

namespace Koupang.Carts

open Atomic (Prog Kept kept_step)

/-! ## Items -/

/-- The item in its stored form. -/
def CartItem.stored (item : CartItem) : CartItemStored where
  productId := item.productId
  skuId := item.skuId
  quantity := item.quantity.value
  unitPrice := item.unitPrice
  currency := item.currency
  productName := item.productName
  imageUrl := item.imageUrl
  addedAt := item.addedAt

/-- The stored form of an item whose fields are validated. -/
structure Normal (stored : CartItemStored) : Prop where
  quantity : 1 ≤ stored.quantity ∧ stored.quantity ≤ 99
  price : 0 ≤ stored.unitPrice
  currency : Order.Currency.new stored.currency = .ok stored.currency

/-- The item with the fields of a stored one. -/
def Normal.item {stored : CartItemStored} (h : Normal stored) : CartItem where
  productId := stored.productId
  skuId := stored.skuId
  quantity := ⟨stored.quantity, h.quantity⟩
  unitPrice := stored.unitPrice
  currency := stored.currency
  productName := stored.productName
  imageUrl := stored.imageUrl
  addedAt := stored.addedAt

theorem toDomain_normal {stored : CartItemStored} (h : Normal stored) :
    stored.toDomain = .ok h.item := by
  have hprice := Order.price_new_iff.mpr ⟨rfl, h.price⟩
  rw [CartItemStored.toDomain, quantity_new h.quantity, hprice, h.currency]
  rfl

/-! ## Requests -/

/-- What `try_from` leaves as it is, and what it has made of the rest. -/
structure Accepted (req : AddToCartReq) (valid : ValidAddToCartReq) : Prop where
  productId : valid.productId = req.productId
  skuId : valid.skuId = req.skuId
  quantity : valid.quantity.value = req.quantity
  unitPrice : valid.unitPrice = req.unitPrice
  imageUrl : valid.imageUrl = req.imageUrl
  price : 0 ≤ req.unitPrice
  currency : Order.Currency.new valid.currency = .ok valid.currency

theorem quantity_new_value {value : Nat} {quantity : Quantity}
    (h : Quantity.new value = .ok quantity) : quantity.value = value := by
  rw [Quantity.new] at h
  split at h
  · cases h
  split at h
  · cases h
  · cases h
    rfl

theorem accepted_of_tryFrom {req : AddToCartReq} {valid : ValidAddToCartReq}
    (h : ValidAddToCartReq.tryFrom req = .ok valid) : Accepted req valid := by
  unfold ValidAddToCartReq.tryFrom at h
  obtain ⟨quantity, hquantity, h⟩ := Except.bind_eq_ok.mp h
  obtain ⟨unitPrice, hprice, h⟩ := Except.bind_eq_ok.mp h
  obtain ⟨rfl, hnonneg⟩ := Order.price_new_iff.mp hprice
  have hvalue := quantity_new_value hquantity
  cases hsent : req.currency with
  | none =>
    simp only [hsent, pure_bind] at h
    obtain ⟨productName, -, h⟩ := Except.bind_eq_ok.mp h
    cases h
    have hdefault : Order.Currency.new Currency.default = .ok Currency.default :=
      Except.toOption_eq_some.mp (by decide)
    exact ⟨rfl, rfl, hvalue, rfl, rfl, hnonneg, hdefault⟩
  | some c =>
    simp only [hsent] at h
    obtain ⟨currency, hcurrency, h⟩ := Except.bind_eq_ok.mp h
    obtain ⟨productName, -, h⟩ := Except.bind_eq_ok.mp h
    cases h
    exact ⟨rfl, rfl, hvalue, rfl, rfl, hnonneg, currency_new_new hcurrency⟩

theorem Accepted.normal {req : AddToCartReq} {valid : ValidAddToCartReq} (h : Accepted req valid)
    (now : Nat) : Normal (valid.toStored now) where
  quantity := valid.quantity.valid
  price := by
    show 0 ≤ valid.unitPrice
    rw [h.unitPrice]
    exact h.price
  currency := h.currency

/-- An accepted item comes back with all its fields: those of the request, and the currency and
    the name as they were validated. -/
theorem toDomain_toStored {req : AddToCartReq} {valid : ValidAddToCartReq}
    (h : ValidAddToCartReq.tryFrom req = .ok valid) (now : Nat) :
    valid.quantity.value = req.quantity ∧
      (valid.toStored now).toDomain = .ok
        { productId := req.productId, skuId := req.skuId, quantity := valid.quantity
          unitPrice := req.unitPrice, currency := valid.currency
          productName := valid.productName, imageUrl := req.imageUrl, addedAt := now } := by
  have haccepted := accepted_of_tryFrom h
  refine ⟨haccepted.quantity, ?_⟩
  rw [toDomain_normal (haccepted.normal now), ← haccepted.productId, ← haccepted.skuId,
    ← haccepted.unitPrice, ← haccepted.imageUrl]
  rfl

/-! ## Updates -/

/-- The stored item of a SKU. -/
def CartHash.get (cart : CartHash) (skuId : Uuid) : Option CartItemStored :=
  (cart.find? skuId).map Prod.snd

theorem run_handle_updateItem (skuId : Uuid) (req : UpdateCartItemReq) (cart : CartHash) :
    ((Call.updateItem skuId req).handle.run cart).2 =
      ((updateItemQuantity skuId req).run cart).2 := by
  rw [Call.handle, Prog.run_bind]
  split
  · rename_i cart' after hrun
    rw [hrun]
    rfl
  · rename_i e after hrun
    rw [hrun]

/-- An update changes the quantity of the item with the SKU, and nothing else. -/
theorem run_updateItemQuantity (skuId : Uuid) (req : UpdateCartItemReq) (cart : CartHash) :
    match ValidUpdateCartItemReq.tryFrom req with
    | .ok quantity => ∀ sku, CartHash.get ((updateItemQuantity skuId req).run cart).2 sku =
        (cart.get sku).map fun item =>
          if sku = skuId then { item with quantity := quantity.value } else item
    | .error _ => ((updateItemQuantity skuId req).run cart).2 = cart := by
  cases hvalid : ValidUpdateCartItemReq.tryFrom req with
  | ok quantity =>
    have hupdates : (Call.updateItem skuId req).updates = some (skuId, quantity.value) := by
      simp only [Call.updates, hvalid]
    intro sku
    rw [← run_handle_updateItem, run_updates hupdates]
    by_cases hsku : sku = skuId
    · subst hsku
      simp only [if_true, CartHash.get]
      cases hfind : cart.find? sku with
      | none => simp [hfind]
      | some item => simp [Table.find?_set]
    · have hother : ∀ item : Uuid × CartItemStored, item.1 = skuId →
          (cart.set item).find? sku = cart.find? sku := by
        intro item hkey
        rw [Table.find?_set, if_neg (hkey ▸ Ne.symm hsku)]
      simp only [if_neg hsku, CartHash.get, Option.map_id']
      cases cart.find? skuId with
      | none => rfl
      | some item => rw [hother _ rfl]
  | error e =>
    simp only [updateItemQuantity, hvalid]
    rfl

/-! ## Whole carts -/

/-- Every stored item is validated. -/
def AllNormal (cart : CartHash) : Prop := ∀ row ∈ cart.rows, Normal row.2

theorem AllNormal.set {cart : CartHash} (hcart : AllNormal cart) {row : Uuid × CartItemStored}
    (h : Normal row.2) : AllNormal (cart.set row) :=
  Table.forall_mem_set hcart h

theorem AllNormal.filter {cart : CartHash} (hcart : AllNormal cart)
    (keep : Uuid × CartItemStored → Bool) : AllNormal (cart.filter keep) :=
  Table.forall_mem_filter hcart keep

/-- The cart is read as it is stored. -/
theorem loadCart_normal {cart : CartHash} (h : AllNormal cart) :
    ∃ items, loadCart.run cart = (.ok { items }, cart) ∧
      items.map CartItem.stored = cart.rows.map Prod.snd := by
  have hrows : ∀ s ∈ cart.rows.map Prod.snd, Normal s := by
    intro s hs
    obtain ⟨row, hrow, rfl⟩ := List.mem_map.mp hs
    exact h row hrow
  obtain ⟨items, hitems, hstored⟩ := Except.exists_mapM_ok (g := CartItem.stored) (k := id)
    fun s hs => ⟨_, toDomain_normal (hrows s hs), rfl⟩
  rw [List.map_id] at hstored
  exact ⟨items, loadCart_of_mapM hitems, hstored⟩

/-! ## Requests at the same time -/

theorem keeps_storing (skuId : Uuid) {stored : CartItemStored} (h : Normal stored) :
    (storing skuId stored).Keeps AllNormal := by
  intro cart hcart
  refine ⟨hcart.set h, ?_⟩
  intro cart' hcart'
  exact ⟨hcart', quiet_answering.keeps AllNormal⟩

theorem keeps_counting (skuId : Uuid) {stored : CartItemStored} (h : Normal stored) :
    (counting skuId stored).Keeps AllNormal := by
  intro cart hcart
  refine ⟨hcart, ?_⟩
  change Prog.Keeps AllNormal (if cart.rows.length ≥ serviceMaxCartItems then _
    else storing skuId stored)
  split
  · exact trivial
  · exact keeps_storing skuId h

theorem normal_of_adds {call : Call} {skuId : Uuid} {stored : CartItemStored}
    (h : call.adds = some (skuId, stored)) : Normal stored := by
  cases call with
  | addItem req now =>
    cases hvalid : ValidAddToCartReq.tryFrom req with
    | ok v =>
      simp only [Call.adds, hvalid] at h
      cases h
      exact (accepted_of_tryFrom hvalid).normal now
    | error e => simp [Call.adds, hvalid] at h
  | _ => cases h

theorem normal_of_updates {call : Call} {skuId : Uuid} {quantity : Nat}
    {existing : CartItemStored} (h : call.updates = some (skuId, quantity))
    (hexisting : Normal existing) : Normal { existing with quantity } := by
  cases call with
  | updateItem sku req =>
    cases hvalid : ValidUpdateCartItemReq.tryFrom req with
    | ok q =>
      simp only [Call.updates, hvalid] at h
      cases h
      exact ⟨q.valid, hexisting.price, hexisting.currency⟩
    | error e => simp [Call.updates, hvalid] at h
  | _ => cases h

/-- Whatever the other requests do, a request stores validated items only. -/
theorem keeps_handle (call : Call) : call.handle.Keeps AllNormal := by
  rcases handle_cases call with ⟨skuId, stored, hadds⟩ | ⟨skuId, quantity, hupdates⟩ |
    ⟨skuId, rfl⟩ | rfl | ⟨e, hrefused⟩
  · have hnormal := normal_of_adds hadds
    rw [handle_of_adds hadds]
    intro cart hcart
    refine ⟨hcart, ?_⟩
    change Prog.Keeps AllNormal (if (cart.find? skuId).isSome then storing skuId stored
      else counting skuId stored)
    split
    · exact keeps_storing skuId hnormal
    · exact keeps_counting skuId hnormal
  · rw [handle_of_updates hupdates]
    intro cart hcart
    refine ⟨hcart, ?_⟩
    have hanswer : (redis.exec (.hget skuId) cart).1 = (cart.find? skuId).map Prod.snd := rfl
    rw [hanswer]
    cases hfind : cart.find? skuId with
    | none => exact trivial
    | some item =>
      have hitem := hcart item (List.mem_of_find?_eq_some hfind)
      exact keeps_storing skuId (normal_of_updates hupdates hitem)
  · intro cart hcart
    refine ⟨hcart.filter _, ?_⟩
    intro cart' hcart'
    exact ⟨hcart', trivial⟩
  · intro cart _
    refine ⟨?_, trivial⟩
    intro row hrow
    cases hrow
  · rw [hrefused]
    exact trivial

/-- In every state that requests come to, in any order of their commands, the cart is read as it is
    stored. -/
theorem loadCart_interleaved {calls : List Call} {schedule : List Nat}
    {s : Atomic.State redis AppError Response}
    (hrun : Run.run Atomic.step (start calls .empty) schedule = some s) :
    ∃ items, loadCart.run s.store = (.ok { items }, s.store) ∧
      items.map CartItem.stored = s.store.rows.map Prod.snd := by
  have hstart : Kept AllNormal (start calls .empty) := by
    constructor
    · intro row hrow
      cases hrow
    · intro p hp
      obtain ⟨call, -, rfl⟩ := List.mem_map.mp hp
      exact keeps_handle call
  exact loadCart_normal (Run.run_invariant (fun _ _ _ => kept_step) hstart hrun).store

/-- What is accepted into a cart is read back from it, by whatever requests it was updated. -/
theorem cart_storage_round_trip :
    (∀ req valid now, ValidAddToCartReq.tryFrom req = .ok valid →
      valid.quantity.value = req.quantity ∧
        (valid.toStored now).toDomain = .ok
          { productId := req.productId, skuId := req.skuId, quantity := valid.quantity
            unitPrice := req.unitPrice, currency := valid.currency
            productName := valid.productName, imageUrl := req.imageUrl, addedAt := now }) ∧
    (∀ skuId req cart, match ValidUpdateCartItemReq.tryFrom req with
      | .ok quantity => ∀ sku, CartHash.get ((updateItemQuantity skuId req).run cart).2 sku =
          (cart.get sku).map fun item =>
            if sku = skuId then { item with quantity := quantity.value } else item
      | .error _ => ((updateItemQuantity skuId req).run cart).2 = cart) ∧
    ∀ calls schedule s, Run.run Atomic.step (start calls .empty) schedule = some s →
      ∃ items, loadCart.run s.store = (.ok { items }, s.store) ∧
        items.map CartItem.stored = s.store.rows.map Prod.snd :=
  ⟨fun _ _ now h => toDomain_toStored h now, run_updateItemQuantity,
    fun _ _ _ hrun => loadCart_interleaved hrun⟩

end Koupang.Carts
