import Mathlib.Data.List.Permutation
import Koupang.ForStd.Run
import Koupang.Model.Cart

/-!
# Concurrent changes of one cart

`add_item` and `update_item_quantity` decide by what they have read, and write
later. As long as what they write is still right when they write it, any
interleaving of the commands comes to the same cart as the calls one after the
other: each call takes its place in the order where it writes. A call that is
refused because the cart is full takes it where it reads the length, or before the
write that has put its SKU into the cart in the meantime.

## Key results

- `cart_serializable`: the order, under that condition
- `cart_overfull`, `removed_item_returns`: what happens otherwise
-/

namespace Koupang.Carts

open Atomic (Prog serial)

/-- All the calls are about to begin. -/
def start (calls : List Call) (cart : CartHash) : Atomic.State redis AppError Response where
  store := cart
  threads := calls.map Call.handle

/-- A new SKU may be written. -/
def Accepts (skuId : Uuid) (cart : CartHash) : Prop :=
  (cart.find? skuId).isSome ∨ cart.rows.length < serviceMaxCartItems

instance (skuId : Uuid) (cart : CartHash) : Decidable (Accepts skuId cart) :=
  inferInstanceAs (Decidable (_ ∨ _))

/-- What call `i` writes next is still right: there is room for the item that is added, and the
    item that is updated is the one that was read, up to its quantity. -/
def writesCurrent (calls : List Call) (s : Atomic.State redis AppError Response) (i : Nat) : Bool :=
  match calls[i]?, s.threads[i]? with
  | some (.addItem ..), some (.cmd (.hset skuId _) _) => Accepts skuId s.store
  | some (.updateItem ..), some (.cmd (.hset skuId stored) _) =>
    (s.store.find? skuId).any fun item => { item.2 with quantity := stored.quantity } = stored
  | _, _ => true

/-! ## The programs -/

/-- The end of `add_item` and `update_item_quantity`. -/
def answering : Program Response := do
  let cart ← getCart
  return .cart cart

def storing (skuId : Uuid) (stored : CartItemStored) : Program Response :=
  .cmd (.hset skuId stored) fun _ => .cmd (.expire Repository.cartTtlSecs) fun _ => answering

def counting (skuId : Uuid) (stored : CartItemStored) : Program Response :=
  .cmd .hlen fun (count : Nat) =>
    if count ≥ serviceMaxCartItems then
      .done (.error (CartError.cartFull serviceMaxCartItems).toAppError)
    else storing skuId stored

/-- What a call adds, if its request is valid. -/
def Call.adds : Call → Option (Uuid × CartItemStored)
  | .addItem req now =>
    match ValidAddToCartReq.tryFrom req with
    | .ok v => some (v.skuId, v.toStored now)
    | .error _ => none
  | _ => none

/-- The SKU and the quantity that a call updates, if its request is valid. -/
def Call.updates : Call → Option (Uuid × Nat)
  | .updateItem skuId req =>
    match ValidUpdateCartItemReq.tryFrom req with
    | .ok quantity => some (skuId, quantity.value)
    | .error _ => none
  | _ => none

variable {call : Call} {skuId : Uuid} {stored : CartItemStored} {cart : CartHash}

theorem handle_of_adds (h : call.adds = some (skuId, stored)) :
    call.handle = .cmd (.hexists skuId) fun (found : Bool) =>
      if found then storing skuId stored else counting skuId stored := by
  cases call with
  | addItem req now =>
    simp only [Call.adds] at h
    split at h
    · rename_i v hv
      cases h
      simp only [Call.handle, addItem, hv]
      refine congrArg (Prog.cmd (S := redis) (.hexists v.skuId)) (funext fun (found : Bool) => ?_)
      cases found with
      | true => rfl
      | false =>
        refine congrArg (Prog.cmd (S := redis) .hlen) (funext fun (count : Nat) => ?_)
        by_cases hfull : count ≥ serviceMaxCartItems
        · simp only [Prog.bind, hfull, if_true]
          rfl
        · simp only [Prog.bind, hfull, if_false]
          rfl
    · cases h
  | _ => cases h

theorem handle_of_updates {quantity : Nat} (h : call.updates = some (skuId, quantity)) :
    call.handle = .cmd (.hget skuId) fun (existing : Option CartItemStored) =>
      match existing with
      | none => .done (.error (CartError.itemNotFound s!"SKU {skuId} not in cart").toAppError)
      | some existing => storing skuId { existing with quantity } := by
  cases call with
  | updateItem skuId req =>
    simp only [Call.updates] at h
    split at h
    · rename_i q hq
      cases h
      simp only [Call.handle, updateItemQuantity, hq]
      refine congrArg (Prog.cmd (S := redis) (.hget skuId))
        (funext fun (existing : Option CartItemStored) => ?_)
      cases existing with
      | none => rfl
      | some existing => rfl
    · cases h
  | _ => cases h

/-- Any other call removes something, or its request is not valid. -/
theorem handle_cases (call : Call) :
    (∃ skuId stored, call.adds = some (skuId, stored)) ∨
      (∃ skuId quantity, call.updates = some (skuId, quantity)) ∨
      (∃ skuId, call = .removeItem skuId) ∨ call = .clearCart ∨
      ∃ e, call.handle = .done (.error e) := by
  cases call with
  | addItem req now =>
    cases hvalid : ValidAddToCartReq.tryFrom req with
    | ok v => exact .inl ⟨v.skuId, v.toStored now, by simp [Call.adds, hvalid]⟩
    | error e =>
      refine .inr (.inr (.inr (.inr ⟨e, ?_⟩)))
      simp only [Call.handle, addItem, hvalid]
      rfl
  | updateItem skuId req =>
    cases hvalid : ValidUpdateCartItemReq.tryFrom req with
    | ok q => exact .inr (.inl ⟨skuId, q.value, by simp [Call.updates, hvalid]⟩)
    | error e =>
      refine .inr (.inr (.inr (.inr ⟨e, ?_⟩)))
      simp only [Call.handle, updateItemQuantity, hvalid]
      rfl
  | removeItem skuId => exact .inr (.inr (.inl ⟨skuId, rfl⟩))
  | clearCart => exact .inr (.inr (.inr (.inl rfl)))

theorem quiet_answering : answering.Quiet := by
  have hload : loadCart.Quiet := by
    have hget : Repository.getCart.Quiet :=
      (Prog.quiet_send fun _ => rfl : (send .hgetall).Quiet).bind fun _ => trivial
    exact hget.bind fun _ => (Prog.quiet_ofExcept _).bind fun _ => trivial
  exact (hload.bind fun _ => trivial : getCart.Quiet).bind fun _ => trivial

theorem run_storing (skuId : Uuid) (stored : CartItemStored) (cart : CartHash) :
    ((storing skuId stored).run cart).2 = cart.set (skuId, stored) :=
  quiet_answering.run _

/-! ## The effect of a call alone -/

theorem run_counting (skuId : Uuid) (stored : CartItemStored) (cart : CartHash) :
    ((counting skuId stored).run cart).2 =
      if cart.rows.length < serviceMaxCartItems then cart.set (skuId, stored) else cart := by
  change ((if cart.rows.length ≥ serviceMaxCartItems then _ else storing skuId stored :
    Program Response).run cart).2 = _
  by_cases hroom : cart.rows.length < serviceMaxCartItems
  · rw [if_neg (Nat.not_le_of_lt hroom), if_pos hroom, run_storing]
  · rw [if_pos (Nat.le_of_not_lt hroom), if_neg hroom, Prog.run_done]

theorem run_adds (h : call.adds = some (skuId, stored)) (cart : CartHash) :
    (call.handle.run cart).2 = if Accepts skuId cart then cart.set (skuId, stored) else cart := by
  rw [handle_of_adds h]
  change ((if (cart.find? skuId).isSome then storing skuId stored else counting skuId stored).run
    cart).2 = _
  by_cases hfound : (cart.find? skuId).isSome = true
  · have haccepts : Accepts skuId cart := .inl hfound
    rw [if_pos hfound, if_pos haccepts, run_storing]
  · rw [if_neg hfound, run_counting]
    refine if_congr ?_ rfl rfl
    simp [Accepts, hfound]

theorem run_updates {quantity : Nat} (h : call.updates = some (skuId, quantity))
    (cart : CartHash) :
    (call.handle.run cart).2 =
      match cart.find? skuId with
      | none => cart
      | some item => cart.set (skuId, { item.2 with quantity }) := by
  rw [handle_of_updates h]
  simp only [Prog.run_command, Cmd.exec]
  cases cart.find? skuId with
  | none => rfl
  | some item => exact run_storing ..

/-! ## The order of the calls -/

variable {calls : List Call} {cart₀ : CartHash} {order : List Nat} {i k : Nat}

/-- The cart after the calls with these numbers, one after the other. -/
def replay (calls : List Call) (cart : CartHash) (order : List Nat) : CartHash :=
  serial Call.handle (order.filterMap (calls[·]?)) cart

theorem replay_append (cart : CartHash) (order order' : List Nat) :
    replay calls cart (order ++ order') = replay calls (replay calls cart order) order' := by
  simp [replay, List.filterMap_append, Atomic.serial_append]

theorem replay_cons (hcall : calls[i]? = some call) (cart : CartHash) (order : List Nat) :
    replay calls cart (i :: order) = replay calls (call.handle.run cart).2 order := by
  simp [replay, hcall]

theorem replay_concat (hcall : calls[i]? = some call) :
    replay calls cart₀ (order ++ [i]) = (call.handle.run (replay calls cart₀ order)).2 := by
  rw [replay_append, replay_cons hcall]
  simp [replay]

/-- In the order there is a call that adds the SKU and succeeds. -/
def Overwritten (calls : List Call) (cart₀ : CartHash) (order : List Nat) (skuId : Uuid) : Prop :=
  ∃ pre i post call stored, order = pre ++ i :: post ∧ calls[i]? = some call ∧
    call.adds = some (skuId, stored) ∧ Accepts skuId (replay calls cart₀ pre)

theorem Overwritten.append (h : Overwritten calls cart₀ order skuId) (order' : List Nat) :
    Overwritten calls cart₀ (order ++ order') skuId := by
  obtain ⟨pre, i, post, call, stored, rfl, hcall, hadds, haccepts⟩ := h
  exact ⟨pre, i, post ++ order', call, stored, by simp, hcall, hadds, haccepts⟩

theorem accepts_set (skuId : Uuid) (stored : CartItemStored) (cart : CartHash) :
    Accepts skuId (cart.set (skuId, stored)) := by
  refine .inl ?_
  rw [Table.find?_set, if_pos rfl]
  rfl

/-- A call that adds an item leaves no trace right before another one that adds the SKU. -/
theorem replay_insert {pre post : List Nat} {callᵢ callₖ : Call} {storedᵢ storedₖ : CartItemStored}
    (hcallᵢ : calls[i]? = some callᵢ) (haddsᵢ : callᵢ.adds = some (skuId, storedᵢ))
    (hcallₖ : calls[k]? = some callₖ) (haddsₖ : callₖ.adds = some (skuId, storedₖ))
    (haccepts : Accepts skuId (replay calls cart₀ pre)) :
    replay calls cart₀ (pre ++ k :: i :: post) = replay calls cart₀ (pre ++ i :: post) := by
  rw [replay_append, replay_append, replay_cons hcallₖ, replay_cons hcallᵢ, replay_cons hcallᵢ,
    run_adds haddsₖ, if_pos haccepts, run_adds haddsᵢ, run_adds haddsᵢ, if_pos haccepts,
    if_pos (accepts_set ..), Table.set_set]
  rfl

/-- Such a call can be put there without losing the place of another one. -/
theorem Overwritten.insert {pre post : List Nat} {callᵢ callₖ : Call}
    {storedᵢ storedₖ : CartItemStored} {sku : Uuid}
    (hcallᵢ : calls[i]? = some callᵢ) (haddsᵢ : callᵢ.adds = some (skuId, storedᵢ))
    (hcallₖ : calls[k]? = some callₖ) (haddsₖ : callₖ.adds = some (skuId, storedₖ))
    (haccepts : Accepts skuId (replay calls cart₀ pre))
    (h : Overwritten calls cart₀ (pre ++ i :: post) sku) :
    Overwritten calls cart₀ (pre ++ k :: i :: post) sku := by
  obtain ⟨pre', i', post', call', stored', heq, hcall', hadds', haccepts'⟩ := h
  have hinsert : ∀ post, replay calls cart₀ (pre ++ k :: i :: post) =
      replay calls cart₀ (pre ++ i :: post) := fun _ =>
    replay_insert hcallᵢ haddsᵢ hcallₖ haddsₖ haccepts
  have hsame : Overwritten calls cart₀ (pre ++ k :: i :: post) skuId := by
    refine ⟨pre ++ [k], i, post, callᵢ, storedᵢ, by simp, hcallᵢ, haddsᵢ, ?_⟩
    rw [replay_concat hcallₖ, run_adds haddsₖ, if_pos haccepts]
    exact accepts_set ..
  rcases List.append_eq_append_iff.mp heq with ⟨mid, rfl, hmid⟩ | ⟨mid, rfl, hmid⟩
  · cases mid with
    | nil =>
      -- it is the same place
      obtain ⟨rfl, rfl⟩ := List.cons.inj hmid
      cases hcallᵢ.symm.trans hcall'
      cases haddsᵢ.symm.trans hadds'
      exact hsame
    | cons j mid =>
      -- its place comes later, and the cart there is the same
      obtain ⟨rfl, rfl⟩ := List.cons.inj hmid
      refine ⟨pre ++ k :: i :: mid, i', post', call', stored', by simp, hcall', hadds', ?_⟩
      rwa [hinsert]
  · cases mid with
    | nil =>
      obtain ⟨rfl, rfl⟩ := List.cons.inj hmid
      cases hcallᵢ.symm.trans hcall'
      cases haddsᵢ.symm.trans hadds'
      exact hsame
    | cons j mid =>
      obtain ⟨rfl, rfl⟩ := List.cons.inj hmid
      exact ⟨pre', i', mid ++ k :: i :: post, call', stored', by simp, hcall', hadds', haccepts'⟩

/-! ## The invariant -/

/-- Where a call is. A call in the order has written what it writes. -/
inductive At (calls : List Call) (cart₀ store : CartHash) (order : List Nat) (i : Nat)
    (call : Call) : Program Response → Prop where
  | fresh (pending : i ∉ order) : At calls cart₀ store order i call call.handle
  | counting {skuId : Uuid} {stored : CartItemStored} (pending : i ∉ order)
      (adds : call.adds = some (skuId, stored))
      (missed : store.find? skuId = none ∨ Overwritten calls cart₀ order skuId) :
      At calls cart₀ store order i call (counting skuId stored)
  | adding {skuId : Uuid} {stored : CartItemStored} (pending : i ∉ order)
      (adds : call.adds = some (skuId, stored)) :
      At calls cart₀ store order i call (storing skuId stored)
  | updating {skuId : Uuid} {quantity : Nat} {existing : CartItemStored} (pending : i ∉ order)
      (updates : call.updates = some (skuId, quantity)) :
      At calls cart₀ store order i call (storing skuId { existing with quantity })
  /-- refused, though its SKU is in the cart -/
  | refused {skuId : Uuid} {stored : CartItemStored} {e : AppError} (pending : i ∉ order)
      (adds : call.adds = some (skuId, stored)) (missed : Overwritten calls cart₀ order skuId) :
      At calls cart₀ store order i call (.done (.error e))
  | through {p : Program Response} (mem : i ∈ order) (quiet : p.Quiet) :
      At calls cart₀ store order i call p

structure CartInv (calls : List Call) (cart₀ : CartHash) (order : List Nat)
    (s : Atomic.State redis AppError Response) : Prop where
  nodup : order.Nodup
  length : s.threads.length = calls.length
  bound : ∀ i ∈ order, i < calls.length
  store : s.store = replay calls cart₀ order
  room : s.store.rows.length ≤ serviceMaxCartItems
  threads : ∀ (i : Nat) (call : Call) (p : Program Response), calls[i]? = some call →
    s.threads[i]? = some p → At calls cart₀ s.store order i call p

/-- The other calls stay where they are. -/
theorem At.mono {store store' : CartHash} {order' : List Nat} {p : Program Response}
    (h : At calls cart₀ store order i call p) (hpending : i ∉ order → i ∉ order')
    (hmem : i ∈ order → i ∈ order')
    (hover : ∀ sku, Overwritten calls cart₀ order sku → Overwritten calls cart₀ order' sku)
    (hmissed : ∀ sku, store.find? sku = none →
      store'.find? sku = none ∨ Overwritten calls cart₀ order' sku) :
    At calls cart₀ store' order' i call p := by
  cases h with
  | fresh pending => exact .fresh (hpending pending)
  | counting pending adds missed =>
    refine .counting (hpending pending) adds ?_
    rcases missed with hnone | hover'
    · exact hmissed _ hnone
    · exact .inr (hover _ hover')
  | adding pending adds => exact .adding (hpending pending) adds
  | updating pending updates => exact .updating (hpending pending) updates
  | refused pending adds missed => exact .refused (hpending pending) adds (hover _ missed)
  | through mem quiet => exact .through (hmem mem) quiet

variable {s t : Atomic.State redis AppError Response}

/-- A step that writes nothing. -/
theorem CartInv.read (hinv : CartInv calls cart₀ order s) (hcall : calls[k]? = some call)
    {q : Program Response} (hstore : t.store = s.store) (hthreads : t.threads = s.threads.set k q)
    (hat : At calls cart₀ s.store order k call q) : CartInv calls cart₀ order t where
  nodup := hinv.nodup
  length := by rw [hthreads, List.length_set, hinv.length]
  bound := hinv.bound
  store := hstore.trans hinv.store
  room := hstore ▸ hinv.room
  threads i call' q' hcall' hq' := by
    rw [hthreads] at hq'
    rw [hstore]
    rcases Atomic.getElem?_set_thread hq' with ⟨rfl, rfl⟩ | ⟨-, hq'⟩
    · cases hcall.symm.trans hcall'
      exact hat
    · exact hinv.threads i call' q' hcall' hq'

/-- A step in which a call takes its place in the order: it does at once what the whole call
    would do alone. -/
theorem CartInv.commit (hinv : CartInv calls cart₀ order s) (hcall : calls[k]? = some call)
    (hpending : k ∉ order) {q : Program Response} (hquiet : q.Quiet)
    (hstore : t.store = (call.handle.run s.store).2) (hthreads : t.threads = s.threads.set k q)
    (hroom : t.store.rows.length ≤ serviceMaxCartItems)
    (hmissed : ∀ sku, s.store.find? sku = none → t.store.find? sku = none ∨
      ∃ stored, call.adds = some (sku, stored) ∧ Accepts sku s.store) :
    CartInv calls cart₀ (order ++ [k]) t where
  nodup := by
    refine List.Nodup.append hinv.nodup (List.nodup_singleton k) ?_
    simpa using hpending
  length := by rw [hthreads, List.length_set, hinv.length]
  bound i hi := by
    rcases List.mem_append.mp hi with hi | hi
    · exact hinv.bound i hi
    · rw [List.mem_singleton.mp hi]
      exact (List.getElem?_eq_some_iff.mp hcall).1
  store := by rw [replay_concat hcall, ← hinv.store, hstore]
  room := hroom
  threads i call' q' hcall' hq' := by
    rw [hthreads] at hq'
    rcases Atomic.getElem?_set_thread hq' with ⟨rfl, rfl⟩ | ⟨hne, hq'⟩
    · exact .through (by simp) hquiet
    · refine (hinv.threads i call' q' hcall' hq').mono ?_ ?_ (fun _ h => h.append _) ?_
      · intro hpending'
        simp [hpending', hne]
      · exact List.mem_append_left _
      · intro sku hnone
        rcases hmissed sku hnone with hnone' | ⟨stored, hadds, haccepts⟩
        · exact .inl hnone'
        · exact .inr ⟨order, k, [], call, stored, rfl, hcall, hadds, hinv.store ▸ haccepts⟩

/-! ## Steps -/

theorem accepts_of_writesCurrent (hcall : calls[k]? = some call)
    (hadds : call.adds = some (skuId, stored))
    (hthread : s.threads[k]? = some (storing skuId stored)) (h : writesCurrent calls s k = true) :
    Accepts skuId s.store := by
  cases call with
  | addItem req now =>
    simp only [writesCurrent, hcall, hthread, storing] at h
    exact of_decide_eq_true h
  | _ => cases hadds

theorem current_of_writesCurrent {quantity : Nat} {existing : CartItemStored}
    (hcall : calls[k]? = some call) (hupdates : call.updates = some (skuId, quantity))
    (hthread : s.threads[k]? = some (storing skuId { existing with quantity }))
    (h : writesCurrent calls s k = true) :
    ∃ item, s.store.find? skuId = some item ∧
      ({ item.2 with quantity } : CartItemStored) = { existing with quantity } := by
  cases call with
  | updateItem sku req =>
    simp only [writesCurrent, hcall, hthread, storing] at h
    obtain ⟨item, hfind, hitem⟩ := (Option.any_eq_true _ _).mp h
    exact ⟨item, hfind, of_decide_eq_true hitem⟩
  | _ => cases hupdates

theorem length_set_le (hroom : cart.rows.length ≤ serviceMaxCartItems)
    (haccepts : Accepts skuId cart) (stored : CartItemStored) :
    (cart.set (skuId, stored)).rows.length ≤ serviceMaxCartItems := by
  rw [Table.length_set]
  split
  · exact hroom
  · rename_i hnone
    rcases haccepts with hsome | hlt
    · exact absurd hsome hnone
    · exact hlt

/-- An item is added. -/
theorem CartInv.add (hinv : CartInv calls cart₀ order s) (hcall : calls[k]? = some call)
    (hpending : k ∉ order) (hadds : call.adds = some (skuId, stored))
    (haccepts : Accepts skuId s.store) {q : Program Response} (hquiet : q.Quiet)
    (hstore : t.store = s.store.set (skuId, stored)) (hthreads : t.threads = s.threads.set k q) :
    CartInv calls cart₀ (order ++ [k]) t := by
  refine hinv.commit hcall hpending hquiet ?_ hthreads ?_ fun sku hnone => ?_
  · rw [run_adds hadds, if_pos haccepts, hstore]
  · rw [hstore]
    exact length_set_le hinv.room haccepts stored
  · rw [hstore, Table.find?_set]
    by_cases hsku : skuId = sku
    · subst hsku
      exact .inr ⟨stored, hadds, haccepts⟩
    · rw [if_neg hsku]
      exact .inl hnone

/-- An item that is in the cart is updated. -/
theorem CartInv.update (hinv : CartInv calls cart₀ order s) (hcall : calls[k]? = some call)
    (hpending : k ∉ order) {quantity : Nat} (hupdates : call.updates = some (skuId, quantity))
    {item : Uuid × CartItemStored} (hfind : s.store.find? skuId = some item)
    {q : Program Response} (hquiet : q.Quiet)
    (hstore : t.store = s.store.set (skuId, { item.2 with quantity }))
    (hthreads : t.threads = s.threads.set k q) : CartInv calls cart₀ (order ++ [k]) t := by
  have hsome : (s.store.find? skuId).isSome := by
    rw [hfind]
    rfl
  refine hinv.commit hcall hpending hquiet ?_ hthreads ?_ fun sku hnone => ?_
  · rw [run_updates hupdates, hfind, hstore]
  · rw [hstore]
    exact length_set_le hinv.room (.inl hsome) _
  · rw [hstore, Table.find?_set]
    by_cases hsku : skuId = sku
    · subst hsku
      rw [hnone] at hfind
      cases hfind
    · rw [if_neg hsku]
      exact .inl hnone

/-- A call whose first command removes items is through with it. -/
theorem CartInv.remove (hinv : CartInv calls cart₀ order s) (hcall : calls[k]? = some call)
    (hpending : k ∉ order) {q : Program Response} (hquiet : q.Quiet) (keep : Uuid → Bool)
    (hrun : (call.handle.run s.store).2 = s.store.filter fun item => keep item.1)
    (hstore : t.store = s.store.filter fun item => keep item.1)
    (hthreads : t.threads = s.threads.set k q) : CartInv calls cart₀ (order ++ [k]) t := by
  refine hinv.commit hcall hpending hquiet (hstore.trans hrun.symm) hthreads ?_ fun sku hnone => ?_
  · rw [hstore]
    exact Nat.le_trans (List.length_filter_le ..) hinv.room
  · rw [hstore, Table.find?_filter, hnone]
    exact .inl rfl

theorem cartInv_step (hinv : CartInv calls cart₀ order s) (hcurrent : writesCurrent calls s k)
    (h : Atomic.step s k = some t) : ∃ order', CartInv calls cart₀ order' t := by
  obtain ⟨c, next, hthread, hstore, hthreads⟩ := Atomic.step_eq_some h
  have hlt : k < calls.length := hinv.length ▸ (List.getElem?_eq_some_iff.mp hthread).1
  have hcall : calls[k]? = some calls[k] := List.getElem?_eq_getElem hlt
  generalize calls[k] = call at hcall
  have hat := hinv.threads k call _ hcall hthread
  generalize hp : (Prog.cmd c next : Program Response) = p at hat
  cases hat with
  | fresh hpending =>
    rcases handle_cases call with ⟨skuId, stored, hadds⟩ | ⟨skuId, quantity, hupdates⟩ |
      ⟨skuId, rfl⟩ | rfl | ⟨e, he⟩
    · rw [handle_of_adds hadds] at hp
      cases hp
      cases hfound : s.store.find? skuId with
      | none =>
        have hnext : t.threads = s.threads.set k (counting skuId stored) := by
          simpa [Cmd.exec, hfound] using hthreads
        exact ⟨order, hinv.read hcall hstore hnext (.counting hpending hadds (.inl hfound))⟩
      | some item =>
        have hnext : t.threads = s.threads.set k (storing skuId stored) := by
          simpa [Cmd.exec, hfound] using hthreads
        exact ⟨order, hinv.read hcall hstore hnext (.adding hpending hadds)⟩
    · rw [handle_of_updates hupdates] at hp
      cases hp
      cases hfound : s.store.find? skuId with
      | none =>
        -- nothing to update, as for the call alone
        have hnext : t.threads = s.threads.set k
            (.done (.error (CartError.itemNotFound s!"SKU {skuId} not in cart").toAppError)) := by
          simpa [Cmd.exec, hfound] using hthreads
        have hrun : t.store = (call.handle.run s.store).2 := by
          rw [run_updates hupdates, hfound]
          exact hstore
        have hsame : t.store = s.store := hstore
        refine ⟨order ++ [k], hinv.commit hcall hpending ?_ hrun hnext ?_ fun sku hnone => ?_⟩
        · exact trivial
        · exact hsame ▸ hinv.room
        · exact .inl (hsame ▸ hnone)
      | some item =>
        have hnext : t.threads = s.threads.set k (storing skuId { item.2 with quantity }) := by
          simpa [Cmd.exec, hfound] using hthreads
        exact ⟨order, hinv.read hcall hstore hnext (.updating hpending hupdates)⟩
    · cases hp
      refine ⟨order ++ [k], hinv.remove hcall hpending ?_ (· ≠ skuId) rfl hstore hthreads⟩
      exact And.intro (fun _ => rfl) fun _ => trivial
    · cases hp
      have hempty : ∀ cart : CartHash, cart.filter (fun _ => false) = .empty := fun cart =>
        Table.ext (List.filter_eq_nil_iff.mpr (by simp))
      refine ⟨order ++ [k], hinv.remove hcall hpending ?_ (fun _ => false) ?_ ?_ hthreads⟩
      · exact trivial
      · exact (hempty _).symm
      · exact hstore.trans (hempty _).symm
    · rw [he] at hp
      cases hp
  | @counting skuId stored hpending hadds hmissed =>
    cases hp
    by_cases hfull : s.store.rows.length ≥ serviceMaxCartItems
    · have hnext : t.threads = s.threads.set k
          (.done (.error (CartError.cartFull serviceMaxCartItems).toAppError)) := by
        rw [hthreads]
        exact congrArg _ (if_pos hfull)
      rcases hmissed with hnone | hover
      · -- refused, as for the call alone
        have hrun : t.store = (call.handle.run s.store).2 := by
          have hrefuses : ¬ Accepts skuId s.store := by
            rintro (hsome | hlt)
            · simp [hnone] at hsome
            · omega
          rw [run_adds hadds, if_neg hrefuses]
          exact hstore
        have hsame : t.store = s.store := hstore
        refine ⟨order ++ [k], hinv.commit hcall hpending ?_ hrun hnext ?_ fun sku hsku => ?_⟩
        · exact trivial
        · exact hsame ▸ hinv.room
        · exact .inl (hsame ▸ hsku)
      · exact ⟨order, hinv.read hcall hstore hnext (.refused hpending hadds hover)⟩
    · have hnext : t.threads = s.threads.set k (storing skuId stored) := by
        rw [hthreads]
        exact congrArg _ (if_neg hfull)
      exact ⟨order, hinv.read hcall hstore hnext (.adding hpending hadds)⟩
  | @adding skuId stored hpending hadds =>
    have haccepts := accepts_of_writesCurrent hcall hadds (hp ▸ hthread) hcurrent
    cases hp
    refine ⟨order ++ [k], hinv.add hcall hpending hadds haccepts ?_ hstore hthreads⟩
    exact And.intro (fun _ => rfl) fun _ => quiet_answering
  | updating hpending hupdates =>
    obtain ⟨item, hfind, hitem⟩ := current_of_writesCurrent hcall hupdates (hp ▸ hthread) hcurrent
    cases hp
    rw [← hitem] at hstore
    refine ⟨order ++ [k], hinv.update hcall hpending hupdates hfind ?_ hstore hthreads⟩
    exact And.intro (fun _ => rfl) fun _ => quiet_answering
  | refused hpending hadds hmissed => cases hp
  | through hmem hquiet =>
    subst hp
    exact ⟨order, hinv.read hcall (hstore.trans (hquiet.1 _)) hthreads (.through hmem (hquiet.2 _))⟩

/-! ## Runs -/

theorem cartInv_start (calls : List Call) (hroom : cart.rows.length ≤ serviceMaxCartItems) :
    CartInv calls cart [] (start calls cart) where
  nodup := List.nodup_nil
  length := List.length_map ..
  bound i hi := by cases hi
  store := rfl
  room := hroom
  threads i call p hcall hp := by
    have heq : p = call.handle := by simpa [start, hcall] using hp.symm
    rw [heq]
    exact .fresh (by simp)

/-- The call is outside the order and changes nothing: its request is not valid, or it has been
    refused although its SKU is in the cart. -/
def LeftOut (calls : List Call) (cart₀ : CartHash) (order : List Nat) (i : Nat) : Prop :=
  ∃ call, calls[i]? = some call ∧ ((∃ r, call.handle = .done r) ∨
    ∃ skuId stored, call.adds = some (skuId, stored) ∧ Overwritten calls cart₀ order skuId)

theorem CartInv.leftOut (hinv : CartInv calls cart₀ order s) (hfinished : s.Finished)
    (hlt : i < calls.length) (hpending : i ∉ order) : LeftOut calls cart₀ order i := by
  have hcall : calls[i]? = some calls[i] := List.getElem?_eq_getElem hlt
  have hlt' : i < s.threads.length := hinv.length ▸ hlt
  have hthread : s.threads[i]? = some s.threads[i] := List.getElem?_eq_getElem hlt'
  obtain ⟨r, hr⟩ := hfinished _ (List.mem_of_getElem? hthread)
  rw [hr] at hthread
  have hat := hinv.threads i _ _ hcall hthread
  refine ⟨calls[i], hcall, ?_⟩
  generalize hp : (.done r : Program Response) = p at hat
  cases hat with
  | fresh => exact .inl ⟨r, hp.symm⟩
  | counting | adding | updating => cases hp
  | refused _ hadds hmissed => exact .inr ⟨_, _, hadds, hmissed⟩
  | through hmem => exact absurd hmem hpending

/-- The calls outside the order get a place in it. -/
theorem exists_order (leftOut : List Nat) (h : ∀ i ∈ leftOut, LeftOut calls cart₀ order i) :
    ∃ order', order'.Perm (leftOut ++ order) ∧
      replay calls cart₀ order' = replay calls cart₀ order ∧
      ∀ sku, Overwritten calls cart₀ order sku → Overwritten calls cart₀ order' sku := by
  induction leftOut with
  | nil => exact ⟨order, .refl _, rfl, fun _ hover => hover⟩
  | cons k leftOut ih =>
    obtain ⟨order', hperm, hreplay, hover'⟩ := ih fun i hi => h i (List.mem_cons_of_mem _ hi)
    obtain ⟨call, hcall, hcase⟩ := h k (List.mem_cons_self ..)
    rcases hcase with ⟨r, hr⟩ | ⟨skuId, stored, hadds, hover⟩
    · -- an invalid request, at the end
      refine ⟨order' ++ [k], ?_, ?_, fun sku hsku => (hover' sku hsku).append _⟩
      · exact (List.perm_append_singleton k order').trans (hperm.cons k)
      · rw [replay_concat hcall, hr, Prog.run_done]
        exact hreplay
    · -- right before the call that has put its SKU into the cart
      obtain ⟨pre, i, post, callᵢ, storedᵢ, rfl, hcallᵢ, haddsᵢ, haccepts⟩ := hover' skuId hover
      refine ⟨pre ++ k :: i :: post, ?_, ?_, fun sku hsku => ?_⟩
      · exact List.perm_middle.trans (hperm.cons k)
      · rw [replay_insert hcallᵢ haddsᵢ hcall hadds haccepts]
        exact hreplay
      · exact (hover' sku hsku).insert hcallᵢ haddsᵢ hcall hadds haccepts

theorem filterMap_getElem?_range {α : Type} (l : List α) :
    (List.range l.length).filterMap (l[·]?) = l := by
  induction l with
  | nil => rfl
  | cons a l ih => simpa [List.range_succ_eq_map, List.filterMap_map, Function.comp_def] using ih

/-- When all the calls have returned, the cart is that of some order of all of them. -/
theorem CartInv.serializable (hinv : CartInv calls cart₀ order s) (hfinished : s.Finished) :
    ∃ order' : List Call, order'.Perm calls ∧ s.store = serial Call.handle order' cart₀ := by
  let leftOut := (List.range calls.length).filter (· ∉ order)
  have hleftOut : ∀ i, i ∈ leftOut ↔ i < calls.length ∧ i ∉ order := by simp [leftOut]
  have hleft : ∀ i ∈ leftOut, LeftOut calls cart₀ order i := fun i hi =>
    hinv.leftOut hfinished ((hleftOut i).mp hi).1 ((hleftOut i).mp hi).2
  obtain ⟨order', hperm, hreplay, -⟩ := exists_order leftOut hleft
  have hall : (leftOut ++ order).Perm (List.range calls.length) := by
    have hnodup : (leftOut ++ order).Nodup :=
      List.Nodup.append (List.nodup_range.filter _) hinv.nodup fun i hi hmem =>
        ((hleftOut i).mp hi).2 hmem
    refine (List.perm_ext_iff_of_nodup hnodup List.nodup_range).mpr fun i => ?_
    by_cases hmem : i ∈ order
    · simpa [hmem] using hinv.bound i hmem
    · simp [hmem, hleftOut]
  refine ⟨order'.filterMap (calls[·]?), ?_, ?_⟩
  · have hcalls := (hperm.trans hall).filterMap (calls[·]?)
    rwa [filterMap_getElem?_range] at hcalls
  · rw [hinv.store, ← hreplay]
    rfl

/-- Any calls, interleaved command by command, such that what they write is still right when they
    write it: the cart never holds more than fifty items, and in the end it is the cart of the
    calls one after the other, in some order. -/
theorem cart_serializable (calls : List Call) (cart : CartHash)
    (hroom : cart.rows.length ≤ serviceMaxCartItems) (schedule : List Nat)
    (hrun : Run.run Atomic.step (start calls cart) schedule = some s)
    (hcurrent : Run.Meets Atomic.step (fun s i => writesCurrent calls s i) (start calls cart)
      schedule) :
    s.store.rows.length ≤ 50 ∧
      (s.Finished → ∃ order, order.Perm calls ∧ s.store = serial Call.handle order cart) := by
  have hstep : ∀ s i t, (∃ order, CartInv calls cart order s) → writesCurrent calls s i = true →
      Atomic.step s i = some t → ∃ order, CartInv calls cart order t := by
    intro s i t ⟨order, hinv⟩ hwrites hstep
    exact cartInv_step hinv hwrites hstep
  obtain ⟨order, hinv⟩ :=
    Run.run_invariant_of_meets hstep ⟨[], cartInv_start calls hroom⟩ hcurrent hrun
  exact ⟨hinv.room, hinv.serializable⟩

/-- Adds a piece of the SKU. -/
def addOne (serial : Nat) : Call :=
  .addItem { productId := ⟨1, 0⟩, skuId := ⟨0, serial⟩, quantity := 1, unitPrice := 10
             currency := none, productName := "Socks", imageUrl := none } 0

/-- A cart with the SKUs up to `n`. -/
def cartOf (n : Nat) : CartHash := serial Call.handle ((List.range n).map addOne) .empty

/-- Both threads read, and then write. -/
def readsFirst : List Nat := [0, 0, 1, 1, 0, 0, 0, 1, 1, 1]

theorem cart_serializable_interleaved :
    ∃ s, Run.run Atomic.step (start [addOne 1, addOne 2] (cartOf 1)) readsFirst = some s ∧
      s.store.rows.length ≤ 50 ∧ ∃ order : List Call, order.Perm [addOne 1, addOne 2] ∧
        s.store = serial Call.handle order (cartOf 1) := by
  have hrun : (Run.run Atomic.step (start [addOne 1, addOne 2] (cartOf 1)) readsFirst).map
      (fun s => decide s.Finished) = some true := by
    decide +kernel
  obtain ⟨s, hs, hfinished⟩ := Option.map_eq_some_iff.mp hrun
  obtain ⟨hlength, hserial⟩ :=
    cart_serializable [addOne 1, addOne 2] (cartOf 1) (by decide +kernel) readsFirst hs
      (by decide +kernel)
  exact ⟨s, hs, hlength, hserial (of_decide_eq_true hfinished)⟩

/-- Two SKUs are added to a cart of 49 items, each after both have read the length. -/
theorem cart_overfull :
    ∃ s, Run.run Atomic.step (start [addOne 49, addOne 50] (cartOf 49)) readsFirst = some s ∧
      s.Finished ∧ s.store.rows.length = 51 := by
  let P (s : Atomic.State redis AppError Response) := s.Finished ∧ s.store.rows.length = 51
  exact Run.run_decide (P := P) (by decide +kernel)

/-- An update and a removal of one item. -/
def updateAndRemove : List Call :=
  [.updateItem ⟨0, 0⟩ { quantity := 2 }, .removeItem ⟨0, 0⟩]

/-- The item is removed after its update has read it, and the update brings it back; one after the
    other, in either order, they leave an empty cart. -/
theorem removed_item_returns :
    ∃ s, Run.run Atomic.step (start updateAndRemove (cartOf 1)) [0, 1, 1, 0, 0, 0] = some s ∧
      s.Finished ∧ ∀ order : List Call, order.Perm updateAndRemove →
        s.store ≠ serial Call.handle order (cartOf 1) := by
  have hrun : (Run.run Atomic.step (start updateAndRemove (cartOf 1)) [0, 1, 1, 0, 0, 0]).map
      (fun s => decide (s.Finished ∧ s.store ≠ .empty)) = some true := by
    decide +kernel
  obtain ⟨s, hs, hfinished, hstore⟩ := Run.run_decide hrun
  refine ⟨s, hs, hfinished, fun order hperm => ?_⟩
  have hempty : serial Call.handle order (cartOf 1) = .empty := by
    rcases List.perm_pair.mp hperm with rfl | rfl
    · decide +kernel
    · decide +kernel
  rw [hempty]
  exact hstore

end Koupang.Carts
