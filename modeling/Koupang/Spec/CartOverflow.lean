import Koupang.Spec.CartInterleaving
import Koupang.Spec.OrderOverflow
import Koupang.Spec.Text

/-!
# Carts that overflow

An item is stored before the totals are computed, and every later reading of the
cart multiplies and adds what is stored. So a cart can be read exactly as long as
the running total of its lines does not overflow, and the request that stores an
item decides it: by its own line and the lines of the other SKUs.

## Key results

- `getCart_returns`, `validateCart_returns`: a reading, by the running total of the lines
- `stores_cases`: a request stores an item or only takes some away, and panics only if the next
  reading does
- `carts_never_panic`: whole runs, up to the rounding of the operations
-/

namespace Koupang.Carts

open Atomic (Prog)

/-! ## Stored items load -/

/-- A code is written with letters that `trim` and `to_uppercase` leave as they are. -/
theorem uppercase_letter {c : Char} (h : Text.isAsciiUppercase c = true) :
    Text.isWhitespace c = false ∧ Text.charToUppercase c = [c] := by
  have hletters : ∀ n < 91, 65 ≤ n → Text.isWhitespace (Char.ofNat n) = false ∧
      Text.charToUppercase (Char.ofNat n) = [Char.ofNat n] := by
    decide
  unfold Text.isAsciiUppercase at h
  obtain ⟨hlow, hhigh⟩ := (Bool.and_eq_true _ _).mp h
  have hlow' : 65 ≤ c.toNat := of_decide_eq_true hlow
  have hhigh' : c.toNat ≤ 90 := of_decide_eq_true hhigh
  rw [← Char.ofNat_toNat c]
  exact hletters c.toNat (by omega) hlow'

theorem trim_of_uppercase {s : String} (h : s.toList.all Text.isAsciiUppercase = true) :
    Text.trim s = s := by
  refine Text.trim_eq_self ?_
  intro c hc
  exact (uppercase_letter (List.all_eq_true.mp h c hc)).1

theorem toUppercase_of_uppercase {s : String} (h : s.toList.all Text.isAsciiUppercase = true) :
    Text.toUppercase s = s := by
  have hsame : s.toList.flatMap Text.charToUppercase = s.toList.flatMap fun c => [c] := by
    refine List.flatMap_congr fun c hc => ?_
    exact (uppercase_letter (List.all_eq_true.mp h c hc)).2
  rw [Text.toUppercase, hsame, List.flatMap_singleton', String.ofList_toList]

/-- A code that was accepted is accepted again, as it is. -/
theorem currency_new_new {input currency : String} (h : Order.Currency.new input = .ok currency) :
    Order.Currency.new currency = .ok currency := by
  simp only [Order.Currency.new, Except.guard_eq_ok] at h
  obtain ⟨hcode, h⟩ := h
  obtain rfl := Except.ok.inj h
  have hupper : (Text.toUppercase (Text.trim input)).toList.all Text.isAsciiUppercase = true := by
    simp only [Bool.or_eq_true, Bool.not_eq_true', not_or, Bool.not_eq_false] at hcode
    exact hcode.2
  simp only [Order.Currency.new, Except.guard_eq_ok]
  rw [trim_of_uppercase hupper, toUppercase_of_uppercase hupper]
  exact ⟨hcode, rfl⟩

/-- What `to_domain` accepts. -/
structure Loadable (stored : CartItemStored) : Prop where
  quantity : 1 ≤ stored.quantity ∧ stored.quantity ≤ 99
  price : 0 ≤ stored.unitPrice
  currency : ∃ c, Order.Currency.new stored.currency = .ok c

theorem quantity_new {value : Nat} (h : 1 ≤ value ∧ value ≤ 99) :
    Quantity.new value = .ok ⟨value, h⟩ := by
  obtain ⟨hmin, hmax⟩ := h
  rw [Quantity.new, dif_neg (by omega), dif_neg (by omega)]

/-- Price and quantity of an item. -/
def CartItem.line (item : CartItem) : Decimal × Decimal :=
  (item.unitPrice, (item.quantity.value : Decimal))

def CartItemStored.line (stored : CartItemStored) : Decimal × Decimal :=
  (stored.unitPrice, (stored.quantity : Decimal))

theorem toDomain_ok {stored : CartItemStored} (h : Loadable stored) :
    ∃ item, stored.toDomain = .ok item ∧ item.line = stored.line := by
  obtain ⟨c, hcurrency⟩ := h.currency
  have hprice := Order.price_new_iff.mpr ⟨rfl, h.price⟩
  rw [CartItemStored.toDomain, quantity_new h.quantity, hprice, hcurrency]
  exact ⟨_, rfl, rfl⟩

/-- Everything in the cart can be loaded. -/
def Loads (cart : CartHash) : Prop := ∀ row ∈ cart.rows, Loadable row.2

/-- Prices and quantities of the rows. -/
def linesOf (rows : List (Uuid × CartItemStored)) : List (Decimal × Decimal) :=
  rows.map fun row => row.2.line

theorem nonneg_linesOf {rows : List (Uuid × CartItemStored)} (h : ∀ row ∈ rows, Loadable row.2) :
    NonnegLines (linesOf rows) := by
  intro line hline
  obtain ⟨row, hrow, rfl⟩ := List.mem_map.mp hline
  exact ⟨(h row hrow).price, Nat.cast_nonneg _⟩

theorem loadCart_of_mapM {cart : CartHash} {items : List CartItem}
    (h : (cart.rows.map Prod.snd).mapM CartItemStored.toDomain = .ok items) :
    loadCart.run cart = (.ok { items }, cart) := by
  show (Prog.bind (Prog.done ((cart.rows.map Prod.snd).mapM CartItemStored.toDomain)) _).run
    cart = _
  rw [h]
  rfl

theorem loadCart_run {cart : CartHash} (h : Loads cart) :
    ∃ items, loadCart.run cart = (.ok { items }, cart) ∧
      items.map CartItem.line = linesOf cart.rows := by
  have hrows : ∀ s ∈ cart.rows.map Prod.snd, Loadable s := by
    intro s hs
    obtain ⟨row, hrow, rfl⟩ := List.mem_map.mp hs
    exact h row hrow
  obtain ⟨items, hitems, hlines⟩ := Except.exists_mapM_ok fun s hs => toDomain_ok (hrows s hs)
  refine ⟨items, loadCart_of_mapM hitems, ?_⟩
  rw [hlines, List.map_map]
  rfl

/-! ## What is stored -/

variable {call : Call} {skuId : Uuid} {stored : CartItemStored} {cart : CartHash}

/-- The item that the request stores, if it is valid and not refused. -/
def Call.writes (call : Call) (cart : CartHash) : Option (Uuid × CartItemStored) :=
  match call.adds, call.updates with
  | some (skuId, stored), _ => if Accepts skuId cart then some (skuId, stored) else none
  | none, some (skuId, quantity) =>
    (cart.find? skuId).map fun item => (skuId, { item.2 with quantity })
  | none, none => none

theorem loadable_of_tryFrom {req : AddToCartReq} {v : ValidAddToCartReq}
    (h : ValidAddToCartReq.tryFrom req = .ok v) (now : Nat) : Loadable (v.toStored now) := by
  unfold ValidAddToCartReq.tryFrom at h
  obtain ⟨quantity, -, h⟩ := Except.bind_eq_ok.mp h
  obtain ⟨unitPrice, hprice, h⟩ := Except.bind_eq_ok.mp h
  obtain ⟨rfl, hnonneg⟩ := Order.price_new_iff.mp hprice
  cases hsent : req.currency with
  | none =>
    simp only [hsent, pure_bind] at h
    obtain ⟨productName, -, h⟩ := Except.bind_eq_ok.mp h
    cases h
    have hdefault : Order.Currency.new Currency.default = .ok "USD" :=
      Except.toOption_eq_some.mp (by decide)
    exact ⟨quantity.valid, hnonneg, "USD", hdefault⟩
  | some c =>
    simp only [hsent] at h
    obtain ⟨currency, hcurrency, h⟩ := Except.bind_eq_ok.mp h
    obtain ⟨productName, -, h⟩ := Except.bind_eq_ok.mp h
    cases h
    exact ⟨quantity.valid, hnonneg, currency, currency_new_new hcurrency⟩

/-- What a request stores on a cart that loads, loads again. -/
theorem loadable_of_writes (hloads : Loads cart) {row : Uuid × CartItemStored}
    (h : call.writes cart = some row) : Loadable row.2 := by
  cases call with
  | addItem req now =>
    cases hvalid : ValidAddToCartReq.tryFrom req with
    | ok v =>
      simp only [Call.writes, Call.adds, hvalid, Option.ite_none_right_eq_some] at h
      obtain ⟨-, hrow⟩ := h
      cases hrow
      exact loadable_of_tryFrom hvalid now
    | error e =>
      simp [Call.writes, Call.adds, Call.updates, hvalid] at h
  | updateItem skuId req =>
    cases hvalid : ValidUpdateCartItemReq.tryFrom req with
    | ok q =>
      simp only [Call.writes, Call.adds, Call.updates, hvalid, Option.map_eq_some_iff] at h
      obtain ⟨item, hfind, rfl⟩ := h
      have hitem := hloads item (List.mem_of_find?_eq_some hfind)
      exact ⟨q.valid, hitem.price, hitem.currency⟩
    | error e => simp [Call.writes, Call.adds, Call.updates, hvalid] at h
  | removeItem skuId => cases h
  | clearCart => cases h

theorem Loads.set (hloads : Loads cart) {row : Uuid × CartItemStored} (h : Loadable row.2) :
    Loads (cart.set row) :=
  Table.forall_mem_set hloads h

theorem Loads.filter (hloads : Loads cart) (keep : Uuid × CartItemStored → Bool) :
    Loads (cart.filter keep) :=
  Table.forall_mem_filter hloads keep

/-- The lines of the cart after the row was stored. -/
def linesWith (cart : CartHash) (row : Uuid × CartItemStored) : List (Decimal × Decimal) :=
  row.2.line :: linesOf (cart.filter (·.1 ≠ row.1)).rows

theorem perm_linesWith (cart : CartHash) (row : Uuid × CartItemStored) :
    (linesOf (cart.set row).rows).Perm (linesWith cart row) :=
  (cart.perm_set row).map _

theorem loads_empty : Loads .empty := by
  intro row hrow
  cases hrow

section Arithmetic

variable [RustDecimal]

/-! ## Readings -/

theorem addLineTotals_eq (items : List CartItem) (total : Decimal) :
    Panicking.addLineTotals items total = addLines (items.map CartItem.line) total := by
  induction items generalizing total with
  | nil => rfl
  | cons item rest ih =>
    simp only [Panicking.addLineTotals, List.map_cons, addLines, ih]
    rfl

/-- The total is the last of the operations; it is reached only past all the others. -/
theorem mul_isSome_of_addLines {lines : List (Decimal × Decimal)} {total : Decimal}
    (h : (addLines lines total).isSome) : ∀ line ∈ lines,
      (RustDecimal.mul line.1 line.2).isSome := by
  induction lines generalizing total with
  | nil =>
    intro line hline
    cases hline
  | cons line rest ih =>
    obtain ⟨lineTotal, hmul, next, -, hrest⟩ := addLines_cons_isSome.mp h
    intro line' hline'
    cases hline' with
    | head => exact Option.isSome_of_eq_some hmul
    | tail _ hmem => exact ih hrest line' hmem

theorem mapM_fromItem_isSome {items : List CartItem}
    (h : ∀ item ∈ items, (Panicking.CartItem.lineTotal item).isSome) :
    (items.mapM Panicking.CartItemRes.fromItem).isSome := by
  induction items with
  | nil => rfl
  | cons item rest ih =>
    obtain ⟨lineTotal, hline⟩ := Option.isSome_iff_exists.mp (h item (List.mem_cons_self ..))
    obtain ⟨res, hres⟩ := Option.isSome_iff_exists.mp
      (ih fun item hmem => h item (List.mem_cons_of_mem _ hmem))
    rw [List.mapM_cons, Panicking.CartItemRes.fromItem, hline, hres]
    rfl

theorem fromCart_isSome (cart : Cart) :
    (Panicking.CartRes.fromCart cart).isSome ↔ (Panicking.Cart.total cart).isSome := by
  unfold Panicking.CartRes.fromCart
  constructor
  · intro h
    obtain ⟨res, hres⟩ := Option.isSome_iff_exists.mp h
    obtain ⟨items, -, hres⟩ := Option.bind_eq_some_iff.mp hres
    obtain ⟨total, htotal, -⟩ := Option.bind_eq_some_iff.mp hres
    exact Option.isSome_of_eq_some htotal
  · intro h
    obtain ⟨total, htotal⟩ := Option.isSome_iff_exists.mp h
    have hlines : ∀ item ∈ cart.items, (Panicking.CartItem.lineTotal item).isSome := by
      intro item hitem
      rw [Panicking.Cart.total, addLineTotals_eq] at h
      exact mul_isSome_of_addLines h item.line (List.mem_map_of_mem hitem)
    obtain ⟨items, hitems⟩ := Option.isSome_iff_exists.mp (mapM_fromItem_isSome hlines)
    rw [hitems, htotal]
    rfl

/-- `get_cart` panics where the running total of the cart overflows. -/
theorem getCart_returns {cart : CartHash} (h : Loads cart) :
    (Panicking.getCart.run cart).1 ≠ .ok none ↔ (addLines (linesOf cart.rows) 0).isSome := by
  obtain ⟨items, hload, hlines⟩ := loadCart_run h
  have hrun : (Panicking.getCart.run cart).1 = .ok (Panicking.CartRes.fromCart { items }) := by
    rw [Panicking.getCart, Prog.run_bind, hload]
    rfl
  rw [hrun, ← hlines, ← addLineTotals_eq]
  show _ ↔ (Panicking.Cart.total { items }).isSome
  rw [← fromCart_isSome]
  simp [Option.isSome_iff_ne_none]

/-- `validate_cart` panics where `get_cart` does. -/
theorem validateCart_returns {cart : CartHash} (h : Loads cart) :
    (Panicking.validateCart.run cart).1 ≠ .ok none ↔ (addLines (linesOf cart.rows) 0).isSome := by
  obtain ⟨items, hload, hlines⟩ := loadCart_run h
  rw [← hlines, ← addLineTotals_eq]
  show _ ↔ (Panicking.Cart.total { items }).isSome
  rw [Panicking.validateCart, Prog.run_bind, hload]
  dsimp only
  rw [Panicking.CheckoutContext.fromCart]
  cases htotal : Panicking.Cart.total { items } with
  | none =>
    exact iff_of_false (fun hne => hne rfl) (fun h => by cases h)
  | some total =>
    refine iff_of_true ?_ rfl
    simp only [Option.bind_eq_bind, Option.bind_some]
    split
    · rename_i hnone
      cases hnone
    · -- the rules pass or fail
      split
      · intro herror
        cases herror
      · intro hok
        cases hok

/-! ## Requests -/

namespace Panicking

/-- The end of `add_item` and `update_item_quantity`. -/
def answering : Program (Option Response) := do
  let cart ← getCart
  return cart.map Response.cart

def storing (skuId : Uuid) (stored : CartItemStored) : Program (Option Response) :=
  .cmd (.hset skuId stored) fun _ => .cmd (.expire Repository.cartTtlSecs) fun _ => answering

def counting (skuId : Uuid) (stored : CartItemStored) : Program (Option Response) :=
  .cmd .hlen fun (count : Nat) =>
    if count ≥ serviceMaxCartItems then
      .done (.error (CartError.cartFull serviceMaxCartItems).toAppError)
    else storing skuId stored

end Panicking

theorem panicking_of_adds (h : call.adds = some (skuId, stored)) :
    Panicking.Call.handle call = .cmd (.hexists skuId) fun (found : Bool) =>
      if found then Panicking.storing skuId stored else Panicking.counting skuId stored := by
  cases call with
  | addItem req now =>
    simp only [Call.adds] at h
    split at h
    · rename_i v hv
      cases h
      simp only [Panicking.Call.handle, Panicking.addItem, hv]
      refine congrArg (Prog.cmd (S := redis) (.hexists v.skuId)) (funext fun (found : Bool) => ?_)
      cases found with
      | true => rfl
      | false =>
        refine congrArg (Prog.cmd (S := redis) .hlen) (funext fun (count : Nat) => ?_)
        by_cases hfull : count ≥ serviceMaxCartItems
        · simp only [Prog.bind, hfull, if_true]
          rfl
        · simp only [Prog.bind, hfull, if_false]
          rfl
    · cases h
  | _ => cases h

theorem panicking_of_updates {quantity : Nat} (h : call.updates = some (skuId, quantity)) :
    Panicking.Call.handle call = .cmd (.hget skuId) fun (existing : Option CartItemStored) =>
      match existing with
      | none => .done (.error (CartError.itemNotFound s!"SKU {skuId} not in cart").toAppError)
      | some existing => Panicking.storing skuId { existing with quantity } := by
  cases call with
  | updateItem skuId req =>
    simp only [Call.updates] at h
    split at h
    · rename_i q hq
      cases h
      simp only [Panicking.Call.handle, Panicking.updateItemQuantity, hq]
      refine congrArg (Prog.cmd (S := redis) (.hget skuId))
        (funext fun (existing : Option CartItemStored) => ?_)
      cases existing with
      | none => rfl
      | some existing => rfl
    · cases h
  | _ => cases h

/-- The request stores what it stores, and panics only if reading the cart afterwards does. -/
structure Stores (call : Call) (cart next : CartHash) : Prop where
  store : ((Panicking.Call.handle call).run cart).2 = next
  panics : ((Panicking.Call.handle call).run cart).1 = .ok none →
    (Panicking.getCart.run next).1 = .ok none

theorem quiet_panickingGetCart : Panicking.getCart.Quiet := by
  have hget : Repository.getCart.Quiet :=
    (Prog.quiet_send fun _ => rfl : (send .hgetall).Quiet).bind fun _ => trivial
  have hload : loadCart.Quiet := hget.bind fun _ => (Prog.quiet_ofExcept _).bind fun _ => trivial
  exact hload.bind fun _ => trivial

theorem run_panickingStoring (skuId : Uuid) (stored : CartItemStored) (cart : CartHash) :
    ((Panicking.storing skuId stored).run cart).2 = cart.set (skuId, stored) ∧
      (((Panicking.storing skuId stored).run cart).1 = .ok none →
        (Panicking.getCart.run (cart.set (skuId, stored))).1 = .ok none) := by
  have hrun : (Panicking.storing skuId stored).run cart =
      Panicking.answering.run (cart.set (skuId, stored)) := rfl
  have hquiet : Panicking.answering.Quiet := quiet_panickingGetCart.bind fun _ => trivial
  rw [hrun, hquiet.run]
  refine ⟨rfl, fun h => ?_⟩
  rw [Panicking.answering, Prog.run_bind] at h
  cases hget : Panicking.getCart.run (cart.set (skuId, stored)) with
  | mk result after =>
    rw [hget] at h
    cases result with
    | error e => cases h
    | ok res =>
      cases res with
      | none => rfl
      | some res => cases h

theorem stores_adds (h : call.adds = some (skuId, stored)) (cart : CartHash) :
    Stores call cart (if Accepts skuId cart then cart.set (skuId, stored) else cart) := by
  have hrun : (Panicking.Call.handle call).run cart =
      if Accepts skuId cart then (Panicking.storing skuId stored).run cart
      else (.error (CartError.cartFull serviceMaxCartItems).toAppError, cart) := by
    rw [panicking_of_adds h]
    change (if (cart.find? skuId).isSome then Panicking.storing skuId stored
      else Panicking.counting skuId stored).run cart = _
    by_cases hfound : (cart.find? skuId).isSome = true
    · have haccepts : Accepts skuId cart := .inl hfound
      rw [if_pos hfound, if_pos haccepts]
    · rw [if_neg hfound]
      change ((if cart.rows.length ≥ serviceMaxCartItems then _
        else Panicking.storing skuId stored : Program (Option Response)).run cart) = _
      by_cases hroom : cart.rows.length < serviceMaxCartItems
      · have haccepts : Accepts skuId cart := .inr hroom
        rw [if_neg (Nat.not_le_of_lt hroom), if_pos haccepts]
      · have hrefuses : ¬ Accepts skuId cart := by
          intro haccepts
          cases haccepts with
          | inl hsome => exact hfound hsome
          | inr hlt => exact hroom hlt
        rw [if_pos (Nat.le_of_not_lt hroom), if_neg hrefuses, Prog.run_done]
  by_cases haccepts : Accepts skuId cart
  · rw [if_pos haccepts] at hrun ⊢
    obtain ⟨hstore, hpanics⟩ := run_panickingStoring skuId stored cart
    exact ⟨by rw [hrun, hstore], fun h => hpanics (hrun ▸ h)⟩
  · rw [if_neg haccepts] at hrun ⊢
    refine ⟨by rw [hrun], fun h => ?_⟩
    rw [hrun] at h
    cases h

theorem stores_updates {quantity : Nat} (h : call.updates = some (skuId, quantity))
    (cart : CartHash) : Stores call cart (match cart.find? skuId with
      | none => cart
      | some item => cart.set (skuId, { item.2 with quantity })) := by
  have hrun : (Panicking.Call.handle call).run cart =
      (match (cart.find? skuId).map Prod.snd with
      | none => .done (.error (CartError.itemNotFound s!"SKU {skuId} not in cart").toAppError)
      | some existing =>
        Panicking.storing skuId { existing with quantity } : Program (Option Response)).run
          cart := by
    rw [panicking_of_updates h]
    rfl
  cases hfind : cart.find? skuId with
  | none =>
    rw [hfind] at hrun
    refine ⟨by rw [hrun]; rfl, fun h => ?_⟩
    rw [hrun] at h
    cases h
  | some item =>
    rw [hfind] at hrun
    obtain ⟨hstore, hpanics⟩ := run_panickingStoring skuId { item.2 with quantity } cart
    exact ⟨by rw [hrun]; exact hstore, fun h => hpanics (hrun ▸ h)⟩

/-- A request stores an item, or it only takes some away. -/
theorem stores_cases (call : Call) (cart : CartHash) :
    (∃ row, call.writes cart = some row ∧ Stores call cart (cart.set row)) ∨
      call.writes cart = none ∧ ∃ keep, Stores call cart (cart.filter keep) := by
  have hall : cart.filter (fun _ => true) = cart := Table.ext (List.filter_true _)
  have hnone : cart.filter (fun _ => false) = .empty := Table.ext (List.filter_false _)
  cases call with
  | addItem req now =>
    cases hvalid : ValidAddToCartReq.tryFrom req with
    | ok v =>
      have hadds : (Call.addItem req now).adds = some (v.skuId, v.toStored now) := by
        simp [Call.adds, hvalid]
      have hstores := stores_adds hadds cart
      by_cases haccepts : Accepts v.skuId cart
      · rw [if_pos haccepts] at hstores
        exact .inl ⟨_, by simp [Call.writes, hadds, haccepts], hstores⟩
      · rw [if_neg haccepts] at hstores
        refine .inr ⟨by simp [Call.writes, hadds, haccepts], fun _ => true, ?_⟩
        rw [hall]
        exact hstores
    | error e =>
      have hrun : (Panicking.Call.handle (.addItem req now)).run cart = (.error e, cart) := by
        simp only [Panicking.Call.handle, Panicking.addItem, hvalid]
        rfl
      refine .inr ⟨by simp [Call.writes, Call.adds, Call.updates, hvalid], fun _ => true, ?_⟩
      rw [hall]
      exact ⟨by rw [hrun], fun h => by rw [hrun] at h; cases h⟩
  | updateItem skuId req =>
    have hadds : (Call.updateItem skuId req).adds = none := rfl
    cases hvalid : ValidUpdateCartItemReq.tryFrom req with
    | ok q =>
      have hupdates : (Call.updateItem skuId req).updates = some (skuId, q.value) := by
        simp [Call.updates, hvalid]
      have hstores := stores_updates hupdates cart
      cases hfind : cart.find? skuId with
      | none =>
        rw [hfind] at hstores
        refine .inr ⟨by simp [Call.writes, hadds, hupdates, hfind], fun _ => true, ?_⟩
        rw [hall]
        exact hstores
      | some item =>
        rw [hfind] at hstores
        exact .inl ⟨_, by simp [Call.writes, hadds, hupdates, hfind], hstores⟩
    | error e =>
      have hrun : (Panicking.Call.handle (.updateItem skuId req)).run cart =
          (.error e, cart) := by
        simp only [Panicking.Call.handle, Panicking.updateItemQuantity, hvalid]
        rfl
      refine .inr ⟨by simp [Call.writes, hadds, Call.updates, hvalid], fun _ => true, ?_⟩
      rw [hall]
      exact ⟨by rw [hrun], fun h => by rw [hrun] at h; cases h⟩
  | removeItem skuId => exact .inr ⟨rfl, (·.1 ≠ skuId), rfl, fun h => by cases h⟩
  | clearCart =>
    refine .inr ⟨rfl, fun _ => false, ?_⟩
    rw [hnone]
    exact ⟨rfl, fun h => by cases h⟩

omit [RustDecimal] in
theorem exactTotal_perm {lines lines' : List (Decimal × Decimal)} (h : lines.Perm lines') :
    exactTotal lines = exactTotal lines' := (h.map _).sum_eq

theorem rounding_perm {lines lines' : List (Decimal × Decimal)} (h : lines.Perm lines') :
    rounding lines = rounding lines' := by
  rw [rounding, rounding, h.length_eq]

/-- Fewer lines come to less, and are rounded less. -/
theorem exactTotal_filter_le {rows : List (Uuid × CartItemStored)}
    (h : ∀ row ∈ rows, Loadable row.2) (keep : Uuid × CartItemStored → Bool) :
    exactTotal (linesOf (rows.filter keep)) + rounding (linesOf (rows.filter keep)) ≤
      exactTotal (linesOf rows) + rounding (linesOf rows) := by
  induction rows with
  | nil => exact le_rfl
  | cons row rest ih =>
    have hrest := ih fun r hr => h r (List.mem_cons_of_mem _ hr)
    have hulp := RustDecimal.ulp_nonneg
    have hrow := h row (List.mem_cons_self ..)
    have hline : 0 ≤ row.2.line.1 * row.2.line.2 := mul_nonneg hrow.price (Nat.cast_nonneg _)
    have hcons : ∀ rows, linesOf (row :: rows) = row.2.line :: linesOf rows := fun _ => rfl
    rw [hcons, exactTotal_cons, rounding_cons]
    by_cases hkeep : keep row = true
    · rw [List.filter_cons_of_pos hkeep, hcons, exactTotal_cons, rounding_cons]
      linarith
    · rw [List.filter_cons_of_neg hkeep]
      linarith

/-! ## Runs -/

/-- What the request stores leaves the exact total of the cart within these bounds. -/
def Fits (bound : List (Decimal × Decimal) → Decimal) (cart : CartHash) (call : Call) : Prop :=
  ∀ row, call.writes cart = some row → exactTotal (linesWith cart row) ≤ bound (linesWith cart row)

/-- Nothing panics in the run of these requests on an empty cart: no response, and no reading of
    the cart at any time. -/
structure NeverPanics (calls : List Call) : Prop where
  responses : ∀ pre call post cart, calls = pre ++ call :: post →
    Run.run Panicking.step .empty pre = some cart →
    ((Panicking.Call.handle call).run cart).1 ≠ .ok none
  getCart : ∀ cart, Run.Visits Panicking.step .empty calls cart →
    (Panicking.getCart.run cart).1 ≠ .ok none
  validateCart : ∀ cart, Run.Visits Panicking.step .empty calls cart →
    (Panicking.validateCart.run cart).1 ≠ .ok none

/-- The cart loads, and its total has room for the rounding of the operations. -/
structure Roomy (cart : CartHash) : Prop where
  loads : Loads cart
  room : exactTotal (linesOf cart.rows) + rounding (linesOf cart.rows) ≤ maxDecimal

theorem roomy_empty : Roomy .empty where
  loads := loads_empty
  room := by
    simp [exactTotal, rounding, linesOf, maxDecimal]

theorem Roomy.returns (h : Roomy cart) : (addLines (linesOf cart.rows) 0).isSome := by
  refine addLines_isSome (nonneg_linesOf h.loads) le_rfl ?_
  rw [zero_add]
  exact h.room

theorem roomy_step {next : CartHash} (h : Roomy cart)
    (hfits : Fits (fun lines => maxDecimal - rounding lines) cart call)
    (hstep : Panicking.step cart call = some next) : Roomy next := by
  obtain rfl := Option.some.inj hstep
  cases stores_cases call cart with
  | inl hwrites =>
    obtain ⟨row, hrow, hstores⟩ := hwrites
    rw [hstores.store]
    refine ⟨h.loads.set (loadable_of_writes h.loads hrow), ?_⟩
    have hbound := hfits row hrow
    rw [exactTotal_perm (perm_linesWith cart row), rounding_perm (perm_linesWith cart row)]
    linarith
  | inr htakes =>
    obtain ⟨-, keep, hstores⟩ := htakes
    rw [hstores.store]
    refine ⟨h.loads.filter keep, le_trans ?_ h.room⟩
    exact exactTotal_filter_le h.loads keep

theorem loads_step {next : CartHash} (h : Loads cart)
    (hstep : Panicking.step cart call = some next) : Loads next := by
  obtain rfl := Option.some.inj hstep
  cases stores_cases call cart with
  | inl hwrites =>
    obtain ⟨row, hrow, hstores⟩ := hwrites
    rw [hstores.store]
    exact h.set (loadable_of_writes h hrow)
  | inr htakes =>
    obtain ⟨-, keep, hstores⟩ := htakes
    rw [hstores.store]
    exact h.filter keep

/-- A cart that can be read after the request had room for what it stored. -/
theorem fits_of_getCart {next : CartHash} (h : Loads cart)
    (hstep : Panicking.step cart call = some next)
    (hreturns : (Panicking.getCart.run next).1 ≠ .ok none) :
    Fits (fun lines => maxDecimal + rounding lines) cart call := by
  have hloads := loads_step h hstep
  obtain ⟨r, hr⟩ := Option.isSome_iff_exists.mp ((getCart_returns hloads).mp hreturns)
  have hmax : (0 : Decimal) ≤ maxDecimal := by norm_num [maxDecimal]
  obtain ⟨hrMax, hbound⟩ := addLines_bound (nonneg_linesOf hloads) le_rfl hmax hr
  obtain rfl := Option.some.inj hstep
  intro row hrow
  cases stores_cases call cart with
  | inl hwrites =>
    obtain ⟨row', hrow', hstores⟩ := hwrites
    cases hrow.symm.trans hrow'
    have hperm := perm_linesWith cart row
    rw [hstores.store, exactTotal_perm hperm, rounding_perm hperm] at hbound
    linarith
  | inr htakes =>
    rw [htakes.1] at hrow
    cases hrow

/-- In a run of requests on an empty cart, nothing panics if the exact total that each stored item
    leaves is in range, and only if it is, up to what the operations round. -/
theorem carts_never_panic (calls : List Call) :
    (Run.Meets Panicking.step (Fits fun lines => maxDecimal - rounding lines) .empty calls →
      NeverPanics calls) ∧
    (NeverPanics calls →
      Run.Meets Panicking.step (Fits fun lines => maxDecimal + rounding lines) .empty calls) := by
  constructor
  · intro hmeets
    have hroomy : ∀ pre post cart, calls = pre ++ post →
        Run.run Panicking.step .empty pre = some cart → Roomy cart := by
      intro pre post cart hcalls hrun
      have hpre := (Run.Meets.append (hcalls ▸ hmeets) hrun).1
      exact Run.run_invariant_of_meets (fun _ _ _ => roomy_step) roomy_empty hpre hrun
    have hvisits : ∀ cart, Run.Visits Panicking.step .empty calls cart → Roomy cart := by
      intro cart hvisits
      obtain ⟨pre, post, hcalls, hrun⟩ := hvisits
      exact hroomy pre post cart hcalls hrun
    refine ⟨?_, ?_, ?_⟩
    · intro pre call post cart hcalls hrun hpanics
      -- the cart could not be read right after the request either
      have hafter : Roomy ((Panicking.Call.handle call).run cart).2 := by
        refine hroomy (pre ++ [call]) post _ (by rw [hcalls, List.append_assoc]; rfl) ?_
        rw [Run.run_append, hrun]
        rfl
      refine (getCart_returns hafter.loads).mpr hafter.returns ?_
      cases stores_cases call cart with
      | inl hwrites =>
        obtain ⟨row, -, hstores⟩ := hwrites
        rw [hstores.store]
        exact hstores.panics hpanics
      | inr htakes =>
        obtain ⟨-, keep, hstores⟩ := htakes
        rw [hstores.store]
        exact hstores.panics hpanics
    · intro cart hcart
      exact (getCart_returns (hvisits cart hcart).loads).mpr (hvisits cart hcart).returns
    · intro cart hcart
      exact (validateCart_returns (hvisits cart hcart).loads).mpr (hvisits cart hcart).returns
  · intro hnever
    refine Run.meets_of_visits (fun _ _ _ => loads_step) ?_ loads_empty hnever.getCart
    intro cart call hloads
    exact ⟨_, rfl, fits_of_getCart hloads rfl⟩

end Arithmetic

/-! ## One request too much -/

/-- Two pieces at the largest price there is. -/
def largestPrice : Call :=
  .addItem { productId := ⟨1, 0⟩, skuId := ⟨0, 0⟩, quantity := 2, unitPrice := maxDecimal
             currency := none, productName := "Socks", imageUrl := none } 0

/-- The cart is left with the item in it. -/
def poisoned : CartHash := ((Panicking.Call.handle largestPrice).run .empty).2

/-- The item is stored, the response panics, and so does every reading of the cart from then on. -/
theorem largestPrice_poisons : poisoned.rows.length = 1 ∧
    ((Panicking.Call.handle largestPrice).run .empty).1 = .ok none ∧
    (Panicking.getCart.run poisoned).1 = .ok none ∧
    (Panicking.validateCart.run poisoned).1 = .ok none ∧ ¬ NeverPanics [largestPrice] := by
  have hpanics : ∀ {α : Type} {r : Except AppError (Option α)},
      r.toOption.any Option.isNone = true → r = .ok none := by
    intro α r h
    obtain ⟨res, hres, hnone⟩ := (Option.any_eq_true _ _).mp h
    rw [Option.isNone_iff_eq_none.mp hnone] at hres
    exact Except.toOption_eq_some.mp hres
  have hresponse : ((Panicking.Call.handle largestPrice).run .empty).1 = .ok none :=
    hpanics (by decide +kernel)
  refine ⟨by decide +kernel, hresponse, hpanics (by decide +kernel), hpanics (by decide +kernel), ?_⟩
  intro hnever
  exact hnever.responses [] largestPrice [] .empty rfl rfl hresponse

end Koupang.Carts
