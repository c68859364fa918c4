import Koupang.Model.Cart

/-!
# Overflow of decimals

`Decimal` has a mantissa of 96 bits and at most 28 decimal places. Its operators
`*` and `+` round a result that needs more digits, and panic on one that is too
large. The other modules compute with exact numbers; here are the functions that
multiply and add the amounts of a request before anything limits them, with the
panics.
-/

namespace Koupang

/-- `Decimal::MAX` -/
def maxDecimal : Decimal := 79228162514264337593543950335

/-- The arithmetic of `rust_decimal` on amounts that are not negative. An operator that panics
    has no result. -/
class RustDecimal where
  mul : Decimal → Decimal → Option Decimal
  add : Decimal → Decimal → Option Decimal
  /-- no result is rounded by more -/
  ulp : Decimal
  ulp_nonneg : 0 ≤ ulp
  mul_near : ∀ {a b r : Decimal}, 0 ≤ a → 0 ≤ b → mul a b = some r →
    0 ≤ r ∧ r ≤ maxDecimal ∧ |r - a * b| ≤ ulp
  mul_isSome : ∀ {a b : Decimal}, 0 ≤ a → 0 ≤ b → a * b ≤ maxDecimal → (mul a b).isSome
  add_near : ∀ {a b r : Decimal}, 0 ≤ a → 0 ≤ b → add a b = some r →
    0 ≤ r ∧ r ≤ maxDecimal ∧ |r - (a + b)| ≤ ulp
  add_isSome : ∀ {a b : Decimal}, 0 ≤ a → 0 ≤ b → a + b ≤ maxDecimal → (add a b).isSome

/-- Nothing is rounded: the arithmetic is exact where it does not overflow. -/
class RustDecimal.Exact [RustDecimal] : Prop where
  ulp_eq_zero : ulp = 0

/-- A result that a `Decimal` can be. -/
def inRange? (d : Decimal) : Option Decimal := if d ≤ maxDecimal then some d else none

theorem inRange?_eq_some {d r : Decimal} : inRange? d = some r ↔ d ≤ maxDecimal ∧ r = d := by
  unfold inRange?
  by_cases hd : d ≤ maxDecimal
  · rw [if_pos hd]
    simp [hd, eq_comm]
  · rw [if_neg hd]
    simp [hd]

theorem inRange?_isSome {d : Decimal} (h : d ≤ maxDecimal) : (inRange? d).isSome := by
  rw [inRange?, if_pos h]
  rfl

instance : RustDecimal where
  mul a b := inRange? (a * b)
  add a b := inRange? (a + b)
  ulp := 0
  ulp_nonneg := le_refl 0
  mul_near ha hb h := by
    obtain ⟨hmax, rfl⟩ := inRange?_eq_some.mp h
    exact ⟨mul_nonneg ha hb, hmax, by simp⟩
  mul_isSome _ _ := inRange?_isSome
  add_near ha hb h := by
    obtain ⟨hmax, rfl⟩ := inRange?_eq_some.mp h
    exact ⟨add_nonneg ha hb, hmax, by simp⟩
  add_isSome _ _ := inRange?_isSome

instance : RustDecimal.Exact := ⟨rfl⟩

/-- The result of a function that may panic; `none` is the panic. -/
abbrev MayPanic (α : Type) := ExceptT AppError Option α

/-- A call of a function that does not panic. -/
def MayPanic.ofExcept {α : Type} (x : Except AppError α) : MayPanic α := ExceptT.mk (some x)

/-- An operator, which panics if it has no result. -/
def MayPanic.ofOption {α : Type} (x : Option α) : MayPanic α := ExceptT.lift x

variable [RustDecimal]

/-! ## Orders -/

namespace Order.Panicking

/-- The loop of `ValidCreateOrderReq::new`, with the items and the total so far. -/
def validateItems : List CreateOrderItemReq → List ValidCreateOrderItem → Decimal →
    MayPanic (List ValidCreateOrderItem × Decimal)
  | [], items, totalAmount => return (items, totalAmount)
  | item :: rest, items, totalAmount => do
    let quantity ← MayPanic.ofExcept (Quantity.new item.quantity)
    let unitPrice ← MayPanic.ofExcept (Price.new item.unitPrice)
    let totalPrice ← MayPanic.ofOption (RustDecimal.mul unitPrice (quantity : Decimal))
    let totalAmount ← MayPanic.ofOption (RustDecimal.add totalAmount totalPrice)
    let item : ValidCreateOrderItem :=
      { productId := item.productId, skuId := item.skuId, productName := item.productName,
        skuCode := item.skuCode, quantity, sellerId := item.sellerId, unitPrice, totalPrice }
    validateItems rest (items ++ [item]) totalAmount

/-- `ValidCreateOrderReq::new` -/
def ValidCreateOrderReq.new (idempotencyKey : String) (req : CreateOrderReq) :
    MayPanic ValidCreateOrderReq := do
  let key ← MayPanic.ofExcept (IdempotencyKey.new idempotencyKey)
  let currency ← match req.currency with
    | some c => MayPanic.ofExcept (Currency.new c)
    | none => pure "USD"
  let shippingAddress ← MayPanic.ofExcept (ShippingAddress.new req.shippingAddress)
  if req.items.isEmpty then
    throw (.badRequest "Order must have at least one item")
  let (items, totalAmount) ← validateItems req.items [] 0
  return { idempotencyKey := key, currency, shippingAddress, items, totalAmount }

end Order.Panicking

/-! ## Carts -/

namespace Carts.Panicking

/-- `line_total` -/
def CartItem.lineTotal (item : CartItem) : Option Decimal :=
  RustDecimal.mul item.unitPrice (item.quantity.value : Decimal)

/-- The sum of the line totals, from the first to the last. -/
def addLineTotals : List CartItem → Decimal → Option Decimal
  | [], total => some total
  | item :: rest, total => do
    let lineTotal ← CartItem.lineTotal item
    let total ← RustDecimal.add total lineTotal
    addLineTotals rest total

/-- `total` -/
def Cart.total (cart : Cart) : Option Decimal := addLineTotals cart.items 0

/-- `CartItemRes::from_item` -/
def CartItemRes.fromItem (item : CartItem) : Option CartItemRes := do
  let lineTotal ← CartItem.lineTotal item
  return { productId := toString item.productId, skuId := toString item.skuId
           quantity := item.quantity.value, unitPrice := item.unitPrice, currency := item.currency
           productName := item.productName, imageUrl := item.imageUrl, lineTotal }

/-- `CartRes::from_cart` -/
def CartRes.fromCart (cart : Cart) : Option CartRes := do
  let items ← cart.items.mapM CartItemRes.fromItem
  let total ← Cart.total cart
  return { items, itemCount := cart.itemCount, total }

/-- `CheckoutContext::from_cart` -/
def CheckoutContext.fromCart (cart : Cart) : Option CheckoutContext := do
  let cartTotal ← Cart.total cart
  return { itemCount := cart.itemCount, cartTotal
           allPricesValid := cart.items.all (·.unitPrice > 0)
           allQuantitiesValid := cart.items.all fun i =>
             i.quantity.value ≥ 1 && i.quantity.value ≤ 99 }

/-- A request that panics has no response. -/
def getCart : Program (Option CartRes) := do
  let cart ← loadCart
  return CartRes.fromCart cart

def addItem (req : AddToCartReq) (now : Nat) : Program (Option CartRes) := do
  let validated ← Atomic.Prog.ofExcept (ValidAddToCartReq.tryFrom req)
  let found ← Repository.itemExists validated.skuId
  if !found then
    let count ← Repository.cartItemCount
    if count ≥ serviceMaxCartItems then
      Atomic.Prog.fail (CartError.cartFull serviceMaxCartItems).toAppError
  Repository.setCartItem validated.skuId (validated.toStored now)
  getCart

def updateItemQuantity (skuId : Uuid) (req : UpdateCartItemReq) : Program (Option CartRes) := do
  let quantity ← Atomic.Prog.ofExcept (ValidUpdateCartItemReq.tryFrom req)
  match (← Repository.getCartItem skuId) with
  | none => Atomic.Prog.fail (CartError.itemNotFound s!"SKU {skuId} not in cart").toAppError
  | some existing =>
    Repository.setCartItem skuId { existing with quantity := quantity.value }
    getCart

def validateCart : Program (Option CartValidationRes) := do
  let cart ← loadCart
  match CheckoutContext.fromCart cart with
  | none => return none
  | some ctx =>
    let result := checkoutReadinessRules.evaluateDetailed (evalCheckout ctx)
    if !result.passed then
      Atomic.Prog.fail
        (CartError.checkoutNotReady (String.intercalate "; " result.failureMessages)).toAppError
    let items := cart.items.map fun item =>
      { skuId := toString item.skuId, priceChanged := false, snapshotPrice := item.unitPrice
        currentPrice := some item.unitPrice, productUnavailable := false
        stockInsufficient := false : CartValidationItemRes }
    return some { items, allValid := true }

/-- The handler of the route. -/
def Call.handle : Call → Program (Option Response)
  | .addItem req now => do
    let cart ← addItem req now
    return cart.map Response.cart
  | .updateItem skuId req => do
    let cart ← updateItemQuantity skuId req
    return cart.map Response.cart
  | .removeItem skuId => do
    removeItem skuId
    return some (.success "Item removed from cart")
  | .clearCart => do
    clearCart
    return some (.success "Cart cleared")

/-- One request after the other. -/
def step (cart : CartHash) (call : Call) : Option CartHash :=
  some ((Call.handle call).run cart).2

end Carts.Panicking

end Koupang
