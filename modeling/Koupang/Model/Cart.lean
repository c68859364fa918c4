import Koupang.ForStd.Atomic
import Koupang.ForStd.Table
import Koupang.Model.Order

/-!
# Cart service

The model of `cart/`: the Redis hash of one user, the commands that the repository
sends, the service functions as programs of these commands, and the checkout
rules. `EXPIRE` only moves the end of the hash, thirty days after the last write,
and time does not pass here. Redis answers every command.

A stored item is JSON in the source, with the price as text, and is read back as
it was written. `HGETALL` answers in the order of a `HashMap`, which nothing
depends on; here it is that of the first writes.
-/

namespace Koupang.Carts

open Koupang.Order (Price.new Currency.new)
open Atomic (Prog)

/-! ## Errors -/

inductive CartError where
  | validationFailed (msg : String)
  | cartFull (max : Nat)
  | itemNotFound (msg : String)
  | checkoutNotReady (msg : String)
  | infra (e : AppError)

/-- `impl From<CartError> for AppError` -/
def CartError.toAppError : CartError → AppError
  | .validationFailed msg => .badRequest msg
  | .cartFull max => .badRequest s!"Cart is full (max {max} items)"
  | .itemNotFound msg => .notFound msg
  | .checkoutNotReady msg => .badRequest msg
  | .infra e => e

/-! ## Value objects -/

/-- Quantity (1–99) -/
structure Quantity where
  value : Nat
  valid : 1 ≤ value ∧ value ≤ 99
deriving DecidableEq

def Quantity.new (value : Nat) : Except AppError Quantity :=
  if hzero : value = 0 then .error (.badRequest "Quantity must be at least 1")
  else if hmax : value > 99 then .error (.badRequest "Quantity must not exceed 99")
  else .ok ⟨value, by omega⟩

/-- `Currency::default` -/
def Currency.default : String := "USD"

def CartProductName.new : String → Except AppError String := validatedName "Product name" 500

/-! ## Items -/

/-- A single item in a user's shopping cart. -/
structure CartItem where
  productId : Uuid
  skuId : Uuid
  quantity : Quantity
  unitPrice : Decimal
  currency : String
  productName : String
  imageUrl : Option String
  addedAt : Nat
deriving DecidableEq

/-- Display-only line total: quantity * unit price. -/
def CartItem.lineTotal (item : CartItem) : Decimal := item.unitPrice * (item.quantity.value : Decimal)

/-- A user's shopping cart. -/
structure Cart where
  items : List CartItem

/-- Display-only total: sum of all line totals. -/
def Cart.total (cart : Cart) : Decimal := (cart.items.map CartItem.lineTotal).sum

def Cart.itemCount (cart : Cart) : Nat := cart.items.length

/-- The value of a field of the hash. -/
structure CartItemStored where
  productId : Uuid
  skuId : Uuid
  quantity : Nat
  unitPrice : Decimal
  currency : String
  productName : String
  imageUrl : Option String
  addedAt : Nat
deriving DecidableEq

def CartItemStored.toDomain (stored : CartItemStored) : Except AppError CartItem := do
  let quantity ← Quantity.new stored.quantity
  let unitPrice ← Price.new stored.unitPrice
  let currency ← Currency.new stored.currency
  return { productId := stored.productId, skuId := stored.skuId, quantity, unitPrice, currency,
           productName := stored.productName, imageUrl := stored.imageUrl
           addedAt := stored.addedAt }

/-! ## Requests -/

structure AddToCartReq where
  productId : Uuid
  skuId : Uuid
  quantity : Nat
  unitPrice : Decimal
  currency : Option String
  productName : String
  imageUrl : Option String
deriving DecidableEq

structure UpdateCartItemReq where
  quantity : Nat
deriving DecidableEq

structure ValidAddToCartReq where
  productId : Uuid
  skuId : Uuid
  quantity : Quantity
  unitPrice : Decimal
  currency : String
  productName : String
  imageUrl : Option String

def ValidAddToCartReq.tryFrom (req : AddToCartReq) : Except AppError ValidAddToCartReq := do
  let quantity ← Quantity.new req.quantity
  let unitPrice ← Price.new req.unitPrice
  let currency ← match req.currency with
    | some c => Currency.new c
    | none => pure Currency.default
  let productName ← CartProductName.new req.productName
  return { productId := req.productId, skuId := req.skuId, quantity, unitPrice, currency,
           productName, imageUrl := req.imageUrl }

def ValidAddToCartReq.toStored (req : ValidAddToCartReq) (now : Nat) : CartItemStored where
  productId := req.productId
  skuId := req.skuId
  quantity := req.quantity.value
  unitPrice := req.unitPrice
  currency := req.currency
  productName := req.productName
  imageUrl := req.imageUrl
  addedAt := now

/-- The only field of `ValidUpdateCartItemReq`. -/
def ValidUpdateCartItemReq.tryFrom (req : UpdateCartItemReq) : Except AppError Quantity :=
  Quantity.new req.quantity

/-! ## Responses -/

structure CartItemRes where
  productId : String
  skuId : String
  quantity : Nat
  unitPrice : Decimal
  currency : String
  productName : String
  imageUrl : Option String
  lineTotal : Decimal

def CartItemRes.fromItem (item : CartItem) : CartItemRes where
  productId := toString item.productId
  skuId := toString item.skuId
  quantity := item.quantity.value
  unitPrice := item.unitPrice
  currency := item.currency
  productName := item.productName
  imageUrl := item.imageUrl
  lineTotal := item.lineTotal

structure CartRes where
  items : List CartItemRes
  itemCount : Nat
  total : Decimal

def CartRes.fromCart (cart : Cart) : CartRes where
  items := cart.items.map CartItemRes.fromItem
  itemCount := cart.itemCount
  total := cart.total

structure CartValidationItemRes where
  skuId : String
  priceChanged : Bool
  snapshotPrice : Decimal
  currentPrice : Option Decimal
  productUnavailable : Bool
  stockInsufficient : Bool

structure CartValidationRes where
  items : List CartValidationItemRes
  allValid : Bool

/-! ## Redis -/

/-- The hash `cart:{user_id}`. -/
abbrev CartHash := Table (Prod.fst : Uuid × CartItemStored → Uuid)

inductive Cmd where
  | hgetall
  | hget (skuId : Uuid)
  | hlen
  | hexists (skuId : Uuid)
  | hset (skuId : Uuid) (stored : CartItemStored)
  | hdel (skuId : Uuid)
  | expire (secs : Nat)
  | del

abbrev Cmd.Result : Cmd → Type
  | .hgetall => List (Uuid × CartItemStored)
  | .hget _ => Option CartItemStored
  | .hlen => Nat
  | .hexists _ => Bool
  | .hset .. | .hdel _ | .expire _ | .del => Unit

def Cmd.exec : (c : Cmd) → CartHash → c.Result × CartHash
  | .hgetall, cart => (cart.rows, cart)
  | .hget skuId, cart => ((cart.find? skuId).map Prod.snd, cart)
  | .hlen, cart => (cart.rows.length, cart)
  | .hexists skuId, cart => ((cart.find? skuId).isSome, cart)
  | .hset skuId stored, cart => ((), cart.set (skuId, stored))
  | .hdel skuId, cart => ((), cart.filter (·.1 ≠ skuId))
  | .expire _, cart => ((), cart)
  | .del, _ => ((), .empty)

abbrev redis : Atomic.Store CartHash where
  Cmd := Cmd
  Result := Cmd.Result
  exec := Cmd.exec

abbrev Program (α : Type) := Prog redis AppError α

/-- Send a command. -/
def send (c : Cmd) : Program c.Result := Prog.send (S := redis) c

/-! ## Repository -/

namespace Repository

def cartTtlSecs : Nat := 2592000

def getCart : Program (List CartItemStored) := do
  let items : List (Uuid × CartItemStored) ← send .hgetall
  return items.map Prod.snd

def getCartItem (skuId : Uuid) : Program (Option CartItemStored) := send (.hget skuId)

def cartItemCount : Program Nat := send .hlen

def itemExists (skuId : Uuid) : Program Bool := send (.hexists skuId)

def setCartItem (skuId : Uuid) (stored : CartItemStored) : Program Unit := do
  send (.hset skuId stored)
  -- Refresh TTL on write
  send (.expire cartTtlSecs)

def removeCartItem (skuId : Uuid) : Program Unit := do
  send (.hdel skuId)
  send (.expire cartTtlSecs)

def clearCart : Program Unit := send .del

end Repository

/-! ## Checkout rules -/

inductive CheckoutCheck where
  | cartNotEmpty
  | minCartValue (v : Decimal)
  | maxCartValue (v : Decimal)
  | allItemsHaveValidPrices
  | maxCartItems (n : Nat)
  | allQuantitiesWithinLimits

instance : ToString CheckoutCheck := ⟨fun
  | .cartNotEmpty => "cart must not be empty"
  | .minCartValue v => s!"cart total must be at least ${v}"
  | .maxCartValue v => s!"cart total must not exceed ${v}"
  | .allItemsHaveValidPrices => "all items must have valid prices"
  | .maxCartItems n => s!"cart must not exceed {n} items"
  | .allQuantitiesWithinLimits => "all quantities must be within limits"⟩

def minCartValue : Decimal := 1
def maxCartValue : Decimal := 50000
def maxCartItems : Nat := 50

def checkoutReadinessRules : Rule CheckoutCheck :=
  .all ([.cartNotEmpty, .maxCartItems maxCartItems, .minCartValue minCartValue,
    .maxCartValue maxCartValue, .allItemsHaveValidPrices, .allQuantitiesWithinLimits].map .check)

structure CheckoutContext where
  itemCount : Nat
  cartTotal : Decimal
  allPricesValid : Bool
  allQuantitiesValid : Bool

def CheckoutContext.fromCart (cart : Cart) : CheckoutContext where
  itemCount := cart.itemCount
  cartTotal := cart.total
  allPricesValid := cart.items.all (·.unitPrice > 0)
  allQuantitiesValid := cart.items.all fun i => i.quantity.value ≥ 1 && i.quantity.value ≤ 99

def evalCheckout (ctx : CheckoutContext) : CheckoutCheck → Bool
  | .cartNotEmpty => ctx.itemCount > 0
  | .minCartValue min => ctx.cartTotal ≥ min
  | .maxCartValue max => ctx.cartTotal ≤ max
  | .allItemsHaveValidPrices => ctx.allPricesValid
  | .maxCartItems max => ctx.itemCount ≤ max
  | .allQuantitiesWithinLimits => ctx.allQuantitiesValid

/-! ## Service -/

/-- `MAX_CART_ITEMS` of the service. -/
def serviceMaxCartItems : Nat := 50

def loadCart : Program Cart := do
  let storedItems ← Repository.getCart
  let items ← Prog.ofExcept (storedItems.mapM CartItemStored.toDomain)
  return { items }

def getCart : Program CartRes := do
  let cart ← loadCart
  return CartRes.fromCart cart

def addItem (req : AddToCartReq) (now : Nat) : Program CartRes := do
  let validated ← Prog.ofExcept (ValidAddToCartReq.tryFrom req)
  -- Check max items (only if adding a new SKU)
  let found ← Repository.itemExists validated.skuId
  if !found then
    let count ← Repository.cartItemCount
    if count ≥ serviceMaxCartItems then
      Prog.fail (CartError.cartFull serviceMaxCartItems).toAppError
  Repository.setCartItem validated.skuId (validated.toStored now)
  getCart

def updateItemQuantity (skuId : Uuid) (req : UpdateCartItemReq) : Program CartRes := do
  let quantity ← Prog.ofExcept (ValidUpdateCartItemReq.tryFrom req)
  match (← Repository.getCartItem skuId) with
  | none => Prog.fail (CartError.itemNotFound s!"SKU {skuId} not in cart").toAppError
  | some existing =>
    Repository.setCartItem skuId { existing with quantity := quantity.value }
    getCart

def removeItem (skuId : Uuid) : Program Unit := Repository.removeCartItem skuId

def clearCart : Program Unit := Repository.clearCart

/-- Validate cart readiness for checkout using the rule tree. -/
def validateCart : Program CartValidationRes := do
  let cart ← loadCart
  let ctx := CheckoutContext.fromCart cart
  let result := checkoutReadinessRules.evaluateDetailed (evalCheckout ctx)
  if !result.passed then
    Prog.fail
      (CartError.checkoutNotReady (String.intercalate "; " result.failureMessages)).toAppError
  -- Item-level validation is a stub until the catalog is integrated
  let items := cart.items.map fun item =>
    { skuId := toString item.skuId, priceChanged := false, snapshotPrice := item.unitPrice
      currentPrice := some item.unitPrice, productUnavailable := false
      stockInsufficient := false : CartValidationItemRes }
  return { items, allValid := true }

/-! ## Calls -/

/-- The writing requests of one user; `now` is the time of `added_at`. -/
inductive Call where
  | addItem (req : AddToCartReq) (now : Nat)
  | updateItem (skuId : Uuid) (req : UpdateCartItemReq)
  | removeItem (skuId : Uuid)
  | clearCart
deriving DecidableEq

inductive Response where
  | cart (res : CartRes)
  | success (message : String)

/-- The handler of the route. -/
def Call.handle : Call → Program Response
  | .addItem req now => do
    let cart ← Carts.addItem req now
    return .cart cart
  | .updateItem skuId req => do
    let cart ← updateItemQuantity skuId req
    return .cart cart
  | .removeItem skuId => do
    Carts.removeItem skuId
    return .success "Item removed from cart"
  | .clearCart => do
    Carts.clearCart
    return .success "Cart cleared"

end Koupang.Carts
