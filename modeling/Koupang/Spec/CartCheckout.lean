import Koupang.Model.Cart
import Koupang.Spec.ServiceContracts

/-!
# From the cart to the order

The cart and the order validate with value objects and rules of their own. What
`validate_cart` accepts is well within the limits of the order: at most fifty items,
positive prices, quantities up to 99, and the same minimum. But the cart adds up
line totals in any currencies, and takes any three letters for a currency.

## Key results

- `validateCart_ok`: what `validate_cart` accepts
- `orderable_iff`: the carts that can be ordered among them
- `mixed_or_unsupported`: two carts that cannot
-/

namespace Koupang.Carts

open Koupang.Order (Admitted CreateOrderItemReq CreateOrderReq IdempotencyKey.new ShippingAddress.new
  ShippingAddressReq ValidCreateOrderItem ValidCreateOrderItem.new ValidCreateOrderReq
  ValidCreateOrderReq.new creationRules evalCreation creationContext supportedCurrencies)
open Atomic (Prog)

/-- What the cart does not know of an item. -/
structure ItemDetails where
  skuCode : String
  sellerId : Uuid

def CartItem.toOrderItem (item : CartItem) (details : ItemDetails) : CreateOrderItemReq where
  productId := item.productId
  skuId := item.skuId
  productName := item.productName
  skuCode := details.skuCode
  quantity := item.quantity.value
  sellerId := details.sellerId
  unitPrice := item.unitPrice

/-- The order made of exactly the items of the cart. -/
def Cart.toOrder (cart : Cart) (currency : String) (address : ShippingAddressReq)
    (details : CartItem → ItemDetails) : CreateOrderReq where
  items := cart.items.map fun item => item.toOrderItem (details item)
  currency := some currency
  shippingAddress := address

/-- Every item has this currency, and with any valid key and address the order in it is accepted
    and costs what the cart says. -/
def Orderable (cart : Cart) (currency : String) : Prop :=
  (∀ item ∈ cart.items, item.currency = currency) ∧
    ∀ key address details, (∃ k, IdempotencyKey.new key = .ok k) →
      (∃ a, ShippingAddress.new address = .ok a) →
      ∃ valid, Admitted key (cart.toOrder currency address details) valid ∧
        valid.currency = currency ∧ valid.totalAmount = cart.total

/-! ## Checkout -/

/-- The checkout rules pass. -/
structure CheckoutReady (cart : Cart) : Prop where
  nonempty : cart.items ≠ []
  items : cart.items.length ≤ maxCartItems
  min : minCartValue ≤ cart.total
  prices : ∀ item ∈ cart.items, 0 < item.unitPrice

theorem checkoutReady_of_passed {cart : Cart}
    (h : (checkoutReadinessRules.evaluateDetailed
      (evalCheckout (CheckoutContext.fromCart cart))).passed = true) : CheckoutReady cart := by
  rw [checkoutReadinessRules, Rule.passed_all_check] at h
  simp only [List.all_cons, evalCheckout, CheckoutContext.fromCart, Cart.itemCount,
    Bool.and_eq_true, decide_eq_true_eq, List.all_eq_true] at h
  obtain ⟨hnonempty, hitems, hmin, -, hprices, -⟩ := h
  exact ⟨List.ne_nil_of_length_pos hnonempty, hitems, hmin, hprices⟩

theorem validateCart_ok {hash : CartHash} {res : CartValidationRes}
    (h : (validateCart.run hash).1 = .ok res) :
    ∃ cart, (loadCart.run hash).1 = .ok cart ∧ CheckoutReady cart := by
  unfold validateCart at h
  rw [Prog.run_bind] at h
  cases hload : loadCart.run hash with
  | mk result hash' =>
    cases result with
    | error e =>
      rw [hload] at h
      cases h
    | ok cart =>
      refine ⟨cart, rfl, checkoutReady_of_passed ?_⟩
      rw [hload] at h
      by_contra hpassed
      dsimp only at h
      rw [if_pos (by simpa using hpassed)] at h
      cases h

/-! ## The order -/

theorem shippingAddress_isComplete {req : ShippingAddressReq} {address : Order.ShippingAddress}
    (h : ShippingAddress.new req = .ok address) : address.isComplete = true := by
  simp only [ShippingAddress.new, Except.guard_eq_ok] at h
  obtain ⟨hempty, -, -, -, -, h⟩ := h
  cases h
  simpa [Order.ShippingAddress.isComplete, not_or, and_assoc] using hempty

/-- A cart item as the order stores it. -/
def CartItem.toValidItem (item : CartItem) (details : ItemDetails) : ValidCreateOrderItem where
  productId := item.productId
  skuId := item.skuId
  productName := item.productName
  skuCode := details.skuCode
  quantity := item.quantity.value
  sellerId := details.sellerId
  unitPrice := item.unitPrice
  totalPrice := item.lineTotal

/-- The limits of the order are wider than those of the cart. -/
theorem validItem_new {item : CartItem} (hprice : 0 < item.unitPrice) (details : ItemDetails) :
    ValidCreateOrderItem.new (item.toOrderItem details) = .ok (item.toValidItem details) := by
  obtain ⟨hmin, hmax⟩ := item.quantity.valid
  have hbound : Order.maxOrderQuantity = 9999 := rfl
  have hvalue : (item.toOrderItem details).quantity = item.quantity.value := rfl
  refine Order.validItem_new_iff.mpr ⟨rfl, ⟨by omega, by omega⟩, hprice.le⟩

/-- A currency that the order supports is written as `Currency::new` writes it. -/
theorem currency_new {currency : String} (h : currency ∈ supportedCurrencies) :
    Order.Currency.new currency = .ok currency := by
  have hall : ∀ c ∈ supportedCurrencies, (Order.Currency.new c).toOption = some c := by decide
  exact Except.toOption_eq_some.mp (hall currency h)

section Ready

variable {cart : Cart} {currency : String}

/-- What is kept of the order. -/
def Cart.toValidOrder (cart : Cart) (key currency : String) (address : Order.ShippingAddress)
    (details : CartItem → ItemDetails) : ValidCreateOrderReq where
  idempotencyKey := key
  currency := currency
  shippingAddress := address
  items := cart.items.map fun item => item.toValidItem (details item)
  totalAmount := cart.total

theorem validated_toOrder (hready : CheckoutReady cart) (hcurrency : currency ∈ supportedCurrencies)
    {key k : String} {address : ShippingAddressReq} {a : Order.ShippingAddress}
    (details : CartItem → ItemDetails) (hkey : IdempotencyKey.new key = .ok k)
    (haddress : ShippingAddress.new address = .ok a) :
    ValidCreateOrderReq.new key (cart.toOrder currency address details) =
      .ok (cart.toValidOrder k currency a details) := by
  have hitems : (cart.toOrder currency address details).items.mapM ValidCreateOrderItem.new =
      .ok (cart.toValidOrder k currency a details).items := by
    refine Except.mapM_eq_ok.mpr ?_
    simp only [Cart.toOrder, Cart.toValidOrder, List.forall₂_map_left_iff,
      List.forall₂_map_right_iff]
    exact List.forall₂_same.mpr fun item hitem => validItem_new (hready.prices item hitem) _
  have htotal : ((cart.toValidOrder k currency a details).items.map (·.totalPrice)).sum =
      cart.total := by
    simp only [Cart.toValidOrder, List.map_map]
    rfl
  have hnonempty : (cart.toOrder currency address details).items.isEmpty = false := by
    simpa [Cart.toOrder] using hready.nonempty
  have hcode : (cart.toOrder currency address details).currency = some currency := rfl
  have hplace : (cart.toOrder currency address details).shippingAddress = address := rfl
  unfold ValidCreateOrderReq.new
  rw [hkey, hcode, hplace, haddress, hnonempty, hitems]
  dsimp only
  rw [currency_new hcurrency]
  have hlast : (.ok { idempotencyKey := k, currency, shippingAddress := a
                      items := (cart.toValidOrder k currency a details).items
                      totalAmount := ((cart.toValidOrder k currency a details).items.map
                        (·.totalPrice)).sum } : Except AppError ValidCreateOrderReq) =
      .ok (cart.toValidOrder k currency a details) := by
    rw [htotal]
    rfl
  exact hlast

/-- Such an order passes the creation rules. -/
theorem passed_toOrder (hready : CheckoutReady cart) (hcurrency : currency ∈ supportedCurrencies)
    (key : String) {address : Order.ShippingAddress} (haddress : address.isComplete = true)
    (details : CartItem → ItemDetails) :
    (creationRules.evaluateDetailed (evalCreation
      (creationContext (cart.toValidOrder key currency address details)))).passed = true := by
  refine Saga.passed_creationRules.mpr ⟨?_, ?_, ?_, hcurrency, haddress, ?_⟩
  · simpa [creationContext, Cart.toValidOrder, List.length_pos_iff] using hready.nonempty
  · have hlength := hready.items
    simp [creationContext, Cart.toValidOrder, maxCartItems, Order.maxItemsPerOrder] at hlength ⊢
    omega
  · exact hready.min
  · simpa [creationContext, Cart.toValidOrder, CartItem.toValidItem] using hready.prices

/-- A cart that is ready for checkout can be ordered exactly if all its items have one and the
    same currency, which the order supports. -/
theorem orderable_iff (hready : CheckoutReady cart) :
    (∃ currency, Orderable cart currency) ↔
      ∃ currency ∈ supportedCurrencies, ∀ item ∈ cart.items, item.currency = currency := by
  constructor
  · rintro ⟨currency, hsame, haccepted⟩
    -- some order has to be tried for the order service to look at the currency
    have hkey : ∃ k, IdempotencyKey.new "key-1" = .ok k :=
      ⟨"key-1", Except.toOption_eq_some.mp (by decide)⟩
    have haddress : ∃ a, ShippingAddress.new Order.sampleReq.shippingAddress = .ok a :=
      ⟨{ street := "1 Main St", city := "Seoul", state := "", postalCode := "04524"
         country := "KR" }, Except.toOption_eq_some.mp (by decide)⟩
    obtain ⟨valid, hadmitted, rfl, -⟩ := haccepted "key-1" Order.sampleReq.shippingAddress
      (fun _ => { skuCode := "MUG-1", sellerId := ⟨9, 1⟩ }) hkey haddress
    obtain ⟨-, -, -, hsupported, -⟩ := Saga.passed_creationRules.mp hadmitted.passed
    exact ⟨_, hsupported, hsame⟩
  · rintro ⟨currency, hcurrency, hsame⟩
    refine ⟨currency, hsame, fun key address details ⟨k, hk⟩ ⟨a, ha⟩ => ?_⟩
    refine ⟨cart.toValidOrder k currency a details, ?_, rfl, rfl⟩
    exact ⟨validated_toOrder hready hcurrency details hk ha,
      passed_toOrder hready hcurrency k (shippingAddress_isComplete ha) details⟩

end Ready

/-- Of the carts that `validate_cart` accepts, those can be ordered whose items all have one and
    the same currency, which the order supports: any order of exactly their items, in that
    currency, is accepted, with the total of the cart. -/
theorem validated_cart_orderable {hash : CartHash} {res : CartValidationRes}
    (h : (validateCart.run hash).1 = .ok res) :
    ∃ cart, (loadCart.run hash).1 = .ok cart ∧
      ((∃ currency, Orderable cart currency) ↔
        ∃ currency ∈ supportedCurrencies, ∀ item ∈ cart.items, item.currency = currency) := by
  obtain ⟨cart, hload, hready⟩ := validateCart_ok h
  exact ⟨cart, hload, orderable_iff hready⟩

/-- Adds a piece in this currency. -/
def addIn (serial : Nat) (currency : String) : Call :=
  .addItem { productId := ⟨1, 0⟩, skuId := ⟨0, serial⟩, quantity := 1, unitPrice := 10
             currency := some currency, productName := "Socks", imageUrl := none } 0

/-- The cart after these requests. -/
def cartAfter (calls : List Call) : CartHash := Atomic.serial Call.handle calls .empty

/-- A cart in euros. -/
def euroCalls : List Call := [addIn 0 "eur", .updateItem ⟨0, 0⟩ { quantity := 3 }]

theorem validated_cart_orderable_euro :
    ∃ cart, (loadCart.run (cartAfter euroCalls)).1 = .ok cart ∧
      ∃ currency, Orderable cart currency := by
  have hchecked : (validateCart.run (cartAfter euroCalls)).1.toOption.isSome ∧
      (loadCart.run (cartAfter euroCalls)).1.toOption.all fun cart =>
        ∀ item ∈ cart.items, item.currency = "EUR" := by
    decide +kernel
  obtain ⟨res, hres⟩ := Option.isSome_iff_exists.mp hchecked.1
  obtain ⟨cart, hload, hiff⟩ := validated_cart_orderable (Except.toOption_eq_some.mp hres)
  have hcurrencies := hchecked.2
  rw [Except.toOption_eq_some.mpr hload] at hcurrencies
  exact ⟨cart, hload, hiff.mpr ⟨"EUR", by decide, of_decide_eq_true hcurrencies⟩⟩

/-- No order can be made of a cart that `validate_cart` accepts if no supported currency is that
    of all its items. -/
theorem not_orderable {calls : List Call} (hvalidated :
      (validateCart.run (cartAfter calls)).1.toOption.isSome)
    (hcurrencies : (loadCart.run (cartAfter calls)).1.toOption.all fun cart =>
      ∀ c ∈ supportedCurrencies, ∃ item ∈ cart.items, item.currency ≠ c) : ∃ res cart,
      (validateCart.run (cartAfter calls)).1 = .ok res ∧
      (loadCart.run (cartAfter calls)).1 = .ok cart ∧ ¬ ∃ currency, Orderable cart currency := by
  obtain ⟨res, hres⟩ := Option.isSome_iff_exists.mp hvalidated
  rw [Except.toOption_eq_some] at hres
  obtain ⟨cart, hload, hready⟩ := validateCart_ok hres
  refine ⟨res, cart, hres, hload, ?_⟩
  rw [Except.toOption_eq_some.mpr hload] at hcurrencies
  rw [orderable_iff hready]
  rintro ⟨c, hc, hsame⟩
  obtain ⟨item, hitem, hne⟩ := of_decide_eq_true hcurrencies c hc
  exact hne (hsame item hitem)

/-- Two such carts: one in two currencies, and one in a currency that the order does not support. -/
theorem mixed_or_unsupported :
    (∃ res cart, (validateCart.run (cartAfter [addIn 0 "USD", addIn 1 "EUR"])).1 = .ok res ∧
      (loadCart.run (cartAfter [addIn 0 "USD", addIn 1 "EUR"])).1 = .ok cart ∧
      ¬ ∃ currency, Orderable cart currency) ∧
    ∃ res cart, (validateCart.run (cartAfter [addIn 0 "CHF"])).1 = .ok res ∧
      (loadCart.run (cartAfter [addIn 0 "CHF"])).1 = .ok cart ∧
      ¬ ∃ currency, Orderable cart currency :=
  ⟨not_orderable (by decide +kernel) (by decide +kernel),
    not_orderable (by decide +kernel) (by decide +kernel)⟩

end Koupang.Carts
