import Koupang.ForStd.Table
import Koupang.Model.Shared
import Koupang.Model.Rules
import Koupang.Model.Text

/-!
# Order service

The model of `order/`: value objects, creation and cancellation rules, request
validation, the repository's SQL statements, the service functions
`create_order` and `cancel_order`, and the event handlers of the consumer.

`OrderDb.statusWrites` records every value written to `orders.status`, in the
order of the writes. No statement reads it; it is the history that statements
about the status path refer to.
-/

namespace Koupang.Order

/-! ## Value objects -/

inductive OrderStatus where
  | pending
  | inventoryReserved
  | paymentAuthorized
  | confirmed
  | shipped
  | delivered
  | cancelled
  | returned
deriving DecidableEq, Repr

def OrderStatus.asStr : OrderStatus → String
  | .pending => "pending"
  | .inventoryReserved => "inventory_reserved"
  | .paymentAuthorized => "payment_authorized"
  | .confirmed => "confirmed"
  | .shipped => "shipped"
  | .delivered => "delivered"
  | .cancelled => "cancelled"
  | .returned => "returned"

inductive OrderError where
  | validationFailed (msg : String)
  | invalidTransition (source target : OrderStatus)
  | cancellationDenied (msg : String)
  | notFound (msg : String)
  | accessDenied (msg : String)
  | infra (e : AppError)
deriving DecidableEq, Repr

def OrderError.toString : OrderError → String
  | .validationFailed m => s!"Validation failed: {m}"
  | .invalidTransition source target =>
    s!"Invalid order status transition: {source.asStr} → {target.asStr}"
  | .cancellationDenied m => s!"Cancellation denied: {m}"
  | .notFound m => s!"Not found: {m}"
  | .accessDenied m => s!"Access denied: {m}"
  | .infra e => s!"{e}"

instance : ToString OrderError := ⟨OrderError.toString⟩

/-- `impl From<OrderError> for AppError` -/
def OrderError.toAppError : OrderError → AppError
  | .validationFailed m => .badRequest m
  | .invalidTransition source target =>
    .badRequest s!"Invalid order status transition: {source.asStr} → {target.asStr}"
  | .cancellationDenied m => .badRequest m
  | .notFound m => .notFound m
  | .accessDenied m => .forbidden m
  | .infra e => e

/-- Validates a state transition. Returns the target status on success. -/
def OrderStatus.transitionTo (status target : OrderStatus) : Except OrderError OrderStatus :=
  let allowed : Bool := match status with
    | .pending => target = .inventoryReserved || target = .cancelled
    | .inventoryReserved => target = .paymentAuthorized || target = .cancelled
    | .paymentAuthorized => target = .confirmed || target = .cancelled
    | .confirmed => target = .shipped || target = .cancelled
    | .shipped => target = .delivered || target = .cancelled
    | .delivered => target = .returned
    | .cancelled | .returned => false
  if allowed then .ok target else .error (.invalidTransition status target)

def OrderStatus.canCancel : OrderStatus → Bool
  | .pending | .inventoryReserved | .paymentAuthorized | .confirmed | .shipped => true
  | _ => false

structure ShippingAddressReq where
  street : String
  city : String
  state : String
  postalCode : String
  country : String
deriving DecidableEq, Repr

structure ShippingAddress where
  street : String
  city : String
  state : String
  postalCode : String
  country : String
deriving DecidableEq, Repr

def maxStreetLen : Nat := 500
def maxCityLen : Nat := 200
def maxPostalCodeLen : Nat := 20
def maxCountryLen : Nat := 3

def ShippingAddress.new (req : ShippingAddressReq) : Except AppError ShippingAddress := do
  let street := Text.trim req.street
  let city := Text.trim req.city
  let state := Text.trim req.state
  let postalCode := Text.trim req.postalCode
  let country := Text.trim req.country
  if street.isEmpty || city.isEmpty || postalCode.isEmpty || country.isEmpty then
    throw (.badRequest
      "Shipping address fields (street, city, postal_code, country) must not be empty")
  if Text.len street > maxStreetLen then
    throw (.badRequest s!"Street must not exceed {maxStreetLen} characters")
  if Text.len city > maxCityLen then
    throw (.badRequest s!"City must not exceed {maxCityLen} characters")
  if Text.len postalCode > maxPostalCodeLen then
    throw (.badRequest s!"Postal code must not exceed {maxPostalCodeLen} characters")
  if Text.len country > maxCountryLen then
    throw (.badRequest s!"Country must not exceed {maxCountryLen} characters")
  return { street, city, state, postalCode, country }

/-- Check if the address has all required fields populated. -/
def ShippingAddress.isComplete (a : ShippingAddress) : Bool :=
  !a.street.isEmpty && !a.city.isEmpty && !a.postalCode.isEmpty && !a.country.isEmpty

/-- `IdempotencyKey::new` -/
def IdempotencyKey.new (input : String) : Except AppError String := do
  let trimmed := Text.trim input
  if trimmed.isEmpty then
    throw (.badRequest "Idempotency key must not be empty")
  if Text.len trimmed > 255 then
    throw (.badRequest "Idempotency key must not exceed 255 characters")
  return trimmed

def maxOrderQuantity : Int := 9999

/-- `Quantity::new` -/
def Quantity.new (value : Int) : Except AppError Int := do
  if value ≤ 0 then
    throw (.badRequest "Quantity must be greater than 0")
  if value > maxOrderQuantity then
    throw (.badRequest s!"Quantity must not exceed {maxOrderQuantity}")
  return value

/-- `Price::new` -/
def Price.new (value : Decimal) : Except AppError Decimal := do
  if value < 0 then
    throw (.badRequest "Price must not be negative")
  return value

/-- `Currency::new` -/
def Currency.new (input : String) : Except AppError String := do
  let trimmed := Text.toUppercase (Text.trim input)
  if Text.len trimmed ≠ 3 || !trimmed.toList.all Text.isAsciiUppercase then
    throw (.badRequest "Currency must be a 3-letter ISO 4217 code (e.g. USD, KRW)")
  return trimmed

/-! ## Rules -/

inductive OrderCheck where
  | nonEmptyItems
  | minOrderAmount (min : Decimal)
  | maxItemsPerOrder (max : Nat)
  | supportedCurrency
  | shippingAddressComplete
  | positiveItemPrices
  | statusAllowsCancellation
deriving DecidableEq

instance : ToString OrderCheck := ⟨fun
  | .nonEmptyItems => "order must have at least one item"
  | .minOrderAmount v => s!"order total must be at least ${v}"
  | .maxItemsPerOrder n => s!"order must not exceed {n} items"
  | .supportedCurrency => "currency must be supported"
  | .shippingAddressComplete => "shipping address must be complete"
  | .positiveItemPrices => "all item prices must be positive"
  | .statusAllowsCancellation => "order status must allow cancellation"⟩

def minOrderAmount : Decimal := 1
def maxItemsPerOrder : Nat := 100
def supportedCurrencies : List String := ["USD", "KRW", "EUR", "GBP", "JPY"]

def creationRules : Rule OrderCheck :=
  .all ([.nonEmptyItems, .maxItemsPerOrder maxItemsPerOrder, .minOrderAmount minOrderAmount,
    .supportedCurrency, .shippingAddressComplete, .positiveItemPrices].map .check)

def cancellationRules : Rule OrderCheck :=
  .all ([.statusAllowsCancellation].map .check)

structure CreateOrderContext where
  itemCount : Nat
  totalAmount : Decimal
  currency : String
  shippingComplete : Bool
  allPricesPositive : Bool

structure CancellationContext where
  currentStatus : OrderStatus

def evalCreation (ctx : CreateOrderContext) : OrderCheck → Bool
  | .nonEmptyItems => ctx.itemCount > 0
  | .minOrderAmount min => ctx.totalAmount ≥ min
  | .maxItemsPerOrder max => ctx.itemCount ≤ max
  | .supportedCurrency => supportedCurrencies.contains ctx.currency
  | .shippingAddressComplete => ctx.shippingComplete
  | .positiveItemPrices => ctx.allPricesPositive
  | .statusAllowsCancellation => false

def evalCancellation (ctx : CancellationContext) : OrderCheck → Bool
  | .statusAllowsCancellation => ctx.currentStatus.canCancel
  | _ => true

/-! ## Requests -/

structure CreateOrderItemReq where
  productId : Uuid
  skuId : Uuid
  productName : String
  skuCode : String
  quantity : Int
  sellerId : Uuid
  unitPrice : Decimal
deriving DecidableEq

structure CreateOrderReq where
  items : List CreateOrderItemReq
  currency : Option String
  shippingAddress : ShippingAddressReq
deriving DecidableEq

structure ValidCreateOrderItem where
  productId : Uuid
  skuId : Uuid
  productName : String
  skuCode : String
  quantity : Int
  sellerId : Uuid
  unitPrice : Decimal
  totalPrice : Decimal
deriving DecidableEq

structure ValidCreateOrderReq where
  idempotencyKey : String
  currency : String
  shippingAddress : ShippingAddress
  items : List ValidCreateOrderItem
  totalAmount : Decimal
deriving DecidableEq

/-- The loop body of `ValidCreateOrderReq::new`. -/
def ValidCreateOrderItem.new (item : CreateOrderItemReq) :
    Except AppError ValidCreateOrderItem := do
  let quantity ← Quantity.new item.quantity
  let unitPrice ← Price.new item.unitPrice
  let totalPrice := unitPrice * (quantity : Decimal)
  return { productId := item.productId, skuId := item.skuId, productName := item.productName,
           skuCode := item.skuCode, quantity, sellerId := item.sellerId, unitPrice, totalPrice }

def ValidCreateOrderReq.new (idempotencyKey : String) (req : CreateOrderReq) :
    Except AppError ValidCreateOrderReq := do
  let key ← IdempotencyKey.new idempotencyKey
  let currency ← match req.currency with
    | some c => Currency.new c
    | none => pure "USD"
  let shippingAddress ← ShippingAddress.new req.shippingAddress
  if req.items.isEmpty then
    throw (.badRequest "Order must have at least one item")
  let items ← req.items.mapM ValidCreateOrderItem.new
  return { idempotencyKey := key, currency, shippingAddress, items,
           totalAmount := (items.map (·.totalPrice)).sum }

/-! ## Tables -/

structure OrderEntity where
  id : Uuid
  buyerId : Uuid
  status : OrderStatus
  totalAmount : Decimal
  currency : String
  idempotencyKey : String
  shippingAddress : ShippingAddress
  cancelledReason : Option String
deriving DecidableEq

structure OrderItemEntity where
  id : Uuid
  orderId : Uuid
  productId : Uuid
  skuId : Uuid
  productName : String
  skuCode : String
  quantity : Int
  sellerId : Uuid
  unitPrice : Decimal
  totalPrice : Decimal
deriving DecidableEq

structure OrderDb where
  orders : Table OrderEntity.id := .empty
  orderItems : List OrderItemEntity := []
  outbox : List OutboxInsert := []
  uuids : Nat := 0
  /-- every value written to `orders.status`, oldest first -/
  statusWrites : List (Uuid × OrderStatus) := []
deriving DecidableEq

instance : HasOutbox OrderDb where
  outbox := OrderDb.outbox
  setOutbox db rows := { db with outbox := rows }
  node := 0
  uuids := OrderDb.uuids
  setUuids db n := { db with uuids := n }

/-- The row of an order in `orders`. -/
def OrderDb.find? (db : OrderDb) (id : Uuid) : Option OrderEntity :=
  db.orders.find? id

/-! ## Repository -/

namespace Repository

/-- `SELECT * FROM orders WHERE id = $1` -/
def getOrderById (id : Uuid) : Tx AppError OrderDb OrderEntity :=
  Tx.fetchOne (fun e => .notFound s!"Order not found: {e}") rowNotFound (·.find? id)

/-- `SELECT * FROM orders WHERE idempotency_key = $1` -/
def getOrderByIdempotencyKey (key : String) (db : OrderDb) : Option OrderEntity :=
  db.orders.rows.find? (·.idempotencyKey = key)

/-- `INSERT INTO orders ..`, whose `status` defaults to `'pending'`. -/
def insertOrder (buyerId : Uuid) (req : ValidCreateOrderReq) (db : OrderDb) :
    Except String (Uuid × OrderDb) := do
  let totalAmount ← numeric19_4 req.totalAmount
  let currency ← varchar 3 req.currency
  let idempotencyKey ← varchar 255 req.idempotencyKey
  if totalAmount < 0 then
    throw "new row for relation \"orders\" violates check constraint \"chk_orders_total\""
  if db.orders.rows.any (·.idempotencyKey = idempotencyKey) then
    throw "duplicate key value violates unique constraint \"orders_idempotency_key_key\""
  let (id, db) := nowV7 db
  let row : OrderEntity :=
    { id, buyerId, status := .pending, totalAmount, currency, idempotencyKey,
      shippingAddress := req.shippingAddress, cancelledReason := none }
  match db.orders.insert row with
  | none => throw "duplicate key value violates unique constraint \"orders_pkey\""
  | some orders => return (id, { db with orders, statusWrites := db.statusWrites ++ [(id, .pending)] })

/-- `INSERT INTO order_items ..` -/
def insertOrderItem (orderId : Uuid) (item : ValidCreateOrderItem) (db : OrderDb) :
    Except String (Unit × OrderDb) := do
  let productName ← varchar 500 item.productName
  let skuCode ← varchar 100 item.skuCode
  let quantity ← int4 item.quantity
  let unitPrice ← numeric19_4 item.unitPrice
  let totalPrice ← numeric19_4 item.totalPrice
  if quantity ≤ 0 then
    throw "new row for relation \"order_items\" violates check constraint \"chk_quantity\""
  if unitPrice < 0 then
    throw "new row for relation \"order_items\" violates check constraint \"chk_unit_price\""
  if totalPrice < 0 then
    throw "new row for relation \"order_items\" violates check constraint \"chk_total_price\""
  let (id, db) := nowV7 db
  let row : OrderItemEntity :=
    { id, orderId, productId := item.productId, skuId := item.skuId, productName, skuCode,
      quantity, sellerId := item.sellerId, unitPrice, totalPrice }
  return ((), { db with orderItems := db.orderItems ++ [row] })

def createOrder (buyerId : Uuid) (req : ValidCreateOrderReq) : Tx AppError OrderDb Uuid := do
  let orderId ← Tx.statement (fun e => .internalServerError s!"Failed to create order: {e}")
    (insertOrder buyerId req)
  req.items.forM fun item =>
    Tx.statement (fun e => .internalServerError s!"Failed to create order item: {e}")
      (insertOrderItem orderId item)
  return orderId

/-- The columns that `UPDATE orders SET status = $1, ..` writes. `cancelled_reason` is
    written only when a reason is given. -/
def setStatus (status : OrderStatus) (cancelledReason : Option String) (o : OrderEntity) :
    OrderEntity :=
  { o with status, cancelledReason := cancelledReason.or o.cancelledReason }

theorem setStatus_id (status : OrderStatus) (cancelledReason : Option String) (o : OrderEntity) :
    (setStatus status cancelledReason o).id = o.id := rfl

/-- `UPDATE orders SET status = $1, .. WHERE id = ..`, returning the rows affected. -/
def updateStatusWhereId (id : Uuid) (status : OrderStatus) (cancelledReason : Option String)
    (db : OrderDb) : Nat × OrderDb :=
  match db.find? id with
  | none => (0, db)
  | some _ =>
    (1, { db with
            orders := db.orders.modify id (setStatus status cancelledReason)
              (setStatus_id status cancelledReason),
            statusWrites := db.statusWrites ++ [(id, status)] })

def updateOrderStatus (id : Uuid) (status : OrderStatus) (cancelledReason : Option String) :
    Tx AppError OrderDb Unit := do
  let rowsAffected ← Tx.statement
    (fun e => .internalServerError s!"Failed to update order status: {e}")
    (fun db => .ok (updateStatusWhereId id status cancelledReason db))
  -- by the primary key, the assertion that at most one row is affected holds
  if rowsAffected = 0 then
    throw (.notFound "Order not found")

end Repository

/-! ## Service -/

section Service

variable [SerdeJson]

/-- `EventMetadata::new` for an order event, with the causing event if there is one. -/
def newMetadata (eventType : EventType) (orderId : Uuid) (causationId : Option Uuid) :
    Tx AppError OrderDb EventMetadata := do
  let eventId ← Tx.client nowV7
  return { eventId, eventType, aggregateType := .order, aggregateId := orderId,
           sourceService := .order, causationId }

/-- `write_order_outbox`; the service functions inline the same statements. -/
def writeOrderOutbox (orderId : Uuid) (eventType : EventType) (payload : Payload)
    (causationId : Option Uuid) : Tx AppError OrderDb Unit := do
  let metadata ← newMetadata eventType orderId causationId
  insertOutboxEvent { topic := .ordersEvents, envelope := { metadata, payload } }

/-- The payload of `OrderCreated`. -/
def orderCreatedPayload (orderId buyerId : Uuid) (req : ValidCreateOrderReq) : Payload :=
  { orderId := some orderId
    buyerId := some buyerId
    totalAmount := some (.decimal req.totalAmount)
    currency := some req.currency
    items := some (req.items.map fun i =>
      { productId := some i.productId, skuId := some i.skuId, quantity := some i.quantity,
        unitPrice := some (.decimal i.unitPrice) }) }

def createOrder (currentUser : CurrentUser) (idempotencyKey : String) (req : CreateOrderReq)
    (db : OrderDb) : Except AppError (OrderEntity × OrderDb) := do
  let validated ← ValidCreateOrderReq.new idempotencyKey req
  let ctx : CreateOrderContext :=
    { itemCount := validated.items.length
      totalAmount := validated.totalAmount
      currency := validated.currency
      shippingComplete := validated.shippingAddress.isComplete
      allPricesPositive := validated.items.all (·.unitPrice > 0) }
  let result := creationRules.evaluateDetailed (evalCreation ctx)
  if !result.passed then
    throw (OrderError.validationFailed (String.intercalate "; " result.failureMessages)).toAppError
  -- Idempotency: return the existing order if the key was already used
  match Repository.getOrderByIdempotencyKey validated.idempotencyKey db with
  | some existing => return (existing, db)
  | none =>
    let buyerId := currentUser.id
    let tx : Tx AppError OrderDb Uuid := do
      let orderId ← Repository.createOrder buyerId validated
      writeOrderOutbox orderId .orderCreated (orderCreatedPayload orderId buyerId validated) none
      return orderId
    match withTransaction tx db with
    | .error e => throw (.internalServerError s!"Failed to create order: {e}")
    | .ok (orderId, db) =>
      match db.find? orderId with
      | some order => return (order, db)
      | none => throw (.notFound s!"Order not found: {rowNotFound}")

def cancelOrder (currentUser : CurrentUser) (orderId : Uuid) (reason : Option String)
    (db : OrderDb) : Except AppError OrderDb := do
  match db.find? orderId with
  | none => throw (.notFound s!"Order not found: {rowNotFound}")
  | some order =>
    requireAccess currentUser order.buyerId
    let result := cancellationRules.evaluateDetailed
      (evalCancellation { currentStatus := order.status })
    if !result.passed then
      throw (OrderError.cancellationDenied
        (String.intercalate "; " result.failureMessages)).toAppError
    match order.status.transitionTo .cancelled with
    | .error e => throw e.toAppError
    | .ok _ =>
      let cancelReason := reason.getD "Cancelled by buyer"
      let tx : Tx AppError OrderDb Unit := do
        Repository.updateOrderStatus orderId .cancelled (some cancelReason)
        writeOrderOutbox orderId .orderCancelled
          { orderId := some orderId, buyerId := some order.buyerId, reason := some cancelReason }
          none
      match withTransaction tx db with
      | .error e => throw (.internalServerError s!"Failed to cancel order: {e}")
      | .ok (_, db) => return db

/-! ## Consumers -/

/-- `transition_to(..).map_err(|e| AppError::BadRequest(e.to_string()))` -/
def checkTransition (status target : OrderStatus) : Except AppError Unit :=
  match status.transitionTo target with
  | .ok _ => .ok ()
  | .error e => .error (.badRequest (toString e))

/-- Handle InventoryReserved: transition order to InventoryReserved. -/
def handleInventoryReserved (env : EventEnvelope) : Tx AppError OrderDb Unit := do
  let orderId ← Tx.ofExcept env.payloadOrderId
  let order ← Repository.getOrderById orderId
  Tx.ofExcept (checkTransition order.status .inventoryReserved)
  Repository.updateOrderStatus orderId .inventoryReserved none

/-- Handle InventoryReservationFailed: cancel the order. -/
def handleInventoryReservationFailed (env : EventEnvelope) : Tx AppError OrderDb Unit := do
  let orderId ← Tx.ofExcept env.payloadOrderId
  let order ← Repository.getOrderById orderId
  Tx.ofExcept (checkTransition order.status .cancelled)
  let reason := env.payload.reason.getD "Inventory reservation failed"
  Repository.updateOrderStatus orderId .cancelled (some reason)

/-- Handle PaymentAuthorized: transition to PaymentAuthorized, then auto-confirm.
    Writes OrderConfirmed to outbox. -/
def handlePaymentAuthorized (env : EventEnvelope) : Tx AppError OrderDb Unit := do
  let orderId ← Tx.ofExcept env.payloadOrderId
  let order ← Repository.getOrderById orderId
  Tx.ofExcept (checkTransition order.status .paymentAuthorized)
  Repository.updateOrderStatus orderId .paymentAuthorized none
  -- Auto-transition: PaymentAuthorized → Confirmed
  Repository.updateOrderStatus orderId .confirmed none
  writeOrderOutbox orderId .orderConfirmed
    { orderId := some orderId, buyerId := some order.buyerId } (some env.metadata.eventId)

def cancelOrderOnPaymentFailure (env : EventEnvelope) (defaultReason : String) :
    Tx AppError OrderDb Unit := do
  let orderId ← Tx.ofExcept env.payloadOrderId
  let reason := env.payload.reason.getD defaultReason
  let order ← Repository.getOrderById orderId
  Tx.ofExcept (checkTransition order.status .cancelled)
  Repository.updateOrderStatus orderId .cancelled (some reason)
  writeOrderOutbox orderId .orderCancelled
    { orderId := some orderId, buyerId := some order.buyerId, reason := some reason }
    (some env.metadata.eventId)

/-- Handle PaymentFailed: cancel the order. -/
def handlePaymentFailed (env : EventEnvelope) : Tx AppError OrderDb Unit :=
  cancelOrderOnPaymentFailure env "Payment failed"

/-- Handle PaymentTimedOut: cancel the order. -/
def handlePaymentTimedOut (env : EventEnvelope) : Tx AppError OrderDb Unit :=
  cancelOrderOnPaymentFailure env "Payment timed out"

/-- `OrderEventHandler::handle` -/
def handle (env : EventEnvelope) : Tx HandlerError OrderDb Unit :=
  let transient (e : AppError) : HandlerError := .transient (toString e)
  match env.eventType with
  | .inventoryReserved => Tx.mapErr transient (handleInventoryReserved env)
  | .inventoryReservationFailed => Tx.mapErr transient (handleInventoryReservationFailed env)
  | .paymentAuthorized => Tx.mapErr transient (handlePaymentAuthorized env)
  | .paymentFailed => Tx.mapErr transient (handlePaymentFailed env)
  | .paymentTimedOut => Tx.mapErr transient (handlePaymentTimedOut env)
  | _ => pure ()

/-! ## Operations one after the other -/

/-- A request to the order service, or an event delivered to it. -/
inductive Op where
  | createOrder (user : CurrentUser) (idempotencyKey : String) (req : CreateOrderReq)
  | cancelOrder (user : CurrentUser) (orderId : Uuid) (reason : Option String)
  | handle (env : EventEnvelope)

/-- Execute one operation atomically. One that fails is rolled back. -/
def step (db : OrderDb) : Op → Option OrderDb
  | .createOrder user key req =>
    match createOrder user key req db with
    | .ok (_, db') => some db'
    | .error _ => some db
  | .cancelOrder user orderId reason =>
    match cancelOrder user orderId reason db with
    | .ok db' => some db'
    | .error _ => some db
  | .handle env => some (Tx.attempt (handle env) db).db

end Service

end Koupang.Order
