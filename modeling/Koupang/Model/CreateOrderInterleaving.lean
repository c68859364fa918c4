import Koupang.ForStd.ReadCommitted
import Koupang.Model.Order

/-!
# Creating orders, statement by statement

`create_order` looks the idempotency key up on the pool, inserts the order in a
transaction of its own, and reads it back on the pool after the commit. Here any
number of calls of one buyer with one key and one request interleave. Nothing
but the unique key of `orders` joins the lookup and the `INSERT`: an `INSERT`
of a key that another transaction has inserted waits for that transaction, and
fails once it is committed.
-/

namespace Koupang.Order.Creation

open ReadCommitted

/-! ## Statements -/

inductive Stmt where
  /-- `INSERT INTO orders .. RETURNING id` -/
  | insertOrder (buyerId : Uuid) (req : ValidCreateOrderReq)
  /-- `INSERT INTO order_items ..` -/
  | insertOrderItem (orderId : Uuid) (item : ValidCreateOrderItem)
  /-- `Uuid::now_v7()` -/
  | nowV7
  /-- `INSERT INTO outbox_events ..` -/
  | insertOutboxRow (insert : OutboxInsert)

@[reducible] def Stmt.Result : Stmt → Type
  | .insertOrder .. | .nowV7 => Uuid
  | .insertOrderItem .. | .insertOutboxRow _ => Unit

inductive Write where
  | order (row : OrderEntity)
  /-- an entry of the unique index on `orders.idempotency_key` -/
  | idempotencyKey (key : String)
  | orderItem (row : OrderItemEntity)
  | outbox (insert : OutboxInsert)
  /-- a UUID was drawn -/
  | uuid
deriving DecidableEq

/-- What a write locks. -/
inductive Key where
  | order (id : Uuid)
  | idempotencyKey (key : String)
  | orderItem (id : Uuid)
  | outbox (eventId : Uuid)
deriving DecidableEq

def Write.key : Write → Option Key
  | .order row => some (.order row.id)
  | .idempotencyKey key => some (.idempotencyKey key)
  | .orderItem row => some (.orderItem row.id)
  | .outbox insert => some (.outbox insert.envelope.metadata.eventId)
  | .uuid => none

def Write.apply (db : OrderDb) : Write → OrderDb
  | .order row => { db with orders := db.orders.set row
                            statusWrites := db.statusWrites ++ [(row.id, row.status)] }
  | .idempotencyKey _ => db
  | .orderItem row => { db with orderItems := db.orderItems ++ [row] }
  | .outbox insert => { db with outbox := db.outbox ++ [insert] }
  | .uuid => { db with uuids := db.uuids + 1 }

def execInsertOrder (buyerId : Uuid) (req : ValidCreateOrderReq) (db : OrderDb) :
    Except String (Uuid × List Write) := do
  let totalAmount ← numeric19_4 req.totalAmount
  let currency ← varchar 3 req.currency
  let idempotencyKey ← varchar 255 req.idempotencyKey
  if totalAmount < 0 then
    throw "new row for relation \"orders\" violates check constraint \"chk_orders_total\""
  if db.orders.rows.any (·.idempotencyKey = idempotencyKey) then
    throw "duplicate key value violates unique constraint \"orders_idempotency_key_key\""
  let id := (Koupang.nowV7 db).1
  if (db.orders.find? id).isSome then
    throw "duplicate key value violates unique constraint \"orders_pkey\""
  return (id, [.uuid, .idempotencyKey idempotencyKey, .order
    { id, buyerId, status := .pending, totalAmount, currency, idempotencyKey,
      shippingAddress := req.shippingAddress, cancelledReason := none }])

def execInsertOrderItem (orderId : Uuid) (item : ValidCreateOrderItem) (db : OrderDb) :
    Except String (Unit × List Write) := do
  let productName ← varchar 500 item.productName
  let skuCode ← varchar 100 item.skuCode
  let quantity ← int4 item.quantity
  let unitPrice ← numeric19_4 item.unitPrice
  let totalPrice ← numeric19_4 item.totalPrice
  if quantity ≤ 0 then
    throw "new row for relation \"order_items\" violates check constraint \"chk_quantity\""
  if unitPrice < 0 then
    throw "new row for relation \"order_items\" violates check constraint \"chk_unit_price\""
  if totalPrice < 0 then
    throw "new row for relation \"order_items\" violates check constraint \"chk_total_price\""
  return ((), [.uuid, .orderItem
    { id := (Koupang.nowV7 db).1, orderId, productId := item.productId, skuId := item.skuId,
      productName, skuCode, quantity, sellerId := item.sellerId, unitPrice, totalPrice }])

def Stmt.exec (s : Stmt) (_ : Unit) (db : OrderDb) : Except String (s.Result × List Write) :=
  match s with
  | .insertOrder buyerId req => execInsertOrder buyerId req db
  | .insertOrderItem orderId item => execInsertOrderItem orderId item db
  | .nowV7 => .ok ((Koupang.nowV7 db).1, [.uuid])
  | .insertOutboxRow insert => .ok ((), [.outbox insert])

/-- The tables of the order service. -/
abbrev orderSql : Database OrderDb where
  Stmt := Stmt
  Result := Stmt.Result
  Input := Unit
  Write := Write
  Key := Key
  exec := Stmt.exec
  apply := Write.apply
  key := Write.key

abbrev Program (ε α : Type) := Prog orderSql ε α

/-- Send a statement on the transaction. -/
def send {ε : Type} (onError : String → ε) (s : Stmt) : Program ε s.Result :=
  Prog.send (D := orderSql) .tx onError s

/-! ## Repository and outbox -/

def insertOrderItem (orderId : Uuid) (item : ValidCreateOrderItem) : Program AppError Unit :=
  send (fun e => .internalServerError s!"Failed to create order item: {e}")
    (.insertOrderItem orderId item)

def createOrder (buyerId : Uuid) (req : ValidCreateOrderReq) : Program AppError Uuid := do
  let orderId ← send (fun e => .internalServerError s!"Failed to create order: {e}")
    (.insertOrder buyerId req)
  Prog.forEach (insertOrderItem orderId) req.items
  return orderId

section Service

variable [SerdeJson]

def insertOutboxEvent (insert : OutboxInsert) : Program AppError Unit :=
  let payloadBytes := SerdeJson.payloadBytes insert.envelope
  if payloadBytes > maxPayloadBytes then
    Prog.fail (.badRequest
      s!"Outbox payload too large: {payloadBytes} bytes exceeds {maxPayloadBytes} byte limit")
  else send .internalServerError (.insertOutboxRow insert)

/-- The `OrderCreated` event with a given identifier. -/
def orderCreated (eventId orderId buyerId : Uuid) (req : ValidCreateOrderReq) : OutboxInsert where
  topic := .ordersEvents
  envelope :=
    { metadata := { eventId, eventType := .orderCreated, aggregateType := .order
                    aggregateId := orderId, sourceService := .order }
      payload := orderCreatedPayload orderId buyerId req }

/-- The closure that `create_order` passes to `with_transaction`. -/
def program (buyerId : Uuid) (req : ValidCreateOrderReq) : Program AppError Uuid := do
  let orderId ← createOrder buyerId req
  let eventId ← Prog.send (D := orderSql) .client .internalServerError Stmt.nowV7
  insertOutboxEvent (orderCreated eventId orderId buyerId req)
  return orderId

/-! ## Concurrent calls -/

/-- What `create_order` does before it touches the database. -/
def validateRequest (idempotencyKey : String) (req : CreateOrderReq) :
    Except AppError ValidCreateOrderReq := do
  let validated ← ValidCreateOrderReq.new idempotencyKey req
  let ctx : CreateOrderContext :=
    { itemCount := validated.items.length
      totalAmount := validated.totalAmount
      currency := validated.currency
      shippingComplete := validated.shippingAddress.isComplete
      allPricesPositive := validated.items.all (·.unitPrice > 0) }
  let result := creationRules.evaluateDetailed (evalCreation ctx)
  if !result.passed then
    throw (OrderError.validationFailed (String.intercalate "; " result.failureMessages)).toAppError
  return validated

/-- How far a call of `create_order` has come. -/
inductive Call where
  /-- the key was not found; the call is in its transaction -/
  | running
  /-- the transaction was committed -/
  | committed (orderId : Uuid)
  | returned (result : Except AppError OrderEntity)

structure State where
  /-- the tables, and the transaction of each running call under the call's number -/
  sql : ReadCommitted.State orderSql ValidCreateOrderReq AppError Uuid
  calls : Nat → Option Call := fun _ => none

inductive Label where
  /-- call `i` begins: it validates the request and looks the key up on the pool -/
  | lookup (i : Nat)
  /-- call `i` executes the next statement of its transaction -/
  | exec (i : Nat)
  /-- `with_transaction` of call `i` commits or rolls back -/
  | finish (i : Nat)
  /-- `get_order_by_id` of call `i`, on the pool -/
  | fetch (i : Nat)

namespace State

def setCall (s : State) (i : Nat) (c : Call) : State :=
  { s with calls := Function.update s.calls i (some c) }

end State

/-- One step of the calls of one user with one key and one request. -/
def step (user : CurrentUser) (key : String) (req : CreateOrderReq) (s : State) :
    Label → Option State
  | .lookup i =>
    if (s.calls i).isSome then none
    else match validateRequest key req with
      | .error e => some (s.setCall i (.returned (.error e)))
      | .ok validated =>
        match Repository.getOrderByIdempotencyKey validated.idempotencyKey s.sql.committed with
        | some existing => some (s.setCall i (.returned (.ok existing)))
        | none =>
          (ReadCommitted.step (program user.id) s.sql (.start i validated)).map fun sql =>
            { s with sql }.setCall i .running
  | .exec i =>
    (ReadCommitted.step (program user.id) s.sql (.exec i ())).map fun sql => { s with sql }
  | .finish i =>
    match s.sql.sessions.find? i with
    | none => none
    | some se =>
      match se.prog with
      | .stmt .. => none
      | .done (.ok orderId) =>
        (ReadCommitted.step (program user.id) s.sql (.commit i)).map fun sql =>
          { s with sql }.setCall i (.committed orderId)
      | .done (.error e) =>
        (ReadCommitted.step (program user.id) s.sql (.rollback i)).map fun sql =>
          { s with sql }.setCall i (.returned
            (.error (.internalServerError s!"Failed to create order: {e}")))
  | .fetch i =>
    match s.calls i with
    | some (.committed orderId) =>
      match s.sql.committed.find? orderId with
      | some order => some (s.setCall i (.returned (.ok order)))
      | none =>
        some (s.setCall i (.returned (.error (.notFound s!"Order not found: {rowNotFound}"))))
    | _ => none

/-- No call has begun. -/
def start (db : OrderDb) : State := { sql := { committed := db } }

end Service

end Koupang.Order.Creation
