import Koupang.Model.Catalog
import Koupang.Model.ConsumerAttempt

/-!
# The inventory, statement by statement

The reservation code of `catalog/` as programs that send one SQL statement after
the other, so that any number of transactions can interleave. Every function
here is the one of the same name in `Catalog`, cut at its statements.

`SELECT` takes no lock, so `release_reservation` and `confirm_reservation` may go
on with a reservation that another transaction has settled since.
-/

namespace Koupang.Catalog.Interleaving

open ReadCommitted

/-! ## Statements -/

inductive Stmt where
  /-- `UPDATE skus SET reserved_quantity = reserved_quantity + $1 .. AND (..) >= $1` -/
  | reserveSku (skuId : Uuid) (quantity : Int)
  /-- `INSERT INTO inventory_reservations ..` -/
  | insertReservation (orderId skuId : Uuid) (quantity : Int)
  /-- `SELECT .. WHERE order_id = $1 AND sku_id = $2 AND status = 'reserved'` -/
  | findReserved (orderId skuId : Uuid)
  /-- `SELECT .. WHERE order_id = $1 AND status = 'reserved'` -/
  | findAllReserved (orderId : Uuid)
  /-- `UPDATE skus SET reserved_quantity = reserved_quantity - $1 ..` -/
  | releaseSku (skuId : Uuid) (reservation : InventoryReservationEntity)
  /-- `UPDATE skus SET stock_quantity = stock_quantity - $1, reserved_quantity = .. - $1 ..` -/
  | confirmSku (skuId : Uuid) (reservation : InventoryReservationEntity)
  /-- `UPDATE inventory_reservations SET status = $2, .. WHERE id = $1` -/
  | setReservationStatus (id : Uuid) (status : ReservationStatus)
  /-- `Uuid::now_v7()` -/
  | nowV7
  /-- `INSERT INTO outbox_events ..` -/
  | insertOutboxRow (insert : OutboxInsert)
  /-- the transaction of `write_reservation_failed_on_pool` -/
  | writeReservationFailed (orderId : Uuid) (reason : String)
  /-- the statement of `create_sku` -/
  | createSku (stockQuantity : Int)
  /-- the statement of `update_sku` -/
  | updateSku (id : Uuid) (stockQuantity : Option Int)
  /-- the statement of `delete_sku` -/
  | deleteSku (id : Uuid)
  /-- the statement of `adjust_stock` -/
  | adjustStock (skuId : Uuid) (delta : Int)

@[reducible] def Stmt.Result : Stmt → Type
  | .reserveSku .. | .releaseSku .. | .confirmSku .. | .updateSku .. | .deleteSku ..
  | .adjustStock .. => Nat
  | .findReserved .. => Option InventoryReservationEntity
  | .findAllReserved _ => List InventoryReservationEntity
  | .nowV7 | .createSku _ => Uuid
  | .insertReservation .. | .setReservationStatus .. | .insertOutboxRow _
  | .writeReservationFailed .. => Unit

/-- A row that a statement has written. -/
inductive Write where
  /-- a row of `skus`; `settles` says which reservation was taken off its reserved quantity,
      and whether by a release or by a confirmation -/
  | sku (row : Sku) (settles : Option (Uuid × ReservationStatus))
  | reservation (row : InventoryReservationEntity)
  /-- an entry of `uq_reservation_order_sku` -/
  | orderSku (orderId skuId : Uuid)
  | outbox (insert : OutboxInsert)
  /-- a UUID was drawn -/
  | uuid
deriving DecidableEq

/-- What a write locks. -/
inductive Key where
  | sku (id : Uuid)
  | reservation (id : Uuid)
  | orderSku (orderId skuId : Uuid)
  | outbox (eventId : Uuid)
deriving DecidableEq

def Write.key : Write → Option Key
  | .sku row _ => some (.sku row.id)
  | .reservation row => some (.reservation row.id)
  | .orderSku orderId skuId => some (.orderSku orderId skuId)
  | .outbox insert => some (.outbox insert.envelope.metadata.eventId)
  | .uuid => none

def Write.apply (db : CatalogDb) : Write → CatalogDb
  | .sku row _ => { db with skus := db.skus.set row }
  | .reservation row => { db with inventoryReservations := db.inventoryReservations.set row }
  | .orderSku _ _ => db
  | .outbox insert => { db with outbox := db.outbox ++ [insert] }
  | .uuid => { db with uuids := db.uuids + 1 }

/-- `UPDATE skus SET .. WHERE id = $id AND deleted_at IS NULL AND ..` -/
def execUpdateSku (id : Uuid) (cond : Sku → Bool) (set : Sku → Sku)
    (settles : Option (Uuid × ReservationStatus)) (db : CatalogDb) :
    Except String (Nat × List Write) :=
  match db.skus.find? id with
  | none => .ok (0, [])
  | some sku =>
    if !sku.deleted && cond sku then do
      let _ ← (set sku).check
      return (1, [.sku (set sku) settles])
    else .ok (0, [])

def execInsertReservation (orderId skuId : Uuid) (quantity : Int) (db : CatalogDb) :
    Except String (Unit × List Write) := do
  let quantity ← int4 quantity
  if quantity ≤ 0 then
    throw "new row violates check constraint \"chk_reservation_quantity\""
  if (db.skus.find? skuId).isNone then
    throw "insert violates foreign key constraint \"inventory_reservations_sku_id_fkey\""
  if db.inventoryReservations.rows.any (fun r => r.orderId = orderId && r.skuId = skuId) then
    throw "duplicate key value violates unique constraint \"uq_reservation_order_sku\""
  let id := (nowV7 db).1
  if (db.inventoryReservations.find? id).isSome then
    throw "duplicate key value violates unique constraint \"inventory_reservations_pkey\""
  return ((), [.uuid, .orderSku orderId skuId,
    .reservation { id, orderId, skuId, quantity, status := .reserved }])

def execSetReservationStatus (id : Uuid) (status : ReservationStatus) (db : CatalogDb) :
    List Write :=
  match db.inventoryReservations.find? id with
  | none => []
  | some r => [.reservation { r with status }]

def execCreateSku (stockQuantity : Int) (db : CatalogDb) : Except String (Uuid × List Write) := do
  let id := (nowV7 db).1
  let row ← ({ id, stockQuantity, reservedQuantity := 0, deleted := false } : Sku).check
  if (db.skus.find? id).isSome then
    throw "duplicate key value violates unique constraint \"skus_pkey\""
  return (id, [.uuid, .sku row none])

/-- The event that `write_reservation_failed_on_pool` inserts. -/
def reservationFailed (orderId : Uuid) (reason : String) (eventId : Uuid) : OutboxInsert :=
  { topic := .catalogEvents
    envelope :=
      { metadata :=
          { eventId, eventType := .inventoryReservationFailed, aggregateType := .inventory,
            aggregateId := orderId, sourceService := .catalog }
        payload := { orderId := some orderId, reason := some reason } } }

section Service

variable [SerdeJson]

def execWriteReservationFailed (orderId : Uuid) (reason : String) (db : CatalogDb) :
    Except String (Unit × List Write) :=
  let insert := reservationFailed orderId reason (nowV7 db).1
  let payloadBytes := SerdeJson.payloadBytes insert.envelope
  if payloadBytes > maxPayloadBytes then
    .error (toString (AppError.badRequest
      s!"Outbox payload too large: {payloadBytes} bytes exceeds {maxPayloadBytes} byte limit"))
  else .ok ((), [.uuid, .outbox insert])

def Stmt.exec (s : Stmt) (_ : Unit) (db : CatalogDb) : Except String (s.Result × List Write) :=
  match s with
  | .reserveSku skuId quantity =>
    execUpdateSku skuId (fun s => s.stockQuantity - s.reservedQuantity ≥ quantity)
      (fun s => { s with reservedQuantity := s.reservedQuantity + quantity }) none db
  | .insertReservation orderId skuId quantity => execInsertReservation orderId skuId quantity db
  | .findReserved orderId skuId => .ok (Repository.findReserved orderId skuId db, [])
  | .findAllReserved orderId => .ok (Repository.findAllReserved orderId db, [])
  | .releaseSku skuId r =>
    execUpdateSku skuId (fun _ => true)
      (fun s => { s with reservedQuantity := s.reservedQuantity - r.quantity })
      (some (r.id, .released)) db
  | .confirmSku skuId r =>
    execUpdateSku skuId (fun _ => true)
      (fun s => { s with stockQuantity := s.stockQuantity - r.quantity
                         reservedQuantity := s.reservedQuantity - r.quantity })
      (some (r.id, .confirmed)) db
  | .setReservationStatus id status => .ok ((), execSetReservationStatus id status db)
  | .nowV7 => .ok ((Koupang.nowV7 db).1, [.uuid])
  | .insertOutboxRow insert => .ok ((), [.outbox insert])
  | .writeReservationFailed orderId reason => execWriteReservationFailed orderId reason db
  | .createSku stockQuantity => execCreateSku stockQuantity db
  | .updateSku id stockQuantity =>
    execUpdateSku id (fun _ => true)
      (fun s => { s with stockQuantity := stockQuantity.getD s.stockQuantity }) none db
  | .deleteSku id => execUpdateSku id (fun _ => true) (fun s => { s with deleted := true }) none db
  | .adjustStock skuId delta =>
    execUpdateSku skuId (fun s => s.stockQuantity + delta ≥ 0)
      (fun s => { s with stockQuantity := s.stockQuantity + delta }) none db

/-- The catalog's tables. -/
abbrev catalogSql : Database CatalogDb where
  Stmt := Stmt
  Result := Stmt.Result
  Input := Unit
  Write := Write
  Key := Key
  exec := Stmt.exec
  apply := Write.apply
  key := Write.key

abbrev Program (ε α : Type) := Prog catalogSql ε α

/-- Send a statement on the transaction. -/
def send {ε : Type} (onError : String → ε) (s : Stmt) : Program ε s.Result :=
  Prog.send (D := catalogSql) .tx onError s

/-! ## Inventory repository -/

def reserveInventory (orderId skuId : Uuid) (quantity : Int) : Program AppError Unit := do
  let rowsAffected : Nat ← send
    (fun e => .internalServerError s!"Failed to reserve inventory: {e}")
    (.reserveSku skuId quantity)
  if rowsAffected = 0 then
    Prog.fail (.badRequest s!"Insufficient stock for SKU {skuId}")
  else
    send (fun e => .internalServerError s!"Failed to insert reservation: {e}")
      (.insertReservation orderId skuId quantity)

/-- `SELECT .. WHERE order_id = $1 AND sku_id = $2 AND status = 'reserved'`, one row. -/
def fetchReserved (orderId skuId : Uuid) : Program AppError InventoryReservationEntity :=
  Prog.fetchOne (D := catalogSql) (fun e => .notFound s!"Reservation not found: {e}") rowNotFound
    (Stmt.findReserved orderId skuId) id

def releaseReservation (orderId skuId : Uuid) : Program AppError Unit := do
  let reservation ← fetchReserved orderId skuId
  let _ ← send (fun e => .internalServerError s!"Failed to release reserved stock: {e}")
    (.releaseSku skuId reservation)
  send (fun e => .internalServerError s!"Failed to release reservation: {e}")
    (.setReservationStatus reservation.id .released)

def confirmReservation (orderId skuId : Uuid) : Program AppError Unit := do
  let reservation ← fetchReserved orderId skuId
  let _ ← send
    (fun e =>
      if e = chkSkusStock then
        .badRequest (s!"Cannot confirm reservation for SKU {skuId}: " ++
          "stock was reduced below reserved quantity")
      else .internalServerError s!"Failed to confirm stock: {e}")
    (.confirmSku skuId reservation)
  send (fun e => .internalServerError s!"Failed to confirm reservation: {e}")
    (.setReservationStatus reservation.id .confirmed)

def releaseAllReservations (orderId : Uuid) : Program AppError Unit := do
  let reservations ← send (fun e => .internalServerError s!"Failed to find reservations: {e}")
    (.findAllReserved orderId)
  Prog.forEach (fun reservation => releaseReservation orderId reservation.skuId)
    (reservations : List InventoryReservationEntity)

/-! ## Inventory service -/

def insertOutboxEvent (insert : OutboxInsert) : Program AppError Unit :=
  let payloadBytes := SerdeJson.payloadBytes insert.envelope
  if payloadBytes > maxPayloadBytes then
    Prog.fail (.badRequest
      s!"Outbox payload too large: {payloadBytes} bytes exceeds {maxPayloadBytes} byte limit")
  else send .internalServerError (.insertOutboxRow insert)

def newMetadata (eventType : EventType) (orderId : Uuid) : Program AppError EventMetadata := do
  let eventId ← Prog.send (D := catalogSql) .client .internalServerError Stmt.nowV7
  return { eventId, eventType, aggregateType := .inventory, aggregateId := orderId,
           sourceService := .catalog }

def doReserveAndWriteEvent (orderId buyerId : Uuid) (totalAmount : DecimalText)
    (currency : String) (items : List ReservationItem) : Program AppError Unit := do
  Prog.forEach (fun (skuId, quantity) => reserveInventory orderId skuId quantity) items
  let metadata ← newMetadata .inventoryReserved orderId
  let payload : Payload :=
    { orderId := some orderId
      buyerId := some buyerId
      totalAmount := some totalAmount
      currency := some currency
      items := some (items.map fun (skuId, quantity) =>
        { skuId := some skuId, quantity := some quantity }) }
  insertOutboxEvent { topic := .catalogEvents, envelope := { metadata, payload } }

def writeReservationFailedOnPool (orderId : Uuid) (reason : String) : Program AppError Unit :=
  Prog.send (D := catalogSql) .pool
    (fun e => .internalServerError s!"Failed to write event: {e}")
    (Stmt.writeReservationFailed orderId reason)

def reserveForOrderOnTx (orderId buyerId : Uuid) (totalAmount : DecimalText)
    (currency : String) (items : List ReservationItem) : Program AppError Unit := do
  match ← (doReserveAndWriteEvent orderId buyerId totalAmount currency items).attempt with
  | .ok a => return a
  | .error e =>
    writeReservationFailedOnPool orderId (toString e)
    Prog.fail e

def releaseForOrderOnTx (orderId : Uuid) : Program AppError Unit := releaseAllReservations orderId

/-- Confirm all reservations for an order, in a transaction of its own. -/
def confirmForOrder (orderId : Uuid) (items : List ReservationItem) : Program AppError Unit :=
  Prog.forEach (fun (skuId, _) => confirmReservation orderId skuId) items

/-! ## Seller's stock operations -/

/-- A statement that must affect a row. -/
def affecting (s : Stmt) (onError : String → AppError) (e : AppError)
    (rows : s.Result → Nat) : Program AppError Unit := do
  let rowsAffected ← send onError s
  if rows rowsAffected = 0 then
    Prog.fail e

def stockOp : StockOp → Program AppError Unit
  | .createSku stockQuantity => do
    let _ ← send (fun e => .internalServerError s!"Failed to create SKU: {e}")
      (.createSku stockQuantity)
  | .updateSku skuId req =>
    if req.stockQuantity.isNone && !req.otherFields then pure ()
    else affecting (.updateSku skuId req.stockQuantity)
      (fun e => .internalServerError s!"Failed to update SKU: {e}") (.notFound "SKU not found") id
  | .deleteSku skuId =>
    affecting (.deleteSku skuId) (fun e => .internalServerError s!"Failed to delete SKU: {e}")
      (.notFound "SKU not found") id
  | .adjustStock skuId delta =>
    affecting (.adjustStock skuId delta)
      (fun e => .internalServerError s!"Failed to adjust stock: {e}")
      (.badRequest "SKU not found or insufficient stock") id

/-! ## Consumers -/

def handleOrderCreated (env : EventEnvelope) : Program HandlerError Unit := do
  let permanent (e : AppError) : HandlerError := .permanent (toString e)
  let orderId ← (Prog.ofExcept env.payloadOrderId).mapErr permanent
  let buyerId ← (Prog.ofExcept env.payloadBuyerId).mapErr permanent
  let totalAmount := env.payload.totalAmount.getD (.decimal 0)
  let currency := env.payload.currency.getD "USD"
  let items ← Prog.ofExcept (parseItems env.payload)
  (reserveForOrderOnTx orderId buyerId totalAmount currency items).mapErr
    fun e => .permanent s!"Inventory reservation failed: {e}"

/-- A failed release is only logged. -/
def handleOrderCancelled (env : EventEnvelope) : Program AppError Unit := do
  let orderId ← Prog.ofExcept env.payloadOrderId
  let _ ← (releaseForOrderOnTx orderId).attempt

/-- `CatalogEventHandler::handle` -/
def handle (env : EventEnvelope) : Program HandlerError Unit :=
  match env.eventType with
  | .orderCreated => handleOrderCreated env
  | .orderCancelled => (handleOrderCancelled env).mapErr fun e => .transient (toString e)
  | _ => pure ()

/-! ## Requests -/

inductive Request where
  /-- one attempt of the consumer at an event -/
  | consume (env : EventEnvelope)
  /-- `reserve_for_order`; the failure event is written on the pool -/
  | reserveForOrder (orderId buyerId : Uuid) (totalAmount : DecimalText) (currency : String)
    (items : List ReservationItem)
  | releaseForOrder (orderId : Uuid)
  | confirmForOrder (orderId : Uuid) (items : List ReservationItem)
  | stock (op : StockOp)

/-- The tables of the catalog, with `processed_events`. -/
abbrev consumerSql : Database (Consumer.Tables CatalogDb) := Consumer.withProcessedEvents catalogSql

/-- `with_transaction` -/
def ownTransaction (x : Program AppError Unit) :
    Prog consumerSql Consumer.AttemptResult Consumer.AttemptResult := do
  (Consumer.onTables x).mapErr fun _ => .dbError
  return .committed

/-- `(event_id, consumer_group)` of an event for the catalog's consumers. -/
def processedKey (env : EventEnvelope) : Consumer.ProcessedKey :=
  (env.metadata.eventId, "catalog-service")

def program : Request → Prog consumerSql Consumer.AttemptResult Consumer.AttemptResult
  | .consume env => Consumer.tryProcessOnceOnTx (handle env) (processedKey env)
  | .reserveForOrder orderId buyerId totalAmount currency items =>
    ownTransaction (reserveForOrderOnTx orderId buyerId totalAmount currency items)
  | .releaseForOrder orderId => ownTransaction (releaseForOrderOnTx orderId)
  | .confirmForOrder orderId items => ownTransaction (confirmForOrder orderId items)
  | .stock op => ownTransaction (stockOp op)

abbrev State := ReadCommitted.State consumerSql Request Consumer.AttemptResult
  Consumer.AttemptResult

abbrev Label := ReadCommitted.Label consumerSql Request

/-- The catalog: any number of requests, statement by statement. -/
def step (s : State) (a : Label) : Option State := ReadCommitted.step program s a

end Service

end Koupang.Catalog.Interleaving
