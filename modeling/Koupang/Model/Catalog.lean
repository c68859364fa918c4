import Koupang.ForStd.Table
import Koupang.Model.Shared

/-!
# Catalog service: inventory

The model of the inventory part of `catalog/`: the SQL statements on `skus` and
`inventory_reservations` with their constraints, the reservation service, the
seller's stock operations, and the event handlers of the consumer.

A statement that violates a constraint aborts the consumer's transaction, so
`handle_order_cancelled`, which only logs a failed release, still leaves the
transaction unable to commit then.
-/

namespace Koupang.Catalog

/-! ## Tables -/

inductive ReservationStatus where
  | reserved
  | released
  | confirmed
deriving DecidableEq, Repr

structure Sku where
  id : Uuid
  stockQuantity : Int
  reservedQuantity : Int
  /-- `deleted_at IS NOT NULL` -/
  deleted : Bool
deriving DecidableEq, Repr

structure InventoryReservationEntity where
  id : Uuid
  orderId : Uuid
  skuId : Uuid
  quantity : Int
  status : ReservationStatus
deriving DecidableEq, Repr

structure CatalogDb where
  skus : Table Sku.id := .empty
  inventoryReservations : Table InventoryReservationEntity.id := .empty
  outbox : List OutboxInsert := []
  uuids : Nat := 0
deriving DecidableEq

instance : HasOutbox CatalogDb where
  outbox := CatalogDb.outbox
  setOutbox db rows := { db with outbox := rows }
  node := 1
  uuids := CatalogDb.uuids
  setUuids db n := { db with uuids := n }

/-- What the server answers when `stock_quantity` would become negative. -/
def chkSkusStock : String :=
  "new row for relation \"skus\" violates check constraint \"chk_skus_stock\""

/-- `INTEGER` range and `CHECK` constraints of a row of `skus`; the constraints are
    checked in the order of their names. -/
def Sku.check (sku : Sku) : Except String Sku := do
  let _ ← int4 sku.stockQuantity
  let _ ← int4 sku.reservedQuantity
  if sku.reservedQuantity < 0 then
    throw "new row for relation \"skus\" violates check constraint \"chk_reserved_quantity\""
  if sku.stockQuantity < 0 then
    throw chkSkusStock
  return sku

/-- `UPDATE skus SET .. WHERE id = $id AND deleted_at IS NULL AND ..`,
    returning the rows affected. -/
def updateSku (id : Uuid) (cond : Sku → Bool) (set : Sku → Sku) (hset : ∀ s, (set s).id = s.id)
    (db : CatalogDb) : Except String (Nat × CatalogDb) :=
  match db.skus.find? id with
  | none => .ok (0, db)
  | some sku =>
    if !sku.deleted && cond sku then do
      let _ ← (set sku).check
      return (1, { db with skus := db.skus.modify id set hset })
    else .ok (0, db)

/-! ## Inventory repository -/

namespace Repository

/-- `UPDATE skus SET reserved_quantity = reserved_quantity + $1 .. WHERE ..
    AND (stock_quantity - reserved_quantity) >= $1` -/
def reserveSku (skuId : Uuid) (quantity : Int) : CatalogDb → Except String (Nat × CatalogDb) :=
  updateSku skuId (fun s => s.stockQuantity - s.reservedQuantity ≥ quantity)
    (fun s => { s with reservedQuantity := s.reservedQuantity + quantity }) fun _ => rfl

/-- `INSERT INTO inventory_reservations ..`, whose `status` defaults to `'reserved'`. -/
def insertReservation (orderId skuId : Uuid) (quantity : Int) (db : CatalogDb) :
    Except String (Unit × CatalogDb) := do
  let quantity ← int4 quantity
  if quantity ≤ 0 then
    throw "new row violates check constraint \"chk_reservation_quantity\""
  if (db.skus.find? skuId).isNone then
    throw "insert violates foreign key constraint \"inventory_reservations_sku_id_fkey\""
  if db.inventoryReservations.rows.any (fun r => r.orderId = orderId && r.skuId = skuId) then
    throw "duplicate key value violates unique constraint \"uq_reservation_order_sku\""
  let (id, db) := nowV7 db
  let row : InventoryReservationEntity := { id, orderId, skuId, quantity, status := .reserved }
  match db.inventoryReservations.insert row with
  | none => throw "duplicate key value violates unique constraint \"inventory_reservations_pkey\""
  | some inventoryReservations => return ((), { db with inventoryReservations })

/-- Reserve inventory for an order: check the available quantity, increment
    `reserved_quantity` and insert a reservation record. -/
def reserveInventory (orderId skuId : Uuid) (quantity : Int) : Tx AppError CatalogDb Unit := do
  let rowsAffected ← Tx.statement
    (fun e => .internalServerError s!"Failed to reserve inventory: {e}")
    (reserveSku skuId quantity)
  if rowsAffected = 0 then
    throw (.badRequest s!"Insufficient stock for SKU {skuId}")
  Tx.statement (fun e => .internalServerError s!"Failed to insert reservation: {e}")
    (insertReservation orderId skuId quantity)

/-- `SELECT * .. WHERE order_id = $1 AND sku_id = $2 AND status = 'reserved'` -/
def findReserved (orderId skuId : Uuid) (db : CatalogDb) : Option InventoryReservationEntity :=
  db.inventoryReservations.rows.find? fun r =>
    r.orderId = orderId && r.skuId = skuId && r.status = .reserved

/-- `UPDATE inventory_reservations SET status = $2, .. WHERE id = $1` -/
def setReservationStatus (id : Uuid) (status : ReservationStatus) (db : CatalogDb) : CatalogDb :=
  { db with inventoryReservations :=
      db.inventoryReservations.modify id (fun r => { r with status }) fun _ => rfl }

/-- Release a reservation: decrement `reserved_quantity` and mark it released. -/
def releaseReservation (orderId skuId : Uuid) : Tx AppError CatalogDb Unit := do
  let reservation ← Tx.fetchOne (fun e => .notFound s!"Reservation not found: {e}") rowNotFound
    (findReserved orderId skuId)
  let _ ← Tx.statement (fun e => .internalServerError s!"Failed to release reserved stock: {e}")
    (updateSku skuId (fun _ => true)
      (fun s => { s with reservedQuantity := s.reservedQuantity - reservation.quantity })
      fun _ => rfl)
  Tx.statement (fun e => .internalServerError s!"Failed to release reservation: {e}")
    fun db => .ok ((), setReservationStatus reservation.id .released db)

/-- Confirm a reservation: decrement both `stock_quantity` and `reserved_quantity`. The
    seller may have lowered the stock while the order was in flight; that error of the
    `CHECK` constraint has a message of its own. -/
def confirmReservation (orderId skuId : Uuid) : Tx AppError CatalogDb Unit := do
  let reservation ← Tx.fetchOne (fun e => .notFound s!"Reservation not found: {e}") rowNotFound
    (findReserved orderId skuId)
  let _ ← Tx.statement
    (fun e =>
      if e = chkSkusStock then
        .badRequest (s!"Cannot confirm reservation for SKU {skuId}: " ++
          "stock was reduced below reserved quantity")
      else .internalServerError s!"Failed to confirm stock: {e}")
    (updateSku skuId (fun _ => true)
      (fun s => { s with stockQuantity := s.stockQuantity - reservation.quantity
                         reservedQuantity := s.reservedQuantity - reservation.quantity })
      fun _ => rfl)
  Tx.statement (fun e => .internalServerError s!"Failed to confirm reservation: {e}")
    fun db => .ok ((), setReservationStatus reservation.id .confirmed db)

/-- `SELECT * FROM inventory_reservations WHERE order_id = $1 AND status = 'reserved'` -/
def findAllReserved (orderId : Uuid) (db : CatalogDb) : List InventoryReservationEntity :=
  db.inventoryReservations.rows.filter fun r => r.orderId = orderId && r.status = .reserved

/-- Release all reservations for an order (multi-SKU cancellation). -/
def releaseAllReservations (orderId : Uuid) : Tx AppError CatalogDb Unit := do
  let reservations ← Tx.statement
    (fun e => .internalServerError s!"Failed to find reservations: {e}")
    fun db => .ok (findAllReserved orderId db, db)
  reservations.forM fun reservation => releaseReservation orderId reservation.skuId

end Repository

/-! ## Seller's stock operations -/

namespace Products

/-- `INSERT INTO skus ..`; `reserved_quantity` defaults to 0. -/
def createSku (stockQuantity : Int) : Tx AppError CatalogDb Uuid :=
  Tx.statement (fun e => .internalServerError s!"Failed to create SKU: {e}") fun db => do
    let (id, db) := nowV7 db
    let row ← ({ id, stockQuantity, reservedQuantity := 0, deleted := false } : Sku).check
    match db.skus.insert row with
    | none => throw "duplicate key value violates unique constraint \"skus_pkey\""
    | some skus => return (id, { db with skus })

/-- A request to `update_sku`. Of the fields it may set, the inventory sees
    `stock_quantity` only. -/
structure ValidUpdateSkuReq where
  stockQuantity : Option Int
  /-- `price`, `attributes` or `status` is set -/
  otherFields : Bool
deriving DecidableEq, Repr

def updateSku (id : Uuid) (req : ValidUpdateSkuReq) : Tx AppError CatalogDb Unit := do
  if req.stockQuantity.isNone && !req.otherFields then
    return ()
  let rowsAffected ← Tx.statement (fun e => .internalServerError s!"Failed to update SKU: {e}")
    (Catalog.updateSku id (fun _ => true)
      (fun s => { s with stockQuantity := req.stockQuantity.getD s.stockQuantity }) fun _ => rfl)
  if rowsAffected = 0 then
    throw (.notFound "SKU not found")

def deleteSku (id : Uuid) : Tx AppError CatalogDb Unit := do
  let rowsAffected ← Tx.statement (fun e => .internalServerError s!"Failed to delete SKU: {e}")
    (Catalog.updateSku id (fun _ => true) (fun s => { s with deleted := true }) fun _ => rfl)
  if rowsAffected = 0 then
    throw (.notFound "SKU not found")

def adjustStock (skuId : Uuid) (delta : Int) : Tx AppError CatalogDb Unit := do
  let rowsAffected ← Tx.statement (fun e => .internalServerError s!"Failed to adjust stock: {e}")
    (Catalog.updateSku skuId (fun s => s.stockQuantity + delta ≥ 0)
      (fun s => { s with stockQuantity := s.stockQuantity + delta }) fun _ => rfl)
  if rowsAffected = 0 then
    throw (.badRequest "SKU not found or insufficient stock")

end Products

/-- What a seller does to the stock. -/
inductive StockOp where
  | createSku (stockQuantity : Int)
  | updateSku (id : Uuid) (req : Products.ValidUpdateSkuReq)
  | deleteSku (id : Uuid)
  | adjustStock (id : Uuid) (delta : Int)

def StockOp.tx : StockOp → Tx AppError CatalogDb Unit
  | .createSku stockQuantity => do
    let _ ← Products.createSku stockQuantity
  | .updateSku id req => Products.updateSku id req
  | .deleteSku id => Products.deleteSku id
  | .adjustStock id delta => Products.adjustStock id delta

/-- The operations on the inventory, each in a transaction of its own. -/
inductive InventoryOp where
  | reserveInventory (orderId skuId : Uuid) (quantity : Int)
  | releaseReservation (orderId skuId : Uuid)
  | releaseAllReservations (orderId : Uuid)
  | confirmReservation (orderId skuId : Uuid)
  | stock (op : StockOp)

def InventoryOp.tx : InventoryOp → Tx AppError CatalogDb Unit
  | .reserveInventory orderId skuId quantity =>
    Repository.reserveInventory orderId skuId quantity
  | .releaseReservation orderId skuId => Repository.releaseReservation orderId skuId
  | .releaseAllReservations orderId => Repository.releaseAllReservations orderId
  | .confirmReservation orderId skuId => Repository.confirmReservation orderId skuId
  | .stock op => op.tx

/-- The tables after an operation, which a failing one leaves as they are. -/
def InventoryOp.execute (db : CatalogDb) (op : InventoryOp) : CatalogDb :=
  (Tx.attempt op.tx db).db

/-! ## Inventory service -/

section Service

variable [SerdeJson]

/-- Item to reserve: (sku_id, quantity) -/
abbrev ReservationItem := Uuid × Int

/-- `EventMetadata::new` for an inventory event. -/
def newMetadata (eventType : EventType) (orderId : Uuid) :
    Tx AppError CatalogDb EventMetadata := do
  let eventId ← Tx.client nowV7
  return { eventId, eventType, aggregateType := .inventory, aggregateId := orderId,
           sourceService := .catalog }

def doReserveAndWriteEvent (orderId buyerId : Uuid) (totalAmount : DecimalText)
    (currency : String) (items : List ReservationItem) : Tx AppError CatalogDb Unit := do
  items.forM fun (skuId, quantity) => Repository.reserveInventory orderId skuId quantity
  let metadata ← newMetadata .inventoryReserved orderId
  let payload : Payload :=
    { orderId := some orderId
      buyerId := some buyerId
      totalAmount := some totalAmount
      currency := some currency
      items := some (items.map fun (skuId, quantity) =>
        { skuId := some skuId, quantity := some quantity }) }
  insertOutboxEvent { topic := .catalogEvents, envelope := { metadata, payload } }

/-- Write InventoryReservationFailed in a transaction of its own, so that it survives
    the rollback of the consumer's transaction. -/
def writeReservationFailedOnPool (orderId : Uuid) (reason : String) :
    Tx AppError CatalogDb Unit :=
  Tx.onPool (fun e => .internalServerError s!"Failed to write event: {e}") <|
    withTransaction do
      let metadata ← newMetadata .inventoryReservationFailed orderId
      let payload : Payload := { orderId := some orderId, reason := some reason }
      insertOutboxEvent { topic := .catalogEvents, envelope := { metadata, payload } }

/-- Reserve inventory within the consumer's transaction. If any SKU fails, the failure
    event is written on the pool and the error returned. -/
def reserveForOrderOnTx (orderId buyerId : Uuid) (totalAmount : DecimalText)
    (currency : String) (items : List ReservationItem) : Tx AppError CatalogDb Unit := fun s =>
  match doReserveAndWriteEvent orderId buyerId totalAmount currency items s with
  | .ok a t => .ok a t
  | .error e t => (do
      writeReservationFailedOnPool orderId (toString e)
      throw e) t

def releaseForOrderOnTx (orderId : Uuid) : Tx AppError CatalogDb Unit :=
  Repository.releaseAllReservations orderId

/-! ## Consumers -/

def parseItem (item : ItemPayload) : Except HandlerError ReservationItem := do
  let skuId ← match item.skuId with
    | some id => pure id
    | none => throw (.permanent "Invalid sku_id in item")
  let quantity ← match item.quantity with
    | some q => pure (asI32 q)
    | none => throw (.permanent "Missing quantity in item")
  return (skuId, quantity)

def parseItems (payload : Payload) : Except HandlerError (List ReservationItem) :=
  match payload.items with
  | none => .error (.permanent "Missing items array in OrderCreated payload")
  | some items => items.mapM parseItem

/-- Handle OrderCreated: reserve inventory for each SKU in the order. -/
def handleOrderCreated (env : EventEnvelope) : Tx HandlerError CatalogDb Unit := do
  let permanent (e : AppError) : HandlerError := .permanent (toString e)
  let orderId ← Tx.mapErr permanent (Tx.ofExcept env.payloadOrderId)
  let buyerId ← Tx.mapErr permanent (Tx.ofExcept env.payloadBuyerId)
  let totalAmount := env.payload.totalAmount.getD (.decimal 0)
  let currency := env.payload.currency.getD "USD"
  let items ← Tx.ofExcept (parseItems env.payload)
  -- A failure is permanent: the consumer rolls back and sends the event to the DLQ
  Tx.mapErr (fun e => .permanent s!"Inventory reservation failed: {e}")
    (reserveForOrderOnTx orderId buyerId totalAmount currency items)

/-- Handle OrderCancelled: release all inventory reservations for the order. A failed
    release is only logged. -/
def handleOrderCancelled (env : EventEnvelope) : Tx AppError CatalogDb Unit := do
  let orderId ← Tx.ofExcept env.payloadOrderId
  Tx.catching (releaseForOrderOnTx orderId)

/-- `CatalogEventHandler::handle` -/
def handle (env : EventEnvelope) : Tx HandlerError CatalogDb Unit :=
  match env.eventType with
  | .orderCreated => handleOrderCreated env
  | .orderCancelled => Tx.mapErr (fun e => .transient (toString e)) (handleOrderCancelled env)
  | _ => pure ()

end Service

end Koupang.Catalog
