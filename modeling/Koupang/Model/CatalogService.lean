import Koupang.Model.Products

/-!
# Catalog service: its operations one after the other

Everything that changes the catalog's tables or its cache: the requests to
`categories/`, `brands/` and `products/`, the inventory functions, and the
events that its consumer handles. Calls do not overlap here. Between them, an
entry of the cache may expire and time may pass.
-/

namespace Koupang.Store

open Catalog (CatalogDb ReservationItem newMetadata doReserveAndWriteEvent)

/-! ## Inventory service -/

namespace Inventory

/-- The inventory functions on their part of the tables. -/
def onInventory {ε α : Type} (x : Tx ε CatalogDb α) : Tx ε Db α :=
  Tx.zoom Db.inventory Db.setInventory x

variable [SerdeJson]

/-- The closure of `write_reservation_failed_on_pool`. -/
def reservationFailed (orderId : Uuid) (reason : String) : Tx AppError CatalogDb Unit := do
  let metadata ← newMetadata .inventoryReservationFailed orderId
  let payload : Payload := { orderId := some orderId, reason := some reason }
  insertOutboxEvent { topic := .catalogEvents, envelope := { metadata, payload } }

/-- Reserve inventory for an order (creates its own transaction). -/
def reserveForOrder (orderId buyerId : Uuid) (totalAmount : DecimalText) (currency : String)
    (items : List ReservationItem) : Call AppError AppState Unit := fun state =>
  let reserve := onInventory (doReserveAndWriteEvent orderId buyerId totalAmount currency items)
  match withTransaction reserve state.pool with
  | .ok (_, pool) => .ok () { state with pool }
  | .error reason =>
    let writeReservationFailed : Call AppError AppState Unit := do
      inTransaction "Failed to write event" (onInventory (reservationFailed orderId reason))
      throw (.badRequest reason)
    writeReservationFailed state

/-- Release all inventory reservations for a cancelled order (creates own transaction). -/
def releaseForOrder (orderId : Uuid) : Call AppError AppState Unit :=
  inTransaction "Failed to release inventory"
    (onInventory (Catalog.Repository.releaseAllReservations orderId))

/-- Confirm all reservations for an order (creates own transaction). -/
def confirmForOrder (orderId : Uuid) (items : List ReservationItem) :
    Call AppError AppState Unit :=
  inTransaction "Failed to confirm inventory" <| onInventory <|
    items.forM fun (skuId, _) => Catalog.Repository.confirmReservation orderId skuId

/-- `CatalogEventHandler::handle` in the transaction of the consumer, which is committed if it
    succeeds. -/
def handleEvent (env : EventEnvelope) (pool : Db) : Db :=
  (Tx.attempt (onInventory (Catalog.handle env)) pool).db

end Inventory

/-! ## Operations -/

/-- The inventory functions that are called on the tables. -/
inductive InventoryCall where
  | reserveForOrder (orderId buyerId : Uuid) (totalAmount : DecimalText) (currency : String)
      (items : List ReservationItem)
  | releaseForOrder (orderId : Uuid)
  | confirmForOrder (orderId : Uuid) (items : List ReservationItem)
  | handleEvent (env : EventEnvelope)

/-- A request to the catalog service, or an event delivered to it. -/
inductive CatalogOp where
  | createCategory (user : CurrentUser) (req : Categories.CreateCategoryReq)
  | updateCategory (user : CurrentUser) (id : Uuid) (req : Categories.UpdateCategoryReq)
  | deleteCategory (user : CurrentUser) (id : Uuid)
  | createBrand (user : CurrentUser) (req : Brands.CreateBrandReq)
  | updateBrand (user : CurrentUser) (id : Uuid) (req : Brands.UpdateBrandReq)
  | deleteBrand (user : CurrentUser) (id : Uuid)
  | associateCategory (user : CurrentUser) (brandId categoryId : Uuid)
  | disassociateCategory (user : CurrentUser) (brandId categoryId : Uuid)
  | createProduct (user : CurrentUser) (req : Products.CreateProductReq)
  | updateProduct (user : CurrentUser) (id : Uuid) (req : Products.UpdateProductReq)
  | deleteProduct (user : CurrentUser) (id : Uuid)
  | createSku (user : CurrentUser) (productId : Uuid) (req : Products.CreateSkuReq)
  | updateSku (user : CurrentUser) (skuId : Uuid) (req : Products.UpdateSkuReq)
  | deleteSku (user : CurrentUser) (skuId : Uuid)
  | adjustStock (user : CurrentUser) (skuId : Uuid) (delta : Int)
  | addImage (user : CurrentUser) (productId : Uuid) (req : Products.AddProductImageReq)
  | deleteImage (user : CurrentUser) (productId imageId : Uuid)
  | getProductBySlug (slug : String)
  | getProductDetail (id : Uuid)
  | inventory (call : InventoryCall)

section Step

variable [SerdeJson]

/-- The state after an inventory function. -/
def InventoryCall.execute (call : InventoryCall) (state : AppState) : AppState :=
  match call with
  | .reserveForOrder orderId buyerId totalAmount currency items =>
    (Inventory.reserveForOrder orderId buyerId totalAmount currency items).final state
  | .releaseForOrder orderId => (Inventory.releaseForOrder orderId).final state
  | .confirmForOrder orderId items => (Inventory.confirmForOrder orderId items).final state
  | .handleEvent env => { state with pool := Inventory.handleEvent env state.pool }

/-- The state after an operation, whether it succeeds or not. -/
def CatalogOp.execute (op : CatalogOp) (state : AppState) : AppState :=
  match op with
  | .createCategory user req => (Categories.createCategory user req).final state
  | .updateCategory user id req => (Categories.updateCategory user id req).final state
  | .deleteCategory user id => (Categories.deleteCategory user id).final state
  | .createBrand user req => (Brands.createBrand user req).final state
  | .updateBrand user id req => (Brands.updateBrand user id req).final state
  | .deleteBrand user id => (Brands.deleteBrand user id).final state
  | .associateCategory user brandId categoryId =>
    (Brands.associateCategory user brandId categoryId).final state
  | .disassociateCategory user brandId categoryId =>
    (Brands.disassociateCategory user brandId categoryId).final state
  | .createProduct user req => (Products.createProduct user req).final state
  | .updateProduct user id req => (Products.updateProduct user id req).final state
  | .deleteProduct user id => (Products.deleteProduct user id).final state
  | .createSku user productId req => (Products.createSku user productId req).final state
  | .updateSku user skuId req => (Products.updateSku user skuId req).final state
  | .deleteSku user skuId => (Products.deleteSku user skuId).final state
  | .adjustStock user skuId delta => (Products.adjustStock user skuId delta).final state
  | .addImage user productId req => (Products.addImage user productId req).final state
  | .deleteImage user productId imageId =>
    (Products.deleteImage user productId imageId).final state
  | .getProductBySlug slug => (Products.getProductBySlug slug).final state
  | .getProductDetail id => (Products.getProductDetail id).final state
  | .inventory call => call.execute state

inductive Label where
  | call (op : CatalogOp)
  /-- an entry of the cache has reached its time to live -/
  | expire (key : CacheKey)
  /-- time passes -/
  | wait (duration : Nat)

def step (state : AppState) : Label → Option AppState
  | .call op => some (op.execute state)
  | .expire key => some { state with cache := state.cache.evict key }
  | .wait duration =>
    some { state with pool := { state.pool with now := state.pool.now + duration } }

end Step

end Koupang.Store
