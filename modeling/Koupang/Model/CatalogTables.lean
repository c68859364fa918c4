import Koupang.ForStd.Call
import Koupang.Model.Catalog
import Koupang.Model.CatalogValues

/-!
# Tables of the catalog service

The whole database of `catalog/`: products with their SKUs and images, the
category tree, the brands and their categories, and the inventory. Beside it the
cache, so that a service function is a call on both.

The inventory functions are modelled on the columns that they read
(`CatalogDb`). Here they run on that part of the tables: `Db.inventory` shows it,
and `Db.setInventory` puts it back.
-/

namespace Koupang.Store

open Catalog (CatalogDb InventoryReservationEntity)

/-! ## Rows -/

structure CategoryEntity where
  id : Uuid
  createdAt : Nat
  updatedAt : Option Nat
  name : String
  slug : String
  /-- an `ltree`, as text -/
  path : String
  parentId : Option Uuid
  depth : Int
  description : Option String
deriving DecidableEq, Repr

structure BrandEntity where
  id : Uuid
  createdAt : Nat
  updatedAt : Option Nat
  name : String
  slug : String
  description : Option String
  logoUrl : Option String
deriving DecidableEq, Repr

structure BrandCategoryEntity where
  brandId : Uuid
  categoryId : Uuid
deriving DecidableEq, Repr

/-- `PRIMARY KEY (brand_id, category_id)` -/
def BrandCategoryEntity.key (row : BrandCategoryEntity) : Uuid × Uuid :=
  (row.brandId, row.categoryId)

/-- A row of `products`. -/
structure ProductRow where
  id : Uuid
  createdAt : Nat
  updatedAt : Option Nat
  deletedAt : Option Nat
  sellerId : Uuid
  name : String
  slug : String
  description : Option String
  basePrice : Decimal
  currency : String
  categoryId : Option Uuid
  brandId : Option Uuid
  status : ProductStatus
deriving DecidableEq

structure SkuEntity where
  id : Uuid
  createdAt : Nat
  updatedAt : Option Nat
  deletedAt : Option Nat
  productId : Uuid
  skuCode : String
  price : Decimal
  stockQuantity : Int
  reservedQuantity : Int
  attributes : JsonValue
  status : SkuStatus
deriving DecidableEq

structure ProductImageEntity where
  id : Uuid
  createdAt : Nat
  productId : Uuid
  url : String
  altText : Option String
  sortOrder : Int
  isPrimary : Bool
deriving DecidableEq, Repr

structure Db where
  categories : Table CategoryEntity.id := .empty
  brands : Table BrandEntity.id := .empty
  brandCategories : Table BrandCategoryEntity.key := .empty
  products : Table ProductRow.id := .empty
  skus : Table SkuEntity.id := .empty
  productImages : Table ProductImageEntity.id := .empty
  inventoryReservations : Table InventoryReservationEntity.id := .empty
  outbox : List OutboxInsert := []
  uuids : Nat := 0
  /-- the clock of the server; a call takes no time -/
  now : Nat := 0
deriving DecidableEq

instance : HasOutbox Db where
  outbox := Db.outbox
  setOutbox db rows := { db with outbox := rows }
  node := 1
  uuids := Db.uuids
  setUuids db n := { db with uuids := n }

/-! ## The inventory in these tables -/

/-- What the inventory functions see of a SKU. -/
def SkuEntity.inventory (sku : SkuEntity) : Catalog.Sku where
  id := sku.id
  stockQuantity := sku.stockQuantity
  reservedQuantity := sku.reservedQuantity
  deleted := sku.deletedAt.isSome

/-- The tables as the inventory functions see them. -/
def Db.inventory (db : Db) : CatalogDb where
  skus := db.skus.view SkuEntity.inventory fun _ => rfl
  inventoryReservations := db.inventoryReservations
  outbox := db.outbox
  uuids := db.uuids

/-- What an `UPDATE skus` of the inventory functions leaves of a SKU. Each of them moves
    `reserved_quantity` by the quantity of a reservation, which is not zero, and sets
    `updated_at = NOW()`, so a row is one that was updated if and only if it differs. -/
def SkuEntity.setInventory (now : Nat) (inventory : CatalogDb) (sku : SkuEntity) : SkuEntity :=
  match inventory.skus.find? sku.id with
  | none => sku
  | some row =>
    if row = sku.inventory then sku
    else { sku with stockQuantity := row.stockQuantity
                    reservedQuantity := row.reservedQuantity
                    updatedAt := some now }

theorem SkuEntity.id_setInventory (now : Nat) (inventory : CatalogDb) (sku : SkuEntity) :
    (sku.setInventory now inventory).id = sku.id := by
  unfold SkuEntity.setInventory
  split
  · rfl
  · split <;> rfl

/-- Put back what the inventory functions have written. -/
def Db.setInventory (db : Db) (inventory : CatalogDb) : Db :=
  { db with
    skus := db.skus.map (SkuEntity.setInventory db.now inventory)
      (SkuEntity.id_setInventory db.now inventory)
    inventoryReservations := inventory.inventoryReservations
    outbox := inventory.outbox
    uuids := inventory.uuids }

/-! ## Responses -/

/-- `CategoryRes` shows every column. -/
abbrev CategoryRes := CategoryEntity

/-- `BrandRes` shows every column. -/
abbrev BrandRes := BrandEntity

/-- `ProductImageRes` shows every column. -/
abbrev ProductImageRes := ProductImageEntity

/-- A product with the names of its category and of its brand. -/
structure ProductRes where
  id : Uuid
  createdAt : Nat
  updatedAt : Option Nat
  sellerId : Uuid
  name : String
  slug : String
  description : Option String
  basePrice : Decimal
  currency : String
  categoryId : Option Uuid
  brandId : Option Uuid
  status : ProductStatus
  categoryName : Option String
  categorySlug : Option String
  brandName : Option String
  brandSlug : Option String
deriving DecidableEq

structure SkuRes where
  id : Uuid
  createdAt : Nat
  updatedAt : Option Nat
  productId : Uuid
  skuCode : String
  price : Decimal
  stockQuantity : Int
  attributes : JsonValue
  status : SkuStatus
deriving DecidableEq

def SkuRes.new (entity : SkuEntity) : SkuRes where
  id := entity.id
  createdAt := entity.createdAt
  updatedAt := entity.updatedAt
  productId := entity.productId
  skuCode := entity.skuCode
  price := entity.price
  stockQuantity := entity.stockQuantity
  attributes := entity.attributes
  status := entity.status

structure ProductDetailRes where
  product : ProductRes
  skus : List SkuRes
  images : List ProductImageRes
deriving DecidableEq

/-! ## Cache -/

/-- The keys of the cache. The text of a UUID does not begin with `slug:`. -/
inductive CacheKey where
  /-- `product:{id}` -/
  | productDetail (id : Uuid)
  /-- `product:slug:{slug}` -/
  | productSlug (slug : String)
deriving DecidableEq, Repr

/-- What is stored under a key. It is JSON, and is read back as it was written. -/
inductive CacheValue where
  | product (res : ProductRes)
  | detail (res : ProductDetailRes)
deriving DecidableEq

structure CacheEntry where
  key : CacheKey
  value : CacheValue
deriving DecidableEq

/-- Thin wrapper around an optional Redis connection: without one, it has no entries and
    stores none. The time to live of an entry is not modelled: an entry may expire at any
    time. -/
structure RedisCache where
  conn : Option (Table CacheEntry.key)
deriving DecidableEq

namespace RedisCache

/-- No-op cache (always misses, never stores). -/
def noop : RedisCache := ⟨none⟩

def find? (cache : RedisCache) (key : CacheKey) : Option CacheValue := do
  let entries ← cache.conn
  let entry ← entries.find? key
  return entry.value

/-- `get::<ProductRes>`. The fields of a product's detail include those of the product. -/
def getProduct (cache : RedisCache) (key : CacheKey) : Option ProductRes :=
  (cache.find? key).map fun
    | .product res => res
    | .detail res => res.product

/-- `get::<ProductDetailRes>` -/
def getDetail (cache : RedisCache) (key : CacheKey) : Option ProductDetailRes :=
  (cache.find? key).bind fun
    | .product _ => none
    | .detail res => some res

def set (cache : RedisCache) (key : CacheKey) (value : CacheValue) : RedisCache :=
  ⟨cache.conn.map (·.set { key, value })⟩

def evict (cache : RedisCache) (key : CacheKey) : RedisCache :=
  ⟨cache.conn.map (·.filter (·.key ≠ key))⟩

end RedisCache

/-! ## Calls -/

structure AppState where
  pool : Db := {}
  cache : RedisCache := ⟨some .empty⟩
deriving DecidableEq

/-- A query on the pool. -/
def onPool {α : Type} (f : Db → Except AppError α) : Call AppError AppState α :=
  Call.query fun state => f state.pool

/-- `with_transaction(..).map_err(..)` -/
def inTransaction {α : Type} (what : String) (x : Tx AppError Db α) : Call AppError AppState α :=
  Call.write fun state =>
    match withTransaction x state.pool with
    | .ok (a, pool) => .ok (a, { state with pool })
    | .error e => .error (.internalServerError s!"{what}: {e}")

/-- `state.cache.evict(..)` -/
def evict (key : CacheKey) : Call AppError AppState Unit :=
  Call.update fun state => { state with cache := state.cache.evict key }

def requireAdmin (user : CurrentUser) : Except AppError Unit :=
  if user.role = .admin then .ok () else .error (.forbidden "Admin access required")

end Koupang.Store
