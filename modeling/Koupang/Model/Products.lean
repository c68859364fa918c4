import Koupang.Model.Brands

/-!
# Catalog service: products

The model of `products/`: products, their SKUs and their images, with the
cache-aside reads of a product by its slug and of a product's detail.

The numbers that the database puts into JSON for a product's detail are read
back as they are stored. Rows that a query sorts by equal values come in the
order of the table.
-/

namespace Koupang.Store.Products

open Koupang.Order (Price.new Currency.new)

/-! ## Requests -/

structure CreateProductReq where
  name : String
  slug : Option String
  description : Option String
  basePrice : Decimal
  currency : Option String
  categoryId : Option Uuid
  brandId : Option Uuid
deriving DecidableEq

structure UpdateProductReq where
  name : Option String
  slug : Option String
  description : Option String
  basePrice : Option Decimal
  currency : Option String
  categoryId : Option Uuid
  brandId : Option Uuid
  status : Option ProductStatus
deriving DecidableEq

structure CreateSkuReq where
  skuCode : String
  price : Decimal
  stockQuantity : Int
  attributes : Option JsonValue
deriving DecidableEq

structure UpdateSkuReq where
  price : Option Decimal
  stockQuantity : Option Int
  attributes : Option JsonValue
  status : Option SkuStatus
deriving DecidableEq

structure AddProductImageReq where
  url : String
  altText : Option String
  sortOrder : Option Int
  isPrimary : Option Bool
deriving DecidableEq

structure ValidCreateProductReq where
  name : String
  slug : Slug
  description : Option String
  basePrice : Decimal
  currency : String
  categoryId : Option Uuid
  brandId : Option Uuid
deriving DecidableEq

def ValidCreateProductReq.new (req : CreateProductReq) :
    Except AppError ValidCreateProductReq := do
  let name ← ProductName.new req.name
  let slug ← match req.slug with
    | some s => Slug.new s
    | none => Slug.fromName name
  let basePrice ← Price.new req.basePrice
  let currency ← match req.currency with
    | some c => Currency.new c
    | none => pure "USD"
  return { name, slug, description := req.description, basePrice, currency,
           categoryId := req.categoryId, brandId := req.brandId }

structure ValidUpdateProductReq where
  name : Option String
  slug : Option Slug
  description : Option String
  basePrice : Option Decimal
  currency : Option String
  categoryId : Option Uuid
  brandId : Option Uuid
  status : Option ProductStatus
deriving DecidableEq

/-- No field of the request is set. -/
def ValidUpdateProductReq.isEmpty (req : ValidUpdateProductReq) : Bool :=
  req.name.isNone && req.slug.isNone && req.description.isNone && req.basePrice.isNone &&
    req.currency.isNone && req.categoryId.isNone && req.brandId.isNone && req.status.isNone

def ValidUpdateProductReq.new (req : UpdateProductReq) (existing : ProductRow) :
    Except AppError ValidUpdateProductReq := do
  -- Merge: use updated value if present, else keep existing.
  let effectiveCategory := req.categoryId.or existing.categoryId
  let effectiveBrand := req.brandId.or existing.brandId
  let name ← req.name.mapM ProductName.new
  let slug ← req.slug.mapM Slug.new
  let basePrice ← req.basePrice.mapM Price.new
  let currency ← req.currency.mapM Currency.new
  return { name, slug, description := req.description, basePrice, currency,
           categoryId := effectiveCategory, brandId := effectiveBrand, status := req.status }

structure ValidCreateSkuReq where
  skuCode : SkuCode
  price : Decimal
  stockQuantity : StockQuantity
  attributes : JsonValue
deriving DecidableEq

def ValidCreateSkuReq.tryFrom (req : CreateSkuReq) : Except AppError ValidCreateSkuReq := do
  let skuCode ← SkuCode.new req.skuCode
  let price ← Price.new req.price
  let stockQuantity ← StockQuantity.new req.stockQuantity
  return { skuCode, price, stockQuantity, attributes := req.attributes.getD ⟨"\x7b\x7d"⟩ }

structure ValidUpdateSkuReq where
  price : Option Decimal
  stockQuantity : Option StockQuantity
  attributes : Option JsonValue
  status : Option SkuStatus
deriving DecidableEq

def ValidUpdateSkuReq.tryFrom (req : UpdateSkuReq) : Except AppError ValidUpdateSkuReq := do
  let price ← req.price.mapM Price.new
  let stockQuantity ← req.stockQuantity.mapM StockQuantity.new
  return { price, stockQuantity, attributes := req.attributes, status := req.status }

structure ValidAddProductImageReq where
  url : HttpUrl
  altText : Option String
  sortOrder : Int
  isPrimary : Bool
deriving DecidableEq

def ValidAddProductImageReq.tryFrom (req : AddProductImageReq) :
    Except AppError ValidAddProductImageReq := do
  let url ← HttpUrl.new req.url
  return { url, altText := req.altText, sortOrder := req.sortOrder.getD 0
           isPrimary := req.isPrimary.getD false }

/-! ## Product queries -/

/-- The columns that a query for products joins from `categories` and `brands`. -/
def ProductRes.new (db : Db) (row : ProductRow) : ProductRes :=
  let category := row.categoryId.bind db.categories.find?
  let brand := row.brandId.bind db.brands.find?
  { id := row.id, createdAt := row.createdAt, updatedAt := row.updatedAt
    sellerId := row.sellerId, name := row.name, slug := row.slug, description := row.description
    basePrice := row.basePrice, currency := row.currency, categoryId := row.categoryId
    brandId := row.brandId, status := row.status
    categoryName := category.map (·.name), categorySlug := category.map (·.slug)
    brandName := brand.map (·.name), brandSlug := brand.map (·.slug) }

namespace Repository

/-- `.. WHERE p.id = $1 AND p.deleted_at IS NULL` -/
def findProductById (id : Uuid) (db : Db) : Option ProductRow :=
  (db.products.find? id).filter (·.deletedAt.isNone)

/-- `.. WHERE p.slug = $1 AND p.deleted_at IS NULL` -/
def findProductBySlug (slug : String) (db : Db) : Option ProductRow :=
  db.products.rows.find? fun p => p.slug = slug && p.deletedAt.isNone

def productFound (product : Option ProductRow) : Except AppError ProductRow :=
  match product with
  | some row => .ok row
  | none => .error (.notFound s!"Product not found: {rowNotFound}")

def getProductById (id : Uuid) (db : Db) : Except AppError ProductRow :=
  productFound (findProductById id db)

def getProductBySlug (slug : String) (db : Db) : Except AppError ProductRow :=
  productFound (findProductBySlug slug db)

/-- `SELECT .. FROM skus WHERE product_id = $1 AND deleted_at IS NULL
    ORDER BY created_at ASC LIMIT 100` -/
def listSkusByProduct (productId : Uuid) (db : Db) : List SkuEntity :=
  ((db.skus.rows.filter fun s => s.productId = productId && s.deletedAt.isNone).insertionSort
    fun s t => s.createdAt ≤ t.createdAt).take 100

/-- `SELECT .. FROM product_images WHERE product_id = $1 ORDER BY sort_order ASC LIMIT 50` -/
def listImagesByProduct (productId : Uuid) (db : Db) : List ProductImageEntity :=
  ((db.productImages.rows.filter (·.productId = productId)).insertionSort
    fun i j => i.sortOrder ≤ j.sortOrder).take 50

/-- Fetch product with SKUs and images in a single query. -/
def getProductDetail (id : Uuid) (db : Db) : Except AppError ProductDetailRes := do
  let row ← getProductById id db
  return { product := ProductRes.new db row
           skus := (listSkusByProduct row.id db).map SkuRes.new
           images := listImagesByProduct row.id db }

/-! ## FK validation helpers -/

def categoryExists (id : Uuid) (db : Db) : Bool := (db.categories.find? id).isSome

def brandExists (id : Uuid) (db : Db) : Bool := (db.brands.find? id).isSome

def isBrandInCategory (brandId categoryId : Uuid) (db : Db) : Bool :=
  (db.brandCategories.find? (brandId, categoryId)).isSome

/-- Core FK validation: existence checks + brand-category association. -/
def validateFkReferences (categoryId brandId : Option Uuid) (db : Db) : Except AppError Unit := do
  if let some categoryId := categoryId then
    if !categoryExists categoryId db then
      throw (.badRequest "Category does not exist")
  if let some brandId := brandId then
    if !brandExists brandId db then
      throw (.badRequest "Brand does not exist")
  if let (some categoryId, some brandId) := (categoryId, brandId) then
    if !isBrandInCategory brandId categoryId db then
      throw (.badRequest "Brand is not associated with the specified category")

/-! ## Product mutations -/

/-- The constraints of a row of `products`, those on other rows of the table apart. -/
def checkProduct (db : Db) (row : ProductRow) : Except String Unit := do
  if row.basePrice < 0 then
    throw "new row for relation \"products\" violates check constraint \"chk_products_base_price\""
  if db.products.rows.any (fun p => p.id ≠ row.id && p.slug = row.slug) then
    throw "duplicate key value violates unique constraint \"products_slug_key\""
  if (row.brandId.all (brandExists · db)) = false then
    throw "insert or update violates foreign key constraint \"products_brand_id_fkey\""
  if (row.categoryId.all (categoryExists · db)) = false then
    throw "insert or update violates foreign key constraint \"products_category_id_fkey\""

/-- `INSERT INTO products .. RETURNING id`; `status` defaults to `'draft'`. -/
def insertProduct (sellerId : Uuid) (req : ValidCreateProductReq) (db : Db) :
    Except String (Uuid × Db) := do
  let name ← varchar 500 req.name
  let slug ← varchar 500 req.slug.value
  let basePrice ← numeric19_4 req.basePrice
  let currency ← varchar 3 req.currency
  let (id, db) := nowV7 db
  let row : ProductRow :=
    { id, createdAt := db.now, updatedAt := none, deletedAt := none, sellerId, name, slug,
      description := req.description, basePrice, currency, categoryId := req.categoryId
      brandId := req.brandId, status := .draft }
  checkProduct db row
  match db.products.insert row with
  | none => throw "duplicate key value violates unique constraint \"products_pkey\""
  | some products => return (id, { db with products })

def createProduct (sellerId : Uuid) (req : ValidCreateProductReq) : Tx AppError Db Uuid :=
  Tx.statement (fun e => .internalServerError s!"Failed to create product: {e}")
    (insertProduct sellerId req)

/-- `UPDATE products SET .. WHERE id = $1 AND deleted_at IS NULL`, returning the rows
    affected. -/
def updateProductRow (id : Uuid) (set : ProductRow → ProductRow)
    (hset : ∀ p, (set p).id = p.id) (db : Db) : Except String (Nat × Db) :=
  match findProductById id db with
  | none => .ok (0, db)
  | some row => do
    checkProduct db (set row)
    return (1, { db with products := db.products.modify id set hset })

/-- The columns that `update_product` writes. -/
def setProduct (req : ValidUpdateProductReq) (name slug : Option String)
    (basePrice : Option Decimal) (currency : Option String) (now : Nat) (row : ProductRow) :
    ProductRow :=
  { row with name := name.getD row.name
             slug := slug.getD row.slug
             description := req.description.or row.description
             basePrice := basePrice.getD row.basePrice
             currency := currency.getD row.currency
             categoryId := req.categoryId.or row.categoryId
             brandId := req.brandId.or row.brandId
             status := req.status.getD row.status
             updatedAt := some now }

/-- `UPDATE products SET name = .., updated_at = NOW() WHERE id = $n AND deleted_at IS NULL` -/
def updateProductColumns (id : Uuid) (req : ValidUpdateProductReq) (db : Db) :
    Except String (Nat × Db) := do
  let name ← req.name.mapM (varchar 500)
  let slug ← req.slug.mapM fun s => varchar 500 s.value
  let basePrice ← req.basePrice.mapM numeric19_4
  let currency ← req.currency.mapM (varchar 3)
  updateProductRow id (setProduct req name slug basePrice currency db.now) (fun _ => rfl) db

def updateProduct (id : Uuid) (req : ValidUpdateProductReq) : Tx AppError Db Unit := do
  if req.isEmpty then
    return ()
  let rowsAffected ← Tx.statement
    (fun e => .internalServerError s!"Failed to update product: {e}") (updateProductColumns id req)
  if rowsAffected = 0 then
    throw (.notFound "Product not found")

/-- `UPDATE products SET deleted_at = NOW() WHERE id = $1 AND deleted_at IS NULL` -/
def softDeleteProduct (id : Uuid) (db : Db) : Except String (Nat × Db) :=
  updateProductRow id (fun p => { p with deletedAt := some db.now }) (fun _ => rfl) db

def deleteProduct (id : Uuid) : Tx AppError Db Unit := do
  let rowsAffected ← Tx.statement
    (fun e => .internalServerError s!"Failed to delete product: {e}") (softDeleteProduct id)
  if rowsAffected = 0 then
    throw (.notFound "Product not found")

/-! ## SKUs -/

/-- `SELECT * FROM skus WHERE id = $1 AND deleted_at IS NULL` -/
def getSkuById (id : Uuid) (db : Db) : Except AppError SkuEntity :=
  match (db.skus.find? id).filter (·.deletedAt.isNone) with
  | some sku => .ok sku
  | none => .error (.notFound s!"SKU not found: {rowNotFound}")

/-- `INTEGER` range and `CHECK` constraints of a row of `skus`; the constraints are
    checked in the order of their names. -/
def checkSku (sku : SkuEntity) : Except String Unit := do
  let _ ← int4 sku.stockQuantity
  let _ ← int4 sku.reservedQuantity
  if sku.reservedQuantity < 0 then
    throw "new row for relation \"skus\" violates check constraint \"chk_reserved_quantity\""
  if sku.price < 0 then
    throw "new row for relation \"skus\" violates check constraint \"chk_skus_price\""
  if sku.stockQuantity < 0 then
    throw Catalog.chkSkusStock

/-- `INSERT INTO skus .. RETURNING id`; `reserved_quantity` defaults to 0 and `status` to
    `'active'`. -/
def insertSku (productId : Uuid) (req : ValidCreateSkuReq) (db : Db) :
    Except String (Uuid × Db) := do
  let skuCode ← varchar 100 req.skuCode.value
  let price ← numeric19_4 req.price
  let (id, db) := nowV7 db
  let row : SkuEntity :=
    { id, createdAt := db.now, updatedAt := none, deletedAt := none, productId, skuCode, price,
      stockQuantity := req.stockQuantity.value, reservedQuantity := 0
      attributes := req.attributes, status := .active }
  checkSku row
  if db.skus.rows.any (·.skuCode = skuCode) then
    throw "duplicate key value violates unique constraint \"skus_sku_code_key\""
  if (db.products.find? productId).isNone then
    throw "insert violates foreign key constraint \"skus_product_id_fkey\""
  match db.skus.insert row with
  | none => throw "duplicate key value violates unique constraint \"skus_pkey\""
  | some skus => return (id, { db with skus })

def createSku (productId : Uuid) (req : ValidCreateSkuReq) : Tx AppError Db Uuid :=
  Tx.statement (fun e => .internalServerError s!"Failed to create SKU: {e}")
    (insertSku productId req)

/-- `UPDATE skus SET .. WHERE id = $id AND deleted_at IS NULL AND ..`, returning the rows
    affected. -/
def updateSkuRow (id : Uuid) (cond : SkuEntity → Bool) (set : SkuEntity → SkuEntity)
    (hset : ∀ s, (set s).id = s.id) (db : Db) : Except String (Nat × Db) :=
  match db.skus.find? id with
  | none => .ok (0, db)
  | some sku =>
    if sku.deletedAt.isNone && cond sku then do
      checkSku (set sku)
      return (1, { db with skus := db.skus.modify id set hset })
    else .ok (0, db)

/-- The columns that `update_sku` writes. -/
def setSku (req : ValidUpdateSkuReq) (price : Option Decimal) (now : Nat) (sku : SkuEntity) :
    SkuEntity :=
  { sku with price := price.getD sku.price
             stockQuantity := (req.stockQuantity.map (·.value)).getD sku.stockQuantity
             attributes := req.attributes.getD sku.attributes
             status := req.status.getD sku.status
             updatedAt := some now }

/-- `UPDATE skus SET price = .., updated_at = NOW() WHERE id = $n AND deleted_at IS NULL` -/
def updateSkuColumns (id : Uuid) (req : ValidUpdateSkuReq) (db : Db) :
    Except String (Nat × Db) := do
  let price ← req.price.mapM numeric19_4
  updateSkuRow id (fun _ => true) (setSku req price db.now) (fun _ => rfl) db

def updateSku (id : Uuid) (req : ValidUpdateSkuReq) : Tx AppError Db Unit := do
  if req.price.isNone && req.stockQuantity.isNone && req.attributes.isNone &&
      req.status.isNone then
    return ()
  let rowsAffected ← Tx.statement (fun e => .internalServerError s!"Failed to update SKU: {e}")
    (updateSkuColumns id req)
  if rowsAffected = 0 then
    throw (.notFound "SKU not found")

/-- `UPDATE skus SET deleted_at = NOW() WHERE id = $1 AND deleted_at IS NULL` -/
def softDeleteSku (id : Uuid) (db : Db) : Except String (Nat × Db) :=
  updateSkuRow id (fun _ => true) (fun s => { s with deletedAt := some db.now }) (fun _ => rfl) db

def deleteSku (id : Uuid) : Tx AppError Db Unit := do
  let rowsAffected ← Tx.statement (fun e => .internalServerError s!"Failed to delete SKU: {e}")
    (softDeleteSku id)
  if rowsAffected = 0 then
    throw (.notFound "SKU not found")

/-- `UPDATE skus SET stock_quantity = stock_quantity + $1, updated_at = NOW()
    WHERE id = $2 AND deleted_at IS NULL AND stock_quantity + $1 >= 0` -/
def addStock (skuId : Uuid) (delta : Int) (db : Db) : Except String (Nat × Db) :=
  updateSkuRow skuId (fun s => s.stockQuantity + delta ≥ 0)
    (fun s => { s with stockQuantity := s.stockQuantity + delta, updatedAt := some db.now })
    (fun _ => rfl) db

def adjustStock (skuId : Uuid) (delta : Int) : Tx AppError Db Unit := do
  let rowsAffected ← Tx.statement (fun e => .internalServerError s!"Failed to adjust stock: {e}")
    (addStock skuId delta)
  if rowsAffected = 0 then
    throw (.badRequest "SKU not found or insufficient stock")

/-! ## Images -/

/-- `SELECT * FROM product_images WHERE id = $1` -/
def getImageById (id : Uuid) (db : Db) : Except AppError ProductImageEntity :=
  match db.productImages.find? id with
  | some image => .ok image
  | none => .error (.notFound s!"Image not found: {rowNotFound}")

/-- `UPDATE product_images SET is_primary = FALSE WHERE product_id = $1 AND is_primary = TRUE` -/
def unsetPrimary (productId : Uuid) (db : Db) : Db :=
  let productImages := db.productImages.map
    (fun i => if i.productId = productId then { i with isPrimary := false } else i)
    fun i => by split <;> rfl
  { db with productImages }

/-- `INSERT INTO product_images .. RETURNING id` -/
def insertImage (productId : Uuid) (req : ValidAddProductImageReq) (db : Db) :
    Except String (Uuid × Db) := do
  let altText ← req.altText.mapM (varchar 500)
  let sortOrder ← int4 req.sortOrder
  let (id, db) := nowV7 db
  let row : ProductImageEntity :=
    { id, createdAt := db.now, productId, url := req.url.value, altText, sortOrder
      isPrimary := req.isPrimary }
  if (db.products.find? productId).isNone then
    throw "insert violates foreign key constraint \"product_images_product_id_fkey\""
  match db.productImages.insert row with
  | none => throw "duplicate key value violates unique constraint \"product_images_pkey\""
  | some productImages => return (id, { db with productImages })

def addProductImage (productId : Uuid) (req : ValidAddProductImageReq) : Tx AppError Db Uuid := do
  -- If this image is primary, unset any existing primary
  if req.isPrimary then
    Tx.statement (fun e => .internalServerError s!"Failed to unset primary image: {e}")
      fun db => .ok ((), unsetPrimary productId db)
  Tx.statement (fun e => .internalServerError s!"Failed to add image: {e}")
    (insertImage productId req)

/-- `DELETE FROM product_images WHERE id = $1`, returning the rows affected. -/
def deleteImageRow (id : Uuid) (db : Db) : Nat × Db :=
  match db.productImages.find? id with
  | none => (0, db)
  | some _ => (1, { db with productImages := db.productImages.filter (·.id ≠ id) })

def deleteProductImage (id : Uuid) : Tx AppError Db Unit := do
  let rowsAffected ← Tx.statement
    (fun e => .internalServerError s!"Failed to delete image: {e}")
    fun db => .ok (deleteImageRow id db)
  if rowsAffected = 0 then
    throw (.notFound "Image not found")

end Repository

/-! ## Service: products -/

def evictProductCaches (id : Uuid) (slug : String) : Call AppError AppState Unit := do
  evict (.productDetail id)
  evict (.productSlug slug)

def createProduct (currentUser : CurrentUser) (req : CreateProductReq) :
    Call AppError AppState ProductRes := do
  let validated ← Call.query fun _ => ValidCreateProductReq.new req
  onPool (Repository.validateFkReferences validated.categoryId validated.brandId)
  let productId ← inTransaction "Failed to create product"
    (Repository.createProduct currentUser.id validated)
  onPool fun db => (Repository.getProductById productId db).map (ProductRes.new db)

def getProduct (id : Uuid) : Call AppError AppState ProductRes :=
  onPool fun db => (Repository.getProductById id db).map (ProductRes.new db)

def getProductBySlug (slug : String) : Call AppError AppState ProductRes := do
  let cacheKey : CacheKey := .productSlug slug
  let cached ← Call.query fun state => .ok (state.cache.getProduct cacheKey)
  match cached with
  | some res => return res
  | none =>
    let res ← onPool fun db => (Repository.getProductBySlug slug db).map (ProductRes.new db)
    Call.update fun state => { state with cache := state.cache.set cacheKey (.product res) }
    return res

def getProductDetail (id : Uuid) : Call AppError AppState ProductDetailRes := do
  let cacheKey : CacheKey := .productDetail id
  let cached ← Call.query fun state => .ok (state.cache.getDetail cacheKey)
  match cached with
  | some res => return res
  | none =>
    let detail ← onPool (Repository.getProductDetail id)
    Call.update fun state => { state with cache := state.cache.set cacheKey (.detail detail) }
    return detail

def updateProduct (currentUser : CurrentUser) (productId : Uuid) (req : UpdateProductReq) :
    Call AppError AppState Unit := do
  let product ← onPool (Repository.getProductById productId)
  Call.query fun _ => requireAccess currentUser product.sellerId
  let validated ← Call.query fun _ => ValidUpdateProductReq.new req product
  onPool (Repository.validateFkReferences validated.categoryId validated.brandId)
  inTransaction "Failed to update product" (Repository.updateProduct productId validated)
  evictProductCaches productId product.slug

def deleteProduct (currentUser : CurrentUser) (productId : Uuid) :
    Call AppError AppState Unit := do
  let product ← onPool (Repository.getProductById productId)
  Call.query fun _ => requireAccess currentUser product.sellerId
  inTransaction "Failed to delete product" (Repository.deleteProduct productId)
  evictProductCaches productId product.slug

/-! ## Service: SKUs -/

def createSku (currentUser : CurrentUser) (productId : Uuid) (req : CreateSkuReq) :
    Call AppError AppState SkuRes := do
  let product ← onPool (Repository.getProductById productId)
  Call.query fun _ => requireAccess currentUser product.sellerId
  let validated ← Call.query fun _ => ValidCreateSkuReq.tryFrom req
  let skuId ← inTransaction "Failed to create SKU" (Repository.createSku productId validated)
  evict (.productDetail productId)
  onPool fun db => (Repository.getSkuById skuId db).map SkuRes.new

def listSkus (productId : Uuid) : Call AppError AppState (List SkuRes) :=
  onPool fun db => .ok ((Repository.listSkusByProduct productId db).map SkuRes.new)

def updateSku (currentUser : CurrentUser) (skuId : Uuid) (req : UpdateSkuReq) :
    Call AppError AppState Unit := do
  let sku ← onPool (Repository.getSkuById skuId)
  let product ← onPool (Repository.getProductById sku.productId)
  Call.query fun _ => requireAccess currentUser product.sellerId
  let validated ← Call.query fun _ => ValidUpdateSkuReq.tryFrom req
  inTransaction "Failed to update SKU" (Repository.updateSku skuId validated)
  evict (.productDetail sku.productId)

def deleteSku (currentUser : CurrentUser) (skuId : Uuid) : Call AppError AppState Unit := do
  let sku ← onPool (Repository.getSkuById skuId)
  let product ← onPool (Repository.getProductById sku.productId)
  Call.query fun _ => requireAccess currentUser product.sellerId
  inTransaction "Failed to delete SKU" (Repository.deleteSku skuId)
  evict (.productDetail sku.productId)

def adjustStock (currentUser : CurrentUser) (skuId : Uuid) (delta : Int) :
    Call AppError AppState Unit := do
  let sku ← onPool (Repository.getSkuById skuId)
  let product ← onPool (Repository.getProductById sku.productId)
  Call.query fun _ => requireAccess currentUser product.sellerId
  inTransaction "Failed to adjust stock" (Repository.adjustStock skuId delta)
  evict (.productDetail sku.productId)

/-! ## Service: images -/

def listImages (productId : Uuid) : Call AppError AppState (List ProductImageRes) :=
  onPool fun db => .ok (Repository.listImagesByProduct productId db)

def addImage (currentUser : CurrentUser) (productId : Uuid) (req : AddProductImageReq) :
    Call AppError AppState ProductImageRes := do
  let product ← onPool (Repository.getProductById productId)
  Call.query fun _ => requireAccess currentUser product.sellerId
  let validated ← Call.query fun _ => ValidAddProductImageReq.tryFrom req
  let imageId ← inTransaction "Failed to add image" (Repository.addProductImage productId validated)
  evict (.productDetail productId)
  onPool (Repository.getImageById imageId)

/-- The image is deleted by its own id, whatever product it belongs to. -/
def deleteImage (currentUser : CurrentUser) (productId imageId : Uuid) :
    Call AppError AppState Unit := do
  let product ← onPool (Repository.getProductById productId)
  Call.query fun _ => requireAccess currentUser product.sellerId
  inTransaction "Failed to delete image" (Repository.deleteProductImage imageId)
  evict (.productDetail productId)

end Koupang.Store.Products
