import Koupang.Model.Categories

/-!
# Catalog service: brands

The model of `brands/`: brands, and the categories that a brand is associated
with.
-/

namespace Koupang.Store.Brands

open Categories.Repository (getCategoryById)

/-! ## Requests -/

structure CreateBrandReq where
  name : String
  slug : Option String
  description : Option String
  logoUrl : Option String
deriving DecidableEq

structure UpdateBrandReq where
  name : Option String
  description : Option String
  logoUrl : Option String
deriving DecidableEq

structure ValidCreateBrandReq where
  name : String
  slug : Slug
  description : Option String
  logoUrl : Option HttpUrl
deriving DecidableEq

def ValidCreateBrandReq.tryFrom (req : CreateBrandReq) :
    Except AppError ValidCreateBrandReq := do
  let name ← BrandName.new req.name
  let slug ← match req.slug with
    | some s => Slug.new s
    | none => Slug.fromName name
  let logoUrl ← req.logoUrl.mapM HttpUrl.new
  return { name, slug, description := req.description, logoUrl }

structure ValidUpdateBrandReq where
  name : Option String
  description : Option String
  logoUrl : Option HttpUrl
deriving DecidableEq

def ValidUpdateBrandReq.tryFrom (req : UpdateBrandReq) :
    Except AppError ValidUpdateBrandReq := do
  let name ← req.name.mapM BrandName.new
  let logoUrl ← req.logoUrl.mapM HttpUrl.new
  return { name, description := req.description, logoUrl }

/-! ## Repository -/

namespace Repository

/-- `SELECT * FROM brands WHERE id = $1` -/
def getBrandById (id : Uuid) (db : Db) : Except AppError BrandEntity :=
  match db.brands.find? id with
  | some brand => .ok brand
  | none => .error (.notFound s!"Brand not found: {rowNotFound}")

/-- `SELECT * FROM brands WHERE slug = $1` -/
def getBrandBySlug (slug : String) (db : Db) : Except AppError BrandEntity :=
  match db.brands.rows.find? (·.slug = slug) with
  | some brand => .ok brand
  | none => .error (.notFound s!"Brand not found: {rowNotFound}")

/-- `INSERT INTO brands .. RETURNING id` -/
def insertBrand (req : ValidCreateBrandReq) (db : Db) : Except String (Uuid × Db) := do
  let name ← varchar 255 req.name
  let slug ← varchar 255 req.slug.value
  let (id, db) := nowV7 db
  let row : BrandEntity :=
    { id, createdAt := db.now, updatedAt := none, name, slug, description := req.description
      logoUrl := req.logoUrl.map (·.value) }
  if db.brands.rows.any (·.name = name) then
    throw "duplicate key value violates unique constraint \"brands_name_key\""
  if db.brands.rows.any (·.slug = slug) then
    throw "duplicate key value violates unique constraint \"brands_slug_key\""
  match db.brands.insert row with
  | none => throw "duplicate key value violates unique constraint \"brands_pkey\""
  | some brands => return (id, { db with brands })

def createBrand (req : ValidCreateBrandReq) : Tx AppError Db Uuid :=
  Tx.statement (fun e => .internalServerError s!"Failed to create brand: {e}") (insertBrand req)

/-- The columns that `UPDATE brands SET ..` writes. -/
def setBrand (req : ValidUpdateBrandReq) (name : Option String) (now : Nat) (brand : BrandEntity) :
    BrandEntity :=
  { brand with name := name.getD brand.name
               description := req.description.or brand.description
               logoUrl := (req.logoUrl.map (·.value)).or brand.logoUrl
               updatedAt := some now }

/-- `UPDATE brands SET .. WHERE id = $1`, returning the rows affected. -/
def updateBrandRow (id : Uuid) (req : ValidUpdateBrandReq) (db : Db) :
    Except String (Nat × Db) := do
  match db.brands.find? id with
  | none => return (0, db)
  | some brand =>
    let name ← req.name.mapM (varchar 255)
    let row := setBrand req name db.now brand
    if db.brands.rows.any (fun b => b.id ≠ id && b.name = row.name) then
      throw "duplicate key value violates unique constraint \"brands_name_key\""
    return (1, { db with brands := db.brands.modify id (setBrand req name db.now) fun _ => rfl })

def updateBrand (id : Uuid) (req : ValidUpdateBrandReq) : Tx AppError Db Unit := do
  if req.name.isNone && req.description.isNone && req.logoUrl.isNone then
    return ()
  let rowsAffected ← Tx.statement (fun e => .internalServerError s!"Failed to update brand: {e}")
    (updateBrandRow id req)
  if rowsAffected = 0 then
    throw (.notFound "Brand not found")

/-- `DELETE FROM brands WHERE id = $1`. The keys that refer to the row are checked when it is
    gone; its associations with categories go with it. -/
def deleteBrandRow (id : Uuid) (db : Db) : Except String (Nat × Db) := do
  match db.brands.find? id with
  | none => return (0, db)
  | some _ =>
    if db.products.rows.any (·.brandId = some id) then
      throw ("update or delete on table \"brands\" violates foreign key constraint " ++
        "\"products_brand_id_fkey\" on table \"products\"")
    return (1, { db with brands := db.brands.filter (·.id ≠ id)
                         brandCategories := db.brandCategories.filter (·.brandId ≠ id) })

def deleteBrand (id : Uuid) : Tx AppError Db Unit := do
  let rowsAffected ← Tx.statement (fun e => .internalServerError s!"Failed to delete brand: {e}")
    (deleteBrandRow id)
  if rowsAffected = 0 then
    throw (.notFound "Brand not found")

/-- Check if any products reference this brand. -/
def hasProducts (id : Uuid) (db : Db) : Bool :=
  db.products.rows.any fun p => p.brandId = some id && p.deletedAt.isNone

/-- `INSERT INTO brand_categories .. ON CONFLICT DO NOTHING` -/
def insertBrandCategory (brandId categoryId : Uuid) (db : Db) : Except String (Nat × Db) := do
  match db.brandCategories.insert { brandId, categoryId } with
  | none => return (0, db)
  | some brandCategories =>
    if (db.brands.find? brandId).isNone then
      throw "insert violates foreign key constraint \"brand_categories_brand_id_fkey\""
    if (db.categories.find? categoryId).isNone then
      throw "insert violates foreign key constraint \"brand_categories_category_id_fkey\""
    return (1, { db with brandCategories })

def associateCategory (brandId categoryId : Uuid) : Tx AppError Db Unit := do
  let _ ← Tx.statement (fun e => .internalServerError s!"Failed to associate category: {e}")
    (insertBrandCategory brandId categoryId)

/-- `DELETE FROM brand_categories WHERE brand_id = $1 AND category_id = $2` -/
def deleteBrandCategory (brandId categoryId : Uuid) (db : Db) : Except String (Nat × Db) :=
  match db.brandCategories.find? (brandId, categoryId) with
  | none => .ok (0, db)
  | some _ => .ok (1, { db with
      brandCategories := db.brandCategories.filter (·.key ≠ (brandId, categoryId)) })

def disassociateCategory (brandId categoryId : Uuid) : Tx AppError Db Unit := do
  let rowsAffected ← Tx.statement
    (fun e => .internalServerError s!"Failed to disassociate category: {e}")
    (deleteBrandCategory brandId categoryId)
  if rowsAffected = 0 then
    throw (.notFound "Brand-category association not found")

end Repository

/-! ## Service -/

def createBrand (currentUser : CurrentUser) (req : CreateBrandReq) :
    Call AppError AppState BrandRes := do
  Call.query fun _ => requireAdmin currentUser
  let validated ← Call.query fun _ => ValidCreateBrandReq.tryFrom req
  let brandId ← inTransaction "Failed to create brand" (Repository.createBrand validated)
  onPool (Repository.getBrandById brandId)

def getBrand (id : Uuid) : Call AppError AppState BrandRes :=
  onPool (Repository.getBrandById id)

def getBrandBySlug (slug : String) : Call AppError AppState BrandRes :=
  onPool (Repository.getBrandBySlug slug)

def updateBrand (currentUser : CurrentUser) (id : Uuid) (req : UpdateBrandReq) :
    Call AppError AppState Unit := do
  Call.query fun _ => requireAdmin currentUser
  let _ ← onPool (Repository.getBrandById id)
  let validated ← Call.query fun _ => ValidUpdateBrandReq.tryFrom req
  inTransaction "Failed to update brand" (Repository.updateBrand id validated)

/-- The guard of `delete_brand`. -/
def checkDelete (id : Uuid) (db : Db) : Except AppError Unit :=
  if Repository.hasProducts id db then
    .error (.badRequest
      "Cannot delete brand with associated products. Reassign products first.")
  else .ok ()

def deleteBrand (currentUser : CurrentUser) (id : Uuid) : Call AppError AppState Unit := do
  Call.query fun _ => requireAdmin currentUser
  let _ ← onPool (Repository.getBrandById id)
  onPool (checkDelete id)
  inTransaction "Failed to delete brand" (Repository.deleteBrand id)

def associateCategory (currentUser : CurrentUser) (brandId categoryId : Uuid) :
    Call AppError AppState Unit := do
  Call.query fun _ => requireAdmin currentUser
  let _ ← onPool (Repository.getBrandById brandId)
  let _ ← onPool (getCategoryById categoryId)
  inTransaction "Failed to associate category" (Repository.associateCategory brandId categoryId)

def disassociateCategory (currentUser : CurrentUser) (brandId categoryId : Uuid) :
    Call AppError AppState Unit := do
  Call.query fun _ => requireAdmin currentUser
  inTransaction "Failed to disassociate category"
    (Repository.disassociateCategory brandId categoryId)

end Koupang.Store.Brands
