import Mathlib.Data.List.Lex
import Mathlib.Data.List.Sort
import Mathlib.Data.String.Basic
import Koupang.Model.CatalogTables

/-!
# Catalog service: categories

The model of `categories/`: the statements on the table with their constraints,
the checks of a request, and the service functions. The place of a category in
the tree is stored twice, in `parent_id` and in `path`, an `ltree`: labels
separated by dots.
-/

namespace Koupang.Store.Categories

/-! ## Paths -/

/-- The labels of an `ltree`. -/
def labels (path : String) : List (List Char) := path.toList.splitOn '.'

/-- `$1::ltree`: an `ltree` is empty or a sequence of labels. -/
def castLtree (path : String) : Except String String :=
  let isLabel (label : List Char) : Bool :=
    !label.isEmpty && label.length ≤ 1000 &&
      label.all fun c => isSkuChar c || c = '_' || c = '-'
  if path.isEmpty || (labels path).all isLabel then .ok path else .error "ltree syntax error"

/-- `path @> other`: an ancestor of `other`, or the same. -/
def isAncestor (path other : String) : Bool := (labels path).isPrefixOf (labels other)

/-! ## Requests -/

structure CreateCategoryReq where
  name : String
  slug : Option String
  parentId : Option Uuid
  description : Option String
deriving DecidableEq

structure UpdateCategoryReq where
  name : Option String
  description : Option String
deriving DecidableEq

structure ValidCreateCategoryReq where
  name : String
  slug : Slug
  label : LtreeLabel
  parentId : Option Uuid
  description : Option String
deriving DecidableEq

def ValidCreateCategoryReq.tryFrom (req : CreateCategoryReq) :
    Except AppError ValidCreateCategoryReq := do
  let name ← CategoryName.new req.name
  let slug ← match req.slug with
    | some s => Slug.new s
    | none => Slug.fromName name
  let label ← LtreeLabel.fromName name
  return { name, slug, label, parentId := req.parentId, description := req.description }

structure ValidUpdateCategoryReq where
  name : Option String
  description : Option String
deriving DecidableEq

def ValidUpdateCategoryReq.tryFrom (req : UpdateCategoryReq) :
    Except AppError ValidUpdateCategoryReq := do
  let name ← req.name.mapM CategoryName.new
  return { name, description := req.description }

/-! ## Repository -/

namespace Repository

/-- `SELECT .. FROM categories WHERE id = $1` -/
def getCategoryById (id : Uuid) (db : Db) : Except AppError CategoryEntity :=
  match db.categories.find? id with
  | some category => .ok category
  | none => .error (.notFound s!"Category not found: {rowNotFound}")

/-- `SELECT .. FROM categories WHERE slug = $1` -/
def getCategoryBySlug (slug : String) (db : Db) : Except AppError CategoryEntity :=
  match db.categories.rows.find? (·.slug = slug) with
  | some category => .ok category
  | none => .error (.notFound s!"Category not found: {rowNotFound}")

/-- Get all descendants of a category (including itself):
    `WHERE path <@ $1::ltree ORDER BY path ASC LIMIT 200` -/
def getSubtree (path : String) (db : Db) : List CategoryEntity :=
  ((db.categories.rows.filter fun c => isAncestor path c.path).insertionSort
    fun c d => labels c.path ≤ labels d.path).take 200

/-- Get all ancestors of a category (including itself):
    `WHERE path @> $1::ltree ORDER BY depth ASC LIMIT 50` -/
def getAncestors (path : String) (db : Db) : List CategoryEntity :=
  ((db.categories.rows.filter fun c => isAncestor c.path path).insertionSort
    fun c d => c.depth ≤ d.depth).take 50

/-- `INSERT INTO categories .. RETURNING id` -/
def insertCategory (req : ValidCreateCategoryReq) (path : String) (depth : Int) (db : Db) :
    Except String (Uuid × Db) := do
  let name ← varchar 255 req.name
  let slug ← varchar 255 req.slug.value
  let path ← castLtree path
  let depth ← int4 depth
  let (id, db) := nowV7 db
  let row : CategoryEntity :=
    { id, createdAt := db.now, updatedAt := none, name, slug, path, parentId := req.parentId,
      depth, description := req.description }
  if db.categories.rows.any (·.slug = slug) then
    throw "duplicate key value violates unique constraint \"categories_slug_key\""
  if db.categories.rows.any (·.path = path) then
    throw "duplicate key value violates unique constraint \"categories_path_key\""
  match db.categories.insert row with
  | none => throw "duplicate key value violates unique constraint \"categories_pkey\""
  | some categories =>
    -- the key is checked when the row is there
    if (req.parentId.all fun parent => (categories.find? parent).isSome) = false then
      throw "insert violates foreign key constraint \"categories_parent_id_fkey\""
    return (id, { db with categories })

def createCategory (req : ValidCreateCategoryReq) (path : String) (depth : Int) :
    Tx AppError Db Uuid :=
  Tx.statement (fun e => .internalServerError s!"Failed to create category: {e}")
    (insertCategory req path depth)

/-- The columns that `UPDATE categories SET ..` writes. -/
def setCategory (req : ValidUpdateCategoryReq) (name : Option String) (now : Nat)
    (category : CategoryEntity) : CategoryEntity :=
  { category with name := name.getD category.name
                  description := req.description.or category.description
                  updatedAt := some now }

/-- `UPDATE categories SET .. WHERE id = $1`, returning the rows affected. -/
def updateCategoryRow (id : Uuid) (req : ValidUpdateCategoryReq) (db : Db) :
    Except String (Nat × Db) := do
  match db.categories.find? id with
  | none => return (0, db)
  | some _ =>
    let name ← req.name.mapM (varchar 255)
    return (1, { db with categories :=
      db.categories.modify id (setCategory req name db.now) fun _ => rfl })

def updateCategory (id : Uuid) (req : ValidUpdateCategoryReq) : Tx AppError Db Unit := do
  if req.name.isNone && req.description.isNone then
    return ()
  let rowsAffected ← Tx.statement
    (fun e => .internalServerError s!"Failed to update category: {e}") (updateCategoryRow id req)
  if rowsAffected = 0 then
    throw (.notFound "Category not found")

/-- `DELETE FROM categories WHERE id = $1`. The keys that refer to the row are checked when it
    is gone; its associations with brands go with it. -/
def deleteCategoryRow (id : Uuid) (db : Db) : Except String (Nat × Db) := do
  match db.categories.find? id with
  | none => return (0, db)
  | some _ =>
    let categories := db.categories.filter (·.id ≠ id)
    if categories.rows.any (·.parentId = some id) then
      throw ("update or delete on table \"categories\" violates foreign key constraint " ++
        "\"categories_parent_id_fkey\" on table \"categories\"")
    if db.products.rows.any (·.categoryId = some id) then
      throw ("update or delete on table \"categories\" violates foreign key constraint " ++
        "\"products_category_id_fkey\" on table \"products\"")
    return (1, { db with categories
                         brandCategories := db.brandCategories.filter (·.categoryId ≠ id) })

def deleteCategory (id : Uuid) : Tx AppError Db Unit := do
  let rowsAffected ← Tx.statement
    (fun e => .internalServerError s!"Failed to delete category: {e}") (deleteCategoryRow id)
  if rowsAffected = 0 then
    throw (.notFound "Category not found")

/-- Check if a category has child categories. -/
def hasChildren (id : Uuid) (db : Db) : Bool :=
  db.categories.rows.any (·.parentId = some id)

/-- Check if any products reference this category. -/
def hasProducts (id : Uuid) (db : Db) : Bool :=
  db.products.rows.any fun p => p.categoryId = some id && p.deletedAt.isNone

end Repository

/-! ## Service -/

def maxCategoryDepth : Int := 10

/-- The path and the depth of a category to be created. -/
def place (validated : ValidCreateCategoryReq) (db : Db) : Except AppError (String × Int) := do
  match validated.parentId with
  | some parentId =>
    let parent ← Repository.getCategoryById parentId db
    let depth := parent.depth + 1
    if depth > maxCategoryDepth then
      throw (.badRequest s!"Category depth must not exceed {maxCategoryDepth}")
    let path := s!"{parent.path}.{validated.label.value}"
    return (path, depth)
  | none => return (validated.label.value, 0)

def createCategory (currentUser : CurrentUser) (req : CreateCategoryReq) :
    Call AppError AppState CategoryRes := do
  Call.query fun _ => requireAdmin currentUser
  let validated ← Call.query fun _ => ValidCreateCategoryReq.tryFrom req
  let (path, depth) ← onPool (place validated)
  let categoryId ← inTransaction "Failed to create category"
    (Repository.createCategory validated path depth)
  onPool (Repository.getCategoryById categoryId)

def getCategory (id : Uuid) : Call AppError AppState CategoryRes :=
  onPool (Repository.getCategoryById id)

def getCategoryBySlug (slug : String) : Call AppError AppState CategoryRes :=
  onPool (Repository.getCategoryBySlug slug)

def getSubtree (id : Uuid) : Call AppError AppState (List CategoryRes) := do
  let category ← onPool (Repository.getCategoryById id)
  onPool fun db => .ok (Repository.getSubtree category.path db)

def getAncestors (id : Uuid) : Call AppError AppState (List CategoryRes) := do
  let category ← onPool (Repository.getCategoryById id)
  onPool fun db => .ok (Repository.getAncestors category.path db)

def updateCategory (currentUser : CurrentUser) (id : Uuid) (req : UpdateCategoryReq) :
    Call AppError AppState Unit := do
  Call.query fun _ => requireAdmin currentUser
  let _ ← onPool (Repository.getCategoryById id)
  let validated ← Call.query fun _ => ValidUpdateCategoryReq.tryFrom req
  inTransaction "Failed to update category" (Repository.updateCategory id validated)

/-- The guards of `delete_category`. -/
def checkDelete (id : Uuid) (db : Db) : Except AppError Unit := do
  if Repository.hasChildren id db then
    throw (.badRequest "Cannot delete category with child categories. Delete children first.")
  if Repository.hasProducts id db then
    throw (.badRequest
      "Cannot delete category with associated products. Reassign products first.")

def deleteCategory (currentUser : CurrentUser) (id : Uuid) : Call AppError AppState Unit := do
  Call.query fun _ => requireAdmin currentUser
  let _ ← onPool (Repository.getCategoryById id)
  onPool (checkDelete id)
  inTransaction "Failed to delete category" (Repository.deleteCategory id)

end Koupang.Store.Categories
