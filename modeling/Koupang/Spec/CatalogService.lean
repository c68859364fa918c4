import Koupang.ForStd.Run
import Koupang.Model.CatalogService
import Koupang.Spec.SharedCorrect

/-!
# What an operation of the catalog service does

An operation changes nothing, or it has passed its checks and executed its
statement. `Effect` says for each operation which checks and which statement,
and what it evicts from the cache. The lemmas below it say what a statement that
succeeds has done to its table.

## Key results

- `execute_effect`: an operation changes nothing or has its effect
-/

namespace Koupang.Store

open Catalog (CatalogDb)

/-! ## Transactions of one statement, behind a check -/

section Transaction

variable {α : Type} {onError : String → AppError} {db db' : Db}

/-- The same behind a check that there is something to write. -/
theorem withTransaction_unless {f : Db → Except String (Nat × Db)} {e : AppError} {u : Unit}
    {empty : Bool}
    (h : withTransaction (if empty then pure () else do
      let rowsAffected ← Tx.statement onError f
      if rowsAffected = 0 then throw e) db = .ok (u, db')) :
    db' = db ∨ ∃ rowsAffected, f db = .ok (rowsAffected, db') ∧ rowsAffected ≠ 0 := by
  cases empty with
  | true =>
    cases h
    exact .inl rfl
  | false => exact .inr (withTransaction_affected h)

theorem withTransaction_of_unless {f : Db → Except String (Nat × Db)} {e : AppError} {empty : Bool}
    {rowsAffected : Nat} (hempty : empty = false) (h : f db = .ok (rowsAffected, db'))
    (haffected : rowsAffected ≠ 0) :
    withTransaction (if empty then pure () else do
      let rowsAffected ← Tx.statement onError f
      if rowsAffected = 0 then throw e) db = .ok ((), db') := by
  subst hempty
  exact withTransaction_of_affected h haffected

end Transaction

/-! ## Effects -/

section Effect

/-- What an operation that gets to its statement does in the state `s`. -/
inductive Effect (s : AppState) : CatalogOp → AppState → Prop
  | createCategory {user req validated path depth id pool}
      (admin : requireAdmin user = .ok ())
      (valid : Categories.ValidCreateCategoryReq.tryFrom req = .ok validated)
      (hplace : Categories.place validated s.pool = .ok (path, depth))
      (statement : Categories.Repository.insertCategory validated path depth s.pool =
        .ok (id, pool)) :
      Effect s (.createCategory user req) { s with pool }
  | updateCategory {user id req validated rowsAffected pool}
      (admin : requireAdmin user = .ok ())
      (valid : Categories.ValidUpdateCategoryReq.tryFrom req = .ok validated)
      (statement : Categories.Repository.updateCategoryRow id validated s.pool =
        .ok (rowsAffected, pool)) (affected : rowsAffected ≠ 0) :
      Effect s (.updateCategory user id req) { s with pool }
  | deleteCategory {user id rowsAffected pool}
      (guards : Categories.checkDelete id s.pool = .ok ())
      (statement : Categories.Repository.deleteCategoryRow id s.pool = .ok (rowsAffected, pool))
      (affected : rowsAffected ≠ 0) :
      Effect s (.deleteCategory user id) { s with pool }
  | createBrand {user req validated id pool}
      (valid : Brands.ValidCreateBrandReq.tryFrom req = .ok validated)
      (statement : Brands.Repository.insertBrand validated s.pool = .ok (id, pool)) :
      Effect s (.createBrand user req) { s with pool }
  | updateBrand {user id req validated rowsAffected pool}
      (admin : requireAdmin user = .ok ())
      (valid : Brands.ValidUpdateBrandReq.tryFrom req = .ok validated)
      (statement : Brands.Repository.updateBrandRow id validated s.pool =
        .ok (rowsAffected, pool)) (affected : rowsAffected ≠ 0) :
      Effect s (.updateBrand user id req) { s with pool }
  | deleteBrand {user id rowsAffected pool}
      (guards : Brands.checkDelete id s.pool = .ok ())
      (statement : Brands.Repository.deleteBrandRow id s.pool = .ok (rowsAffected, pool))
      (affected : rowsAffected ≠ 0) :
      Effect s (.deleteBrand user id) { s with pool }
  | associateCategory {user brandId categoryId rowsAffected pool}
      (statement : Brands.Repository.insertBrandCategory brandId categoryId s.pool =
        .ok (rowsAffected, pool)) :
      Effect s (.associateCategory user brandId categoryId) { s with pool }
  | disassociateCategory {user brandId categoryId rowsAffected pool}
      (admin : requireAdmin user = .ok ())
      (statement : Brands.Repository.deleteBrandCategory brandId categoryId s.pool =
        .ok (rowsAffected, pool)) (affected : rowsAffected ≠ 0) :
      Effect s (.disassociateCategory user brandId categoryId) { s with pool }
  | createProduct {user req validated id pool}
      (references : Products.Repository.validateFkReferences validated.categoryId
        validated.brandId s.pool = .ok ())
      (statement : Products.Repository.insertProduct user.id validated s.pool = .ok (id, pool)) :
      Effect s (.createProduct user req) { s with pool }
  | updateProduct {user id req product validated rowsAffected pool}
      (found : Products.Repository.findProductById id s.pool = some product)
      (valid : Products.ValidUpdateProductReq.new req product = .ok validated)
      (references : Products.Repository.validateFkReferences validated.categoryId
        validated.brandId s.pool = .ok ())
      (statement : Products.Repository.updateProductColumns id validated s.pool =
        .ok (rowsAffected, pool)) (affected : rowsAffected ≠ 0) :
      Effect s (.updateProduct user id req)
        { pool, cache := (s.cache.evict (.productDetail id)).evict (.productSlug product.slug) }
  | deleteProduct {user id product rowsAffected pool}
      (found : Products.Repository.findProductById id s.pool = some product)
      (statement : Products.Repository.softDeleteProduct id s.pool = .ok (rowsAffected, pool))
      (affected : rowsAffected ≠ 0) :
      Effect s (.deleteProduct user id)
        { pool, cache := (s.cache.evict (.productDetail id)).evict (.productSlug product.slug) }
  | createSku {user productId req validated id pool}
      (statement : Products.Repository.insertSku productId validated s.pool = .ok (id, pool)) :
      Effect s (.createSku user productId req)
        { pool, cache := s.cache.evict (.productDetail productId) }
  | updateSku {user skuId req sku validated rowsAffected pool}
      (found : s.pool.skus.find? skuId = some sku)
      (statement : Products.Repository.updateSkuColumns skuId validated s.pool =
        .ok (rowsAffected, pool)) (affected : rowsAffected ≠ 0) :
      Effect s (.updateSku user skuId req)
        { pool, cache := s.cache.evict (.productDetail sku.productId) }
  | deleteSku {user skuId sku rowsAffected pool}
      (found : s.pool.skus.find? skuId = some sku)
      (statement : Products.Repository.softDeleteSku skuId s.pool = .ok (rowsAffected, pool))
      (affected : rowsAffected ≠ 0) :
      Effect s (.deleteSku user skuId)
        { pool, cache := s.cache.evict (.productDetail sku.productId) }
  | adjustStock {user skuId delta sku rowsAffected pool}
      (found : s.pool.skus.find? skuId = some sku)
      (statement : Products.Repository.addStock skuId delta s.pool = .ok (rowsAffected, pool))
      (affected : rowsAffected ≠ 0) :
      Effect s (.adjustStock user skuId delta)
        { pool, cache := s.cache.evict (.productDetail sku.productId) }
  | addImage {user productId req validated id pool}
      (statement : Products.Repository.insertImage productId validated
        (if validated.isPrimary then Products.Repository.unsetPrimary productId s.pool
          else s.pool) = .ok (id, pool)) :
      Effect s (.addImage user productId req)
        { pool, cache := s.cache.evict (.productDetail productId) }
  | deleteImage {user productId imageId product rowsAffected pool}
      (found : Products.Repository.findProductById productId s.pool = some product)
      (access : requireAccess user product.sellerId = .ok ())
      (statement : Products.Repository.deleteImageRow imageId s.pool = (rowsAffected, pool))
      (affected : rowsAffected ≠ 0) :
      Effect s (.deleteImage user productId imageId)
        { pool, cache := s.cache.evict (.productDetail productId) }
  | getProductBySlug {slug row}
      (found : Products.Repository.findProductBySlug slug s.pool = some row) :
      Effect s (.getProductBySlug slug)
        { s with cache := s.cache.set (.productSlug slug)
                   (.product (Products.ProductRes.new s.pool row)) }
  | getProductDetail {id detail}
      (found : Products.Repository.getProductDetail id s.pool = .ok detail) :
      Effect s (.getProductDetail id)
        { s with cache := s.cache.set (.productDetail id) (.detail detail) }
  /-- an operation evicts what it might have changed, but has changed nothing -/
  | evict {op key} : Effect s op { s with cache := s.cache.evict key }
  | evictProduct {op id slug} : Effect s op
      { s with cache := (s.cache.evict (.productDetail id)).evict (.productSlug slug) }
  | inventory {call} (inventory : CatalogDb) :
      Effect s (.inventory call) { s with pool := s.pool.setInventory inventory }

theorem requireAdmin_ok {user : CurrentUser} {u : Unit} :
    requireAdmin user = .ok u ↔ user.role = .admin := by
  unfold requireAdmin
  split <;> simp_all

/-! ### Steps of a call -/

variable {P : AppState → Prop} {s : AppState} {α β : Type}

theorem final_onPool {f : Db → Except AppError α} {g : α → Call AppError AppState β} (hs : P s)
    (hok : ∀ a, f s.pool = .ok a → P ((g a).final s)) : P ((onPool f >>= g).final s) :=
  Call.final_query hs hok

theorem final_onPool_end {f : Db → Except AppError α} (hs : P s) : P ((onPool f).final s) :=
  Call.final_query_end hs

theorem result_onPool (f : Db → Except AppError α) (s : AppState) :
    (onPool f).result s = f s.pool :=
  Call.result_query _ s

theorem result_onPool_bind {f : Db → Except AppError α} {g : α → Call AppError AppState β} {a : α}
    (h : f s.pool = .ok a) : (onPool f >>= g).result s = (g a).result s :=
  Call.result_query_bind h

/-- A check of the request or of its caller, passed. -/
theorem final_check_of_ok {x : Except AppError α} {g : α → Call AppError AppState β} {a : α}
    (h : x = .ok a) : (Call.query (fun _ => x) >>= g).final s = (g a).final s :=
  Call.final_query_of_ok (f := fun _ => x) h

theorem final_onPool_of_ok {f : Db → Except AppError α} {g : α → Call AppError AppState β} {a : α}
    (h : f s.pool = .ok a) : (onPool f >>= g).final s = (g a).final s :=
  Call.final_query_of_ok h

theorem inTransaction_ok {what : String} {x : Tx AppError Db α} {a : α} {t : AppState}
    (h : (match withTransaction x s.pool with
      | .ok (a, pool) => .ok (a, { s with pool })
      | .error e => .error (.internalServerError s!"{what}: {e}") :
        Except AppError (α × AppState)) = .ok (a, t)) :
    ∃ pool, withTransaction x s.pool = .ok (a, pool) ∧ t = { s with pool } := by
  split at h
  · rename_i b pool htx
    cases h
    exact ⟨pool, htx, rfl⟩
  · exact nomatch h

theorem final_inTransaction {what : String} {x : Tx AppError Db α}
    {g : α → Call AppError AppState β} (hs : P s)
    (hok : ∀ a pool, withTransaction x s.pool = .ok (a, pool) → P ((g a).final { s with pool })) :
    P ((inTransaction what x >>= g).final s) := by
  refine Call.final_write hs fun a t h => ?_
  obtain ⟨pool, htx, rfl⟩ := inTransaction_ok h
  exact hok a pool htx

theorem inTransaction_of_ok {what : String} {x : Tx AppError Db α} {a : α} {pool : Db}
    (h : withTransaction x s.pool = .ok (a, pool)) :
    (match withTransaction x s.pool with
      | .ok (a, pool) => .ok (a, { s with pool })
      | .error e => .error (.internalServerError s!"{what}: {e}") :
        Except AppError (α × AppState)) = .ok (a, { s with pool }) := by
  rw [h]

theorem final_inTransaction_of_ok {what : String} {x : Tx AppError Db α}
    {g : α → Call AppError AppState β} {a : α} {pool : Db}
    (h : withTransaction x s.pool = .ok (a, pool)) :
    (inTransaction what x >>= g).final s = (g a).final { s with pool } :=
  Call.final_write_of_ok (inTransaction_of_ok h)

theorem final_inTransaction_end_of_ok {what : String} {x : Tx AppError Db α} {a : α} {pool : Db}
    (h : withTransaction x s.pool = .ok (a, pool)) :
    (inTransaction what x).final s = { s with pool } :=
  Call.final_write_end_of_ok (inTransaction_of_ok h)

theorem final_inTransaction_end {what : String} {x : Tx AppError Db α} (hs : P s)
    (hok : ∀ a pool, withTransaction x s.pool = .ok (a, pool) → P { s with pool }) :
    P ((inTransaction what x).final s) := by
  refine Call.final_write_end hs fun a t h => ?_
  obtain ⟨pool, htx, rfl⟩ := inTransaction_ok h
  exact hok a pool htx

/-! ### One operation at a time -/

/-- The state `t` after `op` in the state `s`. -/
def Outcome (s : AppState) (op : CatalogOp) (t : AppState) : Prop := t = s ∨ Effect s op t

variable {user : CurrentUser}

theorem outcome_createCategory (req : Categories.CreateCategoryReq) :
    Outcome s (.createCategory user req) ((Categories.createCategory user req).final s) := by
  refine Call.final_query (.inl rfl) fun _ hadmin => ?_
  refine Call.final_query (.inl rfl) fun validated hvalid => ?_
  refine final_onPool (.inl rfl) fun at_ hplace => ?_
  refine final_inTransaction (.inl rfl) fun id pool htx => ?_
  refine final_onPool_end (.inr ?_)
  exact .createCategory hadmin hvalid hplace (withTransaction_statement htx)

theorem outcome_updateCategory (id : Uuid) (req : Categories.UpdateCategoryReq) :
    Outcome s (.updateCategory user id req) ((Categories.updateCategory user id req).final s) := by
  refine Call.final_query (.inl rfl) fun _ hadmin => ?_
  refine final_onPool (.inl rfl) fun category hcategory => ?_
  refine Call.final_query (.inl rfl) fun validated hvalid => ?_
  refine final_inTransaction_end (.inl rfl) fun _ pool htx => ?_
  rcases withTransaction_unless htx with rfl | ⟨rowsAffected, hstatement, haffected⟩
  · exact .inl rfl
  · exact .inr (.updateCategory hadmin hvalid hstatement haffected)

theorem outcome_deleteCategory (id : Uuid) :
    Outcome s (.deleteCategory user id) ((Categories.deleteCategory user id).final s) := by
  refine Call.final_query (.inl rfl) fun _ hadmin => ?_
  refine final_onPool (.inl rfl) fun category hcategory => ?_
  refine final_onPool (.inl rfl) fun _ hguards => ?_
  refine final_inTransaction_end (.inl rfl) fun _ pool htx => ?_
  obtain ⟨rowsAffected, hstatement, haffected⟩ := withTransaction_affected htx
  exact .inr (.deleteCategory hguards hstatement haffected)

theorem outcome_createBrand (req : Brands.CreateBrandReq) :
    Outcome s (.createBrand user req) ((Brands.createBrand user req).final s) := by
  refine Call.final_query (.inl rfl) fun _ hadmin => ?_
  refine Call.final_query (.inl rfl) fun validated hvalid => ?_
  refine final_inTransaction (.inl rfl) fun id pool htx => ?_
  refine final_onPool_end (.inr ?_)
  exact .createBrand hvalid (withTransaction_statement htx)

theorem outcome_updateBrand (id : Uuid) (req : Brands.UpdateBrandReq) :
    Outcome s (.updateBrand user id req) ((Brands.updateBrand user id req).final s) := by
  refine Call.final_query (.inl rfl) fun _ hadmin => ?_
  refine final_onPool (.inl rfl) fun brand hbrand => ?_
  refine Call.final_query (.inl rfl) fun validated hvalid => ?_
  refine final_inTransaction_end (.inl rfl) fun _ pool htx => ?_
  rcases withTransaction_unless htx with rfl | ⟨rowsAffected, hstatement, haffected⟩
  · exact .inl rfl
  · exact .inr (.updateBrand hadmin hvalid hstatement haffected)

theorem outcome_deleteBrand (id : Uuid) :
    Outcome s (.deleteBrand user id) ((Brands.deleteBrand user id).final s) := by
  refine Call.final_query (.inl rfl) fun _ hadmin => ?_
  refine final_onPool (.inl rfl) fun brand hbrand => ?_
  refine final_onPool (.inl rfl) fun _ hguards => ?_
  refine final_inTransaction_end (.inl rfl) fun _ pool htx => ?_
  obtain ⟨rowsAffected, hstatement, haffected⟩ := withTransaction_affected htx
  exact .inr (.deleteBrand hguards hstatement haffected)

theorem outcome_associateCategory (brandId categoryId : Uuid) :
    Outcome s (.associateCategory user brandId categoryId)
      ((Brands.associateCategory user brandId categoryId).final s) := by
  refine Call.final_query (.inl rfl) fun _ hadmin => ?_
  refine final_onPool (.inl rfl) fun brand hbrand => ?_
  refine final_onPool (.inl rfl) fun category hcategory => ?_
  refine final_inTransaction_end (.inl rfl) fun _ pool htx => ?_
  obtain ⟨t, ht, rfl⟩ := withTransaction_run htx
  obtain ⟨rowsAffected, u, hu, hpure⟩ := Tx.bind_ok.mp ht
  obtain ⟨-, db', hstatement, rfl⟩ := Tx.statement_ok.mp hu
  obtain ⟨-, rfl⟩ := Tx.pure_ok.mp hpure
  exact .inr (.associateCategory hstatement)

theorem outcome_disassociateCategory (brandId categoryId : Uuid) :
    Outcome s (.disassociateCategory user brandId categoryId)
      ((Brands.disassociateCategory user brandId categoryId).final s) := by
  refine Call.final_query (.inl rfl) fun _ hadmin => ?_
  refine final_inTransaction_end (.inl rfl) fun _ pool htx => ?_
  obtain ⟨rowsAffected, hstatement, haffected⟩ := withTransaction_affected htx
  exact .inr (.disassociateCategory hadmin hstatement haffected)

theorem productFound_ok {product : Option ProductRow} {row : ProductRow}
    (h : Products.Repository.productFound product = .ok row) : product = some row := by
  unfold Products.Repository.productFound at h
  split at h
  · cases h
    rfl
  · exact nomatch h

theorem getSkuById_ok {id : Uuid} {db : Db} {sku : SkuEntity}
    (h : Products.Repository.getSkuById id db = .ok sku) :
    db.skus.find? id = some sku ∧ sku.deletedAt = none := by
  unfold Products.Repository.getSkuById at h
  split at h
  · rename_i found hfound
    cases h
    simpa using Option.filter_eq_some_iff.mp hfound
  · cases h

theorem outcome_createProduct (req : Products.CreateProductReq) :
    Outcome s (.createProduct user req) ((Products.createProduct user req).final s) := by
  refine Call.final_query (.inl rfl) fun validated hvalid => ?_
  refine final_onPool (.inl rfl) fun _ hreferences => ?_
  refine final_inTransaction (.inl rfl) fun id pool htx => ?_
  refine final_onPool_end (.inr ?_)
  exact .createProduct hreferences (withTransaction_statement htx)

theorem outcome_updateProduct (id : Uuid) (req : Products.UpdateProductReq) :
    Outcome s (.updateProduct user id req) ((Products.updateProduct user id req).final s) := by
  refine final_onPool (.inl rfl) fun product hproduct => ?_
  refine Call.final_query (.inl rfl) fun _ haccess => ?_
  refine Call.final_query (.inl rfl) fun validated hvalid => ?_
  refine final_onPool (.inl rfl) fun _ hreferences => ?_
  refine final_inTransaction (.inl rfl) fun _ pool htx => ?_
  rcases withTransaction_unless htx with rfl | ⟨rowsAffected, hstatement, haffected⟩
  · exact .inr .evictProduct
  · exact .inr (.updateProduct (productFound_ok hproduct) hvalid hreferences hstatement haffected)

theorem outcome_deleteProduct (id : Uuid) :
    Outcome s (.deleteProduct user id) ((Products.deleteProduct user id).final s) := by
  refine final_onPool (.inl rfl) fun product hproduct => ?_
  refine Call.final_query (.inl rfl) fun _ haccess => ?_
  refine final_inTransaction (.inl rfl) fun _ pool htx => ?_
  obtain ⟨rowsAffected, hstatement, haffected⟩ := withTransaction_affected htx
  exact .inr (.deleteProduct (productFound_ok hproduct) hstatement haffected)

theorem outcome_createSku (productId : Uuid) (req : Products.CreateSkuReq) :
    Outcome s (.createSku user productId req) ((Products.createSku user productId req).final s) := by
  refine final_onPool (.inl rfl) fun product hproduct => ?_
  refine Call.final_query (.inl rfl) fun _ haccess => ?_
  refine Call.final_query (.inl rfl) fun validated hvalid => ?_
  refine final_inTransaction (.inl rfl) fun id pool htx => ?_
  refine Call.final_update (final_onPool_end (.inr ?_))
  exact .createSku (withTransaction_statement htx)

theorem outcome_updateSku (skuId : Uuid) (req : Products.UpdateSkuReq) :
    Outcome s (.updateSku user skuId req) ((Products.updateSku user skuId req).final s) := by
  refine final_onPool (.inl rfl) fun sku hsku => ?_
  refine final_onPool (.inl rfl) fun product hproduct => ?_
  refine Call.final_query (.inl rfl) fun _ haccess => ?_
  refine Call.final_query (.inl rfl) fun validated hvalid => ?_
  refine final_inTransaction (.inl rfl) fun _ pool htx => ?_
  rcases withTransaction_unless htx with rfl | ⟨rowsAffected, hstatement, haffected⟩
  · exact .inr .evict
  · exact .inr (.updateSku (getSkuById_ok hsku).1 hstatement haffected)

theorem outcome_deleteSku (skuId : Uuid) :
    Outcome s (.deleteSku user skuId) ((Products.deleteSku user skuId).final s) := by
  refine final_onPool (.inl rfl) fun sku hsku => ?_
  refine final_onPool (.inl rfl) fun product hproduct => ?_
  refine Call.final_query (.inl rfl) fun _ haccess => ?_
  refine final_inTransaction (.inl rfl) fun _ pool htx => ?_
  obtain ⟨rowsAffected, hstatement, haffected⟩ := withTransaction_affected htx
  exact .inr (.deleteSku (getSkuById_ok hsku).1 hstatement haffected)

theorem outcome_adjustStock (skuId : Uuid) (delta : Int) :
    Outcome s (.adjustStock user skuId delta)
      ((Products.adjustStock user skuId delta).final s) := by
  refine final_onPool (.inl rfl) fun sku hsku => ?_
  refine final_onPool (.inl rfl) fun product hproduct => ?_
  refine Call.final_query (.inl rfl) fun _ haccess => ?_
  refine final_inTransaction (.inl rfl) fun _ pool htx => ?_
  obtain ⟨rowsAffected, hstatement, haffected⟩ := withTransaction_affected htx
  exact .inr (.adjustStock (getSkuById_ok hsku).1 hstatement haffected)

/-- The statements of `add_product_image`, one after the other. -/
theorem addProductImage_ok {productId id : Uuid} {req : Products.ValidAddProductImageReq}
    {db db' : Db}
    (h : withTransaction (Products.Repository.addProductImage productId req) db = .ok (id, db')) :
    Products.Repository.insertImage productId req
      (if req.isPrimary then Products.Repository.unsetPrimary productId db else db) =
        .ok (id, db') := by
  unfold Products.Repository.addProductImage at h
  cases hprimary : req.isPrimary with
  | false =>
    rw [hprimary] at h
    exact withTransaction_statement h
  | true =>
    rw [hprimary] at h
    obtain ⟨s, hs, rfl⟩ := withTransaction_run h
    obtain ⟨_, t, ht, hinsert⟩ := Tx.bind_ok.mp hs
    obtain ⟨-, db₁, hunset, rfl⟩ := Tx.statement_ok.mp ht
    cases hunset
    obtain ⟨-, db', hf, rfl⟩ := Tx.statement_ok.mp hinsert
    exact hf

theorem outcome_addImage (productId : Uuid) (req : Products.AddProductImageReq) :
    Outcome s (.addImage user productId req) ((Products.addImage user productId req).final s) := by
  refine final_onPool (.inl rfl) fun product hproduct => ?_
  refine Call.final_query (.inl rfl) fun _ haccess => ?_
  refine Call.final_query (.inl rfl) fun validated hvalid => ?_
  refine final_inTransaction (.inl rfl) fun id pool htx => ?_
  refine Call.final_update (final_onPool_end (.inr ?_))
  exact .addImage (addProductImage_ok htx)

theorem outcome_deleteImage (productId imageId : Uuid) :
    Outcome s (.deleteImage user productId imageId)
      ((Products.deleteImage user productId imageId).final s) := by
  refine final_onPool (.inl rfl) fun product hproduct => ?_
  refine Call.final_query (.inl rfl) fun _ haccess => ?_
  refine final_inTransaction (.inl rfl) fun _ pool htx => ?_
  obtain ⟨rowsAffected, hstatement, haffected⟩ := withTransaction_affected htx
  exact .inr (.deleteImage (productFound_ok hproduct) haccess (Except.ok.inj hstatement) haffected)

theorem outcome_getProductBySlug (slug : String) :
    Outcome s (.getProductBySlug slug) ((Products.getProductBySlug slug).final s) := by
  refine Call.final_query (.inl rfl) fun cached hcached => ?_
  cases cached with
  | some res => exact .inl rfl
  | none =>
    refine final_onPool (.inl rfl) fun res hres => ?_
    obtain ⟨row, hrow, rfl⟩ := Except.map_eq_ok.mp hres
    exact Call.final_update (.inr (.getProductBySlug (productFound_ok hrow)))

theorem outcome_getProductDetail (id : Uuid) :
    Outcome s (.getProductDetail id) ((Products.getProductDetail id).final s) := by
  refine Call.final_query (.inl rfl) fun cached hcached => ?_
  cases cached with
  | some res => exact .inl rfl
  | none =>
    refine final_onPool (.inl rfl) fun detail hdetail => ?_
    exact Call.final_update (.inr (.getProductDetail hdetail))

/-! ### Inventory functions -/

/-- A transaction of the inventory functions writes its part of the tables. -/
theorem onInventory_ok {x : Tx AppError CatalogDb α} {a : α} {db db' : Db}
    (h : withTransaction (Inventory.onInventory x) db = .ok (a, db')) :
    db' = db.setInventory (Tx.attempt x db.inventory).db := by
  have hzoom := Tx.attempt_zoom Db.inventory Db.setInventory x db
  change (Tx.attempt (Inventory.onInventory x) db).db = _ at hzoom
  rw [← hzoom]
  unfold withTransaction at h
  split at h
  · rename_i b pool hattempt
    cases h
    rw [hattempt]
    rfl
  · rename_i b pool hattempt
    cases h
    rw [hattempt]
    rfl
  · exact nomatch h

variable [SerdeJson]

theorem outcome_reserveForOrder (orderId buyerId : Uuid) (totalAmount : DecimalText)
    (currency : String) (items : List Catalog.ReservationItem) :
    Outcome s (.inventory (.reserveForOrder orderId buyerId totalAmount currency items))
      ((Inventory.reserveForOrder orderId buyerId totalAmount currency items).final s) := by
  unfold Inventory.reserveForOrder Call.final
  dsimp only
  cases hreserve : withTransaction (Inventory.onInventory
      (Catalog.doReserveAndWriteEvent orderId buyerId totalAmount currency items)) s.pool with
  | ok p =>
    refine .inr ?_
    change Effect s _ { s with pool := p.2 }
    rw [onInventory_ok hreserve]
    exact .inventory _
  | error reason =>
    -- the failure is written in a transaction of its own
    refine final_inTransaction (.inl rfl) fun _ pool htx => .inr ?_
    rw [onInventory_ok htx]
    exact .inventory _

theorem outcome_inventory (call : InventoryCall) :
    Outcome s (.inventory call) (call.execute s) := by
  cases call with
  | reserveForOrder orderId buyerId totalAmount currency items =>
    exact outcome_reserveForOrder orderId buyerId totalAmount currency items
  | releaseForOrder orderId =>
    refine final_inTransaction_end (.inl rfl) fun _ pool htx => .inr ?_
    rw [onInventory_ok htx]
    exact .inventory _
  | confirmForOrder orderId items =>
    refine final_inTransaction_end (.inl rfl) fun _ pool htx => .inr ?_
    rw [onInventory_ok htx]
    exact .inventory _
  | handleEvent env =>
    refine .inr ?_
    have hzoom := Tx.attempt_zoom Db.inventory Db.setInventory (Catalog.handle env) s.pool
    change Effect s _ { s with pool := (Tx.attempt (Inventory.onInventory _) s.pool).db }
    change (Tx.attempt (Inventory.onInventory (Catalog.handle env)) s.pool).db = _ at hzoom
    rw [hzoom]
    exact .inventory _

/-- An operation changes nothing or has its effect. -/
theorem execute_effect (op : CatalogOp) (s : AppState) : Outcome s op (op.execute s) := by
  cases op with
  | createCategory user req => exact outcome_createCategory req
  | updateCategory user id req => exact outcome_updateCategory id req
  | deleteCategory user id => exact outcome_deleteCategory id
  | createBrand user req => exact outcome_createBrand req
  | updateBrand user id req => exact outcome_updateBrand id req
  | deleteBrand user id => exact outcome_deleteBrand id
  | associateCategory user brandId categoryId => exact outcome_associateCategory brandId categoryId
  | disassociateCategory user brandId categoryId =>
    exact outcome_disassociateCategory brandId categoryId
  | createProduct user req => exact outcome_createProduct req
  | updateProduct user id req => exact outcome_updateProduct id req
  | deleteProduct user id => exact outcome_deleteProduct id
  | createSku user productId req => exact outcome_createSku productId req
  | updateSku user skuId req => exact outcome_updateSku skuId req
  | deleteSku user skuId => exact outcome_deleteSku skuId
  | adjustStock user skuId delta => exact outcome_adjustStock skuId delta
  | addImage user productId req => exact outcome_addImage productId req
  | deleteImage user productId imageId => exact outcome_deleteImage productId imageId
  | getProductBySlug slug => exact outcome_getProductBySlug slug
  | getProductDetail id => exact outcome_getProductDetail id
  | inventory call => exact outcome_inventory call

end Effect

/-! ## Users of sample runs -/

def sampleAdmin : CurrentUser := ⟨⟨7, 0⟩, .admin⟩

def sampleSeller : CurrentUser := ⟨⟨7, 1⟩, .seller⟩

end Koupang.Store
