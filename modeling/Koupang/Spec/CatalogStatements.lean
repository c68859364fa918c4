import Koupang.Model.CatalogService

/-!
# What a statement on the catalog's tables does

For each statement of the catalog service, the table after it when it succeeds,
and which of its checks that tells. Every other table is as before. The proof that
an update keeps the key of its row is a variable here: which one it is does not
matter.
-/

namespace Koupang.Store

variable {db db' : Db} {id : Uuid} {rowsAffected : Nat}

/-! ## Categories -/

namespace Categories.Repository

open Categories

theorem castLtree_ok {path path' : String} (h : castLtree path = .ok path') : path' = path := by
  unfold castLtree at h
  dsimp only at h
  split at h
  · cases h
    rfl
  · exact nomatch h

theorem int4_ok {i j : Int} (h : int4 i = .ok j) : j = i := by
  unfold int4 at h
  split at h
  · cases h
    rfl
  · exact nomatch h

theorem insertCategory_ok {req : ValidCreateCategoryReq} {path : String} {depth : Int}
    (h : insertCategory req path depth db = .ok (id, db')) :
    ∃ row categories, db.categories.insert row = some categories ∧
      row.id = id ∧ row.path = path ∧ row.parentId = req.parentId ∧ row.depth = depth ∧
      (∀ c ∈ db.categories.rows, c.path ≠ path) ∧
      (∀ parent, req.parentId = some parent → (categories.find? parent).isSome) ∧
      db' = { db with categories, uuids := db.uuids + 1 } := by
  simp only [insertCategory, Except.bind_eq_ok, Except.guard_eq_ok] at h
  obtain ⟨name, -, slug, -, path', hpath, depth', hdepth, -, hunique, h⟩ := h
  obtain rfl := castLtree_ok hpath
  obtain rfl := int4_ok hdepth
  split at h
  · exact absurd h Except.throw_ne_ok
  · rename_i categories hinsert
    obtain ⟨hparent, h⟩ := Except.guard_eq_ok.mp h
    cases h
    refine ⟨_, categories, hinsert, rfl, rfl, rfl, rfl, fun c hc hpath => ?_, ?_, rfl⟩
    · exact hunique (List.any_eq_true.mpr ⟨c, hc, by simpa using hpath⟩)
    · intro parent hreq
      rw [hreq] at hparent
      simpa [Option.isSome_iff_ne_none] using hparent

theorem updateCategoryRow_ok {req : ValidUpdateCategoryReq}
    (h : updateCategoryRow id req db = .ok (rowsAffected, db')) (haffected : rowsAffected ≠ 0) :
    ∃ category name hset, db.categories.find? id = some category ∧
      req.name.mapM (varchar 255) = .ok name ∧
      db' = { db with categories :=
        db.categories.modify id (setCategory req name db.now) hset } := by
  unfold updateCategoryRow at h
  split at h
  · cases h
    exact absurd rfl haffected
  · rename_i category hfind
    obtain ⟨name, hname, h⟩ := Except.bind_eq_ok.mp h
    cases h
    exact ⟨category, name, _, hfind, hname, rfl⟩

theorem deleteCategoryRow_ok (h : deleteCategoryRow id db = .ok (rowsAffected, db'))
    (haffected : rowsAffected ≠ 0) :
    (∀ c ∈ db.categories.rows, c.id ≠ id → c.parentId ≠ some id) ∧
      (∀ p ∈ db.products.rows, p.categoryId ≠ some id) ∧
      db' = { db with categories := db.categories.filter (·.id ≠ id)
                      brandCategories := db.brandCategories.filter (·.categoryId ≠ id) } := by
  unfold deleteCategoryRow at h
  split at h
  · cases h
    exact absurd rfl haffected
  · simp only [Except.guard_eq_ok] at h
    obtain ⟨hchildren, hproducts, h⟩ := h
    cases h
    refine ⟨fun c hc hid hparent => ?_, fun p hp hcategory => ?_, rfl⟩
    · refine hchildren (List.any_eq_true.mpr ⟨c, ?_, by simpa using hparent⟩)
      exact (Table.mem_filter ..).mpr ⟨hc, by simpa using hid⟩
    · exact hproducts (List.any_eq_true.mpr ⟨p, hp, by simpa using hcategory⟩)

end Categories.Repository

/-! ## Brands -/

namespace Brands.Repository

open Brands

theorem insertBrand_ok {req : ValidCreateBrandReq} (h : insertBrand req db = .ok (id, db')) :
    ∃ row brands, db.brands.insert row = some brands ∧
      db' = { db with brands, uuids := db.uuids + 1 } := by
  simp only [insertBrand, Except.bind_eq_ok, Except.guard_eq_ok] at h
  obtain ⟨name, -, slug, -, hname, hslug, h⟩ := h
  split at h
  · exact absurd h Except.throw_ne_ok
  · rename_i brands hinsert
    cases h
    exact ⟨_, brands, hinsert, rfl⟩

theorem updateBrandRow_ok {req : ValidUpdateBrandReq}
    (h : updateBrandRow id req db = .ok (rowsAffected, db')) (haffected : rowsAffected ≠ 0) :
    ∃ brand name hset, db.brands.find? id = some brand ∧ req.name.mapM (varchar 255) = .ok name ∧
      (∀ b ∈ db.brands.rows, b.id ≠ id → b.name ≠ (setBrand req name db.now brand).name) ∧
      db' = { db with brands := db.brands.modify id (setBrand req name db.now) hset } := by
  unfold updateBrandRow at h
  split at h
  · cases h
    exact absurd rfl haffected
  · rename_i brand hfind
    simp only [Except.bind_eq_ok, Except.guard_eq_ok] at h
    obtain ⟨name, hname, hunique, h⟩ := h
    cases h
    refine ⟨brand, name, _, hfind, hname, fun b hb hid heq => ?_, rfl⟩
    exact hunique (List.any_eq_true.mpr ⟨b, hb, by simpa using ⟨hid, heq⟩⟩)

theorem deleteBrandRow_ok (h : deleteBrandRow id db = .ok (rowsAffected, db'))
    (haffected : rowsAffected ≠ 0) :
    (∀ p ∈ db.products.rows, p.brandId ≠ some id) ∧
      db' = { db with brands := db.brands.filter (·.id ≠ id)
                      brandCategories := db.brandCategories.filter (·.brandId ≠ id) } := by
  unfold deleteBrandRow at h
  split at h
  · cases h
    exact absurd rfl haffected
  · simp only [Except.guard_eq_ok] at h
    obtain ⟨hproducts, h⟩ := h
    cases h
    refine ⟨fun p hp hbrand => ?_, rfl⟩
    exact hproducts (List.any_eq_true.mpr ⟨p, hp, by simpa using hbrand⟩)

theorem insertBrandCategory_ok {brandId categoryId : Uuid}
    (h : insertBrandCategory brandId categoryId db = .ok (rowsAffected, db')) :
    db' = db ∨ ∃ brandCategories, db.brandCategories.insert ⟨brandId, categoryId⟩ =
      some brandCategories ∧ db' = { db with brandCategories } := by
  unfold insertBrandCategory at h
  split at h
  · cases h
    exact .inl rfl
  · rename_i brandCategories hinsert
    simp only [Except.guard_eq_ok] at h
    obtain ⟨-, -, h⟩ := h
    cases h
    exact .inr ⟨brandCategories, hinsert, rfl⟩

theorem deleteBrandCategory_ok {brandId categoryId : Uuid}
    (h : deleteBrandCategory brandId categoryId db = .ok (rowsAffected, db'))
    (haffected : rowsAffected ≠ 0) :
    db' = { db with
      brandCategories := db.brandCategories.filter (·.key ≠ (brandId, categoryId)) } := by
  unfold deleteBrandCategory at h
  split at h
  · cases h
    exact absurd rfl haffected
  · cases h
    rfl

end Brands.Repository

/-! ## Products -/

namespace Products.Repository

open Products

/-- The columns of a row of `products` that a unique index or a foreign key is about. -/
structure ProductChecked (db : Db) (row : ProductRow) : Prop where
  slug : ∀ p ∈ db.products.rows, p.id ≠ row.id → p.slug ≠ row.slug
  brand : ∀ brandId, row.brandId = some brandId → (db.brands.find? brandId).isSome
  category : ∀ categoryId, row.categoryId = some categoryId →
    (db.categories.find? categoryId).isSome

theorem checkProduct_ok {row : ProductRow} {u : Unit} (h : checkProduct db row = .ok u) :
    ProductChecked db row := by
  simp only [checkProduct, Except.guard_eq_ok, Except.guard_end_eq_ok] at h
  obtain ⟨-, hslug, hbrand, hcategory⟩ := h
  refine ⟨fun p hp hid heq => ?_, fun brandId hrow => ?_, fun categoryId hrow => ?_⟩
  · exact hslug (List.any_eq_true.mpr ⟨p, hp, by simpa using ⟨hid, heq⟩⟩)
  · rw [hrow] at hbrand
    simpa [brandExists, Option.isSome_iff_ne_none] using hbrand
  · rw [hrow] at hcategory
    simpa [categoryExists, Option.isSome_iff_ne_none] using hcategory

/-- A brand and a category that pass `validate_fk_references` are associated. -/
theorem validateFkReferences_ok {categoryId brandId : Uuid} {u : Unit}
    (h : validateFkReferences (some categoryId) (some brandId) db = .ok u) :
    (db.brandCategories.find? (brandId, categoryId)).isSome := by
  simp only [validateFkReferences, Except.guard_eq_ok, Except.guard_end_eq_ok] at h
  obtain ⟨-, -, h⟩ := h
  simpa [isBrandInCategory, Option.isSome_iff_ne_none] using h

theorem insertProduct_ok {sellerId : Uuid} {req : ValidCreateProductReq}
    (h : insertProduct sellerId req db = .ok (id, db')) :
    ∃ row products, db.products.insert row = some products ∧ ProductChecked db row ∧
      row.categoryId = req.categoryId ∧ row.brandId = req.brandId ∧
      db' = { db with products, uuids := db.uuids + 1 } := by
  simp only [insertProduct, Except.bind_eq_ok] at h
  obtain ⟨name, -, slug, -, basePrice, -, currency, -, _, hcheck, h⟩ := h
  split at h
  · exact absurd h Except.throw_ne_ok
  · rename_i products hinsert
    cases h
    exact ⟨_, products, hinsert, checkProduct_ok hcheck, rfl, rfl, rfl⟩

theorem findProductById_eq_some {row : ProductRow} :
    findProductById id db = some row ↔ db.products.find? id = some row ∧ row.deletedAt = none := by
  simp [findProductById, Option.filter_eq_some_iff]

theorem updateProductRow_ok {set : ProductRow → ProductRow} {hset : ∀ p, (set p).id = p.id}
    (h : updateProductRow id set hset db = .ok (rowsAffected, db')) (haffected : rowsAffected ≠ 0) :
    ∃ row hset, findProductById id db = some row ∧ ProductChecked db (set row) ∧
      db' = { db with products := db.products.modify id set hset } := by
  unfold updateProductRow at h
  split at h
  · cases h
    exact absurd rfl haffected
  · rename_i row hfind
    obtain ⟨_, hcheck, h⟩ := Except.bind_eq_ok.mp h
    cases h
    exact ⟨row, hset, hfind, checkProduct_ok hcheck, rfl⟩

theorem updateProductColumns_ok {req : ValidUpdateProductReq}
    (h : updateProductColumns id req db = .ok (rowsAffected, db')) (haffected : rowsAffected ≠ 0) :
    ∃ name slug basePrice currency row hset, findProductById id db = some row ∧
      ProductChecked db (setProduct req name slug basePrice currency db.now row) ∧
      db' = { db with products :=
        db.products.modify id (setProduct req name slug basePrice currency db.now) hset } := by
  simp only [updateProductColumns, Except.bind_eq_ok] at h
  obtain ⟨name, -, slug, -, basePrice, -, currency, -, h⟩ := h
  obtain ⟨row, hset, hfind, hchecked, rfl⟩ := updateProductRow_ok h haffected
  exact ⟨name, slug, basePrice, currency, row, hset, hfind, hchecked, rfl⟩

/-! ## SKUs -/

theorem insertSku_ok {productId : Uuid} {req : ValidCreateSkuReq}
    (h : insertSku productId req db = .ok (id, db')) :
    ∃ row skus, db.skus.insert row = some skus ∧ row.productId = productId ∧
      db' = { db with skus, uuids := db.uuids + 1 } := by
  simp only [insertSku, Except.bind_eq_ok, Except.guard_eq_ok] at h
  obtain ⟨skuCode, -, price, -, _, -, -, -, h⟩ := h
  split at h
  · exact absurd h Except.throw_ne_ok
  · rename_i skus hinsert
    cases h
    exact ⟨_, skus, hinsert, rfl, rfl⟩

theorem updateSkuRow_ok {cond : SkuEntity → Bool} {set : SkuEntity → SkuEntity}
    {hset : ∀ s, (set s).id = s.id}
    (h : updateSkuRow id cond set hset db = .ok (rowsAffected, db'))
    (haffected : rowsAffected ≠ 0) :
    ∃ hset, db' = { db with skus := db.skus.modify id set hset } := by
  unfold updateSkuRow at h
  split at h
  · cases h
    exact absurd rfl haffected
  · split at h
    · obtain ⟨_, -, h⟩ := Except.bind_eq_ok.mp h
      cases h
      exact ⟨hset, rfl⟩
    · cases h
      exact absurd rfl haffected

theorem updateSkuColumns_ok {req : ValidUpdateSkuReq}
    (h : updateSkuColumns id req db = .ok (rowsAffected, db')) (haffected : rowsAffected ≠ 0) :
    ∃ price hset, db' = { db with skus := db.skus.modify id (setSku req price db.now) hset } := by
  simp only [updateSkuColumns, Except.bind_eq_ok] at h
  obtain ⟨price, -, h⟩ := h
  exact ⟨price, updateSkuRow_ok h haffected⟩

/-! ## Images -/

theorem insertImage_ok {productId : Uuid} {req : ValidAddProductImageReq}
    (h : insertImage productId req db = .ok (id, db')) :
    ∃ row productImages, db.productImages.insert row = some productImages ∧
      row.productId = productId ∧ db' = { db with productImages, uuids := db.uuids + 1 } := by
  simp only [insertImage, Except.bind_eq_ok, Except.guard_eq_ok] at h
  obtain ⟨altText, -, sortOrder, -, -, h⟩ := h
  split at h
  · exact absurd h Except.throw_ne_ok
  · rename_i productImages hinsert
    cases h
    exact ⟨_, productImages, hinsert, rfl, rfl⟩

theorem deleteImageRow_ok (h : deleteImageRow id db = (rowsAffected, db'))
    (haffected : rowsAffected ≠ 0) :
    ∃ image, db.productImages.find? id = some image ∧
      db' = { db with productImages := db.productImages.filter (·.id ≠ id) } := by
  unfold deleteImageRow at h
  split at h
  · cases h
    exact absurd rfl haffected
  · rename_i image hfind
    cases h
    exact ⟨image, hfind, rfl⟩

end Products.Repository

end Koupang.Store
