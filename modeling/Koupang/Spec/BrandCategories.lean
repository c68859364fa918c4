import Koupang.Spec.CatalogService
import Koupang.Spec.CatalogStatements

/-!
# Brand and category of a product

A product is written only with a brand that its category has, and neither a brand
nor a category goes while a product refers to it. `disassociate_category` takes
the brand from the category without asking whether a product has both.

## Key results

- `productsConsistent_iff`: the products stay consistent exactly as long as no association that
  a product needs is removed
-/

namespace Koupang.Store

open Products (ValidUpdateProductReq)
open Products.Repository (isBrandInCategory validateFkReferences)

/-! ## The invariant -/

/-- The brand of a product is associated with its category, if it has both. -/
def BrandInCategory (db : Db) (p : ProductRow) : Prop :=
  ∀ brandId ∈ p.brandId, ∀ categoryId ∈ p.categoryId, isBrandInCategory brandId categoryId db = true

instance (db : Db) (p : ProductRow) : Decidable (BrandInCategory db p) :=
  inferInstanceAs (Decidable (∀ brandId ∈ p.brandId, ∀ categoryId ∈ p.categoryId, _))

/-- Every product that is not deleted is of a brand that its category has. -/
def ProductsConsistent (db : Db) : Prop :=
  ∀ p ∈ db.products.rows, p.deletedAt = none → BrandInCategory db p

instance (db : Db) : Decidable (ProductsConsistent db) :=
  inferInstanceAs (Decidable (∀ p ∈ db.products.rows, _ → _))

/-- No product that is not deleted has both the brand and the category. -/
def Unused (db : Db) (brandId categoryId : Uuid) : Prop :=
  ∀ p ∈ db.products.rows, p.deletedAt = none → ¬ (p.brandId = some brandId ∧
    p.categoryId = some categoryId)

instance (db : Db) (brandId categoryId : Uuid) : Decidable (Unused db brandId categoryId) :=
  inferInstanceAs (Decidable (∀ p ∈ db.products.rows, _ → _))

/-- An admin takes a brand from a category only when no product has both. -/
def RemovesUnused (s : AppState) : Label → Prop
  | .call (.disassociateCategory user brandId categoryId) =>
    user.role = .admin → Unused s.pool brandId categoryId
  | _ => True

instance (s : AppState) (label : Label) : Decidable (RemovesUnused s label) := by
  unfold RemovesUnused
  split <;> infer_instance

/-! ## What is checked when a product is written -/

theorem brandInCategory_of_validate {db : Db} {p : ProductRow} {u : Unit}
    (h : validateFkReferences p.categoryId p.brandId db = .ok u) : BrandInCategory db p := by
  intro brandId hbrand categoryId hcategory
  rw [Option.mem_def.mp hbrand, Option.mem_def.mp hcategory] at h
  exact Products.Repository.validateFkReferences_ok h

/-- An update is checked on the merged values. -/
theorem ValidUpdateProductReq.new_ok {req : Products.UpdateProductReq} {existing : ProductRow}
    {validated : ValidUpdateProductReq} (h : ValidUpdateProductReq.new req existing = .ok validated) :
    validated.categoryId = req.categoryId.or existing.categoryId ∧
      validated.brandId = req.brandId.or existing.brandId := by
  simp only [ValidUpdateProductReq.new, Except.bind_eq_ok] at h
  obtain ⟨name, -, slug, -, basePrice, -, currency, -, h⟩ := h
  cases h
  exact ⟨rfl, rfl⟩

/-! ## One step -/

/-- What an operation does to the products and to the categories of brands. -/
inductive AssociationsStep (db db' : Db) : Prop
  /-- no association is removed -/
  | kept (hproducts : db'.products = db.products)
      (hkept : ∀ key, (db.brandCategories.find? key).isSome → (db'.brandCategories.find? key).isSome)
  /-- no product needs what is removed -/
  | removed (keep : BrandCategoryEntity → Bool) (hproducts : db'.products = db.products)
      (hremoved : db'.brandCategories = db.brandCategories.filter keep)
      (hunused : ∀ brandId categoryId, keep ⟨brandId, categoryId⟩ = false →
        Unused db brandId categoryId)
  /-- what is written has been checked -/
  | written (hbrandCategories : db'.brandCategories = db.brandCategories)
      (hwritten : ∀ p ∈ db'.products.rows, p ∈ db.products.rows ∨ p.deletedAt ≠ none ∨
        BrandInCategory db p)

theorem ProductsConsistent.step {db db' : Db} (h : ProductsConsistent db)
    (hstep : AssociationsStep db db') : ProductsConsistent db' := by
  intro p hp hlive brandId hbrand categoryId hcategory
  unfold isBrandInCategory
  cases hstep with
  | kept hproducts hkept =>
    rw [hproducts] at hp
    exact hkept _ (h p hp hlive brandId hbrand categoryId hcategory)
  | removed keep hproducts hremoved hunused =>
    rw [hproducts] at hp
    obtain ⟨row, hrow⟩ := Option.isSome_iff_exists.mp (h p hp hlive brandId hbrand categoryId hcategory)
    have hkeep : keep ⟨brandId, categoryId⟩ = true := by
      by_contra hremove
      exact hunused brandId categoryId (by simpa using hremove) p hp hlive ⟨hbrand, hcategory⟩
    -- the row with this key is this association
    have hkey := ((db.brandCategories.find?_eq_some_iff _ _).mp hrow).2
    have hself : row = ⟨brandId, categoryId⟩ := by
      cases row
      cases hkey
      rfl
    rw [hremoved, Table.find?_filter, hrow, hself]
    simp [hkeep]
  | written hbrandCategories hwritten =>
    rw [hbrandCategories]
    rcases hwritten p hp with hold | hdeleted | hchecked
    · exact h p hold hlive brandId hbrand categoryId hcategory
    · exact absurd hlive hdeleted
    · exact hchecked brandId hbrand categoryId hcategory

/-- What an update writes has the brand and the category that were checked. -/
theorem brandInCategory_setProduct {db : Db} {req : Products.UpdateProductReq} {row : ProductRow}
    {validated : ValidUpdateProductReq} {u : Unit}
    (hvalid : ValidUpdateProductReq.new req row = .ok validated)
    (hreferences : validateFkReferences validated.categoryId validated.brandId db = .ok u)
    (name slug : Option String) (basePrice : Option Decimal) (currency : Option String) (now : Nat) :
    BrandInCategory db
      (Products.Repository.setProduct validated name slug basePrice currency now row) := by
  obtain ⟨hcategory, hbrand⟩ := ValidUpdateProductReq.new_ok hvalid
  refine brandInCategory_of_validate (u := u) ?_
  show validateFkReferences (validated.categoryId.or row.categoryId)
    (validated.brandId.or row.brandId) db = .ok u
  -- the old values are merged already
  have hcategory' : validated.categoryId.or row.categoryId = validated.categoryId := by
    rw [hcategory, Option.or_assoc, Option.or_self]
  have hbrand' : validated.brandId.or row.brandId = validated.brandId := by
    rw [hbrand, Option.or_assoc, Option.or_self]
  rw [hcategory', hbrand']
  exact hreferences

theorem Effect.associations {s t : AppState} {op : CatalogOp} (h : Effect s op t)
    (hcond : RemovesUnused s (.call op)) : AssociationsStep s.pool t.pool := by
  cases h with
  | createCategory _ _ _ statement =>
    obtain ⟨_, _, -, -, -, -, -, -, -, rfl⟩ := Categories.Repository.insertCategory_ok statement
    exact .kept rfl fun _ h => h
  | updateCategory _ _ statement affected =>
    obtain ⟨_, _, _, -, -, rfl⟩ := Categories.Repository.updateCategoryRow_ok statement affected
    exact .kept rfl fun _ h => h
  | @deleteCategory _ id _ _ _ statement affected =>
    obtain ⟨-, hproducts, rfl⟩ := Categories.Repository.deleteCategoryRow_ok statement affected
    refine .removed (·.categoryId ≠ id) rfl rfl fun brandId categoryId hremoved p hp _ => ?_
    obtain rfl : categoryId = id := by simpa using hremoved
    exact fun hboth => hproducts p hp hboth.2
  | createBrand _ statement =>
    obtain ⟨_, _, -, rfl⟩ := Brands.Repository.insertBrand_ok statement
    exact .kept rfl fun _ h => h
  | updateBrand _ _ statement affected =>
    obtain ⟨_, _, _, -, -, -, rfl⟩ := Brands.Repository.updateBrandRow_ok statement affected
    exact .kept rfl fun _ h => h
  | @deleteBrand _ id _ _ _ statement affected =>
    obtain ⟨hproducts, rfl⟩ := Brands.Repository.deleteBrandRow_ok statement affected
    refine .removed (·.brandId ≠ id) rfl rfl fun brandId categoryId hremoved p hp _ => ?_
    obtain rfl : brandId = id := by simpa using hremoved
    exact fun hboth => hproducts p hp hboth.1
  | associateCategory statement =>
    rcases Brands.Repository.insertBrandCategory_ok statement with rfl | ⟨_, hinsert, rfl⟩
    · exact .kept rfl fun _ h => h
    · refine .kept rfl fun key h => ?_
      rw [Table.find?_of_insert hinsert]
      split
      · rfl
      · exact h
  | @disassociateCategory _ brandId categoryId _ _ admin statement affected =>
    rw [Brands.Repository.deleteBrandCategory_ok statement affected]
    refine .removed (·.key ≠ (brandId, categoryId)) rfl rfl fun b c hremoved => ?_
    obtain ⟨rfl, rfl⟩ : b = brandId ∧ c = categoryId := by
      simpa [BrandCategoryEntity.key] using hremoved
    exact hcond (requireAdmin_ok.mp admin)
  | createProduct references statement =>
    obtain ⟨row, products, hinsert, -, hcategory, hbrand, rfl⟩ :=
      Products.Repository.insertProduct_ok statement
    refine .written rfl fun p hp => ?_
    rw [((s.pool.products.insert_eq_some ..).mp hinsert).2, List.mem_append,
      List.mem_singleton] at hp
    rcases hp with hp | rfl
    · exact .inl hp
    · rw [← hcategory, ← hbrand] at references
      exact .inr (.inr (brandInCategory_of_validate references))
  | updateProduct found valid references statement affected =>
    obtain ⟨name, slug, basePrice, currency, row, hset, hfind, -, rfl⟩ :=
      Products.Repository.updateProductColumns_ok statement affected
    cases found.symm.trans hfind
    have hfound := (Products.Repository.findProductById_eq_some.mp found).1
    refine .written rfl fun p hp => ?_
    rcases (Table.mem_modify_of_find? _ hfound _ hset p).mp hp with ⟨hp, -⟩ | rfl
    · exact .inl hp
    · exact .inr (.inr (brandInCategory_setProduct valid references _ _ _ _ _))
  | deleteProduct _ statement affected =>
    obtain ⟨row, hset, -, -, rfl⟩ := Products.Repository.updateProductRow_ok statement affected
    refine .written rfl fun p hp => ?_
    rcases (Table.mem_modify _ _ _ hset p).mp hp with ⟨hp, -⟩ | ⟨q, -, -, rfl⟩
    · exact .inl hp
    · exact .inr (.inl (Option.some_ne_none _))
  | createSku statement =>
    obtain ⟨_, _, -, -, rfl⟩ := Products.Repository.insertSku_ok statement
    exact .kept rfl fun _ h => h
  | updateSku _ statement affected =>
    obtain ⟨_, _, rfl⟩ := Products.Repository.updateSkuColumns_ok statement affected
    exact .kept rfl fun _ h => h
  | deleteSku _ statement affected =>
    obtain ⟨_, rfl⟩ := Products.Repository.updateSkuRow_ok statement affected
    exact .kept rfl fun _ h => h
  | adjustStock _ statement affected =>
    obtain ⟨_, rfl⟩ := Products.Repository.updateSkuRow_ok statement affected
    exact .kept rfl fun _ h => h
  | addImage statement =>
    obtain ⟨_, _, -, -, rfl⟩ := Products.Repository.insertImage_ok statement
    dsimp only
    split
    · exact .kept rfl fun _ h => h
    · exact .kept rfl fun _ h => h
  | deleteImage _ _ statement affected =>
    obtain ⟨_, -, rfl⟩ := Products.Repository.deleteImageRow_ok statement affected
    exact .kept rfl fun _ h => h
  | getProductBySlug _ => exact .kept rfl fun _ h => h
  | getProductDetail _ => exact .kept rfl fun _ h => h
  | evict => exact .kept rfl fun _ h => h
  | evictProduct => exact .kept rfl fun _ h => h
  | inventory _ => exact .kept rfl fun _ h => h

section Run

variable [SerdeJson]

theorem productsConsistent_step {s t : AppState} {label : Label}
    (h : ProductsConsistent s.pool) (hcond : RemovesUnused s label)
    (hstep : step s label = some t) : ProductsConsistent t.pool := by
  cases label with
  | call op =>
    cases hstep
    rcases execute_effect op s with hsame | heffect
    · rw [hsame]
      exact h
    · exact h.step (heffect.associations hcond)
  | expire key =>
    cases hstep
    exact h
  | wait duration =>
    cases hstep
    exact h

/-- An admin removes an association that is there. -/
theorem execute_disassociateCategory {user : CurrentUser} {brandId categoryId : Uuid} {s : AppState}
    (hadmin : user.role = .admin)
    (hfound : isBrandInCategory brandId categoryId s.pool = true) :
    (CatalogOp.disassociateCategory user brandId categoryId).execute s =
      { s with pool := { s.pool with
        brandCategories := s.pool.brandCategories.filter (·.key ≠ (brandId, categoryId)) } } := by
  obtain ⟨row, hrow⟩ := Option.isSome_iff_exists.mp hfound
  have hstatement : Brands.Repository.deleteBrandCategory brandId categoryId s.pool =
      .ok (1, { s.pool with
        brandCategories := s.pool.brandCategories.filter (·.key ≠ (brandId, categoryId)) }) := by
    unfold Brands.Repository.deleteBrandCategory
    rw [hrow]
  have htx : withTransaction (Brands.Repository.disassociateCategory brandId categoryId) s.pool =
      .ok ((), _) := withTransaction_of_affected hstatement one_ne_zero
  have hcaller := (requireAdmin_ok (u := ())).mpr hadmin
  exact (final_check_of_ok hcaller).trans (final_inTransaction_end_of_ok htx)

/-- An admin removes what a product needs. -/
theorem unused_of_productsConsistent {user : CurrentUser} {brandId categoryId : Uuid}
    {s : AppState} (hadmin : user.role = .admin) (h : ProductsConsistent s.pool)
    (h' : ProductsConsistent
      ((CatalogOp.disassociateCategory user brandId categoryId).execute s).pool) :
    Unused s.pool brandId categoryId := by
  rintro p hp hlive ⟨hbrand, hcategory⟩
  have hfound := h p hp hlive brandId hbrand categoryId hcategory
  rw [execute_disassociateCategory hadmin hfound] at h'
  have hstill := h' p hp hlive brandId hbrand categoryId hcategory
  unfold isBrandInCategory at hstill
  dsimp only at hstill
  rw [Table.find?_filter] at hstill
  obtain ⟨row, hrow⟩ := Option.isSome_iff_exists.mp hstill
  obtain ⟨hrow, hkept⟩ := Option.filter_eq_some_iff.mp hrow
  have hkey := ((s.pool.brandCategories.find?_eq_some_iff _ _).mp hrow).2
  simp [hkey] at hkept

/-- A step keeps the products consistent exactly when it removes no association that a product
    needs. -/
theorem productsConsistent_step_iff {s t : AppState} {label : Label}
    (h : ProductsConsistent s.pool) (hstep : step s label = some t) :
    ProductsConsistent t.pool ↔ RemovesUnused s label := by
  refine ⟨fun h' => ?_, fun hcond => productsConsistent_step h hcond hstep⟩
  unfold RemovesUnused
  split
  · intro hadmin
    cases hstep
    exact unused_of_productsConsistent hadmin h h'
  · trivial

/-- In a run of the catalog service the products are consistent all the way exactly when no admin
    takes a brand from a category while a product that is not deleted has both. -/
theorem productsConsistent_iff {ls : List Label} {t : AppState}
    (h : Run.run step {} ls = some t) :
    (∀ u, Run.Visits step {} ls u → ProductsConsistent u.pool) ↔
      Run.Meets step RemovesUnused {} ls := by
  have hstep : ∀ (s : AppState) (label : Label) (t : AppState), True →
      ProductsConsistent s.pool → step s label = some t →
        True ∧ (ProductsConsistent t.pool ↔ RemovesUnused s label) :=
    fun _ _ _ _ hs hstep => ⟨trivial, productsConsistent_step_iff hs hstep⟩
  have hempty : ProductsConsistent ({} : AppState).pool :=
    fun _ hp => absurd hp List.not_mem_nil
  exact Run.run_forall_iff hstep trivial hempty h

end Run

/-! ### Runs -/

/-- A category, a brand in it, and a product that has both. -/
def laptopListed : List Label :=
  [.call (.createCategory sampleAdmin
      { name := "Laptops", slug := none, parentId := none, description := none }),
    .call (.createBrand sampleAdmin
      { name := "Acme", slug := none, description := none, logoUrl := none }),
    .call (.associateCategory sampleAdmin ⟨1, 1⟩ ⟨1, 0⟩),
    .call (.createProduct sampleSeller
      { name := "Acme Book", slug := none, description := none, basePrice := 999, currency := none,
        categoryId := some ⟨1, 0⟩, brandId := some ⟨1, 1⟩ })]

def disassociated : Label := .call (.disassociateCategory sampleAdmin ⟨1, 1⟩ ⟨1, 0⟩)

/-- The brand leaves the category while the product has both. -/
theorem not_productsConsistent_disassociated :
    ∃ t, Run.run step {} (laptopListed ++ [disassociated]) = some t ∧ ¬ ProductsConsistent t.pool :=
  Run.run_decide (by decide +kernel)

/-- When the product is deleted, the brand may leave the category. -/
theorem productsConsistent_iff_deleted :
    ∃ t, Run.run step {} (laptopListed ++
        [.call (.deleteProduct sampleSeller ⟨1, 2⟩), disassociated]) = some t ∧
      t.pool.brandCategories = .empty ∧
      ∀ u, Run.Visits step {} (laptopListed ++
        [.call (.deleteProduct sampleSeller ⟨1, 2⟩), disassociated]) u →
          ProductsConsistent u.pool := by
  have heval : (Run.run step {} (laptopListed ++
      [.call (.deleteProduct sampleSeller ⟨1, 2⟩), disassociated])).map (fun t =>
        decide (t.pool.brandCategories = .empty)) = some true := by
    decide +kernel
  obtain ⟨t, ht, hempty⟩ := Run.run_decide heval
  exact ⟨t, ht, hempty, (productsConsistent_iff ht).mpr (by decide +kernel)⟩

end Koupang.Store
