import Koupang.Spec.BrandCategories

/-!
# Deletions in the catalog

An image is deleted by its own identifier, after a check of the product in the path.
Categories and brands are deleted behind guards that look at live products, while the
foreign keys look at all of them.

## Key results

- `deleteImage_ok`, `deleteCategory_ok`, `deleteBrand_ok`: when a deletion succeeds
- `deleteImage_within_iff`: whether an image of another product can be deleted
- `deletions_exact_iff`: whether the guards of a category or a brand are exact
-/

namespace Koupang.Store

variable {s t : AppState} {user : CurrentUser} {productId imageId id : Uuid}

theorem inTransaction_run {α : Type} {what : String} {x : Tx AppError Db α} {a : α} :
    inTransaction what x s = .ok a t ↔
      ∃ pool, withTransaction x s.pool = .ok (a, pool) ∧ t = { s with pool } := by
  unfold inTransaction
  rw [Call.write_ok]
  constructor
  · exact inTransaction_ok
  · intro h
    obtain ⟨pool, htx, rfl⟩ := h
    exact inTransaction_of_ok htx

/-! ## Images -/

namespace Products

/-- Which image a seller may delete, and which images have to stay. -/
structure DeletesWithin (s : AppState) (user : CurrentUser) (productId imageId : Uuid) : Prop where
  own : (deleteImage user productId imageId).result s = .ok () →
    ∃ product image, Repository.findProductById productId s.pool = some product ∧
      product.sellerId = user.id ∧ s.pool.productImages.find? imageId = some image ∧
      image.productId = productId
  others : ∀ image ∈ s.pool.productImages.rows, ∀ product ∈ s.pool.products.rows,
    product.id = image.productId → product.sellerId ≠ user.id →
    image ∈ ((deleteImage user productId imageId).final s).pool.productImages.rows

theorem getProductById_ok {product : ProductRow} {db : Db} :
    Repository.getProductById id db = .ok product ↔
      Repository.findProductById id db = some product := by
  unfold Repository.getProductById Repository.productFound
  cases Repository.findProductById id db with
  | none => simp
  | some row => simp

theorem deleteImageRow_affected {db : Db} :
    (∃ rowsAffected pool, (.ok (Repository.deleteImageRow imageId db) : Except String (Nat × Db)) =
      .ok (rowsAffected, pool) ∧ rowsAffected ≠ 0) ↔
      ∃ image, db.productImages.find? imageId = some image := by
  unfold Repository.deleteImageRow
  cases db.productImages.find? imageId with
  | none => simp
  | some image => simp

/-- The image is deleted if it exists and the product in the path may be accessed. -/
theorem deleteImage_ok : (deleteImage user productId imageId).result s = .ok () ↔
    ∃ product image, Repository.findProductById productId s.pool = some product ∧
      requireAccess user product.sellerId = .ok () ∧
      s.pool.productImages.find? imageId = some image := by
  rw [Call.result_eq_ok]
  constructor
  · intro h
    obtain ⟨t, h⟩ := h
    obtain ⟨product, hproduct, h⟩ := Call.query_bind_ok.mp h
    obtain ⟨_, haccess, h⟩ := Call.query_bind_ok.mp h
    obtain ⟨_, u, htx, -⟩ := EStateM.bind_eq_ok.mp h
    obtain ⟨pool, htx, -⟩ := inTransaction_run.mp htx
    obtain ⟨rowsAffected, hstatement, haffected⟩ := withTransaction_affected htx
    obtain ⟨image, himage⟩ := deleteImageRow_affected.mp ⟨_, _, hstatement, haffected⟩
    exact ⟨product, image, getProductById_ok.mp hproduct, haccess, himage⟩
  · intro h
    obtain ⟨product, image, hproduct, haccess, himage⟩ := h
    obtain ⟨rowsAffected, pool, hstatement, haffected⟩ :=
      deleteImageRow_affected.mpr ⟨image, himage⟩
    have htx : inTransaction "Failed to delete image" (Repository.deleteProductImage imageId) s =
        .ok () { s with pool } :=
      inTransaction_run.mpr ⟨pool, withTransaction_of_affected hstatement haffected, rfl⟩
    exact ⟨_, Call.query_bind_ok.mpr ⟨product, getProductById_ok.mpr hproduct,
      Call.query_bind_ok.mpr ⟨(), haccess, EStateM.bind_eq_ok.mpr ⟨(), _, htx, rfl⟩⟩⟩⟩

theorem requireAccess_ok {owner : Uuid} (hrole : user.role ≠ .admin) :
    requireAccess user owner = .ok () ↔ owner = user.id := by
  simp [requireAccess, CurrentUser.canAccess, hrole, eq_comm]

/-- A seller's deletion keeps to the product in the path if and only if the image, where it would
    be deleted, is one of that product. -/
theorem deleteImage_within_iff (s : AppState) (user : CurrentUser) (productId imageId : Uuid)
    (hrole : user.role ≠ .admin) : DeletesWithin s user productId imageId ↔
      ∀ product image, Repository.findProductById productId s.pool = some product →
        product.sellerId = user.id → s.pool.productImages.find? imageId = some image →
        image.productId = productId := by
  constructor
  · intro h product image hproduct hseller himage
    obtain ⟨-, image', -, -, himage', hown⟩ := h.own (deleteImage_ok.mpr
      ⟨product, image, hproduct, (requireAccess_ok hrole).mpr hseller, himage⟩)
    cases himage.symm.trans himage'
    exact hown
  · intro h
    refine ⟨fun hok => ?_, fun image himage product hproduct hid hseller => ?_⟩
    · obtain ⟨product, image, hproduct, haccess, himage⟩ := deleteImage_ok.mp hok
      have hseller := (requireAccess_ok hrole).mp haccess
      exact ⟨product, image, hproduct, hseller, himage, h product image hproduct hseller himage⟩
    · have houtcome : Outcome s (.deleteImage user productId imageId) _ :=
        outcome_deleteImage productId imageId
      generalize (deleteImage user productId imageId).final s = t at houtcome ⊢
      cases houtcome with
      | inl hsame => rwa [hsame]
      | inr heffect =>
        cases heffect with
        | evict => exact himage
        | evictProduct => exact himage
        | @deleteImage _ _ _ own rowsAffected pool found access statement affected =>
          obtain ⟨image', himage', rfl⟩ := Repository.deleteImageRow_ok statement affected
          have hown := (requireAccess_ok hrole).mp access
          refine (Table.mem_filter ..).mpr ⟨himage, ?_⟩
          rw [decide_eq_true_eq]
          intro heq
          -- otherwise the image is one of the product in the path, which is the caller's
          have hfind := (Table.find?_eq_some_iff ..).mpr ⟨himage, heq⟩
          have hpath := h own image found hown hfind
          obtain ⟨hfound, -⟩ := Option.filter_eq_some_iff.mp found
          obtain ⟨hmem, hkey⟩ := (Table.find?_eq_some_iff ..).mp hfound
          have hsame := s.pool.products.eq_of_key_eq hproduct hmem (hid.trans (hpath.trans hkey.symm))
          exact hseller (hsame ▸ hown)

end Products

/-! ## Categories and brands -/

/-- A deletion succeeds exactly when it is allowed, and changes nothing otherwise. -/
structure ExactDeletion (s : AppState) (x : Call AppError AppState Unit) (allowed : Prop) :
    Prop where
  succeeds : x.result s = .ok () ↔ allowed
  fails : ∀ e, x.result s = .error e → x.final s = s

namespace Categories

/-- The category exists and has neither children nor products, except for deleted ones. -/
structure Deletable (db : Db) (id : Uuid) : Prop where
  present : ∃ category ∈ db.categories.rows, category.id = id
  childless : ∀ category ∈ db.categories.rows, category.parentId ≠ some id
  unused : ∀ product ∈ db.products.rows, product.deletedAt = none → product.categoryId ≠ some id

/-- Without children, the row goes if no product at all refers to it. -/
theorem deleteCategoryRow_affected {db : Db}
    (hchildless : ∀ category ∈ db.categories.rows, category.parentId ≠ some id) :
    (∃ rowsAffected pool, Repository.deleteCategoryRow id db = .ok (rowsAffected, pool) ∧
      rowsAffected ≠ 0) ↔
      (∃ category ∈ db.categories.rows, category.id = id) ∧
        ∀ product ∈ db.products.rows, product.categoryId ≠ some id := by
  have hnochild : ¬ (db.categories.filter (·.id ≠ id)).rows.any (·.parentId = some id) = true := by
    rw [List.any_eq_true]
    intro hchild
    obtain ⟨category, hmem, hparent⟩ := hchild
    exact hchildless category ((Table.mem_filter ..).mp hmem).1 (of_decide_eq_true hparent)
  unfold Repository.deleteCategoryRow
  cases hfind : db.categories.find? id with
  | none =>
    have hmissing := (Table.find?_eq_none_iff ..).mp hfind
    constructor
    · intro h
      obtain ⟨rowsAffected, pool, h, haffected⟩ := h
      cases h
      exact absurd rfl haffected
    · intro h
      obtain ⟨⟨category, hmem, hid⟩, -⟩ := h
      exact absurd hid (hmissing category hmem)
  | some category =>
    have hexists : ∃ category ∈ db.categories.rows, category.id = id :=
      ⟨category, (Table.find?_eq_some_iff ..).mp hfind⟩
    simp only [if_neg hnochild, hexists, true_and]
    by_cases hused : db.products.rows.any (·.categoryId = some id) = true
    · have hproduct : ¬ ∀ product ∈ db.products.rows, product.categoryId ≠ some id := by
        simpa using hused
      simp only [if_pos hused, hproduct, iff_false]
      intro h
      obtain ⟨rowsAffected, pool, h, -⟩ := h
      cases h
    · have hproduct : ∀ product ∈ db.products.rows, product.categoryId ≠ some id := by
        simpa using hused
      simp only [if_neg hused]
      exact ⟨fun _ => hproduct, fun _ => ⟨1, _, rfl, one_ne_zero⟩⟩

theorem checkDelete_ok {db : Db} : checkDelete id db = .ok () ↔
    (∀ category ∈ db.categories.rows, category.parentId ≠ some id) ∧
      ∀ product ∈ db.products.rows, product.deletedAt = none → product.categoryId ≠ some id := by
  unfold checkDelete
  rw [Except.guard_eq_ok, Except.guard_end_eq_ok]
  unfold Repository.hasChildren Repository.hasProducts
  simp only [List.any_eq_true, Bool.and_eq_true, decide_eq_true_eq, Option.isNone_iff_eq_none,
    not_exists, not_and]
  exact and_congr_right fun _ => forall₂_congr fun product _ => ⟨fun h hlive hid => h hid hlive,
    fun h hid hlive => h hlive hid⟩

theorem getCategoryById_ok {category : CategoryEntity} {db : Db} :
    Repository.getCategoryById id db = .ok category ↔
      category ∈ db.categories.rows ∧ category.id = id := by
  rw [← Table.find?_eq_some_iff]
  unfold Repository.getCategoryById
  cases db.categories.find? id with
  | none => simp
  | some category' => simp

/-- A category is deleted if it is deletable and no deleted product refers to it either. -/
theorem deleteCategory_ok (hadmin : user.role = .admin) :
    (deleteCategory user id).result s = .ok () ↔ Deletable s.pool id ∧
      ∀ product ∈ s.pool.products.rows, product.categoryId ≠ some id := by
  rw [Call.result_eq_ok]
  constructor
  · intro h
    obtain ⟨t, h⟩ := h
    obtain ⟨_, -, h⟩ := Call.query_bind_ok.mp h
    obtain ⟨category, hget, h⟩ := Call.query_bind_ok.mp h
    obtain ⟨_, hguards, h⟩ := Call.query_bind_ok.mp h
    obtain ⟨pool, htx, -⟩ := inTransaction_run.mp h
    obtain ⟨hchildless, hunused⟩ := checkDelete_ok.mp hguards
    obtain ⟨rowsAffected, hstatement, haffected⟩ := withTransaction_affected htx
    obtain ⟨hexists, hproducts⟩ :=
      (deleteCategoryRow_affected hchildless).mp ⟨rowsAffected, pool, hstatement, haffected⟩
    exact ⟨⟨hexists, hchildless, hunused⟩, hproducts⟩
  · intro h
    obtain ⟨⟨hexists, hchildless, hunused⟩, hproducts⟩ := h
    obtain ⟨rowsAffected, pool, hstatement, haffected⟩ :=
      (deleteCategoryRow_affected hchildless).mpr ⟨hexists, hproducts⟩
    obtain ⟨category, hmem, hid⟩ := hexists
    have htx : inTransaction "Failed to delete category" (Repository.deleteCategory id) s =
        .ok () { s with pool } :=
      inTransaction_run.mpr ⟨pool, withTransaction_of_affected hstatement haffected, rfl⟩
    exact ⟨_, Call.query_bind_ok.mpr ⟨(), requireAdmin_ok.mpr hadmin,
      Call.query_bind_ok.mpr ⟨category, getCategoryById_ok.mpr ⟨hmem, hid⟩,
        Call.query_bind_ok.mpr ⟨(), checkDelete_ok.mpr ⟨hchildless, hunused⟩, htx⟩⟩⟩⟩

theorem deleteCategory_failsClean : Call.FailsClean (deleteCategory user id) s :=
  Call.failsClean_query fun _ _ => Call.failsClean_query fun _ _ =>
    Call.failsClean_query fun _ _ => Call.failsClean_write _

end Categories

namespace Brands

/-- The brand exists and has no products, except for deleted ones. -/
structure Deletable (db : Db) (id : Uuid) : Prop where
  present : ∃ brand ∈ db.brands.rows, brand.id = id
  unused : ∀ product ∈ db.products.rows, product.deletedAt = none → product.brandId ≠ some id

theorem deleteBrandRow_affected {db : Db} :
    (∃ rowsAffected pool, Repository.deleteBrandRow id db = .ok (rowsAffected, pool) ∧
      rowsAffected ≠ 0) ↔
      (∃ brand ∈ db.brands.rows, brand.id = id) ∧
        ∀ product ∈ db.products.rows, product.brandId ≠ some id := by
  unfold Repository.deleteBrandRow
  cases hfind : db.brands.find? id with
  | none =>
    have hmissing := (Table.find?_eq_none_iff ..).mp hfind
    constructor
    · intro h
      obtain ⟨rowsAffected, pool, h, haffected⟩ := h
      cases h
      exact absurd rfl haffected
    · intro h
      obtain ⟨⟨brand, hmem, hid⟩, -⟩ := h
      exact absurd hid (hmissing brand hmem)
  | some brand =>
    have hexists : ∃ brand ∈ db.brands.rows, brand.id = id :=
      ⟨brand, (Table.find?_eq_some_iff ..).mp hfind⟩
    simp only [hexists, true_and]
    by_cases hused : db.products.rows.any (·.brandId = some id) = true
    · have hproduct : ¬ ∀ product ∈ db.products.rows, product.brandId ≠ some id := by
        simpa using hused
      simp only [if_pos hused, hproduct, iff_false]
      intro h
      obtain ⟨rowsAffected, pool, h, -⟩ := h
      cases h
    · have hproduct : ∀ product ∈ db.products.rows, product.brandId ≠ some id := by
        simpa using hused
      simp only [if_neg hused]
      exact ⟨fun _ => hproduct, fun _ => ⟨1, _, rfl, one_ne_zero⟩⟩

theorem checkDelete_ok {db : Db} : checkDelete id db = .ok () ↔
    ∀ product ∈ db.products.rows, product.deletedAt = none → product.brandId ≠ some id := by
  have hlive : Repository.hasProducts id db = true ↔
      ¬ ∀ product ∈ db.products.rows, product.deletedAt = none → product.brandId ≠ some id := by
    simp [Repository.hasProducts, and_comm]
  unfold checkDelete
  by_cases hproducts : Repository.hasProducts id db = true
  · rw [if_pos hproducts]
    exact ⟨fun h => absurd h (by simp), fun h => absurd h (hlive.mp hproducts)⟩
  · rw [if_neg hproducts]
    exact ⟨fun _ => not_not.mp (mt hlive.mpr hproducts), fun _ => rfl⟩

theorem getBrandById_ok {brand : BrandEntity} {db : Db} :
    Repository.getBrandById id db = .ok brand ↔ brand ∈ db.brands.rows ∧ brand.id = id := by
  rw [← Table.find?_eq_some_iff]
  unfold Repository.getBrandById
  cases db.brands.find? id with
  | none => simp
  | some brand' => simp

/-- A brand is deleted if it is deletable and no deleted product refers to it either. -/
theorem deleteBrand_ok (hadmin : user.role = .admin) :
    (deleteBrand user id).result s = .ok () ↔ Deletable s.pool id ∧
      ∀ product ∈ s.pool.products.rows, product.brandId ≠ some id := by
  rw [Call.result_eq_ok]
  constructor
  · intro h
    obtain ⟨t, h⟩ := h
    obtain ⟨_, -, h⟩ := Call.query_bind_ok.mp h
    obtain ⟨brand, hget, h⟩ := Call.query_bind_ok.mp h
    obtain ⟨_, hguard, h⟩ := Call.query_bind_ok.mp h
    obtain ⟨pool, htx, -⟩ := inTransaction_run.mp h
    obtain ⟨rowsAffected, hstatement, haffected⟩ := withTransaction_affected htx
    obtain ⟨hexists, hproducts⟩ :=
      deleteBrandRow_affected.mp ⟨rowsAffected, pool, hstatement, haffected⟩
    exact ⟨⟨hexists, checkDelete_ok.mp hguard⟩, hproducts⟩
  · intro h
    obtain ⟨⟨hexists, hunused⟩, hproducts⟩ := h
    obtain ⟨rowsAffected, pool, hstatement, haffected⟩ :=
      deleteBrandRow_affected.mpr ⟨hexists, hproducts⟩
    obtain ⟨brand, hmem, hid⟩ := hexists
    have htx : inTransaction "Failed to delete brand" (Repository.deleteBrand id) s =
        .ok () { s with pool } :=
      inTransaction_run.mpr ⟨pool, withTransaction_of_affected hstatement haffected, rfl⟩
    exact ⟨_, Call.query_bind_ok.mpr ⟨(), requireAdmin_ok.mpr hadmin,
      Call.query_bind_ok.mpr ⟨brand, getBrandById_ok.mpr ⟨hmem, hid⟩,
        Call.query_bind_ok.mpr ⟨(), checkDelete_ok.mpr hunused, htx⟩⟩⟩⟩

theorem deleteBrand_failsClean : Call.FailsClean (deleteBrand user id) s :=
  Call.failsClean_query fun _ _ => Call.failsClean_query fun _ _ =>
    Call.failsClean_query fun _ _ => Call.failsClean_write _

end Brands

/-- A deletion that ignores the products in `deleted` is exact if it never meets one. -/
theorem exactDeletion_iff {x : Call AppError AppState Unit} {allowed : Prop}
    {ref : ProductRow → Option Uuid} (hclean : Call.FailsClean x s)
    (hok : x.result s = .ok () ↔
      allowed ∧ ∀ product ∈ s.pool.products.rows, ref product ≠ some id)
    (hallowed : allowed →
      ∀ product ∈ s.pool.products.rows, product.deletedAt = none → ref product ≠ some id) :
    ExactDeletion s x allowed ↔ (allowed → ∀ product ∈ s.pool.products.rows,
      product.deletedAt.isSome → ref product ≠ some id) := by
  constructor
  · intro h hyes product hmem _
    exact (hok.mp (h.succeeds.mpr hyes)).2 product hmem
  · intro h
    refine ⟨⟨fun hresult => (hok.mp hresult).1, fun hyes => hok.mpr ⟨hyes, ?_⟩⟩, hclean⟩
    intro product hmem
    cases hdeleted : product.deletedAt with
    | none => exact hallowed hyes product hmem hdeleted
    | some at_ => exact h hyes product hmem (by rw [hdeleted]; rfl)

/-- An admin's deletion of a category, or of a brand, is exact if and only if no deleted product
    refers to what the guards would let go. -/
theorem deletions_exact_iff (s : AppState) (user : CurrentUser) (id : Uuid)
    (hadmin : user.role = .admin) :
    (ExactDeletion s (Categories.deleteCategory user id) (Categories.Deletable s.pool id) ↔
      (Categories.Deletable s.pool id → ∀ product ∈ s.pool.products.rows,
        product.deletedAt.isSome → product.categoryId ≠ some id)) ∧
    (ExactDeletion s (Brands.deleteBrand user id) (Brands.Deletable s.pool id) ↔
      (Brands.Deletable s.pool id → ∀ product ∈ s.pool.products.rows,
        product.deletedAt.isSome → product.brandId ≠ some id)) := by
  constructor
  · exact exactDeletion_iff Categories.deleteCategory_failsClean
      (Categories.deleteCategory_ok hadmin) fun h => h.unused
  · exact exactDeletion_iff Brands.deleteBrand_failsClean (Brands.deleteBrand_ok hadmin)
      fun h => h.unused

/-! ## Runs -/

def otherSeller : CurrentUser := ⟨⟨7, 2⟩, .seller⟩

def createProductCall (user : CurrentUser) (name : String) : Label :=
  .call (.createProduct user
    { name, slug := none, description := none, basePrice := 10, currency := none
      categoryId := none, brandId := none })

/-- Two sellers with a product each, and images of both. -/
def pictured : List Label :=
  [createProductCall sampleSeller "Lamp", createProductCall otherSeller "Chair",
    .call (.addImage sampleSeller ⟨1, 0⟩
      { url := "https://img.test/lamp.png", altText := none, sortOrder := none
        isPrimary := none }),
    .call (.addImage otherSeller ⟨1, 1⟩
      { url := "https://img.test/chair.png", altText := none, sortOrder := none
        isPrimary := none })]

theorem deleteImage_within_lamp : ∃ t, Run.run step {} pictured = some t ∧
    Products.DeletesWithin t sampleSeller ⟨1, 0⟩ ⟨1, 2⟩ := by
  have heval : (Run.run step {} pictured).map (fun t =>
      decide ((t.pool.productImages.find? ⟨1, 2⟩).all (·.productId = ⟨1, 0⟩) = true)) =
      some true := by
    decide +kernel
  obtain ⟨t, ht, himages⟩ := Run.run_decide heval
  refine ⟨t, ht, (Products.deleteImage_within_iff t sampleSeller ⟨1, 0⟩ ⟨1, 2⟩ (by decide)).mpr ?_⟩
  intro product image _ _ himage
  rw [himage] at himages
  exact of_decide_eq_true himages

/-- By way of the own lamp, the picture of the other seller's chair is deleted. -/
theorem not_deletesWithin_chair : ∃ t, Run.run step {} pictured = some t ∧
    ¬ Products.DeletesWithin t sampleSeller ⟨1, 0⟩ ⟨1, 3⟩ := by
  have heval : (Run.run step {} pictured).map (fun t => decide (
      ((Products.deleteImage sampleSeller ⟨1, 0⟩ ⟨1, 3⟩).result t).toOption = some () ∧
      (t.pool.productImages.find? ⟨1, 3⟩).map (·.productId) = some ⟨1, 1⟩)) = some true := by
    decide +kernel
  obtain ⟨t, ht, hresult, hproduct⟩ := Run.run_decide heval
  refine ⟨t, ht, fun hwithin => ?_⟩
  obtain ⟨-, image, -, -, himage, hown⟩ := hwithin.own (Except.toOption_eq_some.mp hresult)
  rw [himage, Option.map_some, hown] at hproduct
  exact absurd hproduct (by decide)

/-- While its product is there, a category cannot be deleted, and that is exact. -/
theorem deletions_exact_laptops : ∃ t, Run.run step {} laptopListed = some t ∧
    ExactDeletion t (Categories.deleteCategory sampleAdmin ⟨1, 0⟩)
      (Categories.Deletable t.pool ⟨1, 0⟩) := by
  have heval : (Run.run step {} laptopListed).map (fun t =>
      decide (∀ product ∈ t.pool.products.rows, product.deletedAt = none)) = some true := by
    decide +kernel
  obtain ⟨t, ht, hlive⟩ := Run.run_decide heval
  refine ⟨t, ht, (deletions_exact_iff t sampleAdmin ⟨1, 0⟩ rfl).1.mpr ?_⟩
  intro _ product hmem hdeleted
  rw [hlive product hmem] at hdeleted
  cases hdeleted

/-- When the product has been deleted, nothing stands in the way any more, but the category and
    the brand cannot be deleted. -/
theorem not_exactDeletion_deleted :
    ∃ t, Run.run step {} (laptopListed ++ [.call (.deleteProduct sampleSeller ⟨1, 2⟩)]) = some t ∧
      ¬ ExactDeletion t (Categories.deleteCategory sampleAdmin ⟨1, 0⟩)
        (Categories.Deletable t.pool ⟨1, 0⟩) ∧
      ¬ ExactDeletion t (Brands.deleteBrand sampleAdmin ⟨1, 1⟩)
        (Brands.Deletable t.pool ⟨1, 1⟩) := by
  have heval : (Run.run step {} (laptopListed ++
      [.call (.deleteProduct sampleSeller ⟨1, 2⟩)])).map (fun t => decide (
        ((∃ category ∈ t.pool.categories.rows, category.id = ⟨1, 0⟩) ∧
          (∀ category ∈ t.pool.categories.rows, category.parentId ≠ some ⟨1, 0⟩) ∧
          ∃ brand ∈ t.pool.brands.rows, brand.id = ⟨1, 1⟩) ∧
        (∀ product ∈ t.pool.products.rows, product.deletedAt ≠ none) ∧
        ((Categories.deleteCategory sampleAdmin ⟨1, 0⟩).result t).toOption = none ∧
        ((Brands.deleteBrand sampleAdmin ⟨1, 1⟩).result t).toOption = none)) = some true := by
    decide +kernel
  obtain ⟨t, ht, ⟨hcategory, hchildless, hbrand⟩, hdeleted, hcategoryKept, hbrandKept⟩ :=
    Run.run_decide heval
  refine ⟨t, ht, fun hexact => ?_, fun hexact => ?_⟩
  · rw [hexact.succeeds.mpr ⟨hcategory, hchildless, fun product hmem hlive =>
      absurd hlive (hdeleted product hmem)⟩] at hcategoryKept
    cases hcategoryKept
  · rw [hexact.succeeds.mpr ⟨hbrand, fun product hmem hlive =>
      absurd hlive (hdeleted product hmem)⟩] at hbrandKept
    cases hbrandKept

end Koupang.Store
