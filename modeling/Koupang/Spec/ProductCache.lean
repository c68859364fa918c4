import Koupang.ForStd.CacheAside
import Koupang.Spec.ProductReads

/-!
# Cached reads of products

Every operation on a product, on its SKUs and on its images evicts the entries
that it changes. The operations that change what is shown of a product from
elsewhere evict nothing: the inventory functions, the new name of a category or
of a brand, and an image that is deleted through another product.

## Key results

- `coherent_iff_fresh`: reads are coherent exactly if every entry of the cache is fresh
- `coherent_iff`: the reads of a run are coherent all the way exactly as long as nothing changes
  from elsewhere what an entry of the cache shows
-/

namespace Koupang.Store

open Products.Repository (findProductById getProductDetail getProductBySlug listSkusByProduct
  listImagesByProduct)

/-! ## The cache -/

namespace RedisCache

variable {cache : RedisCache} {key key' : CacheKey} {v v' : CacheValue}

/-- The entries of the cache. -/
def entries (cache : RedisCache) : List CacheEntry := (cache.conn.map (·.rows)).getD []

theorem find?_eq_some : cache.find? key = some v ↔ ⟨key, v⟩ ∈ cache.entries := by
  obtain ⟨conn⟩ := cache
  cases conn with
  | none => exact ⟨nofun, nofun⟩
  | some table =>
    change (table.find? key >>= fun entry => some entry.value) = some v ↔ _ ∈ table.rows
    rw [Option.bind_eq_bind, Option.bind_eq_some_iff]
    constructor
    · rintro ⟨⟨_, _⟩, hfind, hvalue⟩
      cases hvalue
      obtain ⟨hmem, rfl⟩ := (table.find?_eq_some_iff _ _).mp hfind
      exact hmem
    · intro hmem
      exact ⟨_, (table.find?_eq_some_iff _ _).mpr ⟨hmem, rfl⟩, rfl⟩

theorem find?_evict : (cache.evict key).find? key' = some v ↔
    key' ≠ key ∧ cache.find? key' = some v := by
  obtain ⟨conn⟩ := cache
  rw [find?_eq_some, find?_eq_some, and_comm]
  cases conn with
  | none => exact ⟨nofun, fun h => absurd h.1 nofun⟩
  | some table =>
    change _ ∈ (table.filter _).rows ↔ _ ∈ table.rows ∧ _
    rw [Table.mem_filter]
    simp

theorem find?_set (h : (cache.set key v).find? key' = some v') :
    (key' = key ∧ v' = v) ∨ cache.find? key' = some v' := by
  obtain ⟨conn⟩ := cache
  rw [find?_eq_some] at h ⊢
  cases conn with
  | none => exact nomatch h
  | some table =>
    change _ ∈ (table.set ⟨key, v⟩).rows at h
    change _ ∨ _ ∈ table.rows
    rcases (Table.mem_set ..).mp h with heq | ⟨hmem, -⟩
    · cases heq
      exact .inl ⟨rfl, rfl⟩
    · exact .inr hmem

end RedisCache

/-- The product that a cached value shows. -/
def CacheValue.shownProduct : CacheValue → ProductRes
  | .product res => res
  | .detail res => res.product

/-- The detail that a cached value holds. -/
def CacheValue.detail? : CacheValue → Option ProductDetailRes
  | .product _ => none
  | .detail res => some res

/-! ## Coherence -/

/-- The reads of a product return what the uncached queries return. -/
def Coherent (s : AppState) : Prop :=
  (∀ id, (Products.getProductDetail id).result s = getProductDetail id s.pool) ∧
    ∀ slug, (Products.getProductBySlug slug).result s =
      (getProductBySlug slug s.pool).map (Products.ProductRes.new s.pool)

/-- Every entry of the cache is what the query under its key returns. -/
abbrev Fresh (s : AppState) : Prop := CacheAside.Fresh current s.pool s.cache.find?

/-- A detail is stored under an id, and a product under a slug. -/
structure RedisCache.WellTyped (cache : RedisCache) : Prop where
  detail : ∀ id v, cache.find? (.productDetail id) = some v → ∃ res, v = .detail res
  product : ∀ slug v, cache.find? (.productSlug slug) = some v → ∃ res, v = .product res

theorem wellTyped_of_current {db : Db} {key : CacheKey} {v : CacheValue}
    (h : current db key = .ok v) :
    (∀ id, key = .productDetail id → ∃ res, v = .detail res) ∧
      ∀ slug, key = .productSlug slug → ∃ res, v = .product res := by
  obtain ⟨row, -, rfl⟩ := current_eq_ok.mp h
  constructor
  · rintro id rfl
    exact ⟨_, rfl⟩
  · rintro slug rfl
    exact ⟨_, rfl⟩

/-- A query whose result is stored returns that result. -/
theorem result_onPool_update {α : Type} (f : Db → Except AppError α) (g : α → AppState → AppState)
    (s : AppState) :
    (do let a ← onPool f
        Call.update (g a)
        return a : Call AppError AppState α).result s = f s.pool := by
  unfold Call.result onPool
  rw [Call.run_query]
  cases f s.pool <;> rfl

/-- The read of a detail is a read through the cache. -/
theorem read_productDetail {s : AppState} (htyped : s.cache.WellTyped) (id : Uuid) :
    CacheAside.read current s.pool s.cache.find? (.productDetail id) =
      ((Products.getProductDetail id).result s).map .detail := by
  have hresult : (Products.getProductDetail id).result s = _ :=
    Call.result_query_bind (a := s.cache.getDetail (.productDetail id)) rfl
  rw [hresult]
  unfold CacheAside.read RedisCache.getDetail
  cases hfind : s.cache.find? (.productDetail id) with
  | none =>
    rw [current_productDetail]
    exact (congrArg (Except.map CacheValue.detail) (result_onPool_update (getProductDetail id)
      (fun res state => { state with cache := state.cache.set (.productDetail id) (.detail res) })
      s)).symm
  | some v =>
    obtain ⟨res, rfl⟩ := htyped.detail id v hfind
    rfl

/-- The read of a product by its slug is a read through the cache. -/
theorem read_productSlug {s : AppState} (htyped : s.cache.WellTyped) (slug : String) :
    CacheAside.read current s.pool s.cache.find? (.productSlug slug) =
      ((Products.getProductBySlug slug).result s).map .product := by
  have hresult : (Products.getProductBySlug slug).result s = _ :=
    Call.result_query_bind (a := s.cache.getProduct (.productSlug slug)) rfl
  rw [hresult]
  unfold CacheAside.read RedisCache.getProduct
  cases hfind : s.cache.find? (.productSlug slug) with
  | none =>
    rw [current_productSlug]
    exact (congrArg (Except.map CacheValue.product) (result_onPool_update
      (fun db => (getProductBySlug slug db).map (Products.ProductRes.new db))
      (fun res state => { state with cache := state.cache.set (.productSlug slug) (.product res) })
      s)).symm
  | some v =>
    obtain ⟨res, rfl⟩ := htyped.product slug v hfind
    rfl

theorem map_eq_map {α β : Type} {f : α → β} (hf : ∀ a b, f a = f b → a = b)
    {x y : Except AppError α} : x.map f = y.map f ↔ x = y := by
  refine ⟨fun h => ?_, fun h => h ▸ rfl⟩
  cases x with
  | error e =>
    cases y with
    | error e' =>
      cases h
      rfl
    | ok b => exact nomatch h
  | ok a =>
    cases y with
    | error e' => exact nomatch h
    | ok b => rw [hf a b (Except.ok.inj h)]

/-- Reads are coherent exactly if every entry of the cache is fresh. -/
theorem coherent_iff_fresh {s : AppState} (htyped : s.cache.WellTyped) : Coherent s ↔ Fresh s := by
  have hdetail : ∀ id, (Products.getProductDetail id).result s = getProductDetail id s.pool ↔
      CacheAside.read current s.pool s.cache.find? (.productDetail id) =
        current s.pool (.productDetail id) := by
    intro id
    rw [read_productDetail htyped, current_productDetail, map_eq_map fun _ _ => CacheValue.detail.inj]
  have hslug : ∀ slug, (Products.getProductBySlug slug).result s =
        (getProductBySlug slug s.pool).map (Products.ProductRes.new s.pool) ↔
      CacheAside.read current s.pool s.cache.find? (.productSlug slug) =
        current s.pool (.productSlug slug) := by
    intro slug
    rw [read_productSlug htyped, current_productSlug, map_eq_map fun _ _ => CacheValue.product.inj]
  unfold Coherent Fresh
  rw [CacheAside.fresh_iff_read, forall_congr' hdetail, forall_congr' hslug]
  constructor
  · rintro ⟨hdetails, hslugs⟩ key
    cases key with
    | productDetail id => exact hdetails id
    | productSlug slug => exact hslugs slug
  · exact fun h => ⟨fun id => h _, fun slug => h _⟩

/-! ## What an operation does to the cache -/

/-- An operation stores nothing but what it has read. -/
theorem Effect.cache {s t : AppState} {op : CatalogOp} (h : Effect s op t) {key : CacheKey}
    {v : CacheValue} (hfind : t.cache.find? key = some v) :
    s.cache.find? key = some v ∨ (t.pool = s.pool ∧ current s.pool key = .ok v) := by
  cases h with
  | createCategory => exact .inl hfind
  | updateCategory => exact .inl hfind
  | deleteCategory => exact .inl hfind
  | createBrand => exact .inl hfind
  | updateBrand => exact .inl hfind
  | deleteBrand => exact .inl hfind
  | associateCategory => exact .inl hfind
  | disassociateCategory => exact .inl hfind
  | createProduct => exact .inl hfind
  | updateProduct =>
    exact .inl (RedisCache.find?_evict.mp (RedisCache.find?_evict.mp hfind).2).2
  | deleteProduct =>
    exact .inl (RedisCache.find?_evict.mp (RedisCache.find?_evict.mp hfind).2).2
  | createSku => exact .inl (RedisCache.find?_evict.mp hfind).2
  | updateSku => exact .inl (RedisCache.find?_evict.mp hfind).2
  | deleteSku => exact .inl (RedisCache.find?_evict.mp hfind).2
  | adjustStock => exact .inl (RedisCache.find?_evict.mp hfind).2
  | addImage => exact .inl (RedisCache.find?_evict.mp hfind).2
  | deleteImage => exact .inl (RedisCache.find?_evict.mp hfind).2
  | getProductBySlug found =>
    rcases RedisCache.find?_set hfind with ⟨rfl, rfl⟩ | hold
    · exact .inr ⟨rfl, current_of_find found⟩
    · exact .inl hold
  | getProductDetail found =>
    rcases RedisCache.find?_set hfind with ⟨rfl, rfl⟩ | hold
    · refine .inr ⟨rfl, ?_⟩
      rw [current_productDetail, found]
      rfl
    · exact .inl hold
  | evict => exact .inl (RedisCache.find?_evict.mp hfind).2
  | evictProduct =>
    exact .inl (RedisCache.find?_evict.mp (RedisCache.find?_evict.mp hfind).2).2
  | inventory => exact .inl hfind

/-! ## References -/

/-- The foreign keys of `products`. -/
structure References (db : Db) : Prop where
  category : ∀ p ∈ db.products.rows, ∀ id, p.categoryId = some id → (db.categories.find? id).isSome
  brand : ∀ p ∈ db.products.rows, ∀ id, p.brandId = some id → (db.brands.find? id).isSome

/-- A step writes products with checked references, and removes nothing that one refers to. -/
structure ReferencesStep (db db' : Db) : Prop where
  products : ∀ p ∈ db'.products.rows, p ∈ db.products.rows ∨
    Products.Repository.ProductChecked db p := by exact fun _ hp => .inl hp
  categories : ∀ p ∈ db'.products.rows, ∀ id, p.categoryId = some id →
    (db.categories.find? id).isSome → (db'.categories.find? id).isSome := by
      exact fun _ _ _ _ h => h
  brands : ∀ p ∈ db'.products.rows, ∀ id, p.brandId = some id →
    (db.brands.find? id).isSome → (db'.brands.find? id).isSome := by exact fun _ _ _ _ h => h

theorem References.step {db db' : Db} (h : References db) (hstep : ReferencesStep db db') :
    References db' where
  category p hp id hid := by
    refine hstep.categories p hp id hid ?_
    rcases hstep.products p hp with hold | hchecked
    · exact h.category p hold id hid
    · exact hchecked.category id hid
  brand p hp id hid := by
    refine hstep.brands p hp id hid ?_
    rcases hstep.products p hp with hold | hchecked
    · exact h.brand p hold id hid
    · exact hchecked.brand id hid

theorem Effect.references {s t : AppState} {op : CatalogOp} (h : Effect s op t) :
    ReferencesStep s.pool t.pool := by
  cases h with
  | createCategory _ _ _ statement =>
    obtain ⟨_, _, hinsert, -, -, -, -, -, -, rfl⟩ :=
      Categories.Repository.insertCategory_ok statement
    exact { categories := fun _ _ _ _ h => by rwa [Table.find?_of_insert_of_isSome hinsert h] }
  | updateCategory _ _ statement affected =>
    obtain ⟨_, _, _, -, -, rfl⟩ := Categories.Repository.updateCategoryRow_ok statement affected
    refine { categories := fun _ _ _ _ h => ?_ }
    dsimp only
    rwa [Table.isSome_find?_modify]
  | @deleteCategory _ deleted _ _ _ statement affected =>
    obtain ⟨-, hproducts, rfl⟩ := Categories.Repository.deleteCategoryRow_ok statement affected
    refine { categories := fun p hp id hid h => ?_ }
    have hne : id ≠ deleted := by
      rintro rfl
      exact hproducts p hp hid
    dsimp only
    rwa [Table.find?_filter_ne _ hne]
  | createBrand _ statement =>
    obtain ⟨_, _, hinsert, rfl⟩ := Brands.Repository.insertBrand_ok statement
    exact { brands := fun _ _ _ _ h => by rwa [Table.find?_of_insert_of_isSome hinsert h] }
  | updateBrand _ _ statement affected =>
    obtain ⟨_, _, _, -, -, -, rfl⟩ := Brands.Repository.updateBrandRow_ok statement affected
    refine { brands := fun _ _ _ _ h => ?_ }
    dsimp only
    rwa [Table.isSome_find?_modify]
  | @deleteBrand _ deleted _ _ _ statement affected =>
    obtain ⟨hproducts, rfl⟩ := Brands.Repository.deleteBrandRow_ok statement affected
    refine { brands := fun p hp id hid h => ?_ }
    have hne : id ≠ deleted := by
      rintro rfl
      exact hproducts p hp hid
    dsimp only
    rwa [Table.find?_filter_ne _ hne]
  | associateCategory statement =>
    rcases Brands.Repository.insertBrandCategory_ok statement with rfl | ⟨_, -, rfl⟩
    · exact {}
    · exact {}
  | disassociateCategory _ statement affected =>
    rw [Brands.Repository.deleteBrandCategory_ok statement affected]
    exact {}
  | createProduct _ statement =>
    obtain ⟨row, products, hinsert, hchecked, -, -, rfl⟩ :=
      Products.Repository.insertProduct_ok statement
    have hrows := ((s.pool.products.insert_eq_some _ _).mp hinsert).2
    refine { products := fun p hp => ?_ }
    rw [hrows, List.mem_append, List.mem_singleton] at hp
    rcases hp with hp | rfl
    · exact .inl hp
    · exact .inr hchecked
  | updateProduct found _ _ statement affected =>
    obtain ⟨name, slug, basePrice, currency, row, hset, hfind, hchecked, rfl⟩ :=
      Products.Repository.updateProductColumns_ok statement affected
    have hfound := (Products.Repository.findProductById_eq_some.mp hfind).1
    refine { products := fun p hp => ?_ }
    rcases (Table.mem_modify_of_find? _ hfound _ hset p).mp hp with ⟨hp, -⟩ | rfl
    · exact .inl hp
    · exact .inr hchecked
  | deleteProduct _ statement affected =>
    obtain ⟨row, hset, hfind, hchecked, rfl⟩ :=
      Products.Repository.updateProductRow_ok statement affected
    have hfound := (Products.Repository.findProductById_eq_some.mp hfind).1
    refine { products := fun p hp => ?_ }
    rcases (Table.mem_modify_of_find? _ hfound _ hset p).mp hp with ⟨hp, -⟩ | rfl
    · exact .inl hp
    · exact .inr hchecked
  | createSku statement =>
    obtain ⟨_, _, -, -, rfl⟩ := Products.Repository.insertSku_ok statement
    exact {}
  | updateSku _ statement affected =>
    obtain ⟨_, _, rfl⟩ := Products.Repository.updateSkuColumns_ok statement affected
    exact {}
  | deleteSku _ statement affected =>
    obtain ⟨_, rfl⟩ := Products.Repository.updateSkuRow_ok statement affected
    exact {}
  | adjustStock _ statement affected =>
    obtain ⟨_, rfl⟩ := Products.Repository.updateSkuRow_ok statement affected
    exact {}
  | addImage statement =>
    obtain ⟨_, _, -, -, rfl⟩ := Products.Repository.insertImage_ok statement
    dsimp only
    split
    · exact {}
    · exact {}
  | deleteImage _ _ statement affected =>
    obtain ⟨_, -, rfl⟩ := Products.Repository.deleteImageRow_ok statement affected
    exact {}
  | getProductBySlug => exact {}
  | getProductDetail => exact {}
  | evict => exact {}
  | evictProduct => exact {}
  | inventory => exact {}

/-! ## What changes from elsewhere what is shown -/

/-- The new name that `update_category` gives to a category. -/
def renamedCategory (user : CurrentUser) (id : Uuid) (req : Categories.UpdateCategoryReq)
    (db : Db) : Option String := do
  let _ ← (requireAdmin user).toOption
  let category ← db.categories.find? id
  let validated ← (Categories.ValidUpdateCategoryReq.tryFrom req).toOption
  let column ← (validated.name.mapM (varchar 255)).toOption
  let name ← column
  if name = category.name then none else some name

/-- The new name that `update_brand` gives to a brand, unless another brand has it. -/
def renamedBrand (user : CurrentUser) (id : Uuid) (req : Brands.UpdateBrandReq) (db : Db) :
    Option String := do
  let _ ← (requireAdmin user).toOption
  let brand ← db.brands.find? id
  let validated ← (Brands.ValidUpdateBrandReq.tryFrom req).toOption
  let column ← (validated.name.mapM (varchar 255)).toOption
  let name ← column
  if name = brand.name || db.brands.rows.any (fun b => b.id ≠ id && b.name = name) then none
  else some name

/-- The image that `delete_image` deletes. -/
def deletedImage (user : CurrentUser) (productId imageId : Uuid) (db : Db) :
    Option ProductImageEntity := do
  let product ← findProductById productId db
  let _ ← (requireAccess user product.sellerId).toOption
  db.productImages.find? imageId

/-- An inventory function changes a column of a SKU that is shown: its stock or the time of its
    last update. -/
def InventoryCall.ChangesSku [SerdeJson] (call : InventoryCall) (s : AppState) (id : Uuid) : Prop :=
  ((call.execute s).pool.skus.find? id).map SkuRes.new ≠ (s.pool.skus.find? id).map SkuRes.new

instance [SerdeJson] (call : InventoryCall) (s : AppState) (id : Uuid) :
    Decidable (call.ChangesSku s id) :=
  inferInstanceAs (Decidable (_ ≠ _))

/-- Nothing that an entry of the cache shows is changed by an operation that does not evict it. -/
def StaysFresh [SerdeJson] (s : AppState) : Label → Prop
  | .call (.updateCategory user id req) => (renamedCategory user id req s.pool).isSome →
    ∀ e ∈ s.cache.entries, e.value.shownProduct.categoryId ≠ some id
  | .call (.updateBrand user id req) => (renamedBrand user id req s.pool).isSome →
    ∀ e ∈ s.cache.entries, e.value.shownProduct.brandId ≠ some id
  | .call (.deleteImage user productId imageId) =>
    ∀ image ∈ deletedImage user productId imageId s.pool, image.productId ≠ productId →
      ∀ e ∈ s.cache.entries, ∀ detail ∈ e.value.detail?, image ∉ detail.images
  | .call (.inventory call) =>
    ∀ e ∈ s.cache.entries, ∀ detail ∈ e.value.detail?, ∀ sku ∈ detail.skus,
      ¬ call.ChangesSku s sku.id
  | _ => True

instance [SerdeJson] (s : AppState) (label : Label) : Decidable (StaysFresh s label) := by
  unfold StaysFresh
  split <;> infer_instance

variable {user : CurrentUser} {id : Uuid} {db : Db} {name : String}

theorem renamedCategory_eq_some {req : Categories.UpdateCategoryReq} :
    renamedCategory user id req db = some name ↔
      requireAdmin user = .ok () ∧ ∃ category, db.categories.find? id = some category ∧
        ∃ validated, Categories.ValidUpdateCategoryReq.tryFrom req = .ok validated ∧
          validated.name.mapM (varchar 255) = .ok (some name) ∧ name ≠ category.name := by
  simp only [renamedCategory, Option.bind_eq_bind, Option.bind_eq_some_iff,
    Except.toOption_eq_some]
  constructor
  · rintro ⟨_, hadmin, category, hfind, validated, hvalid, _, hname, n, rfl, h⟩
    split at h
    · cases h
    · rename_i hne
      cases h
      exact ⟨hadmin, category, hfind, validated, hvalid, hname, hne⟩
  · rintro ⟨hadmin, category, hfind, validated, hvalid, hname, hne⟩
    exact ⟨(), hadmin, category, hfind, validated, hvalid, _, hname, name, rfl, if_neg hne⟩

theorem renamedBrand_eq_some {req : Brands.UpdateBrandReq} :
    renamedBrand user id req db = some name ↔
      requireAdmin user = .ok () ∧ ∃ brand, db.brands.find? id = some brand ∧
        ∃ validated, Brands.ValidUpdateBrandReq.tryFrom req = .ok validated ∧
          validated.name.mapM (varchar 255) = .ok (some name) ∧ name ≠ brand.name ∧
            ∀ b ∈ db.brands.rows, b.id ≠ id → b.name ≠ name := by
  simp only [renamedBrand, Option.bind_eq_bind, Option.bind_eq_some_iff, Except.toOption_eq_some]
  constructor
  · rintro ⟨_, hadmin, brand, hfind, validated, hvalid, _, hname, n, rfl, h⟩
    split at h
    · cases h
    · rename_i hnew
      cases h
      simp only [Bool.or_eq_true, decide_eq_true_eq, List.any_eq_true, Bool.and_eq_true, not_or,
        not_exists, not_and] at hnew
      exact ⟨hadmin, brand, hfind, validated, hvalid, hname, hnew.1, hnew.2⟩
  · rintro ⟨hadmin, brand, hfind, validated, hvalid, hname, hne, hunique⟩
    refine ⟨(), hadmin, brand, hfind, validated, hvalid, _, hname, name, rfl, if_neg ?_⟩
    simp only [Bool.or_eq_true, decide_eq_true_eq, List.any_eq_true, Bool.and_eq_true, not_or,
      not_exists, not_and]
    exact ⟨hne, hunique⟩

/-- A name that is written and is not a new one is the old one. -/
theorem name_of_not_renamedCategory {req : Categories.UpdateCategoryReq}
    {validated : Categories.ValidUpdateCategoryReq} {column : Option String}
    {category : CategoryEntity} (hadmin : requireAdmin user = .ok ())
    (hfind : db.categories.find? id = some category)
    (hvalid : Categories.ValidUpdateCategoryReq.tryFrom req = .ok validated)
    (hname : validated.name.mapM (varchar 255) = .ok column)
    (hnot : (renamedCategory user id req db).isSome = false) :
    column.getD category.name = category.name := by
  cases column with
  | none => rfl
  | some name =>
    by_contra hne
    rw [renamedCategory_eq_some.mpr ⟨hadmin, category, hfind, validated, hvalid, hname, hne⟩] at hnot
    exact nomatch hnot

theorem name_of_not_renamedBrand {req : Brands.UpdateBrandReq}
    {validated : Brands.ValidUpdateBrandReq} {column : Option String} {brand : BrandEntity}
    (hadmin : requireAdmin user = .ok ()) (hfind : db.brands.find? id = some brand)
    (hvalid : Brands.ValidUpdateBrandReq.tryFrom req = .ok validated)
    (hname : validated.name.mapM (varchar 255) = .ok column)
    (hunique : ∀ b ∈ db.brands.rows, b.id ≠ id → b.name ≠ column.getD brand.name)
    (hnot : (renamedBrand user id req db).isSome = false) :
    column.getD brand.name = brand.name := by
  cases column with
  | none => rfl
  | some name =>
    by_contra hne
    rw [renamedBrand_eq_some.mpr
      ⟨hadmin, brand, hfind, validated, hvalid, hname, hne, hunique⟩] at hnot
    exact nomatch hnot

theorem isNone_of_mapM {column : Option String} {f : String → Except String String}
    (h : column.mapM f = .ok (some name)) : column.isNone = false := by
  cases column with
  | none => exact nomatch h
  | some _ => rfl

theorem shownProduct_shown (row : ProductRow) (key : CacheKey) :
    (shown db row key).shownProduct = Products.ProductRes.new db row := by
  cases key <;> rfl

theorem deletedImage_eq_some {productId imageId : Uuid} {image : ProductImageEntity} :
    deletedImage user productId imageId db = some image ↔
      ∃ product, findProductById productId db = some product ∧
        requireAccess user product.sellerId = .ok () ∧
          db.productImages.find? imageId = some image := by
  simp only [deletedImage, Option.bind_eq_bind, Option.bind_eq_some_iff, Except.toOption_eq_some]
  constructor
  · rintro ⟨product, hfound, _, haccess, himage⟩
    exact ⟨product, hfound, haccess, himage⟩
  · rintro ⟨product, hfound, haccess, himage⟩
    exact ⟨product, hfound, (), haccess, himage⟩

theorem mem_of_listed {sku : SkuEntity} (h : sku ∈ listSkusByProduct id db) : sku ∈ db.skus.rows :=
  (List.mem_filter.mp ((List.mem_insertionSort _).mp (List.mem_of_mem_take h))).1

/-- A SKU of which an inventory function changes nothing that is shown. -/
theorem shown_of_not_changesSku [SerdeJson] {call : InventoryCall} {s : AppState}
    {inventory : Catalog.CatalogDb} {sku : SkuEntity}
    (hcall : call.execute s = { s with pool := s.pool.setInventory inventory })
    (hsku : sku ∈ s.pool.skus.rows) (hnot : ¬ call.ChangesSku s sku.id) :
    SkuRes.new (sku.setInventory s.pool.now inventory) = SkuRes.new sku := by
  have hfind := (s.pool.skus.find?_eq_some_iff _ _).mpr ⟨hsku, rfl⟩
  unfold InventoryCall.ChangesSku at hnot
  rw [not_not, hcall] at hnot
  unfold Db.setInventory at hnot
  dsimp only at hnot
  rw [Table.find?_map, hfind] at hnot
  exact Option.some.inj hnot

theorem productId_of_listed {image : ProductImageEntity} (h : image ∈ listImagesByProduct id db) :
    image.productId = id := by
  have hmem := (List.mem_insertionSort _).mp (List.mem_of_mem_take h)
  simpa using (List.mem_filter.mp hmem).2

/-- An update of a SKU is seen in the detail of its product alone. -/
theorem showsSame_of_modifySku {key : CacheKey} {row : ProductRow} {skuId : Uuid} {sku : SkuEntity}
    {set : SkuEntity → SkuEntity} (hset : ∀ s, (set s).id = s.id)
    (hsku : db.skus.find? skuId = some sku) (hkeeps : ∀ s, (set s).productId = s.productId)
    (hdetail : key ≠ .productDetail sku.productId) :
    ShowsSame db { db with skus := db.skus.modify skuId set hset } key row := by
  refine { skus := fun hkey => ?_ }
  have hne : sku.productId ≠ row.id := by
    intro h
    exact hdetail (hkey.trans (by rw [h]))
  rw [listSkusByProduct_of_modify hset hsku hkeeps rfl hne]

/-! ## An operation leaves the entries fresh that it does not evict -/

theorem Effect.showsSame [SerdeJson] {s t : AppState} {op : CatalogOp} (h : Effect s op t)
    (ht : op.execute s = t) (href : References s.pool) (hcond : StaysFresh s (.call op))
    {key : CacheKey} {row : ProductRow} (hrow : findProduct s.pool key = some row)
    (hcached : t.cache.find? key = some (shown s.pool row key)) :
    findProduct t.pool key = findProduct s.pool key ∧ ShowsSame s.pool t.pool key row := by
  have hmem := (findProduct_eq_some hrow).1
  have hfind : ∀ db' : Db, db'.products = s.pool.products →
      findProduct db' key = findProduct s.pool key := fun _ => findProduct_congr
  cases h with
  | createCategory _ _ _ statement =>
    obtain ⟨_, _, hinsert, -, -, -, -, -, -, rfl⟩ :=
      Categories.Repository.insertCategory_ok statement
    refine ⟨hfind _ rfl, { category := fun id hid => ?_ }⟩
    dsimp only
    rw [Table.find?_of_insert_of_isSome hinsert (href.category row hmem id hid)]
  | @updateCategory user _ req _ _ _ admin valid statement affected =>
    obtain ⟨category, column, hset, hcategory, hname, rfl⟩ :=
      Categories.Repository.updateCategoryRow_ok statement affected
    refine ⟨hfind _ rfl, { category := fun id hid => ?_ }⟩
    refine Table.map_find?_modify _ _ _ _ hset fun c hc hid' => ?_
    subst hid'
    cases hc.symm.trans hcategory
    have hnot : (renamedCategory user id req s.pool).isSome = false := by
      by_contra hrenamed
      rw [Bool.not_eq_false] at hrenamed
      have hshown := hcond hrenamed _ (RedisCache.find?_eq_some.mp hcached)
      rw [shownProduct_shown] at hshown
      exact hshown hid
    exact Prod.ext (name_of_not_renamedCategory admin hcategory valid hname hnot) rfl
  | @deleteCategory _ deleted _ _ _ statement affected =>
    obtain ⟨-, hproducts, rfl⟩ := Categories.Repository.deleteCategoryRow_ok statement affected
    refine ⟨hfind _ rfl, { category := fun id hid => ?_ }⟩
    have hne : id ≠ deleted := by
      rintro rfl
      exact hproducts row hmem hid
    dsimp only
    rw [Table.find?_filter_ne _ hne]
  | createBrand _ statement =>
    obtain ⟨_, _, hinsert, rfl⟩ := Brands.Repository.insertBrand_ok statement
    refine ⟨hfind _ rfl, { brand := fun id hid => ?_ }⟩
    dsimp only
    rw [Table.find?_of_insert_of_isSome hinsert (href.brand row hmem id hid)]
  | @updateBrand user _ req _ _ _ admin valid statement affected =>
    obtain ⟨brand, column, hset, hbrand, hname, hunique, rfl⟩ :=
      Brands.Repository.updateBrandRow_ok statement affected
    refine ⟨hfind _ rfl, { brand := fun id hid => ?_ }⟩
    refine Table.map_find?_modify _ _ _ _ hset fun b hb hid' => ?_
    subst hid'
    cases hb.symm.trans hbrand
    have hnot : (renamedBrand user id req s.pool).isSome = false := by
      by_contra hrenamed
      rw [Bool.not_eq_false] at hrenamed
      have hshown := hcond hrenamed _ (RedisCache.find?_eq_some.mp hcached)
      rw [shownProduct_shown] at hshown
      exact hshown hid
    exact Prod.ext (name_of_not_renamedBrand admin hbrand valid hname hunique hnot) rfl
  | @deleteBrand _ deleted _ _ _ statement affected =>
    obtain ⟨hproducts, rfl⟩ := Brands.Repository.deleteBrandRow_ok statement affected
    refine ⟨hfind _ rfl, { brand := fun id hid => ?_ }⟩
    have hne : id ≠ deleted := by
      rintro rfl
      exact hproducts row hmem hid
    dsimp only
    rw [Table.find?_filter_ne _ hne]
  | associateCategory statement =>
    rcases Brands.Repository.insertBrandCategory_ok statement with rfl | ⟨_, -, rfl⟩
    · exact ⟨rfl, {}⟩
    · exact ⟨hfind _ rfl, {}⟩
  | disassociateCategory _ statement affected =>
    rw [Brands.Repository.deleteBrandCategory_ok statement affected]
    exact ⟨hfind _ rfl, {}⟩
  | createProduct _ statement =>
    obtain ⟨_, _, hinsert, -, -, -, rfl⟩ := Products.Repository.insertProduct_ok statement
    exact ⟨findProduct_of_insert hinsert hrow, {}⟩
  | updateProduct found _ _ statement affected =>
    obtain ⟨_, _, _, _, _, hset, hfound, hchecked, rfl⟩ :=
      Products.Repository.updateProductColumns_ok statement affected
    cases found.symm.trans hfound
    obtain ⟨hslug, hcached⟩ := RedisCache.find?_evict.mp hcached
    obtain ⟨hdetail, -⟩ := RedisCache.find?_evict.mp hcached
    have hproduct := (Products.Repository.findProductById_eq_some.mp found).1
    exact ⟨findProduct_of_modify hset hproduct hchecked rfl hdetail hslug hrow, {}⟩
  | deleteProduct found statement affected =>
    obtain ⟨_, hset, hfound, hchecked, rfl⟩ :=
      Products.Repository.updateProductRow_ok statement affected
    cases found.symm.trans hfound
    obtain ⟨hslug, hcached⟩ := RedisCache.find?_evict.mp hcached
    obtain ⟨hdetail, -⟩ := RedisCache.find?_evict.mp hcached
    have hproduct := (Products.Repository.findProductById_eq_some.mp found).1
    exact ⟨findProduct_of_modify hset hproduct hchecked rfl hdetail hslug hrow, {}⟩
  | createSku statement =>
    obtain ⟨sku, _, hinsert, rfl, rfl⟩ := Products.Repository.insertSku_ok statement
    obtain ⟨hdetail, -⟩ := RedisCache.find?_evict.mp hcached
    refine ⟨hfind _ rfl, { skus := fun hkey => ?_ }⟩
    have hne : sku.productId ≠ row.id := by
      intro h
      exact hdetail (hkey.trans (by rw [h]))
    rw [listSkusByProduct_of_insert hinsert hne]
  | updateSku found statement affected =>
    obtain ⟨_, hset, rfl⟩ := Products.Repository.updateSkuColumns_ok statement affected
    obtain ⟨hdetail, -⟩ := RedisCache.find?_evict.mp hcached
    exact ⟨hfind _ rfl, showsSame_of_modifySku hset found (fun _ => rfl) hdetail⟩
  | deleteSku found statement affected =>
    obtain ⟨hset, rfl⟩ := Products.Repository.updateSkuRow_ok statement affected
    obtain ⟨hdetail, -⟩ := RedisCache.find?_evict.mp hcached
    exact ⟨hfind _ rfl, showsSame_of_modifySku hset found (fun _ => rfl) hdetail⟩
  | adjustStock found statement affected =>
    obtain ⟨hset, rfl⟩ := Products.Repository.updateSkuRow_ok statement affected
    obtain ⟨hdetail, -⟩ := RedisCache.find?_evict.mp hcached
    exact ⟨hfind _ rfl, showsSame_of_modifySku hset found (fun _ => rfl) hdetail⟩
  | @addImage _ productId _ validated _ _ statement =>
    obtain ⟨hdetail, -⟩ := RedisCache.find?_evict.mp hcached
    have hne : key = .productDetail row.id → productId ≠ row.id := by
      rintro hkey rfl
      exact hdetail hkey
    cases hprimary : validated.isPrimary with
    | false =>
      rw [hprimary] at statement
      obtain ⟨_, _, hinsert, rfl, rfl⟩ := Products.Repository.insertImage_ok statement
      refine ⟨hfind _ rfl, { images := fun hkey => ?_ }⟩
      exact listImagesByProduct_of_insert hinsert (hne hkey)
    | true =>
      rw [hprimary] at statement
      obtain ⟨_, _, hinsert, rfl, rfl⟩ := Products.Repository.insertImage_ok statement
      refine ⟨hfind _ rfl, { images := fun hkey => ?_ }⟩
      exact (listImagesByProduct_of_insert hinsert (hne hkey)).trans
        (listImagesByProduct_unsetPrimary (hne hkey) s.pool)
  | @deleteImage user productId imageId product _ _ found access statement affected =>
    obtain ⟨image, himage, rfl⟩ := Products.Repository.deleteImageRow_ok statement affected
    obtain ⟨hdetail, hentry⟩ := RedisCache.find?_evict.mp hcached
    refine ⟨hfind _ rfl, { images := fun hkey => ?_ }⟩
    obtain rfl := ((s.pool.productImages.find?_eq_some_iff _ _).mp himage).2
    refine (listImagesByProduct_of_delete_iff rfl himage).mpr fun hlisted => ?_
    -- whoever lists the image has its own entry
    have himageProduct := productId_of_listed hlisted
    have hne : image.productId ≠ productId := by
      rintro rfl
      exact hdetail (hkey.trans (by rw [himageProduct]))
    have hdeleted := deletedImage_eq_some.mpr ⟨product, found, access, himage⟩
    subst hkey
    exact hcond image hdeleted hne _ (RedisCache.find?_eq_some.mp hentry) _ rfl hlisted
  | getProductBySlug => exact ⟨rfl, {}⟩
  | getProductDetail => exact ⟨rfl, {}⟩
  | evict => exact ⟨rfl, {}⟩
  | evictProduct => exact ⟨rfl, {}⟩
  | @inventory call inventory =>
    refine ⟨hfind _ rfl, { skus := fun hkey => ?_ }⟩
    subst hkey
    rw [listSkusByProduct_setInventory, List.map_map]
    refine List.map_congr_left fun sku hsku => ?_
    have hkept := hcond _ (RedisCache.find?_eq_some.mp hcached) _ rfl (SkuRes.new sku)
      (List.mem_map_of_mem hsku)
    exact shown_of_not_changesSku ht (mem_of_listed hsku) hkept

/-- What an entry shows that is fresh before and after an operation. -/
theorem shown_of_fresh {s t : AppState} {e : CacheEntry} (hs : Fresh s) (ht : Fresh t)
    (hproducts : t.pool.products = s.pool.products) (he : s.cache.find? e.key = some e.value)
    (he' : t.cache.find? e.key = some e.value) :
    ∃ row, findProduct s.pool e.key = some row ∧ shown s.pool row e.key = e.value ∧
      shown t.pool row e.key = shown s.pool row e.key := by
  obtain ⟨row, hrow, hshown⟩ := current_eq_ok.mp (hs e.key e.value he)
  obtain ⟨row', hrow', hshown'⟩ := current_eq_ok.mp (ht e.key e.value he')
  cases (findProduct_congr hproducts).symm.trans hrow' |>.symm.trans hrow
  exact ⟨row, hrow, hshown, hshown'.trans hshown.symm⟩

/-- A detail that lists an image is stored under the id of the image's product. -/
theorem key_of_listed {e : CacheEntry} {row : ProductRow} {detail : ProductDetailRes}
    (hrow : findProduct db e.key = some row) (hvalue : shown db row e.key = e.value)
    (hdetail : detail ∈ e.value.detail?) : e.key = .productDetail row.id ∧
      detail.skus = (listSkusByProduct row.id db).map SkuRes.new ∧
        detail.images = listImagesByProduct row.id db := by
  obtain ⟨-, -, hkey⟩ := findProduct_eq_some hrow
  rw [← hvalue] at hdetail
  rcases hkey with hkey | hkey
  · rw [hkey] at hdetail
    cases hdetail
    exact ⟨hkey, rfl, rfl⟩
  · rw [hkey] at hdetail
    exact nomatch hdetail

section Step

variable [SerdeJson] {s t : AppState} {op : CatalogOp}

/-- An operation that meets the condition leaves every entry fresh. -/
theorem Effect.fresh (h : Effect s op t) (ht : op.execute s = t) (href : References s.pool)
    (hfresh : Fresh s) (hcond : StaysFresh s (.call op)) : Fresh t := by
  intro key v hfind
  rcases h.cache hfind with hcached | ⟨hpool, hcurrent⟩
  · have hcurrent := hfresh key v hcached
    obtain ⟨row, hrow, rfl⟩ := current_eq_ok.mp hcurrent
    obtain ⟨hfound, hsame⟩ := h.showsSame ht href hcond hrow hfind
    exact current_eq_ok.mpr ⟨row, hfound.trans hrow, hsame.shown hrow⟩
  · rw [hpool]
    exact hcurrent

/-! ## An operation that does not meet the condition -/

theorem execute_updateCategory {req : Categories.UpdateCategoryReq}
    (h : renamedCategory user id req s.pool = some name) :
    ∃ (set : CategoryEntity → CategoryEntity) (hset : ∀ c, (set c).id = c.id),
      (∀ c, (set c).name = name) ∧ (CatalogOp.updateCategory user id req).execute s =
        { s with pool :=
          { s.pool with categories := s.pool.categories.modify id set hset } } := by
  obtain ⟨hadmin, category, hfind, validated, hvalid, hname, -⟩ := renamedCategory_eq_some.mp h
  have hget : Categories.Repository.getCategoryById id s.pool = .ok category := by
    unfold Categories.Repository.getCategoryById
    rw [hfind]
  have hset : ∀ c, (Categories.Repository.setCategory validated (some name) s.pool.now c).id =
    c.id := fun _ => rfl
  have hstatement : Categories.Repository.updateCategoryRow id validated s.pool =
      .ok (1, { s.pool with categories := s.pool.categories.modify id _ hset }) := by
    unfold Categories.Repository.updateCategoryRow
    rw [hfind, hname]
    rfl
  have hempty : (validated.name.isNone && validated.description.isNone) = false := by
    rw [isNone_of_mapM hname, Bool.false_and]
  refine ⟨_, hset, fun _ => rfl, ?_⟩
  exact (final_check_of_ok hadmin).trans <| (final_onPool_of_ok hget).trans <|
    (final_check_of_ok hvalid).trans <| final_inTransaction_end_of_ok <|
      withTransaction_of_unless hempty hstatement one_ne_zero

theorem execute_updateBrand {req : Brands.UpdateBrandReq}
    (h : renamedBrand user id req s.pool = some name) :
    ∃ (set : BrandEntity → BrandEntity) (hset : ∀ b, (set b).id = b.id),
      (∀ b, (set b).name = name) ∧ (CatalogOp.updateBrand user id req).execute s =
        { s with pool := { s.pool with brands := s.pool.brands.modify id set hset } } := by
  obtain ⟨hadmin, brand, hfind, validated, hvalid, hname, -, hunique⟩ := renamedBrand_eq_some.mp h
  have hget : Brands.Repository.getBrandById id s.pool = .ok brand := by
    unfold Brands.Repository.getBrandById
    rw [hfind]
  have hset : ∀ b, (Brands.Repository.setBrand validated (some name) s.pool.now b).id = b.id :=
    fun _ => rfl
  have hfree : ¬ s.pool.brands.rows.any (fun b => b.id ≠ id && b.name = name) = true := by
    intro htaken
    obtain ⟨b, hb, hboth⟩ := List.any_eq_true.mp htaken
    simp only [ne_eq, Bool.and_eq_true, decide_eq_true_eq] at hboth
    exact hunique b hb hboth.1 hboth.2
  have hstatement : Brands.Repository.updateBrandRow id validated s.pool =
      .ok (1, { s.pool with brands := s.pool.brands.modify id _ hset }) := by
    unfold Brands.Repository.updateBrandRow
    rw [hfind, hname]
    exact if_neg hfree
  have hempty : (validated.name.isNone && validated.description.isNone &&
      validated.logoUrl.isNone) = false := by
    rw [isNone_of_mapM hname, Bool.false_and, Bool.false_and]
  refine ⟨_, hset, fun _ => rfl, ?_⟩
  exact (final_check_of_ok hadmin).trans <| (final_onPool_of_ok hget).trans <|
    (final_check_of_ok hvalid).trans <| final_inTransaction_end_of_ok <|
      withTransaction_of_unless hempty hstatement one_ne_zero

theorem execute_deleteImage {productId imageId : Uuid} {image : ProductImageEntity}
    (h : deletedImage user productId imageId s.pool = some image) :
    (CatalogOp.deleteImage user productId imageId).execute s =
      { pool := { s.pool with productImages := s.pool.productImages.filter (·.id ≠ imageId) }
        cache := s.cache.evict (.productDetail productId) } := by
  obtain ⟨product, hfound, haccess, himage⟩ := deletedImage_eq_some.mp h
  have hget : Products.Repository.getProductById productId s.pool = .ok product := by
    unfold Products.Repository.getProductById
    rw [hfound]
    rfl
  have hstatement : Products.Repository.deleteImageRow imageId s.pool = (1, { s.pool with
      productImages := s.pool.productImages.filter (·.id ≠ imageId) }) := by
    unfold Products.Repository.deleteImageRow
    rw [himage]
  exact (final_onPool_of_ok hget).trans <| (final_check_of_ok haccess).trans <|
    final_inTransaction_of_ok <|
      withTransaction_of_affected (congrArg Except.ok hstatement) one_ne_zero

/-- An entry that shows a category keeps its old name. -/
theorem categoryId_of_fresh {req : Categories.UpdateCategoryReq} {e : CacheEntry}
    (hs : Fresh s) (ht : Fresh ((CatalogOp.updateCategory user id req).execute s))
    (hrenamed : renamedCategory user id req s.pool = some name) (he : e ∈ s.cache.entries) :
    e.value.shownProduct.categoryId ≠ some id := by
  obtain ⟨hadmin, category, hfind, -, -, -, hne⟩ := renamedCategory_eq_some.mp hrenamed
  obtain ⟨set, hset, hname, hexecute⟩ := execute_updateCategory hrenamed
  rw [hexecute] at ht
  have hcached := RedisCache.find?_eq_some.mpr he
  obtain ⟨row, hrow, hvalue, hsame⟩ := shown_of_fresh (e := e) hs ht rfl hcached hcached
  have hres := congrArg CacheValue.shownProduct hsame
  rw [shownProduct_shown, shownProduct_shown] at hres
  rw [← hvalue, shownProduct_shown]
  intro hid
  have hnames : (row.categoryId.bind (s.pool.categories.modify id set hset).find?).map (·.name) =
      (row.categoryId.bind s.pool.categories.find?).map (·.name) :=
    congrArg ProductRes.categoryName hres
  have hid' : row.categoryId = some id := hid
  rw [hid', Option.bind_some, Option.bind_some, Table.find?_modify, if_pos rfl, hfind] at hnames
  exact hne ((hname category).symm.trans (Option.some.inj hnames))

/-- An entry that shows a brand keeps its old name. -/
theorem brandId_of_fresh {req : Brands.UpdateBrandReq} {e : CacheEntry}
    (hs : Fresh s) (ht : Fresh ((CatalogOp.updateBrand user id req).execute s))
    (hrenamed : renamedBrand user id req s.pool = some name) (he : e ∈ s.cache.entries) :
    e.value.shownProduct.brandId ≠ some id := by
  obtain ⟨hadmin, brand, hfind, -, -, -, hne, -⟩ := renamedBrand_eq_some.mp hrenamed
  obtain ⟨set, hset, hname, hexecute⟩ := execute_updateBrand hrenamed
  rw [hexecute] at ht
  have hcached := RedisCache.find?_eq_some.mpr he
  obtain ⟨row, hrow, hvalue, hsame⟩ := shown_of_fresh (e := e) hs ht rfl hcached hcached
  have hres := congrArg CacheValue.shownProduct hsame
  rw [shownProduct_shown, shownProduct_shown] at hres
  rw [← hvalue, shownProduct_shown]
  intro hid
  have hnames : (row.brandId.bind (s.pool.brands.modify id set hset).find?).map (·.name) =
      (row.brandId.bind s.pool.brands.find?).map (·.name) :=
    congrArg ProductRes.brandName hres
  have hid' : row.brandId = some id := hid
  rw [hid', Option.bind_some, Option.bind_some, Table.find?_modify, if_pos rfl, hfind] at hnames
  exact hne ((hname brand).symm.trans (Option.some.inj hnames))

/-- The detail of another product than the one whose entry is evicted does not list the image. -/
theorem notMem_images_of_fresh {productId imageId : Uuid} {image : ProductImageEntity}
    {e : CacheEntry} {detail : ProductDetailRes} (hs : Fresh s)
    (ht : Fresh ((CatalogOp.deleteImage user productId imageId).execute s))
    (hdeleted : deletedImage user productId imageId s.pool = some image)
    (hne : image.productId ≠ productId) (he : e ∈ s.cache.entries)
    (hdetail : detail ∈ e.value.detail?) : image ∉ detail.images := by
  obtain ⟨-, -, -, himage⟩ := deletedImage_eq_some.mp hdeleted
  obtain rfl := ((s.pool.productImages.find?_eq_some_iff _ _).mp himage).2
  have hcached := RedisCache.find?_eq_some.mpr he
  obtain ⟨row, hrow, hvalue⟩ := current_eq_ok.mp (hs e.key e.value hcached)
  obtain ⟨hkey, -, himages⟩ := key_of_listed hrow hvalue hdetail
  rw [himages]
  intro hlisted
  -- so the entry has not been evicted
  have hother : e.key ≠ .productDetail productId := by
    rw [hkey, ← productId_of_listed hlisted]
    exact fun h => hne (CacheKey.productDetail.inj h)
  rw [execute_deleteImage hdeleted] at ht
  obtain ⟨row', hrow', -, hsame⟩ := shown_of_fresh (e := e) hs ht rfl hcached
    (RedisCache.find?_evict.mpr ⟨hother, hcached⟩)
  cases hrow.symm.trans hrow'
  rw [hkey] at hsame
  have hlist := congrArg ProductDetailRes.images (CacheValue.detail.inj hsame)
  exact (listImagesByProduct_of_delete_iff rfl himage).mp hlist hlisted

/-- A SKU that a detail lists is not changed by an inventory function. -/
theorem not_changesSku_of_fresh {call : InventoryCall} {e : CacheEntry} {detail : ProductDetailRes}
    {sku : SkuRes} (hs : Fresh s) (ht : Fresh ((CatalogOp.inventory call).execute s))
    (he : e ∈ s.cache.entries) (hdetail : detail ∈ e.value.detail?) (hsku : sku ∈ detail.skus) :
    ¬ call.ChangesSku s sku.id := by
  have hcached := RedisCache.find?_eq_some.mpr he
  obtain ⟨row, hrow, hvalue⟩ := current_eq_ok.mp (hs e.key e.value hcached)
  obtain ⟨hkey, hskus, -⟩ := key_of_listed hrow hvalue hdetail
  rw [hskus] at hsku
  obtain ⟨sku, hlisted, rfl⟩ := List.mem_map.mp hsku
  have hsame : ∀ t : AppState, call.execute s = t → t.pool = s.pool →
      ¬ call.ChangesSku s sku.id := by
    intro t hcall hpool hchanges
    rw [InventoryCall.ChangesSku, hcall, hpool] at hchanges
    exact hchanges rfl
  rcases execute_effect (.inventory call) s with hstate | heffect
  · exact hsame s hstate rfl
  · generalize hcall : (CatalogOp.inventory call).execute s = t at heffect ht
    cases heffect with
    | inventory inventory =>
      obtain ⟨row', hrow', -, hshown⟩ := shown_of_fresh (e := e) hs ht rfl hcached hcached
      cases hrow.symm.trans hrow'
      rw [hkey] at hshown
      have hlist := congrArg ProductDetailRes.skus (CacheValue.detail.inj hshown)
      dsimp only at hlist
      rw [listSkusByProduct_setInventory, List.map_map, List.map_inj_left] at hlist
      have hfind := (s.pool.skus.find?_eq_some_iff _ _).mpr ⟨mem_of_listed hlisted, rfl⟩
      have hcall' : call.execute s = { s with pool := s.pool.setInventory inventory } := hcall
      unfold InventoryCall.ChangesSku
      rw [hcall', not_not]
      unfold Db.setInventory
      dsimp only
      have hid : (SkuRes.new sku).id = sku.id := rfl
      rw [hid, Table.find?_map, hfind]
      exact congrArg some (hlist sku hlisted)
    | evict => exact hsame _ hcall rfl
    | evictProduct => exact hsame _ hcall rfl

/-- An operation that leaves every entry fresh meets the condition. -/
theorem staysFresh_of_fresh (hs : Fresh s) (ht : Fresh (op.execute s)) :
    StaysFresh s (.call op) := by
  unfold StaysFresh
  split
  · rename_i heq
    cases heq
    intro hrenamed e he
    obtain ⟨name, hname⟩ := Option.isSome_iff_exists.mp hrenamed
    exact categoryId_of_fresh hs ht hname he
  · rename_i heq
    cases heq
    intro hrenamed e he
    obtain ⟨name, hname⟩ := Option.isSome_iff_exists.mp hrenamed
    exact brandId_of_fresh hs ht hname he
  · rename_i heq
    cases heq
    intro image himage hne e he detail hdetail
    exact notMem_images_of_fresh hs ht himage hne he hdetail
  · rename_i heq
    cases heq
    intro e he detail hdetail sku hsku
    exact not_changesSku_of_fresh hs ht he hdetail hsku
  · trivial

end Step

/-! ## Runs -/

/-- What holds of the tables and of the cache in every state. -/
structure CacheInv (s : AppState) : Prop where
  references : References s.pool
  wellTyped : s.cache.WellTyped

theorem find?_empty (key : CacheKey) (v : CacheValue) :
    ¬ ({} : AppState).cache.find? key = some v := by
  rw [RedisCache.find?_eq_some]
  exact List.not_mem_nil

theorem cacheInv_empty : CacheInv {} where
  references := ⟨fun _ hp => absurd hp List.not_mem_nil, fun _ hp => absurd hp List.not_mem_nil⟩
  wellTyped := ⟨fun _ v hfind => absurd hfind (find?_empty _ v),
    fun _ v hfind => absurd hfind (find?_empty _ v)⟩

theorem RedisCache.WellTyped.mono {cache cache' : RedisCache} (h : cache.WellTyped)
    (hcache : ∀ key v, cache'.find? key = some v → cache.find? key = some v) : cache'.WellTyped :=
  ⟨fun id v hfind => h.detail id v (hcache _ v hfind),
    fun slug v hfind => h.product slug v (hcache _ v hfind)⟩

theorem Effect.wellTyped {s t : AppState} {op : CatalogOp} (h : Effect s op t)
    (htyped : s.cache.WellTyped) : t.cache.WellTyped where
  detail id v hfind := by
    rcases h.cache hfind with hold | ⟨-, hcurrent⟩
    · exact htyped.detail id v hold
    · exact (wellTyped_of_current hcurrent).1 id rfl
  product slug v hfind := by
    rcases h.cache hfind with hold | ⟨-, hcurrent⟩
    · exact htyped.product slug v hold
    · exact (wellTyped_of_current hcurrent).2 slug rfl

section Run

variable [SerdeJson] {s t : AppState} {label : Label}

theorem CacheInv.step (h : CacheInv s) (hstep : step s label = some t) : CacheInv t := by
  cases label with
  | call op =>
    cases hstep
    rcases execute_effect op s with hsame | heffect
    · rw [hsame]
      exact h
    · exact ⟨h.references.step heffect.references, heffect.wellTyped h.wellTyped⟩
  | expire key =>
    cases hstep
    exact ⟨h.references, h.wellTyped.mono fun _ _ hfind => (RedisCache.find?_evict.mp hfind).2⟩
  | wait duration =>
    cases hstep
    exact ⟨⟨h.references.category, h.references.brand⟩, h.wellTyped⟩

/-- A step leaves every entry fresh exactly when it meets the condition. -/
theorem fresh_step_iff (h : CacheInv s) (hfresh : Fresh s) (hstep : step s label = some t) :
    Fresh t ↔ StaysFresh s label := by
  cases label with
  | call op =>
    cases hstep
    refine ⟨staysFresh_of_fresh hfresh, fun hcond => ?_⟩
    rcases execute_effect op s with hsame | heffect
    · rw [hsame]
      exact hfresh
    · exact heffect.fresh rfl h.references hfresh hcond
  | expire key =>
    cases hstep
    refine ⟨fun _ => trivial, fun _ => ?_⟩
    exact hfresh.evict fun _ _ hfind => (RedisCache.find?_evict.mp hfind).2
  | wait duration =>
    cases hstep
    -- the queries do not read the clock
    refine ⟨fun _ => trivial, fun _ key v hfind => ?_⟩
    rw [← hfresh key v hfind]
    exact current_congr (findProduct_congr rfl) fun row _ => {}

theorem coherent_step_iff (h : CacheInv s) (hcoherent : Coherent s)
    (hstep : step s label = some t) : CacheInv t ∧ (Coherent t ↔ StaysFresh s label) := by
  have ht := h.step hstep
  refine ⟨ht, ?_⟩
  rw [coherent_iff_fresh ht.wellTyped]
  exact fresh_step_iff h ((coherent_iff_fresh h.wellTyped).mp hcoherent) hstep

/-- In a run of the catalog service the reads of products are coherent all the way exactly when no
    step changes from elsewhere what an entry of the cache shows. -/
theorem coherent_iff {ls : List Label} (h : Run.run step {} ls = some t) :
    (∀ u, Run.Visits step {} ls u → Coherent u) ↔ Run.Meets step StaysFresh {} ls := by
  have hempty : Coherent {} := by
    rw [coherent_iff_fresh cacheInv_empty.wellTyped]
    exact fun key v hfind => absurd hfind (find?_empty key v)
  exact Run.run_forall_iff (fun _ _ _ => coherent_step_iff) cacheInv_empty hempty h

end Run

/-! ### Runs -/

/-- A product with a SKU, and its detail in the cache. -/
def bookCached : List Label :=
  [.call (.createProduct sampleSeller
      { name := "Acme Book", slug := none, description := none, basePrice := 999, currency := none,
        categoryId := none, brandId := none }),
    .call (.createSku sampleSeller ⟨1, 0⟩
      { skuCode := "BOOK-1", price := 999, stockQuantity := 10, attributes := none }),
    .call (.getProductDetail ⟨1, 0⟩)]

/-- Three of the SKU are reserved and confirmed for an order. -/
def threeSold : List Label :=
  [.call (.inventory (.reserveForOrder ⟨9, 0⟩ ⟨9, 1⟩ (.decimal 2997) "USD" [(⟨1, 1⟩, 3)])),
    .call (.inventory (.confirmForOrder ⟨9, 0⟩ [(⟨1, 1⟩, 3)]))]

/-- The detail in the cache shows a stock of ten, and the table has seven. -/
theorem not_coherent_threeSold :
    ∃ t, Run.run step {} (bookCached ++ threeSold) = some t ∧ ¬ Coherent t := by
  have heval : (Run.run step {} (bookCached ++ threeSold)).map (fun t =>
      decide (((Products.getProductDetail ⟨1, 0⟩).result t).toOption.map
          (fun detail => detail.skus.map (·.stockQuantity)) = some [10] ∧
        (getProductDetail ⟨1, 0⟩ t.pool).toOption.map
          (fun detail => detail.skus.map (·.stockQuantity)) = some [7])) = some true := by
    decide +kernel
  obtain ⟨t, ht, hcached, hstored⟩ := Run.run_decide heval
  refine ⟨t, ht, fun hcoherent => ?_⟩
  rw [hcoherent.1] at hcached
  exact absurd (hcached.symm.trans hstored) (by decide)

/-- When the entry has expired before, the sale is seen. -/
theorem coherent_iff_expired :
    ∃ t, Run.run step {} (bookCached ++ .expire (.productDetail ⟨1, 0⟩) :: threeSold) = some t ∧
      ∀ u, Run.Visits step {} (bookCached ++ .expire (.productDetail ⟨1, 0⟩) :: threeSold) u →
        Coherent u := by
  have heval : (Run.run step {} (bookCached ++ .expire (.productDetail ⟨1, 0⟩) :: threeSold)).map
      (fun t => decide (t.pool.products.rows.length = 1)) = some true := by
    decide +kernel
  obtain ⟨t, ht, -⟩ := Run.run_decide heval
  exact ⟨t, ht, (coherent_iff ht).mpr (by decide +kernel)⟩

end Koupang.Store
