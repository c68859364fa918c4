import Koupang.ForStd.List
import Koupang.Spec.CatalogService
import Koupang.Spec.CatalogStatements

/-!
# What a read of a product depends on

The uncached queries under the keys of the cache, and for each table the writes
that they do not see. A query joins five tables: the product's row, the names of
its category and of its brand, and for a detail its SKUs and its images.

## Key results

- `current_congr`: a query sees nothing but these rows
-/

namespace Koupang.Store

open Products (ProductRes.new)
open Products.Repository

/-! ## The queries -/

/-- The product that is read under a key. -/
def findProduct (db : Db) : CacheKey → Option ProductRow
  | .productDetail id => findProductById id db
  | .productSlug slug => findProductBySlug slug db

/-- What is shown of a product. -/
def shown (db : Db) (row : ProductRow) : CacheKey → CacheValue
  | .productDetail _ => .detail
    { product := ProductRes.new db row
      skus := (listSkusByProduct row.id db).map SkuRes.new
      images := listImagesByProduct row.id db }
  | .productSlug _ => .product (ProductRes.new db row)

/-- The uncached query under a key. -/
def current (db : Db) (key : CacheKey) : Except AppError CacheValue :=
  (productFound (findProduct db key)).map (shown db · key)

theorem current_productDetail (id : Uuid) (db : Db) :
    current db (.productDetail id) = (getProductDetail id db).map .detail := by
  change (productFound (findProductById id db)).map _ = _
  unfold getProductDetail getProductById
  cases productFound (findProductById id db) <;> rfl

theorem current_productSlug (slug : String) (db : Db) :
    current db (.productSlug slug) =
      ((getProductBySlug slug db).map (ProductRes.new db)).map .product := by
  change (productFound (findProductBySlug slug db)).map _ = _
  unfold getProductBySlug
  cases productFound (findProductBySlug slug db) <;> rfl

variable {db db' : Db} {key : CacheKey} {row : ProductRow}

theorem current_of_find (h : findProduct db key = some row) :
    current db key = .ok (shown db row key) := by
  unfold current
  rw [h]
  rfl

theorem current_eq_ok {v : CacheValue} :
    current db key = .ok v ↔ ∃ row, findProduct db key = some row ∧ shown db row key = v := by
  unfold current
  rw [Except.map_eq_ok]
  refine exists_congr fun row => and_congr_left fun _ => ⟨productFound_ok, fun h => ?_⟩
  rw [h]
  rfl

/-- A product is read under its id or under its slug. -/
theorem findProduct_eq_some (h : findProduct db key = some row) :
    row ∈ db.products.rows ∧ row.deletedAt = none ∧
      (key = .productDetail row.id ∨ key = .productSlug row.slug) := by
  cases key with
  | productDetail id =>
    obtain ⟨hfind, hlive⟩ := findProductById_eq_some.mp h
    obtain ⟨hmem, hid⟩ := (db.products.find?_eq_some_iff _ _).mp hfind
    exact ⟨hmem, hlive, .inl (by rw [hid])⟩
  | productSlug slug =>
    have hfound := List.find?_some h
    simp only [Bool.and_eq_true, decide_eq_true_eq, Option.isNone_iff_eq_none] at hfound
    exact ⟨List.mem_of_find?_eq_some h, hfound.2, .inr (by rw [hfound.1])⟩

theorem findProduct_congr (h : db'.products = db.products) :
    findProduct db' key = findProduct db key := by
  cases key with
  | productDetail id =>
    unfold findProduct findProductById
    rw [h]
  | productSlug slug =>
    unfold findProduct findProductBySlug
    rw [h]

/-! ## The rows that a query sees -/

/-- The columns of a category that a product shows. -/
def CategoryEntity.names (category : CategoryEntity) : String × String :=
  (category.name, category.slug)

/-- The columns of a brand that a product shows. -/
def BrandEntity.names (brand : BrandEntity) : String × String := (brand.name, brand.slug)

/-- What `key` shows of the product `row` is the same in `db'` as in `db`, table by table. -/
structure ShowsSame (db db' : Db) (key : CacheKey) (row : ProductRow) : Prop where
  category : ∀ id, row.categoryId = some id → (db'.categories.find? id).map CategoryEntity.names =
    (db.categories.find? id).map CategoryEntity.names := by intros; rfl
  brand : ∀ id, row.brandId = some id → (db'.brands.find? id).map BrandEntity.names =
    (db.brands.find? id).map BrandEntity.names := by intros; rfl
  skus : key = .productDetail row.id → (listSkusByProduct row.id db').map SkuRes.new =
    (listSkusByProduct row.id db).map SkuRes.new := by intros; rfl
  images : key = .productDetail row.id → listImagesByProduct row.id db' =
    listImagesByProduct row.id db := by intros; rfl

theorem productRes_congr
    (hcategory : ∀ id, row.categoryId = some id →
      (db'.categories.find? id).map CategoryEntity.names =
        (db.categories.find? id).map CategoryEntity.names)
    (hbrand : ∀ id, row.brandId = some id → (db'.brands.find? id).map BrandEntity.names =
      (db.brands.find? id).map BrandEntity.names) :
    ProductRes.new db' row = ProductRes.new db row := by
  have hcategory' : (row.categoryId.bind db'.categories.find?).map CategoryEntity.names =
      (row.categoryId.bind db.categories.find?).map CategoryEntity.names := by
    cases h : row.categoryId with
    | none => rfl
    | some id => exact hcategory id h
  have hbrand' : (row.brandId.bind db'.brands.find?).map BrandEntity.names =
      (row.brandId.bind db.brands.find?).map BrandEntity.names := by
    cases h : row.brandId with
    | none => rfl
    | some id => exact hbrand id h
  have hnames := congrArg (Option.map Prod.fst) hcategory'
  have hslugs := congrArg (Option.map Prod.snd) hcategory'
  have hbrandNames := congrArg (Option.map Prod.fst) hbrand'
  have hbrandSlugs := congrArg (Option.map Prod.snd) hbrand'
  simp only [Option.map_map] at hnames hslugs hbrandNames hbrandSlugs
  unfold ProductRes.new
  dsimp only
  congr 1

theorem ShowsSame.shown (h : ShowsSame db db' key row) (hrow : findProduct db key = some row) :
    shown db' row key = shown db row key := by
  have hres := productRes_congr h.category h.brand
  cases key with
  | productDetail id =>
    have hid : id = row.id :=
      ((db.products.find?_eq_some_iff _ _).mp (findProductById_eq_some.mp hrow).1).2.symm
    have hkey : CacheKey.productDetail id = .productDetail row.id := by rw [hid]
    unfold Store.shown
    rw [hres, h.skus hkey, h.images hkey]
  | productSlug slug =>
    unfold Store.shown
    rw [hres]

/-- A query sees nothing but these rows. -/
theorem current_congr (hfind : findProduct db' key = findProduct db key)
    (h : ∀ row, findProduct db key = some row → ShowsSame db db' key row) :
    current db' key = current db key := by
  unfold current
  rw [hfind]
  cases hrow : findProduct db key with
  | none => rfl
  | some row =>
    change Except.ok (shown db' row key) = Except.ok (shown db row key)
    rw [(h row hrow).shown hrow]

/-! ## Writes that a query does not see -/

/-! ### Products -/

/-- A new product is not found in the place of another one. -/
theorem findProduct_of_insert {new : ProductRow}
    (hinsert : db.products.insert new = some db'.products) (hrow : findProduct db key = some row) :
    findProduct db' key = findProduct db key := by
  obtain ⟨hfresh, hrows⟩ := (db.products.insert_eq_some _ new).mp hinsert
  rw [hrow]
  cases key with
  | productDetail id =>
    obtain ⟨hfind, hlive⟩ := findProductById_eq_some.mp hrow
    refine findProductById_eq_some.mpr ⟨?_, hlive⟩
    rw [Table.find?_of_insert hinsert, if_neg, hfind]
    rintro rfl
    exact nomatch hfresh.symm.trans hfind
  | productSlug slug =>
    have hfind : db.products.rows.find? (fun p => p.slug = slug && p.deletedAt.isNone) = some row :=
      hrow
    change db'.products.rows.find? _ = _
    rw [hrows, List.find?_append, hfind]
    rfl

/-- An update of a product is not seen under other keys than its own. -/
theorem findProduct_of_modify {id : Uuid} {product : ProductRow} {set : ProductRow → ProductRow}
    (hset : ∀ p, (set p).id = p.id) (hproduct : db.products.find? id = some product)
    (hchecked : ProductChecked db (set product))
    (hproducts : db'.products = db.products.modify id set hset)
    (hdetail : key ≠ .productDetail id) (hslug : key ≠ .productSlug product.slug)
    (hrow : findProduct db key = some row) : findProduct db' key = findProduct db key := by
  obtain ⟨hproduct', rfl⟩ := (db.products.find?_eq_some_iff _ _).mp hproduct
  cases key with
  | productDetail id' =>
    have hid : id' ≠ product.id := fun h => hdetail (h ▸ rfl)
    unfold findProduct findProductById
    dsimp only
    rw [hproducts, Table.find?_modify, if_neg hid]
  | productSlug slug =>
    have hne : product.slug ≠ slug := fun h => hslug (h ▸ rfl)
    obtain ⟨hmem, -, hkey⟩ := findProduct_eq_some hrow
    -- another product has this slug, so the new one is a different one
    have hrowSlug : row.slug = slug := by
      rcases hkey with hkey | hkey
      · exact nomatch hkey
      · exact (CacheKey.productSlug.inj hkey).symm
    have hnew : (set product).slug ≠ slug := by
      intro h
      refine hchecked.slug row hmem ?_ (hrowSlug.trans h.symm)
      rw [hset]
      intro hid
      obtain rfl := db.products.eq_of_key_eq hmem hproduct' hid
      exact hne hrowSlug
    have hfilter := db.products.filter_rows_modify product.id set hset
      (p := fun p => p.slug = slug && p.deletedAt.isNone) fun p hp hid => by
        obtain rfl := db.products.eq_of_key_eq hp hproduct' hid
        simp [hne, hnew]
    unfold findProduct findProductBySlug
    dsimp only
    rw [hproducts, ← List.head?_filter, hfilter, List.head?_filter]

/-! ### SKUs -/

theorem listSkusByProduct_congr {id : Uuid}
    (h : db'.skus.rows.filter (fun s => s.productId = id && s.deletedAt.isNone) =
      db.skus.rows.filter fun s => s.productId = id && s.deletedAt.isNone) :
    listSkusByProduct id db' = listSkusByProduct id db := by
  unfold listSkusByProduct
  rw [h]

theorem listSkusByProduct_of_insert {id : Uuid} {new : SkuEntity}
    (hinsert : db.skus.insert new = some db'.skus) (hne : new.productId ≠ id) :
    listSkusByProduct id db' = listSkusByProduct id db := by
  obtain ⟨-, hrows⟩ := (db.skus.insert_eq_some _ new).mp hinsert
  refine listSkusByProduct_congr ?_
  rw [hrows, List.filter_append]
  simp [hne]

theorem listSkusByProduct_of_modify {id skuId : Uuid} {sku : SkuEntity}
    {set : SkuEntity → SkuEntity} (hset : ∀ s, (set s).id = s.id)
    (hsku : db.skus.find? skuId = some sku) (hkeeps : ∀ s, (set s).productId = s.productId)
    (hskus : db'.skus = db.skus.modify skuId set hset) (hne : sku.productId ≠ id) :
    listSkusByProduct id db' = listSkusByProduct id db := by
  obtain ⟨hmem, rfl⟩ := (db.skus.find?_eq_some_iff _ _).mp hsku
  refine listSkusByProduct_congr ?_
  rw [hskus]
  refine db.skus.filter_rows_modify sku.id set hset fun s hs hid => ?_
  obtain rfl := db.skus.eq_of_key_eq hs hmem hid
  simp [hkeeps, hne]

/-- The inventory functions neither move a SKU nor delete one. -/
theorem setInventory_keeps (now : Nat) (inventory : Catalog.CatalogDb) (sku : SkuEntity) :
    (sku.setInventory now inventory).productId = sku.productId ∧
      (sku.setInventory now inventory).deletedAt = sku.deletedAt ∧
      (sku.setInventory now inventory).createdAt = sku.createdAt := by
  unfold SkuEntity.setInventory
  split
  · exact ⟨rfl, rfl, rfl⟩
  · split <;> exact ⟨rfl, rfl, rfl⟩

theorem listSkusByProduct_setInventory (id : Uuid) (db : Db) (inventory : Catalog.CatalogDb) :
    listSkusByProduct id (db.setInventory inventory) =
      (listSkusByProduct id db).map (SkuEntity.setInventory db.now inventory) := by
  have hfilter : (db.skus.rows.map (SkuEntity.setInventory db.now inventory)).filter
      (fun s => s.productId = id && s.deletedAt.isNone) =
        (db.skus.rows.filter fun s => s.productId = id && s.deletedAt.isNone).map
          (SkuEntity.setInventory db.now inventory) := by
    rw [List.filter_map]
    congr 2
    funext s
    obtain ⟨hproduct, hdeleted, -⟩ := setInventory_keeps db.now inventory s
    simp [hproduct, hdeleted]
  unfold listSkusByProduct
  rw [List.map_take]
  congr 1
  change (List.filter _ (db.skus.rows.map (SkuEntity.setInventory db.now inventory))).insertionSort
    _ = _
  rw [hfilter]
  refine (List.map_insertionSort _ _ _ _ fun s _ t _ => ?_).symm
  rw [(setInventory_keeps db.now inventory s).2.2, (setInventory_keeps db.now inventory t).2.2]

/-! ### Images -/

theorem listImagesByProduct_of_insert {id : Uuid} {new : ProductImageEntity}
    (hinsert : db.productImages.insert new = some db'.productImages) (hne : new.productId ≠ id) :
    listImagesByProduct id db' = listImagesByProduct id db := by
  obtain ⟨-, hrows⟩ := (db.productImages.insert_eq_some _ new).mp hinsert
  unfold listImagesByProduct
  rw [hrows, List.filter_append]
  simp [hne]

theorem listImagesByProduct_unsetPrimary {id productId : Uuid} (hne : productId ≠ id) (db : Db) :
    listImagesByProduct id (unsetPrimary productId db) = listImagesByProduct id db := by
  have hfilter : ((unsetPrimary productId db).productImages.rows.filter (·.productId = id)) =
      db.productImages.rows.filter (·.productId = id) := by
    unfold unsetPrimary Table.map
    dsimp only
    induction db.productImages.rows with
    | nil => rfl
    | cons i is ih =>
      rw [List.map_cons, List.filter_cons, List.filter_cons, ih]
      by_cases hi : i.productId = productId
      · simp [hi, hne]
      · rw [if_neg hi]
  unfold listImagesByProduct
  rw [hfilter]

/-- Whoever lists an image sees that it is deleted, and nobody else. -/
theorem listImagesByProduct_of_delete_iff {id : Uuid} {image : ProductImageEntity}
    (himages : db'.productImages = db.productImages.filter (·.id ≠ image.id))
    (himage : db.productImages.find? image.id = some image) :
    listImagesByProduct id db' = listImagesByProduct id db ↔
      image ∉ listImagesByProduct id db := by
  have hlist : listImagesByProduct id db' = (((db.productImages.rows.filter
      (·.productId = id)).insertionSort fun i j => i.sortOrder ≤ j.sortOrder).filter
        (·.id ≠ image.id)).take 50 := by
    unfold listImagesByProduct
    rw [himages, List.filter_insertionSort, List.filter_comm]
    rfl
  constructor
  · intro h hmem
    rw [← h, hlist] at hmem
    simpa using (List.mem_filter.mp (List.mem_of_mem_take hmem)).2
  · intro hnot
    rw [hlist]
    refine List.take_filter_of_forall fun i hi => ?_
    -- another image with this id would be this one
    have hid : i.id ≠ image.id := by
      intro hid
      have hrows := (List.mem_filter.mp ((List.mem_insertionSort _).mp (List.mem_of_mem_take hi))).1
      have himage' := ((db.productImages.find?_eq_some_iff _ _).mp himage).1
      obtain rfl := db.productImages.eq_of_key_eq hrows himage' hid
      exact hnot hi
    simpa using hid

/-! ### Categories and brands -/

end Koupang.Store
