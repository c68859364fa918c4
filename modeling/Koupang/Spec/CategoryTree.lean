import Mathlib.Data.Set.Card
import Koupang.ForStd.PathTree
import Koupang.Spec.CatalogService
import Koupang.Spec.CatalogStatements
import Koupang.Spec.Slugs

/-!
# The category tree

A category says twice where it stands: by its parent and by its path. The two
agree in every state that the catalog service reaches, so that the queries on
paths answer questions about parents.

## Key results

- `category_tree`: parents, paths and depths agree; ancestors and subtrees are what they say
-/

namespace Koupang.Store

open Categories (labels isAncestor)

/-! ## Paths and their labels -/

theorem labels_label (label : LtreeLabel) : labels label.value = [label.value.toList] :=
  List.splitOn_eq_singleton (dot_notMem_label label)

theorem toList_child (path label : String) :
    s!"{path}.{label}".toList = path.toList ++ '.' :: label.toList := by
  simp [toString, String.toList_append]

theorem labels_child (path : String) (label : LtreeLabel) :
    labels s!"{path}.{label.value}" = labels path ++ [label.value.toList] := by
  rw [← labels_label label]
  unfold labels
  rw [toList_child]
  exact List.splitOn_append_cons_self ..

theorem count_child (path : String) (label : LtreeLabel) :
    s!"{path}.{label.value}".toList.count '.' = path.toList.count '.' + 1 := by
  have hlabel := List.count_eq_zero_of_not_mem (dot_notMem_label label)
  rw [toList_child, List.count_append, List.count_cons_self, hlabel]

/-- A path has one label more than it has dots. -/
theorem length_labels (path : String) : (labels path).length = path.toList.count '.' + 1 := by
  unfold labels
  induction path.toList with
  | nil => rfl
  | cons c cs ih =>
    rw [List.splitOn_cons_eq_if_modifyHead, List.count_cons]
    split
    · rw [List.length_cons, ih]
    · rw [List.length_modifyHead, ih]

/-- A path is determined by its labels. -/
theorem labels_injective {path path' : String} (h : labels path = labels path') :
    path = path' := by
  have hlist : path.toList = path'.toList := by
    have hjoin := congrArg ['.'].intercalate h
    unfold labels at hjoin
    rwa [List.intercalate_splitOn, List.intercalate_splitOn] at hjoin
  exact String.toList_inj.mp hlist

theorem isAncestor_iff (path path' : String) :
    isAncestor path path' = true ↔ labels path <+: labels path' :=
  List.isPrefixOf_iff_prefix

/-! ## The invariant -/

/-- The place of every category, as its parent, its path and its depth say it. -/
structure CategoryTree (categories : Table CategoryEntity.id) : Prop where
  root : ∀ c ∈ categories.rows, c.parentId = none →
    c.depth = 0 ∧ '.' ∉ c.path.toList ∧ ∃ label : LtreeLabel, c.path = label.value
  child : ∀ c ∈ categories.rows, ∀ parentId, c.parentId = some parentId →
    ∃ parent, categories.find? parentId = some parent ∧ c.depth = parent.depth + 1 ∧
      ∃ label : LtreeLabel, c.path = s!"{parent.path}.{label.value}"
  dots : ∀ c ∈ categories.rows, c.depth = c.path.toList.count '.'
  depth_le : ∀ c ∈ categories.rows, c.depth ≤ 10
  /-- `path ltree NOT NULL UNIQUE` -/
  unique : ∀ c ∈ categories.rows, ∀ d ∈ categories.rows, c.path = d.path → c = d

/-- What an operation does to the categories. -/
inductive CategoriesStep (db : Db) : Table CategoryEntity.id → Prop
  | same : CategoriesStep db db.categories
  | created {validated : Categories.ValidCreateCategoryReq} {row : CategoryEntity}
      {categories : Table CategoryEntity.id}
      (hplace : Categories.place validated db = .ok (row.path, row.depth))
      (hparent : row.parentId = validated.parentId)
      (hunique : ∀ c ∈ db.categories.rows, c.path ≠ row.path)
      (hinsert : db.categories.insert row = some categories) : CategoriesStep db categories
  | updated {id : Uuid} {set : CategoryEntity → CategoryEntity} (hset : ∀ c, (set c).id = c.id)
      (hkeeps : ∀ c, (set c).parentId = c.parentId ∧ (set c).path = c.path ∧
        (set c).depth = c.depth) :
      CategoriesStep db (db.categories.modify id set hset)
  | deleted {id : Uuid} (hchildren : ∀ c ∈ db.categories.rows, c.id ≠ id → c.parentId ≠ some id) :
      CategoriesStep db (db.categories.filter (·.id ≠ id))

theorem Effect.categories {s t : AppState} {op : CatalogOp} (h : Effect s op t) :
    CategoriesStep s.pool t.pool.categories := by
  cases h with
  | createCategory _ _ hplace statement =>
    obtain ⟨row, categories, hinsert, -, rfl, hparent, rfl, hunique, -, rfl⟩ :=
      Categories.Repository.insertCategory_ok statement
    exact .created hplace hparent hunique hinsert
  | updateCategory _ _ statement affected =>
    obtain ⟨_, _, hset, -, -, rfl⟩ := Categories.Repository.updateCategoryRow_ok statement affected
    exact .updated hset fun c => ⟨rfl, rfl, rfl⟩
  | deleteCategory _ statement affected =>
    obtain ⟨hchildren, -, rfl⟩ := Categories.Repository.deleteCategoryRow_ok statement affected
    exact .deleted hchildren
  | createBrand _ statement =>
    obtain ⟨_, _, -, rfl⟩ := Brands.Repository.insertBrand_ok statement
    exact .same
  | updateBrand _ _ statement affected =>
    obtain ⟨_, _, _, -, -, -, rfl⟩ := Brands.Repository.updateBrandRow_ok statement affected
    exact .same
  | deleteBrand _ statement affected =>
    obtain ⟨-, rfl⟩ := Brands.Repository.deleteBrandRow_ok statement affected
    exact .same
  | associateCategory statement =>
    rcases Brands.Repository.insertBrandCategory_ok statement with rfl | ⟨_, -, rfl⟩
    · exact .same
    · exact .same
  | disassociateCategory _ statement affected =>
    rw [Brands.Repository.deleteBrandCategory_ok statement affected]
    exact .same
  | createProduct _ statement =>
    obtain ⟨_, _, -, -, -, -, rfl⟩ := Products.Repository.insertProduct_ok statement
    exact .same
  | updateProduct _ _ _ statement affected =>
    obtain ⟨_, _, _, _, _, _, -, -, rfl⟩ :=
      Products.Repository.updateProductColumns_ok statement affected
    exact .same
  | deleteProduct _ statement affected =>
    obtain ⟨_, _, -, -, rfl⟩ := Products.Repository.updateProductRow_ok statement affected
    exact .same
  | createSku statement =>
    obtain ⟨_, _, -, -, rfl⟩ := Products.Repository.insertSku_ok statement
    exact .same
  | updateSku _ statement affected =>
    obtain ⟨_, _, rfl⟩ := Products.Repository.updateSkuColumns_ok statement affected
    exact .same
  | deleteSku _ statement affected =>
    obtain ⟨_, rfl⟩ := Products.Repository.updateSkuRow_ok statement affected
    exact .same
  | adjustStock _ statement affected =>
    obtain ⟨_, rfl⟩ := Products.Repository.updateSkuRow_ok statement affected
    exact .same
  | addImage statement =>
    obtain ⟨_, _, -, -, rfl⟩ := Products.Repository.insertImage_ok statement
    dsimp only
    split
    · exact .same
    · exact .same
  | deleteImage _ _ statement affected =>
    obtain ⟨_, -, rfl⟩ := Products.Repository.deleteImageRow_ok statement affected
    exact .same
  | getProductBySlug _ => exact .same
  | getProductDetail _ => exact .same
  | evict => exact .same
  | evictProduct => exact .same
  | inventory _ => exact .same

/-- Where `create_category` puts a category. -/
theorem place_ok {validated : Categories.ValidCreateCategoryReq} {db : Db} {path : String}
    {depth : Int} (h : Categories.place validated db = .ok (path, depth)) :
    (validated.parentId = none ∧ path = validated.label.value ∧ depth = 0) ∨
    ∃ parentId parent, validated.parentId = some parentId ∧
      db.categories.find? parentId = some parent ∧ parent.depth + 1 ≤ 10 ∧
      path = s!"{parent.path}.{validated.label.value}" ∧ depth = parent.depth + 1 := by
  unfold Categories.place at h
  split at h
  · rename_i parentId hparentId
    obtain ⟨parent, hparent, h⟩ := Except.bind_eq_ok.mp h
    dsimp only at h
    rw [Except.guard_eq_ok] at h
    obtain ⟨hdepth, h⟩ := h
    cases h
    refine .inr ⟨parentId, parent, hparentId, ?_, not_lt.mp hdepth, rfl, rfl⟩
    unfold Categories.Repository.getCategoryById at hparent
    split at hparent
    · rename_i category hfind
      cases hparent
      exact hfind
    · cases hparent
  · rename_i hparentId
    cases h
    exact .inl ⟨hparentId, rfl, rfl⟩

/-- The place of a category that `create_category` inserts. -/
theorem CategoryTree.created {db : Db} (h : CategoryTree db.categories)
    {validated : Categories.ValidCreateCategoryReq} {row : CategoryEntity}
    {categories : Table CategoryEntity.id}
    (hplace : Categories.place validated db = .ok (row.path, row.depth))
    (hparent : row.parentId = validated.parentId)
    (hunique : ∀ c ∈ db.categories.rows, c.path ≠ row.path)
    (hinsert : db.categories.insert row = some categories) : CategoryTree categories := by
  obtain ⟨hfresh, hrows⟩ := (db.categories.insert_eq_some categories row).mp hinsert
  have hmem : ∀ c, c ∈ categories.rows ↔ c ∈ db.categories.rows ∨ c = row := by
    intro c
    rw [hrows, List.mem_append, List.mem_singleton]
  -- a category that was there is still found
  have hfind : ∀ id c, db.categories.find? id = some c → categories.find? id = some c := by
    intro id c hc
    rw [Table.find?_of_insert hinsert, if_neg, hc]
    rintro rfl
    exact nomatch hfresh.symm.trans hc
  refine ⟨fun c hc hroot => ?_, fun c hc parentId hparentId => ?_, fun c hc => ?_, fun c hc => ?_,
    fun c hc d hd hpath => ?_⟩
  · rcases (hmem c).mp hc with hc | rfl
    · exact h.root c hc hroot
    · rcases place_ok hplace with ⟨-, hpath, hdepth⟩ | ⟨parentId, _, hparentId, -⟩
      · exact ⟨hdepth, hpath ▸ dot_notMem_label _, validated.label, hpath⟩
      · rw [hparent, hparentId] at hroot
        exact nomatch hroot
  · rcases (hmem c).mp hc with hc | rfl
    · obtain ⟨parent, hparent, hdepth, hlabel⟩ := h.child c hc parentId hparentId
      exact ⟨parent, hfind _ _ hparent, hdepth, hlabel⟩
    · rw [hparent] at hparentId
      rcases place_ok hplace with ⟨hnone, -⟩ | ⟨_, parent, hsome, hparent, -, hpath, hdepth⟩
      · exact nomatch hnone.symm.trans hparentId
      · cases hsome.symm.trans hparentId
        exact ⟨parent, hfind _ _ hparent, hdepth, validated.label, hpath⟩
  · rcases (hmem c).mp hc with hc | rfl
    · exact h.dots c hc
    · rcases place_ok hplace with ⟨-, hpath, hdepth⟩ | ⟨_, parent, -, hparent, -, hpath, hdepth⟩
      · rw [hdepth, hpath, List.count_eq_zero_of_not_mem (dot_notMem_label _)]
        rfl
      · have hdots := h.dots parent ((db.categories.find?_eq_some_iff _ _).mp hparent).1
        rw [hdepth, hpath, count_child, hdots]
        rfl
  · rcases (hmem c).mp hc with hc | rfl
    · exact h.depth_le c hc
    · rcases place_ok hplace with ⟨-, -, hdepth⟩ | ⟨_, parent, -, -, hle, -, hdepth⟩
      · omega
      · omega
  · rcases (hmem c).mp hc with hc | rfl
    · rcases (hmem d).mp hd with hd | rfl
      · exact h.unique c hc d hd hpath
      · exact absurd hpath (hunique c hc)
    · rcases (hmem d).mp hd with hd | rfl
      · exact absurd hpath.symm (hunique d hd)
      · rfl

theorem CategoryTree.updated {categories : Table CategoryEntity.id} (h : CategoryTree categories)
    {id : Uuid} {set : CategoryEntity → CategoryEntity} (hset : ∀ c, (set c).id = c.id)
    (hkeeps : ∀ c, (set c).parentId = c.parentId ∧ (set c).path = c.path ∧
      (set c).depth = c.depth) : CategoryTree (categories.modify id set hset) := by
  -- every category stands where one with its id stood before
  have hold : ∀ c ∈ (categories.modify id set hset).rows, ∃ a ∈ categories.rows,
      a.id = c.id ∧ c.parentId = a.parentId ∧ c.path = a.path ∧ c.depth = a.depth := by
    intro c hc
    rcases (Table.mem_modify ..).mp hc with ⟨hc, -⟩ | ⟨a, ha, -, rfl⟩
    · exact ⟨c, hc, rfl, rfl, rfl, rfl⟩
    · exact ⟨a, ha, (hset a).symm, hkeeps a⟩
  refine ⟨fun c hc hroot => ?_, fun c hc parentId hparentId => ?_, fun c hc => ?_, fun c hc => ?_,
    fun c hc d hd hpath => ?_⟩
  · obtain ⟨a, ha, -, hparent, hpath, hdepth⟩ := hold c hc
    rw [hpath, hdepth]
    exact h.root a ha (hparent ▸ hroot)
  · obtain ⟨a, ha, -, hparent, hpath, hdepth⟩ := hold c hc
    obtain ⟨parent, hfind, hplace⟩ := h.child a ha parentId (hparent ▸ hparentId)
    rw [hpath, hdepth, Table.find?_modify]
    by_cases hid : parentId = id
    · subst hid
      obtain ⟨-, hpath', hdepth'⟩ := hkeeps parent
      refine ⟨set parent, by rw [if_pos rfl, hfind]; rfl, ?_⟩
      rw [hpath', hdepth']
      exact hplace
    · exact ⟨parent, by rw [if_neg hid, hfind], hplace⟩
  · obtain ⟨a, ha, -, -, hpath, hdepth⟩ := hold c hc
    rw [hpath, hdepth]
    exact h.dots a ha
  · obtain ⟨a, ha, -, -, -, hdepth⟩ := hold c hc
    rw [hdepth]
    exact h.depth_le a ha
  · obtain ⟨a, ha, hida, -, hpatha, -⟩ := hold c hc
    obtain ⟨b, hb, hidb, -, hpathb, -⟩ := hold d hd
    obtain rfl := h.unique a ha b hb (hpatha.symm.trans (hpath.trans hpathb))
    exact Table.eq_of_key_eq _ hc hd (hida.symm.trans hidb)

theorem CategoryTree.deleted {categories : Table CategoryEntity.id} (h : CategoryTree categories)
    {id : Uuid} (hchildren : ∀ c ∈ categories.rows, c.id ≠ id → c.parentId ≠ some id) :
    CategoryTree (categories.filter (·.id ≠ id)) := by
  have hmem : ∀ c, c ∈ (categories.filter (·.id ≠ id)).rows ↔ c ∈ categories.rows ∧ c.id ≠ id := by
    simp [Table.mem_filter]
  refine ⟨fun c hc => h.root c ((hmem c).mp hc).1, fun c hc parentId hparentId => ?_,
    fun c hc => h.dots c ((hmem c).mp hc).1, fun c hc => h.depth_le c ((hmem c).mp hc).1,
    fun c hc d hd => h.unique c ((hmem c).mp hc).1 d ((hmem d).mp hd).1⟩
  obtain ⟨hold, hid⟩ := (hmem c).mp hc
  obtain ⟨parent, hparent, hplace⟩ := h.child c hold parentId hparentId
  refine ⟨parent, ?_, hplace⟩
  -- the deleted category is not the parent
  have hne : parent.id ≠ id := by
    rintro rfl
    have hkey := ((categories.find?_eq_some_iff _ _).mp hparent).2
    exact hchildren c hold hid (hparentId.trans (congrArg some hkey.symm))
  rw [Table.find?_filter, hparent]
  simp [hne]

/-! ## Runs -/

theorem categoryTree_empty : CategoryTree .empty := ⟨nofun, nofun, nofun, nofun, nofun⟩

theorem CategoryTree.step {db : Db} {categories : Table CategoryEntity.id}
    (h : CategoryTree db.categories) (hstep : CategoriesStep db categories) :
    CategoryTree categories := by
  cases hstep with
  | same => exact h
  | created hplace hparent hunique hinsert => exact h.created hplace hparent hunique hinsert
  | updated hset hkeeps => exact h.updated hset hkeeps
  | deleted hchildren => exact h.deleted hchildren

section Run

variable [SerdeJson]

/-- One step keeps the tree. -/
theorem categoryTree_step {s t : AppState} {label : Label} (h : CategoryTree s.pool.categories)
    (hstep : step s label = some t) : CategoryTree t.pool.categories := by
  cases label with
  | call op =>
    cases hstep
    rcases execute_effect op s with hsame | heffect
    · rw [hsame]
      exact h
    · exact h.step heffect.categories
  | expire key =>
    cases hstep
    exact h
  | wait duration =>
    cases hstep
    exact h

theorem categoryTree_run {ls : List Label} {t : AppState} (h : Run.run step {} ls = some t) :
    CategoryTree t.pool.categories :=
  Run.run_invariant (fun _ _ _ => categoryTree_step) categoryTree_empty h

end Run

/-! ## Queries on paths -/

/-- The chain of parents of a category, from its root down to itself. -/
abbrev ParentChain (db : Db) : CategoryEntity → List CategoryEntity → Prop :=
  PathTree.Chain CategoryEntity.parentId CategoryEntity.id db.categories.rows

/-- A category itself, or a child of one that is. -/
abbrev IsDescendant (db : Db) : CategoryEntity → CategoryEntity → Prop :=
  PathTree.Descends CategoryEntity.parentId CategoryEntity.id db.categories.rows

namespace CategoryTree

variable {categories : Table CategoryEntity.id} (h : CategoryTree categories)
include h

/-- Parents and labels of paths are two views of one tree. -/
theorem isTree : PathTree.IsTree CategoryEntity.parentId CategoryEntity.id
    (fun c => labels c.path) categories.rows where
  keys _ ha _ hb := Table.eq_of_key_eq _ ha hb
  root c hc hparent := by
    obtain ⟨-, -, label, hpath⟩ := h.root c hc hparent
    exact ⟨label.value.toList, by rw [hpath, labels_label]⟩
  child c hc parentId hparentId := by
    obtain ⟨parent, hparent, -, label, hpath⟩ := h.child c hc parentId hparentId
    obtain ⟨hmem, hkey⟩ := (categories.find?_eq_some_iff _ _).mp hparent
    exact ⟨parent, hmem, hkey, label.value.toList, by rw [hpath, labels_child]⟩
  unique c hc d hd hpath := h.unique c hc d hd (labels_injective hpath)

/-- `ORDER BY depth` is an order by the number of labels. -/
theorem depth_le_iff {c d : CategoryEntity} (hc : c ∈ categories.rows) (hd : d ∈ categories.rows) :
    c.depth ≤ d.depth ↔ (labels c.path).length ≤ (labels d.path).length := by
  rw [length_labels, length_labels, h.dots c hc, h.dots d hd]
  omega

end CategoryTree

section Queries

variable {db : Db} {c : CategoryEntity} (h : CategoryTree db.categories)
  (hc : c ∈ db.categories.rows)
include h hc

/-- The ancestors of a category are its chain of parents, root first. -/
theorem getAncestors_eq {chain : List CategoryEntity} (hchain : ParentChain db c chain) :
    Categories.Repository.getAncestors c.path db = chain := by
  have hsorted : (db.categories.rows.filter fun b => isAncestor b.path c.path).insertionSort
      (fun b d => b.depth ≤ d.depth) = chain :=
    h.isTree.chain_eq_insertionSort (db.categories.nodup.of_map _)
      (fun _ hb _ hd => h.depth_le_iff hb hd) (fun b _ => isAncestor_iff b.path c.path) hchain
  unfold Categories.Repository.getAncestors
  rw [hsorted]
  -- the chain is shorter than the limit
  refine List.take_of_length_le ?_
  have hdepth := h.depth_le c hc
  rw [h.isTree.length_chain hchain, length_labels]
  rw [h.dots c hc] at hdepth
  omega

/-- The subtree of a category has its descendants, if these are not too many. -/
theorem getSubtree_spec (hfew : {d | IsDescendant db c d}.encard ≤ 200) :
    (Categories.Repository.getSubtree c.path db).Nodup ∧
      ∀ d, d ∈ Categories.Repository.getSubtree c.path db ↔ IsDescendant db c d := by
  have hnodup : (db.categories.rows.filter fun d => isAncestor c.path d.path).Nodup :=
    (db.categories.nodup.of_map _).filter _
  have hmem : ∀ d, d ∈ (db.categories.rows.filter fun d => isAncestor c.path d.path) ↔
      IsDescendant db c d := by
    intro d
    rw [List.mem_filter, isAncestor_iff]
    constructor
    · rintro ⟨hd, hpre⟩
      exact (h.isTree.prefix_iff_descends hc hd).mp hpre
    · intro hdesc
      have hd : d ∈ db.categories.rows := hdesc.mem hc
      exact ⟨hd, (h.isTree.prefix_iff_descends hc hd).mpr hdesc⟩
  have hlength : (db.categories.rows.filter fun d => isAncestor c.path d.path).length ≤ 200 := by
    have hset : {d | IsDescendant db c d} =
        ((db.categories.rows.filter fun d => isAncestor c.path d.path).toFinset :
          Set CategoryEntity) := by
      ext d
      rw [List.coe_toFinset]
      exact (hmem d).symm
    rw [hset, Set.encard_coe_eq_coe_finsetCard, List.toFinset_card_of_nodup hnodup] at hfew
    exact_mod_cast hfew
  have hall : Categories.Repository.getSubtree c.path db =
      (db.categories.rows.filter fun d => isAncestor c.path d.path).insertionSort
        fun d e => labels d.path ≤ labels e.path :=
    List.take_of_length_le (by rwa [List.length_insertionSort])
  rw [hall]
  refine ⟨(List.perm_insertionSort _ _).nodup_iff.mpr hnodup, fun d => ?_⟩
  rw [List.mem_insertionSort, hmem]

end Queries

/-! ## The claim -/

section Run

variable [SerdeJson]

/-- In every state that the catalog service reaches, parents, paths and depths of the categories
    agree; so the ancestors of a category are its chain of parents, and its subtree has its
    descendants. -/
theorem category_tree {ls : List Label} {t : AppState} (h : Run.run step {} ls = some t) :
    CategoryTree t.pool.categories ∧
    ∀ id c, t.pool.categories.find? id = some c →
      (∃ chain, ParentChain t.pool c chain ∧ (Categories.getAncestors id).result t = .ok chain) ∧
      ({d | IsDescendant t.pool c d}.encard ≤ 200 →
        ∃ subtree, (Categories.getSubtree id).result t = .ok subtree ∧ subtree.Nodup ∧
          ∀ d, d ∈ subtree ↔ IsDescendant t.pool c d) := by
  have htree := categoryTree_run h
  refine ⟨htree, fun id c hfind => ?_⟩
  have hc : c ∈ t.pool.categories.rows := ((t.pool.categories.find?_eq_some_iff _ _).mp hfind).1
  have hget : Categories.Repository.getCategoryById id t.pool = .ok c := by
    unfold Categories.Repository.getCategoryById
    rw [hfind]
  constructor
  · obtain ⟨chain, hchain⟩ := htree.isTree.exists_chain hc
    refine ⟨chain, hchain, ?_⟩
    rw [← getAncestors_eq htree hc hchain]
    exact (result_onPool_bind hget).trans (result_onPool _ _)
  · intro hfew
    refine ⟨_, ?_, getSubtree_spec htree hc hfew⟩
    exact (result_onPool_bind hget).trans (result_onPool _ _)

end Run

/-! ### A run -/

def createCategoryCall (name : String) (parentId : Option Uuid) : Label :=
  .call (.createCategory sampleAdmin { name, slug := none, parentId, description := none })

/-- "Electronics", "Smart Phones" in it, "Foldable!" in that; and the root is renamed. -/
def phoneCategories : List Label :=
  [createCategoryCall "Electronics" none, createCategoryCall "Smart Phones" (some ⟨1, 0⟩),
    createCategoryCall "Foldable!" (some ⟨1, 1⟩),
    .call (.updateCategory sampleAdmin ⟨1, 0⟩ { name := some "Devices", description := none })]

theorem category_tree_phones : ∃ t, Run.run step {} phoneCategories = some t ∧
    t.pool.categories.rows.map (·.path) =
      ["electronics", "electronics.smart_phones", "electronics.smart_phones.foldable"] ∧
    CategoryTree t.pool.categories := by
  have heval : (Run.run step {} phoneCategories).map (fun t =>
      decide (t.pool.categories.rows.map (·.path) =
        ["electronics", "electronics.smart_phones", "electronics.smart_phones.foldable"])) =
      some true := by
    decide +kernel
  obtain ⟨t, ht, hpaths⟩ := Run.run_decide heval
  exact ⟨t, ht, hpaths, (category_tree ht).1⟩

end Koupang.Store
