import Koupang.ForStd.Keyset
import Koupang.ForStd.Table
import Koupang.Model.Lists

/-!
# Keyset pagination

One row more than the page holds is fetched and taken away again: the response is
the page of the sorted rows that the filter selects. So the pages that follow each
other show every row once, unless a client asks for pages of no rows.

## Key results

- `listPage_forward`, `listPage_backward`: the response, in both directions
- `pages_complete`: following the cursors
- `lastPage_final_iff`: the page without a next cursor
-/

namespace Koupang.Pagination

/-- The row passes the filter. -/
def matching {ρ : Type} (schema : Sql.Schema Uuid ρ) (qb : Sql.Builder Uuid ρ)
    (tests : List (Sql.Test ρ)) (row : ρ) : Bool :=
  tests.all (·.holds schema qb.binds row)

variable {α : Type} [HasId α]

/-- The repository has written a filter, on rows with an `id` column. -/
structure Lists (schema : Sql.Schema Uuid α) (table : Option String) (qb : Sql.Builder Uuid α)
    (tests : List (Sql.Test α)) : Prop where
  filters : Sql.Filters schema qb tests
  idTy : schema.ty (idColumn table) = some .key
  idValue : ∀ row, schema.value row (idColumn table) = .key (HasId.id row)

/-- The rows that are listed, in order. -/
def listed (schema : Sql.Schema Uuid α) (qb : Sql.Builder Uuid α) (tests : List (Sql.Test α))
    (rows : List α) : List α :=
  Keyset.sorted HasId.id (rows.filter (matching schema qb tests))

/-! ## What is fetched -/

section Fetching

variable {schema : Sql.Schema Uuid α} {table : Option String} {qb : Sql.Builder Uuid α}
  {tests : List (Sql.Test α)}

theorem before_ascending (h : ∀ row, schema.value row (idColumn table) = .key (HasId.id row))
    (a b : α) : schema.before (idColumn table) false a b = true ↔ HasId.id a ≤ HasId.id b := by
  simp [Sql.Schema.before, h, Sql.Value.lt]

theorem before_descending (h : ∀ row, schema.value row (idColumn table) = .key (HasId.id row))
    (a b : α) : schema.before (idColumn table) true a b = true ↔ HasId.id b ≤ HasId.id a := by
  simp [Sql.Schema.before, h, Sql.Value.lt]

/-- The rows of a page, from the first to the last. -/
theorem fetch_ascending (h : Lists schema table qb tests) (n : Nat) (rows : List α) :
    (Sql.Filters.paged qb (idColumn table) false n).fetch schema rows =
      some (((listed schema qb tests rows).map ([·])).take n) := by
  have hsome : (schema.ty (idColumn table)).isSome := by
    rw [h.idTy]
    rfl
  rw [h.filters.fetch_page hsome, listed, Keyset.sorted,
    List.insertionSort_congr (before_ascending h.idValue)]
  rfl

theorem fetch_descending (h : Lists schema table qb tests) (n : Nat) {rows : List α}
    (hnodup : (rows.map HasId.id).Nodup) :
    (Sql.Filters.paged qb (idColumn table) true n).fetch schema rows =
      some (((listed schema qb tests rows).reverse.map ([·])).take n) := by
  have hsome : (schema.ty (idColumn table)).isSome := by
    rw [h.idTy]
    rfl
  have hkept : ((rows.filter (matching schema qb tests)).map HasId.id).Nodup :=
    hnodup.sublist (List.filter_sublist.map _)
  rw [h.filters.fetch_page hsome, List.insertionSort_congr (before_descending h.idValue), listed,
    ← Keyset.insertionSort_ge hkept]
  rfl

/-- A cursor joins the filter. -/
theorem lists_pushAnd (h : Lists schema table qb tests) (o : Sql.Op) (c : Uuid) :
    Lists schema table ((qb.push [.and, .column (idColumn table), .op o]).pushBind (.key c))
      (tests ++ [.compare (.column (idColumn table)) o (.placeholder (qb.binds.length + 1))]) where
  filters := h.filters.pushAnd h.idTy o
  idTy := h.idTy
  idValue := h.idValue

theorem listed_pushAnd (h : Lists schema table qb tests) (o : Sql.Op) (c : Uuid) (rows : List α) :
    listed schema ((qb.push [.and, .column (idColumn table), .op o]).pushBind (.key c))
        (tests ++ [.compare (.column (idColumn table)) o (.placeholder (qb.binds.length + 1))])
        rows =
      (listed schema qb tests rows).filter fun row => o.holds (.key (HasId.id row)) (.key c) := by
  rw [listed, listed, Keyset.filter_sorted, List.filter_filter]
  refine congrArg _ (List.filter_congr fun row _ => ?_)
  have hall := h.filters.all_pushAnd (idColumn table) o (.key c) row
  rw [h.idValue, Bool.and_comm] at hall
  exact hall

end Fetching

/-! ## The response -/

section Response

variable {schema : Sql.Schema Uuid α} {table : Option String} {qb : Sql.Builder Uuid α}
  {tests : List (Sql.Test α)} {limit : Nat} {cursor : Option Uuid} {failed : String}
  {rows : List α}

/-- The page as the response has it. -/
def PaginationRes.ofPage (page : Keyset.Page α Uuid) : PaginationRes α where
  items := page.items
  nextCursor := page.next
  prevCursor := page.prev

omit [HasId α] in
theorem filterMap_head? (l : List α) : (l.map ([·])).filterMap List.head? = l := by
  rw [List.filterMap_map]
  exact List.filterMap_some

omit [HasId α] in
/-- The row too many is there exactly if there are more rows than the page holds. -/
theorem length_take_succ (found : List α) :
    (found.take (limit + 1)).length > limit ↔ limit < found.length := by
  rw [List.length_take]
  omega

omit [HasId α] in
/-- Without the row too many, these are the rows of the page. -/
theorem dropLast_take_succ (found : List α) :
    (if limit < found.length then (found.take (limit + 1)).dropLast
      else found.take (limit + 1)) = found.take limit := by
  by_cases hmore : limit < found.length
  · rw [if_pos hmore, List.dropLast_eq_take, List.length_take, List.take_take]
    congr 1
    omega
  · rw [if_neg hmore, List.take_of_length_le (by omega), List.take_of_length_le (by omega)]

/-- The response to what was fetched. -/
def pageOf (params : PaginationParams) (fetched : List α) : PaginationRes α :=
  PaginationRes.new (getCursors params fetched).2 (getCursors params fetched).1

theorem pageOf_forward (found : List α) :
    pageOf { limit, cursor, direction := .forward } (found.take (limit + 1)) =
      { items := found.take limit
        nextCursor := if limit < found.length then (found.take limit).getLast?.map HasId.id else none
        prevCursor := if cursor.isSome then (found.take limit).head?.map HasId.id else none } := by
  simp only [pageOf, getCursors, length_take_succ, dropLast_take_succ, PaginationRes.new]

theorem pageOf_backward (found : List α) :
    pageOf { limit, cursor, direction := .backward } (found.reverse.take (limit + 1)) =
      { items := found.drop (found.length - limit)
        nextCursor := (found.drop (found.length - limit)).getLast?.map HasId.id
        prevCursor := if limit < found.length then
          (found.drop (found.length - limit)).head?.map HasId.id else none } := by
  have hmore : (found.reverse.take (limit + 1)).length > limit ↔ _ := length_take_succ found.reverse
  have hdrop : ite _ _ (found.reverse.take (limit + 1)) = _ := dropLast_take_succ found.reverse
  have hitems : (found.reverse.take limit).reverse = found.drop (found.length - limit) := by
    rw [List.reverse_take, List.reverse_reverse, List.length_reverse]
  rw [List.length_reverse] at hmore hdrop
  simp only [pageOf, getCursors, hmore, hdrop, hitems, PaginationRes.new]

/-- The limit does not wrap. -/
theorem limit_fits (h : limit < 4294967295) : asU32 (limit + 1) = limit + 1 := by
  unfold asU32
  omega

theorem listPage_of_fetch {params : PaginationParams} {found : List α}
    (h : (keysetPaginate params table qb).fetch schema rows =
      some ((found.map ([·])).take (params.limit + 1))) :
    listPage schema table qb failed params rows =
      .ok (pageOf params (found.take (params.limit + 1))) := by
  rw [listPage, h, ← List.map_take]
  simp only [filterMap_head?]
  rfl

/-- A request forwards finds the page after its cursor. -/
theorem listPage_forward (h : Lists schema table qb tests) (hlimit : limit < 4294967295)
    (cursor : Option Uuid) (rows : List α) :
    listPage schema table qb failed { limit, cursor, direction := .forward } rows =
      .ok (.ofPage (Keyset.forward HasId.id (listed schema qb tests rows) limit cursor)) := by
  cases cursor with
  | none =>
    have hpaged : keysetPaginate { limit, cursor := none, direction := .forward } table qb =
        Sql.Filters.paged qb (idColumn table) false (limit + 1 : Nat) := by
      simp only [keysetPaginate, limit_fits hlimit]
      rfl
    have hfetch := fetch_ascending h (limit + 1) rows
    rw [← hpaged] at hfetch
    rw [listPage_of_fetch hfetch, pageOf_forward]
    rfl
  | some c =>
    have hpaged : keysetPaginate { limit, cursor := some c, direction := .forward } table qb =
        Sql.Filters.paged ((qb.push [.and, .column (idColumn table), .op .gt]).pushBind (.key c))
          (idColumn table) false (limit + 1 : Nat) := by
      simp only [keysetPaginate, limit_fits hlimit]
      rfl
    have hfetch := fetch_ascending (lists_pushAnd h .gt c) (limit + 1) rows
    rw [← hpaged, listed_pushAnd h] at hfetch
    rw [listPage_of_fetch hfetch, pageOf_forward]
    rfl

/-- A request backwards finds the page before its cursor. -/
theorem listPage_backward (h : Lists schema table qb tests) (hlimit : limit < 4294967295)
    (hnodup : (rows.map HasId.id).Nodup) (c : Uuid) :
    listPage schema table qb failed { limit, cursor := some c, direction := .backward } rows =
      .ok (.ofPage (Keyset.backward HasId.id (listed schema qb tests rows) limit (some c))) := by
  have hpaged : keysetPaginate { limit, cursor := some c, direction := .backward } table qb =
      Sql.Filters.paged ((qb.push [.and, .column (idColumn table), .op .lt]).pushBind (.key c))
        (idColumn table) true (limit + 1 : Nat) := by
    simp only [keysetPaginate, limit_fits hlimit]
    rfl
  have hfetch := fetch_descending (lists_pushAnd h .lt c) (limit + 1) hnodup
  rw [← hpaged, listed_pushAnd h] at hfetch
  rw [listPage_of_fetch hfetch, pageOf_backward]
  rfl

end Response

/-! ## Traversals -/

section Traversal

variable {schema : Sql.Schema Uuid α} {table : Option String} {qb : Sql.Builder Uuid α}
  {tests : List (Sql.Test α)} {limit : Nat}

omit [HasId α] in
/-- Following the next cursors leads through the pages that a list is made of. -/
theorem traversal_ofPage {get : Option Uuid → Option (PaginationRes α)}
    {found : Option Uuid → Keyset.Page α Uuid} (h : ∀ c, get c = some (.ofPage (found c)))
    {cursor : Option Uuid} {pages : List (Keyset.Page α Uuid)}
    (ht : Keyset.Traversal (fun c => some (found c)) Keyset.Page.next cursor pages) :
    Keyset.Traversal get PaginationRes.nextCursor cursor (pages.map .ofPage) := by
  induction ht with
  | @last cursor page hfound hfinal =>
    cases hfound
    exact .last (h cursor) hfinal
  | @step cursor page c pages hfound hmore hrest ih =>
    cases hfound
    exact .step (h cursor) hmore ih

/-- Following the next cursors from the first page on shows every row that matches once, in the
    order of the identifiers; all pages but the last are full; and from every page that has a
    previous cursor, the request backwards finds the page before it. -/
theorem pages_complete (h : Lists schema table qb tests) (failed : String)
    (rows : Table (HasId.id : α → Uuid)) (hlimit : 1 ≤ limit ∧ limit ≤ 100) :
    ∃ pages : List (PaginationRes α),
      Keyset.Traversal (fun cursor => (listPage schema table qb failed
        { limit, cursor, direction := .forward } rows.rows).toOption) PaginationRes.nextCursor
        none pages ∧
      Keyset.Ascending HasId.id (pages.flatMap PaginationRes.items) ∧
      (∀ row, row ∈ pages.flatMap PaginationRes.items ↔
        row ∈ rows.rows ∧ matching schema qb tests row = true) ∧
      (∀ page ∈ pages.dropLast, page.items.length = limit) ∧
      (∀ page ∈ pages.head?, page.prevCursor = none) ∧
      pages.IsChain fun page page' => ∀ c, page'.prevCursor = some c → ∃ back,
        listPage schema table qb failed { limit, cursor := some c, direction := .backward }
          rows.rows = .ok back ∧ back.items = page.items := by
  have hkept : ((rows.rows.filter (matching schema qb tests)).map HasId.id).Nodup :=
    rows.nodup.sublist (List.filter_sublist.map _)
  have hascending : Keyset.Ascending HasId.id ([] ++ listed schema qb tests rows.rows) :=
    Keyset.ascending_sorted hkept
  obtain ⟨pages, htraversal, hshows, hhead⟩ := Keyset.exists_traversal hascending hlimit.1
  have hitems : (pages.map PaginationRes.ofPage).flatMap PaginationRes.items =
      listed schema qb tests rows.rows := by
    rw [List.flatMap_map]
    exact hshows.items
  refine ⟨pages.map .ofPage, ?_, ?_, ?_, ?_, ?_, ?_⟩
  · refine traversal_ofPage (fun c => ?_) htraversal
    rw [listPage_forward h (by omega)]
    rfl
  · rw [hitems]
    exact hascending
  · intro row
    rw [hitems, listed, (Keyset.perm_sorted _).mem_iff, List.mem_filter]
  · intro page hmem
    rw [← List.map_dropLast] at hmem
    obtain ⟨page', hmem', rfl⟩ := List.mem_map.mp hmem
    exact hshows.full page' hmem'
  · intro page hmem
    rw [List.head?_map] at hmem
    obtain ⟨page', hmem', rfl⟩ := Option.map_eq_some_iff.mp hmem
    exact hhead page' hmem'
  · rw [List.isChain_map]
    refine hshows.prev.imp fun page page' hback c hc => ?_
    exact ⟨_, listPage_backward h (by omega) rows.nodup c, hback c hc⟩

end Traversal

/-! ## The last page -/

section LastPage

variable {schema : Sql.Schema Uuid α} {table : Option String} {qb : Sql.Builder Uuid α}
  {tests : List (Sql.Test α)}

/-- The row comes after what the page shows: after its last row, or after the cursor if it is
    empty. -/
def Beyond (page : PaginationRes α) (cursor : Option Uuid) (row : α) : Prop :=
  match page.items.getLast? with
  | some last => HasId.id last < HasId.id row
  | none => ∀ c ∈ cursor, c < HasId.id row

/-- A page without a next cursor is the last one: no row that matches comes after it. -/
def LastPageFinal (schema : Sql.Schema Uuid α) (table : Option String) (qb : Sql.Builder Uuid α)
    (tests : List (Sql.Test α)) (failed : String) (query : PaginationQuery) (rows : List α) : Prop :=
  ∀ page, listPage schema table qb failed query.intoParams rows = .ok page →
    page.nextCursor = none →
    ∀ row ∈ rows, matching schema qb tests row = true → ¬ Beyond page query.cursor row

theorem mem_after_listed {rows : List α} {cursor : Option Uuid} {row : α} :
    row ∈ Keyset.after HasId.id (listed schema qb tests rows) cursor ↔
      row ∈ rows ∧ matching schema qb tests row = true ∧ ∀ c ∈ cursor, c < HasId.id row := by
  have hlisted : row ∈ listed schema qb tests rows ↔
      row ∈ rows ∧ matching schema qb tests row = true := by
    rw [listed, (Keyset.perm_sorted _).mem_iff, List.mem_filter]
  cases cursor with
  | none => simp [Keyset.after, hlisted]
  | some c => simp [Keyset.after, hlisted, and_assoc]

/-- The rows after the cursor, when they all are on the page, end with its last row. -/
theorem not_beyond_of_mem {rows : List α} {cursor : Option Uuid} {page : PaginationRes α}
    (hnodup : (rows.map HasId.id).Nodup)
    (hitems : page.items = Keyset.after HasId.id (listed schema qb tests rows) cursor) {row : α}
    (hrow : row ∈ rows) (hmatching : matching schema qb tests row = true) :
    ¬ Beyond page cursor row := by
  intro hbeyond
  have hascending : Keyset.Ascending HasId.id page.items := by
    have hlisted : Keyset.Ascending HasId.id (listed schema qb tests rows) :=
      Keyset.ascending_sorted (hnodup.sublist (List.filter_sublist.map _))
    rw [hitems]
    cases cursor with
    | none => exact hlisted
    | some c => exact List.Pairwise.filter _ hlisted
  unfold Beyond at hbeyond
  cases hlast : page.items.getLast? with
  | none =>
    rw [hlast] at hbeyond
    have hmem := mem_after_listed.mpr ⟨hrow, hmatching, hbeyond⟩
    rw [← hitems, List.getLast?_eq_none_iff.mp hlast] at hmem
    cases hmem
  | some last =>
    rw [hlast] at hbeyond
    obtain ⟨init, hinit⟩ := List.getLast?_eq_some_iff.mp hlast
    -- the row is after the cursor as well, so it is on the page
    have hshown : last ∈ page.items := List.mem_of_getLast? hlast
    rw [hitems] at hshown
    have hafter : ∀ c ∈ cursor, c < HasId.id row := by
      intro c hc
      exact ((mem_after_listed.mp hshown).2.2 c hc).trans hbeyond
    have hmem := mem_after_listed.mpr ⟨hrow, hmatching, hafter⟩
    rw [← hitems, hinit, List.mem_append, List.mem_singleton] at hmem
    rw [hinit] at hascending
    cases hmem with
    | inl hold =>
      have hlt := (List.pairwise_append.mp hascending).2.2 row hold last (List.mem_singleton_self _)
      exact lt_asymm hlt hbeyond
    | inr heq =>
      rw [heq] at hbeyond
      exact lt_irrefl _ hbeyond

/-- A page without a next cursor is the last one, unless the client asks for pages of no rows
    while there are some. -/
theorem lastPage_final_iff (h : Lists schema table qb tests) (failed : String)
    (rows : Table (HasId.id : α → Uuid)) (query : PaginationQuery)
    (hforward : query.direction ≠ some .backward) :
    LastPageFinal schema table qb tests failed query rows.rows ↔
      (query.limit = some 0 → ∀ row ∈ rows.rows, matching schema qb tests row = true →
        ¬ ∀ c ∈ query.cursor, c < HasId.id row) := by
  have hparams : query.intoParams = { limit := min (query.limit.getD 20) 100
                                      cursor := query.cursor, direction := .forward } := by
    cases hdirection : query.direction with
    | none => simp [PaginationQuery.intoParams, hdirection]
    | some d =>
      cases d with
      | forward => simp [PaginationQuery.intoParams, hdirection]
      | backward => exact absurd hdirection hforward
  have hfits : min (query.limit.getD 20) 100 < 4294967295 := by omega
  have hpage : listPage schema table qb failed _ rows.rows = _ :=
    listPage_forward h hfits query.cursor rows.rows
  have hzero : query.limit = some 0 ↔ min (query.limit.getD 20) 100 = 0 := by
    cases query.limit with
    | none => simp
    | some n => simp
  rw [← hparams] at hpage
  rw [hzero]
  generalize min (query.limit.getD 20) 100 = limit at hpage
  have hfinal : LastPageFinal schema table qb tests failed query rows.rows ↔
      ((Keyset.forward HasId.id (listed schema qb tests rows.rows) limit query.cursor).next = none →
        ∀ row ∈ rows.rows, matching schema qb tests row = true → ¬ Beyond
          (.ofPage (Keyset.forward HasId.id (listed schema qb tests rows.rows) limit query.cursor))
          query.cursor row) := by
    unfold LastPageFinal
    rw [hpage]
    simp only [Except.ok.injEq, forall_eq']
    rfl
  rw [hfinal]
  by_cases hlimit : limit = 0
  · subst hlimit
    -- the row too many is all there is of such a page
    have hnext : (Keyset.forward HasId.id (listed schema qb tests rows.rows) 0
        query.cursor).next = none := by
      simp [Keyset.forward]
    rw [imp_iff_right hnext, imp_iff_right rfl]
    exact Iff.rfl
  · refine iff_of_true (fun hnext row hrow hmatching => ?_) fun hzero => absurd hzero hlimit
    refine not_beyond_of_mem rows.nodup ?_ hrow hmatching
    generalize hfound : Keyset.after HasId.id (listed schema qb tests rows.rows) query.cursor =
      found
    simp only [Keyset.forward, hfound] at hnext
    have hall : found.length ≤ limit := by
      by_contra hmore
      rw [if_pos (Nat.lt_of_not_le hmore), Option.map_eq_none_iff, List.getLast?_eq_none_iff,
        List.take_eq_nil_iff] at hnext
      cases hnext with
      | inl hzero => exact hlimit hzero
      | inr hnil =>
        rw [hnil] at hmore
        exact hmore (Nat.zero_le _)
    show (Keyset.forward HasId.id (listed schema qb tests rows.rows) limit query.cursor).items = _
    simp only [Keyset.forward, hfound, List.take_of_length_le hall]

end LastPage

/-! ## Brands -/

section Brands

open Store Store.Brands

/-- The condition `1=1` -/
def always : Sql.Test BrandEntity := .compare (.number 1) .eq (.number 1)

theorem lists_brands : Lists brandSchema none brandQuery [always] where
  filters :=
    { plain := by
        intro t ht
        simp only [brandQuery, List.mem_cons, List.not_mem_nil, or_false] at ht
        rcases ht with rfl | rfl | rfl
        · rfl
        · rfl
        · rfl
      parses := rfl
      conds := by
        intro t ht
        rw [List.mem_singleton.mp ht]
        rfl }
  idTy := rfl
  idValue _ := rfl

/-- A brand with this serial number. -/
def brand (serial : Nat) : BrandEntity :=
  { id := ⟨0, serial⟩, createdAt := 0, updatedAt := none, name := "Mug", slug := "mug"
    description := none, logoUrl := none }

/-- Stored in another order. -/
def threeBrands : Table (HasId.id : BrandEntity → Uuid) := ⟨[brand 3, brand 1, brand 2], by decide⟩

theorem pages_complete_brands : ∃ pages : List (PaginationRes BrandEntity),
    Keyset.Traversal (fun cursor => (listBrands { limit := 2, cursor, direction := .forward }
      threeBrands.rows).toOption) PaginationRes.nextCursor none pages ∧
    Keyset.Ascending HasId.id (pages.flatMap PaginationRes.items) ∧
    brand 3 ∈ pages.flatMap PaginationRes.items := by
  obtain ⟨pages, htraversal, hascending, hitems, -⟩ :=
    pages_complete lists_brands "Failed to list brands" threeBrands
      (show 1 ≤ 2 ∧ 2 ≤ 100 from ⟨by decide, by decide⟩)
  exact ⟨pages, htraversal, hascending, (hitems (brand 3)).mpr ⟨by decide, by decide⟩⟩

theorem lastPage_final_brands : LastPageFinal brandSchema none brandQuery [always]
    "Failed to list brands" { limit := none, cursor := none, direction := none }
    threeBrands.rows :=
  (lastPage_final_iff lists_brands "Failed to list brands" threeBrands
    { limit := none, cursor := none, direction := none } (by decide)).mpr (by decide)

/-- `?limit=0` fetches a brand and shows none, without a next cursor. -/
theorem zeroLimit_final : ¬ LastPageFinal brandSchema none brandQuery [always]
    "Failed to list brands" { limit := some 0, cursor := none, direction := none }
    threeBrands.rows := by
  intro hfinal
  have hpage : (listBrands { limit := 0, cursor := none, direction := .forward }
      threeBrands.rows).toOption.any fun page => page.items = [] ∧ page.nextCursor = none := by
    decide
  obtain ⟨page, hpage, hempty⟩ := (Option.any_eq_true _ _).mp hpage
  obtain ⟨hitems, hnext⟩ := of_decide_eq_true hempty
  refine hfinal page (Except.toOption_eq_some.mp hpage) hnext (brand 1) (by decide) (by decide) ?_
  unfold Beyond
  rw [hitems]
  intro c hc
  cases hc

end Brands

end Koupang.Pagination
