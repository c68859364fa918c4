import Koupang.Spec.OrderTotals
import Koupang.Spec.Pagination

/-!
# Lists of orders

Both queries group the join by order and then let `keyset_paginate` add the
cursor. Without one, the groups are the orders that match, with the number of
their items. A cursor becomes part of the `GROUP BY`, and the database rejects the
statement: there is no second page.

## Key results

- `groups_join`: the groups of a join, one for each order that it keeps
- `pagedQuery_rejected`: the query with a cursor
- `orderLists_complete_iff`: following the cursors
-/

namespace Koupang.Order

open Pagination Repository

/-! ## Groups -/

/-- An order as a list shows it. -/
def OrderEntity.summary (order : OrderEntity) (itemCount : Nat) : OrderListEntity where
  id := order.id
  buyerId := order.buyerId
  status := order.status
  totalAmount := order.totalAmount
  currency := order.currency
  itemCount := itemCount

/-- The orders with rows among `joined`, by their identifiers. -/
def withRows (db : OrderDb) (joined : OrderEntity → List JoinedRow) : List OrderEntity :=
  (Keyset.sorted OrderEntity.id db.orders.rows).filter fun order => !(joined order).isEmpty

theorem value_orderId (row : JoinedRow) :
    joinSchema.value row (ofOrders "id") = .key row.order.id := by
  cases h : row.item with
  | none => simp [joinSchema, ofOrders, h]
  | some item => simp [joinSchema, ofOrders, h]

theorem before_orderId (a b : JoinedRow) :
    joinSchema.before (ofOrders "id") false a b = true ↔ a.order.id ≤ b.order.id := by
  simp [Sql.Schema.before, value_orderId, Sql.Value.lt]

section Groups

variable {db : OrderDb} {joined : OrderEntity → List JoinedRow}

theorem mem_withRows {order : OrderEntity} :
    order ∈ withRows db joined ↔ order ∈ db.orders.rows ∧ joined order ≠ [] := by
  rw [withRows, List.mem_filter, (Keyset.perm_sorted _).mem_iff]
  simp

theorem ascending_withRows : Keyset.Ascending OrderEntity.id (withRows db joined) :=
  List.Pairwise.filter _ (Keyset.ascending_sorted db.orders.nodup)

/-- The groups are those of the orders, in their order. -/
theorem groupKeys_eq (h : ∀ order, ∀ row ∈ joined order, row.order = order) :
    ((Keyset.sorted (fun row : JoinedRow => row.order.id)
      (db.orders.rows.flatMap joined)).map fun row => row.order.id).dedup =
      (withRows db joined).map OrderEntity.id := by
  have hsorted : ((Keyset.sorted (fun row : JoinedRow => row.order.id)
      (db.orders.rows.flatMap joined)).map fun row => row.order.id).Pairwise (· ≤ ·) :=
    List.pairwise_map.mpr (Keyset.pairwise_sorted _)
  have hascending : ((withRows db joined).map OrderEntity.id).Pairwise (· < ·) :=
    List.pairwise_map.mpr ascending_withRows
  suffices hperm : (((Keyset.sorted (fun row : JoinedRow => row.order.id)
      (db.orders.rows.flatMap joined)).map fun row => row.order.id).dedup).Perm
      ((withRows db joined).map OrderEntity.id) from
    hperm.eq_of_pairwise (fun a b _ _ => le_antisymm)
      (hsorted.sublist (List.dedup_sublist _)) (hascending.imp le_of_lt)
  rw [List.perm_ext_iff_of_nodup (List.nodup_dedup _) (hascending.imp ne_of_lt)]
  intro id
  rw [List.mem_dedup, List.mem_map, List.mem_map]
  constructor
  · intro hrow
    obtain ⟨row, hrow, rfl⟩ := hrow
    rw [(Keyset.perm_sorted _).mem_iff, List.mem_flatMap] at hrow
    obtain ⟨order, horder, hrow⟩ := hrow
    refine ⟨order, mem_withRows.mpr ⟨horder, List.ne_nil_of_mem hrow⟩, ?_⟩
    rw [h order row hrow]
  · intro horder
    obtain ⟨order, horder, rfl⟩ := horder
    obtain ⟨hmem, hne⟩ := mem_withRows.mp horder
    obtain ⟨row, hrow⟩ := List.exists_mem_of_ne_nil _ hne
    refine ⟨row, ?_, by rw [h order row hrow]⟩
    rw [(Keyset.perm_sorted _).mem_iff, List.mem_flatMap]
    exact ⟨order, hmem, hrow⟩

/-- The group of an order is shown as the order, with the number of its items in the join. -/
theorem selectOrder_group (h : ∀ order, ∀ row ∈ joined order, row.order = order)
    {order : OrderEntity} (horder : order ∈ withRows db joined) :
    selectOrder ((Keyset.sorted (fun row : JoinedRow => row.order.id)
      (db.orders.rows.flatMap joined)).filter fun row => row.order.id = order.id) =
      some (order.summary ((joined order).countP (·.item.isSome))) := by
  obtain ⟨hmem, hne⟩ := mem_withRows.mp horder
  have hperm : ((Keyset.sorted (fun row : JoinedRow => row.order.id)
      (db.orders.rows.flatMap joined)).filter fun row => row.order.id = order.id).Perm
      (joined order) := by
    have hown : (db.orders.rows.flatMap joined).filter (fun row => row.order.id = order.id) =
        joined order :=
      db.orders.filter_flatMap hmem fun o row hrow => congrArg OrderEntity.id (h o row hrow)
    rw [← hown]
    exact (Keyset.perm_sorted _).filter _
  generalize Keyset.sorted (fun row : JoinedRow => row.order.id)
    (db.orders.rows.flatMap joined) = sorted at hperm
  cases hgroup : sorted.filter fun row => row.order.id = order.id with
  | nil =>
    rw [hgroup] at hperm
    exact absurd hperm.symm.eq_nil hne
  | cons row rest =>
    rw [hgroup] at hperm
    have hrow : row.order = order := h order row (hperm.subset (List.mem_cons_self ..))
    rw [selectOrder, List.head?_cons, Option.map_some, hperm.countP_eq, hrow]
    rfl

/-- What a list shows of the groups of a join: the orders, with the number of their items in it. -/
theorem groups_join (h : ∀ order, ∀ row ∈ joined order, row.order = order) (n : Nat) :
    ((joinSchema.groups (ofOrders "id") ((db.orders.rows.flatMap joined).insertionSort
      fun a b => joinSchema.before (ofOrders "id") false a b)).take n).filterMap selectOrder =
      ((withRows db joined).map fun order =>
        order.summary ((joined order).countP (·.item.isSome))).take n := by
  have hkeys : ((Keyset.sorted (fun row : JoinedRow => row.order.id)
      (db.orders.rows.flatMap joined)).map (joinSchema.value · (ofOrders "id"))).dedup =
      (withRows db joined).map fun order => .key order.id := by
    have hvalues : (Keyset.sorted (fun row : JoinedRow => row.order.id)
        (db.orders.rows.flatMap joined)).map (joinSchema.value · (ofOrders "id")) =
        ((Keyset.sorted (fun row : JoinedRow => row.order.id)
          (db.orders.rows.flatMap joined)).map fun row => row.order.id).map .key := by
      rw [List.map_map]
      exact List.map_congr_left fun row _ => value_orderId row
    rw [hvalues, List.dedup_map_of_injective fun a b hab => Sql.Value.key.inj hab,
      groupKeys_eq h, List.map_map]
    rfl
  rw [List.insertionSort_congr before_orderId]
  show (((((Keyset.sorted (fun row : JoinedRow => row.order.id)
    (db.orders.rows.flatMap joined)).map _).dedup).map _).take n).filterMap selectOrder = _
  rw [hkeys, List.map_map, ← List.map_take, List.filterMap_map, ← List.map_take,
    ← List.filterMap_eq_map]
  refine List.filterMap_congr fun order horder => ?_
  have hgroup := selectOrder_group h (List.mem_of_mem_take horder)
  simp only [Function.comp_apply, value_orderId, Sql.Value.key.injEq]
  exact hgroup

end Groups

/-! ## Queries -/

def OrderFilter.accepts (filter : OrderFilter) (order : OrderEntity) : Bool :=
  filter.status.all (· = order.status)

theorem asStr_injective : Function.Injective OrderStatus.asStr := by
  intro s t h
  cases s <;> cases t <;> first | rfl | exact absurd h (by decide)

/-- The filter of the query has the meaning `p`. -/
def Selects (qb : Sql.Builder Uuid JoinedRow) (p : JoinedRow → Bool) : Prop :=
  ∃ tests, Sql.Filters joinSchema qb tests ∧ matching joinSchema qb tests = p

theorem selects_applyOrderFilters {qb : Sql.Builder Uuid JoinedRow} {p : JoinedRow → Bool}
    (h : Selects qb p) (filter : OrderFilter) :
    Selects (applyOrderFilters qb filter) fun row => p row && filter.accepts row.order := by
  obtain ⟨tests, hfilters, rfl⟩ := h
  unfold applyOrderFilters OrderFilter.accepts
  cases filter.status with
  | none => exact ⟨tests, hfilters, by simp⟩
  | some status =>
    refine ⟨_, hfilters.pushAnd (c := ofOrders "status") rfl .eq, funext fun row => ?_⟩
    have hvalue : joinSchema.value row (ofOrders "status") = .text row.order.status.asStr := by
      cases hitem : row.item with
      | none => simp [joinSchema, ofOrders, hitem]
      | some item => simp [joinSchema, ofOrders, hitem]
    have hall := hfilters.all_pushAnd (ofOrders "status") .eq (.text status.asStr) row
    rw [hvalue] at hall
    refine hall.trans ?_
    have hsame : Sql.Op.holds .eq (.text row.order.status.asStr : Sql.Value Uuid)
        (.text status.asStr) = decide (status = row.order.status) := by
      simp [Sql.Op.holds, asStr_injective.eq_iff, eq_comm]
    rw [hsame]
    rfl

theorem selects_buyerQuery (buyerId : Uuid) (filter : OrderFilter) :
    Selects (buyerQuery buyerId filter) fun row =>
      decide (row.order.buyerId = buyerId) && filter.accepts row.order := by
  refine selects_applyOrderFilters ?_ filter
  have hbase : Sql.Filters joinSchema (κ := Uuid)
      { tokens := [.number 1, .op .eq, .number 1], binds := [] }
      [.compare (.number 1) .eq (.number 1)] := by
    refine ⟨?_, rfl, ?_⟩
    · intro t ht
      simp only [List.mem_cons, List.not_mem_nil, or_false] at ht
      rcases ht with rfl | rfl | rfl
      · rfl
      · rfl
      · rfl
    · intro t ht
      rw [List.mem_singleton.mp ht]
      rfl
  refine ⟨_, hbase.pushAnd (c := ofOrders "buyer_id") rfl .eq, funext fun row => ?_⟩
  have hvalue : joinSchema.value row (ofOrders "buyer_id") = .key row.order.buyerId := by
    cases hitem : row.item with
    | none => simp [joinSchema, ofOrders, hitem]
    | some item => simp [joinSchema, ofOrders, hitem]
  have hall := hbase.all_pushAnd (ofOrders "buyer_id") .eq (.key buyerId) row
  rw [hvalue] at hall
  refine hall.trans ?_
  simp [Sql.Op.holds, Sql.Test.holds, Sql.Operand.value]

theorem selects_sellerQuery (sellerId : Uuid) (filter : OrderFilter) :
    Selects (sellerQuery sellerId filter) fun row =>
      decide (joinSchema.value row { table := some "oi", name := "seller_id" } = .key sellerId) &&
        filter.accepts row.order := by
  refine selects_applyOrderFilters ⟨[.compare (.column { table := some "oi", name := "seller_id" })
    .eq (.placeholder 1)], ⟨?_, rfl, ?_⟩, funext fun row => ?_⟩ filter
  · intro t ht
    simp only [Sql.Builder.pushBind, List.mem_append, List.mem_cons, List.not_mem_nil,
      or_false] at ht
    rcases ht with (rfl | rfl) | rfl
    · rfl
    · rfl
    · rfl
  · intro t ht
    rw [List.mem_singleton.mp ht]
    rfl
  · simp [matching, Sql.Builder.pushBind, Sql.Test.holds, Sql.Operand.value, Sql.Op.holds]

/-! ## Pages -/

section Pages

variable {qb : Sql.Builder Uuid JoinedRow} {p : JoinedRow → Bool} {limit : Nat} {db : OrderDb}

/-- The first page: the orders with rows that are kept. -/
theorem fetchOrders_first (hselects : Selects qb p) {block : OrderEntity → List JoinedRow}
    (hblock : ∀ order, ∀ row ∈ block order, row.order = order) (failed : String)
    (hlimit : limit < 4294967295) :
    fetchOrders qb failed { limit, cursor := none, direction := .forward }
        (db.orders.rows.flatMap block) =
      .ok (((withRows db fun order => (block order).filter p).map fun order =>
        order.summary (((block order).filter p).countP (·.item.isSome))).take (limit + 1)) := by
  obtain ⟨tests, hfilters, rfl⟩ := hselects
  have hpaged : pagedQuery { limit, cursor := none, direction := .forward } qb =
      Sql.Filters.paged (qb.push [.groupBy, .column (ofOrders "id")]) (ofOrders "id") false
        (limit + 1 : Nat) := by
    simp only [pagedQuery, keysetPaginate, limit_fits hlimit]
    rfl
  have hjoined : ∀ order, ∀ row ∈ (block order).filter (matching joinSchema qb tests),
      row.order = order := by
    intro order row hrow
    exact hblock order row (List.mem_of_mem_filter hrow)
  rw [fetchOrders, hpaged, hfilters.fetch_groups rfl]
  refine congrArg Except.ok ?_
  rw [← groups_join hjoined, ← List.filter_flatMap]
  rfl

/-- The query with a cursor is rejected. -/
theorem pagedQuery_rejected (hselects : Selects qb p) (limit : Nat) (c : Uuid)
    (direction : PaginationDirection) (rows : List JoinedRow) :
    (pagedQuery { limit, cursor := some c, direction } qb).fetch joinSchema rows = none := by
  obtain ⟨tests, hfilters, -⟩ := hselects
  cases direction with
  | forward =>
    exact hfilters.rejected (ofOrders "id") (ofOrders "id") (ofOrders "id") .gt (.key c) false _
      rows
  | backward =>
    exact hfilters.rejected (ofOrders "id") (ofOrders "id") (ofOrders "id") .lt (.key c) true _
      rows

/-- Following the next cursors of a list shows these orders, once each and in this order. -/
def PagesShow (list : PaginationParams → Except AppError (PaginationRes OrderListRes))
    (limit : Nat) (orders : List OrderListEntity) : Prop :=
  ∃ pages, Keyset.Traversal (fun cursor => (list { limit, cursor, direction := .forward }).toOption)
      PaginationRes.nextCursor none pages ∧
    pages.flatMap PaginationRes.items = orders.map OrderListRes.new

theorem paginated_eq (params : PaginationParams) (orders : List OrderListEntity) :
    paginated params orders =
      { items := (pageOf params orders).items.map OrderListRes.new
        nextCursor := (pageOf params orders).nextCursor
        prevCursor := (pageOf params orders).prevCursor } := rfl

/-- If only the first page can be had, all orders have to be on it. -/
theorem pagesShow_iff {list : PaginationParams → Except AppError (PaginationRes OrderListRes)}
    {orders : List OrderListEntity} (hlimit : 0 < limit)
    (hfirst : list { limit, cursor := none, direction := .forward } =
      .ok (paginated { limit, cursor := none, direction := .forward } (orders.take (limit + 1))))
    (hrest : ∀ c, (list { limit, cursor := some c, direction := .forward }).toOption = none) :
    PagesShow list limit orders ↔ orders.length ≤ limit := by
  have hpage : paginated { limit, cursor := none, direction := .forward }
      (orders.take (limit + 1)) =
      { items := (orders.take limit).map OrderListRes.new
        nextCursor := if limit < orders.length then (orders.take limit).getLast?.map HasId.id
          else none
        prevCursor := none } := by
    rw [paginated_eq, pageOf_forward orders]
    rfl
  rw [hpage] at hfirst
  constructor
  · intro hshow
    obtain ⟨pages, htraversal, -⟩ := hshow
    by_contra hmore
    rw [if_pos (Nat.lt_of_not_le hmore)] at hfirst
    cases htraversal with
    | last hfound hfinal =>
      -- the first page is not the last one
      rw [hfirst] at hfound
      cases hfound
      rw [Option.map_eq_none_iff, List.getLast?_eq_none_iff, List.take_eq_nil_iff] at hfinal
      cases hfinal with
      | inl hzero => exact hlimit.ne' hzero
      | inr hnil =>
        rw [hnil] at hmore
        exact hmore (Nat.zero_le _)
    | step hfound hnext hpages =>
      cases hpages with
      | last hfound hfinal =>
        rw [hrest] at hfound
        cases hfound
      | step hfound hnext hpages =>
        rw [hrest] at hfound
        cases hfound
  · intro hall
    refine ⟨[_], .last (congrArg Except.toOption hfirst) ?_, ?_⟩
    · exact if_neg (Nat.not_lt_of_le hall)
    · rw [List.flatMap_singleton, List.take_of_length_le hall]

end Pages

/-! ## The lists -/

/-- The orders of a buyer, with the number of their items. -/
def OrderDb.ordersOfBuyer (db : OrderDb) (buyerId : Uuid) (filter : OrderFilter) :
    List OrderListEntity :=
  ((Keyset.sorted OrderEntity.id db.orders.rows).filter fun order =>
    decide (order.buyerId = buyerId) && filter.accepts order).map fun order =>
      order.summary (db.itemsOf order.id).length

/-- The orders with items of a seller, with the number of these items. -/
def OrderDb.ordersOfSeller (db : OrderDb) (sellerId : Uuid) (filter : OrderFilter) :
    List OrderListEntity :=
  ((Keyset.sorted OrderEntity.id db.orders.rows).filter fun order =>
    (db.itemsOf order.id).any (·.sellerId = sellerId) && filter.accepts order).map fun order =>
      order.summary ((db.itemsOf order.id).countP (·.sellerId = sellerId))

section Lists

variable {db : OrderDb} {limit : Nat}

/-- The rows of an order in the left join. -/
def leftRows (db : OrderDb) (order : OrderEntity) : List JoinedRow :=
  match db.orderItems.filter (·.orderId = order.id) with
  | [] => [{ order, item := none }]
  | items => items.map fun item => { order, item := some item }

def innerRows (db : OrderDb) (order : OrderEntity) : List JoinedRow :=
  (db.orderItems.filter (·.orderId = order.id)).map fun item => { order, item := some item }

theorem leftRows_order (order : OrderEntity) : ∀ row ∈ leftRows db order, row.order = order := by
  intro row hrow
  unfold leftRows at hrow
  split at hrow
  · rw [List.mem_singleton.mp hrow]
  · obtain ⟨item, -, rfl⟩ := List.mem_map.mp hrow
    rfl

theorem innerRows_order (order : OrderEntity) : ∀ row ∈ innerRows db order, row.order = order := by
  intro row hrow
  obtain ⟨item, -, rfl⟩ := List.mem_map.mp hrow
  rfl

theorem leftRows_ne_nil (order : OrderEntity) : leftRows db order ≠ [] := by
  unfold leftRows
  split
  · exact List.cons_ne_nil _ _
  · rename_i hne
    simpa using hne

theorem leftRows_count (order : OrderEntity) :
    (leftRows db order).countP (·.item.isSome) = (db.itemsOf order.id).length := by
  unfold leftRows OrderDb.itemsOf
  split
  · rename_i hnil
    rw [hnil]
    rfl
  · rw [List.countP_map]
    simp [Function.comp_def]

/-- What is listed, with the kept orders and the counts of their rows by other names. -/
theorem withRows_map {block : OrderEntity → List JoinedRow} (keeps : OrderEntity → Bool)
    (count : OrderEntity → Nat) (hkeeps : ∀ order, keeps order = true ↔ block order ≠ [])
    (hcount : ∀ order, keeps order = true → (block order).countP (·.item.isSome) = count order) :
    ((withRows db block).map fun order => order.summary ((block order).countP (·.item.isSome))) =
      ((Keyset.sorted OrderEntity.id db.orders.rows).filter keeps).map fun order =>
        order.summary (count order) := by
  have hkept : withRows db block = (Keyset.sorted OrderEntity.id db.orders.rows).filter keeps := by
    refine List.filter_congr fun order _ => ?_
    rw [Bool.eq_iff_iff, hkeeps]
    simp
  rw [hkept]
  refine List.map_congr_left fun order horder => ?_
  rw [hcount order (List.mem_filter.mp horder).2]

/-- The first page of a buyer. -/
theorem listMyOrders_first (buyerId : Uuid) (filter : OrderFilter) (hlimit : limit < 4294967295) :
    listMyOrders buyerId { limit, cursor := none, direction := .forward } filter db =
      .ok (paginated { limit, cursor := none, direction := .forward }
        ((db.ordersOfBuyer buyerId filter).take (limit + 1))) := by
  have hfetch : fetchOrders (buyerQuery buyerId filter) "Failed to list orders"
      { limit, cursor := none, direction := .forward } (leftJoin db) = _ :=
    fetchOrders_first (selects_buyerQuery buyerId filter) leftRows_order _ hlimit
  have hrows : ∀ order, (leftRows db order).filter (fun row =>
      decide (row.order.buyerId = buyerId) && filter.accepts row.order) =
      if decide (order.buyerId = buyerId) && filter.accepts order then leftRows db order
      else [] := by
    intro order
    rw [List.filter_congr fun row hrow => by rw [leftRows_order order row hrow]]
    cases decide (order.buyerId = buyerId) && filter.accepts order with
    | false => exact List.filter_false _
    | true => exact List.filter_true _
  rw [listMyOrders, Repository.listOrdersByBuyer, hfetch, withRows_map
    (fun order => decide (order.buyerId = buyerId) && filter.accepts order)
    (fun order => (db.itemsOf order.id).length)]
  · rfl
  · intro order
    have hne : leftRows db order ≠ [] := leftRows_ne_nil order
    rw [hrows]
    split <;> simp [*]
  · intro order hkeeps
    rw [hrows, if_pos hkeeps, leftRows_count]

/-- The first page of a seller. -/
theorem listSellerOrders_first (sellerId : Uuid) (filter : OrderFilter)
    (hlimit : limit < 4294967295) :
    listSellerOrders sellerId { limit, cursor := none, direction := .forward } filter db =
      .ok (paginated { limit, cursor := none, direction := .forward }
        ((db.ordersOfSeller sellerId filter).take (limit + 1))) := by
  have hfetch : fetchOrders (sellerQuery sellerId filter) "Failed to list seller orders"
      { limit, cursor := none, direction := .forward } (innerJoin db) = _ :=
    fetchOrders_first (selects_sellerQuery sellerId filter) innerRows_order _ hlimit
  have hrows : ∀ order, (innerRows db order).filter (fun row =>
      decide (joinSchema.value row { table := some "oi", name := "seller_id" } = .key sellerId) &&
        filter.accepts row.order) =
      if filter.accepts order then
        ((db.itemsOf order.id).filter (·.sellerId = sellerId)).map fun item =>
          { order, item := some item }
      else [] := by
    intro order
    rw [innerRows, List.filter_map]
    cases haccepts : filter.accepts order with
    | false => simp [Function.comp_def, haccepts]
    | true => simp [Function.comp_def, haccepts, joinSchema, OrderDb.itemsOf]
  rw [listSellerOrders, Repository.listOrdersBySeller, hfetch, withRows_map
    (fun order => (db.itemsOf order.id).any (·.sellerId = sellerId) && filter.accepts order)
    (fun order => (db.itemsOf order.id).countP (·.sellerId = sellerId))]
  · rfl
  · intro order
    rw [hrows]
    split <;> simp [*]
  · intro order hkeeps
    rw [hrows, if_pos (Bool.and_eq_true_iff.mp hkeeps).2, List.countP_map]
    simp [Function.comp_def, List.countP_eq_length_filter]

/-- A request with a cursor fails. -/
theorem listMyOrders_cursor (buyerId c : Uuid) (direction : PaginationDirection)
    (filter : OrderFilter) :
    (listMyOrders buyerId { limit, cursor := some c, direction } filter db).toOption = none := by
  have hrejected := pagedQuery_rejected (selects_buyerQuery buyerId filter) limit c direction
    (leftJoin db)
  rw [listMyOrders, Repository.listOrdersByBuyer, fetchOrders, hrejected]
  rfl

theorem listSellerOrders_cursor (sellerId c : Uuid) (direction : PaginationDirection)
    (filter : OrderFilter) :
    (listSellerOrders sellerId { limit, cursor := some c, direction } filter db).toOption =
      none := by
  have hrejected := pagedQuery_rejected (selects_sellerQuery sellerId filter) limit c direction
    (innerJoin db)
  rw [listSellerOrders, Repository.listOrdersBySeller, fetchOrders, hrejected]
  rfl

/-- Following the cursors shows the orders of a buyer, or those of a seller, if and only if they
    fit on the first page; the database rejects every query with a cursor. -/
theorem orderLists_complete_iff (db : OrderDb) (filter : OrderFilter)
    (hlimit : 1 ≤ limit ∧ limit < 4294967295) :
    (∀ buyerId, PagesShow (fun params => listMyOrders buyerId params filter db) limit
        (db.ordersOfBuyer buyerId filter) ↔ (db.ordersOfBuyer buyerId filter).length ≤ limit) ∧
    (∀ sellerId, PagesShow (fun params => listSellerOrders sellerId params filter db) limit
        (db.ordersOfSeller sellerId filter) ↔
          (db.ordersOfSeller sellerId filter).length ≤ limit) ∧
    ∀ id c direction rows,
      (pagedQuery { limit, cursor := some c, direction } (buyerQuery id filter)).fetch
        joinSchema rows = none ∧
      (pagedQuery { limit, cursor := some c, direction } (sellerQuery id filter)).fetch
        joinSchema rows = none := by
  refine ⟨fun buyerId => ?_, fun sellerId => ?_, fun id c direction rows => ⟨?_, ?_⟩⟩
  · exact pagesShow_iff hlimit.1 (listMyOrders_first buyerId filter hlimit.2) fun c =>
      listMyOrders_cursor buyerId c .forward filter
  · exact pagesShow_iff hlimit.1 (listSellerOrders_first sellerId filter hlimit.2) fun c =>
      listSellerOrders_cursor sellerId c .forward filter
  · exact pagedQuery_rejected (selects_buyerQuery id filter) limit c direction rows
  · exact pagedQuery_rejected (selects_sellerQuery id filter) limit c direction rows

end Lists

/-! ## Two orders -/

/-- An order of a buyer, with an item. -/
def placed (o buyerId : Uuid) : OrderEntity where
  id := o
  buyerId := buyerId
  status := .pending
  totalAmount := 10
  currency := "USD"
  idempotencyKey := toString o
  shippingAddress :=
    { street := "1 Main St", city := "Springfield", state := "IL", postalCode := "62701"
      country := "US" }
  cancelledReason := none

def placedItem (o sellerId : Uuid) : OrderItemEntity where
  id := o
  orderId := o
  productId := ⟨3, 1⟩
  skuId := ⟨3, 2⟩
  productName := "Lamp"
  skuCode := "LAMP-1"
  quantity := 1
  sellerId := sellerId
  unitPrice := 10
  totalPrice := 10

def twoOrders : OrderDb where
  orders := ⟨[placed ⟨0, 1⟩ ⟨1, 1⟩, placed ⟨0, 2⟩ ⟨1, 1⟩], by decide⟩
  orderItems := [placedItem ⟨0, 1⟩ ⟨2, 1⟩, placedItem ⟨0, 2⟩ ⟨2, 1⟩]

theorem orderLists_complete_twoOrders :
    PagesShow (fun params => listMyOrders ⟨1, 1⟩ params { status := none } twoOrders) 20
      (twoOrders.ordersOfBuyer ⟨1, 1⟩ { status := none }) ∧
    ¬ PagesShow (fun params => listSellerOrders ⟨2, 1⟩ params { status := none } twoOrders) 1
      (twoOrders.ordersOfSeller ⟨2, 1⟩ { status := none }) := by
  have hfits := (orderLists_complete_iff twoOrders { status := none }
    (show 1 ≤ 20 ∧ 20 < 4294967295 by decide)).1 ⟨1, 1⟩
  have hmore := (orderLists_complete_iff twoOrders { status := none }
    (show 1 ≤ 1 ∧ 1 < 4294967295 by decide)).2.1 ⟨2, 1⟩
  exact ⟨hfits.mpr (by decide), fun hshow => absurd (hmore.mp hshow) (by decide)⟩

/-- With one order on a page, the second one is not shown. -/
theorem secondOrder_lost :
    ¬ PagesShow (fun params => listMyOrders ⟨1, 1⟩ params { status := none } twoOrders) 1
      (twoOrders.ordersOfBuyer ⟨1, 1⟩ { status := none }) := by
  have hiff : PagesShow (fun params => listMyOrders ⟨1, 1⟩ params { status := none } twoOrders) 1
      (twoOrders.ordersOfBuyer ⟨1, 1⟩ { status := none }) ↔ _ :=
    pagesShow_iff (by decide) (listMyOrders_first ⟨1, 1⟩ { status := none } (by decide)) fun c =>
      listMyOrders_cursor ⟨1, 1⟩ c .forward { status := none }
  exact fun hshow => absurd (hiff.mp hshow) (by decide)

end Koupang.Order
