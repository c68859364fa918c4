import Koupang.Model.CatalogTables
import Koupang.Model.Order
import Koupang.Model.Pagination

/-!
# Lists

Functions of the services that list rows in pages: brands, whose query is a filter
and nothing else, and orders, whose queries join the items and count them.
-/

namespace Koupang

open Pagination

/-! ## Brands -/

namespace Store.Brands

instance : HasId BrandEntity := ⟨BrandEntity.id⟩

def brandSchema : Sql.Schema Uuid BrandEntity where
  ty c :=
    match c.table, c.name with
    | none, "id" => some .key
    | none, "name" => some .text
    | none, "slug" => some .text
    | _, _ => none
  value brand c :=
    match c.name with
    | "name" => .text brand.name
    | "slug" => .text brand.slug
    | _ => .key brand.id

/-- `SELECT * FROM brands WHERE 1=1` -/
def brandQuery : Sql.Builder Uuid BrandEntity :=
  { tokens := [.number 1, .op .eq, .number 1], binds := [] }

/-- `list_brands`, up to the format of the response. -/
def listBrands (params : PaginationParams) (brands : List BrandEntity) :
    Except AppError (PaginationRes BrandEntity) :=
  listPage brandSchema none brandQuery "Failed to list brands" params brands

end Store.Brands

/-! ## Orders -/

namespace Order

structure OrderFilterQuery where
  limit : Option Nat
  cursor : Option Uuid
  direction : Option PaginationDirection
  status : Option OrderStatus

structure OrderFilter where
  status : Option OrderStatus

def OrderFilterQuery.intoParts (query : OrderFilterQuery) : PaginationParams × OrderFilter :=
  let pagination : PaginationQuery :=
    { limit := query.limit, cursor := query.cursor, direction := query.direction }
  (pagination.intoParams, { status := query.status })

structure OrderListEntity where
  id : Uuid
  buyerId : Uuid
  status : OrderStatus
  totalAmount : Decimal
  currency : String
  itemCount : Nat
deriving DecidableEq

instance : HasId OrderListEntity := ⟨OrderListEntity.id⟩

structure OrderListRes where
  id : String
  buyerId : String
  status : OrderStatus
  totalAmount : Decimal
  currency : String
  itemCount : Nat
deriving DecidableEq

def OrderListRes.new (entity : OrderListEntity) : OrderListRes where
  id := toString entity.id
  buyerId := toString entity.buyerId
  status := entity.status
  totalAmount := entity.totalAmount
  currency := entity.currency
  itemCount := entity.itemCount

/-- A row of the join of `orders o` and `order_items oi`; a left join has one without an item for
    an order that has none. -/
structure JoinedRow where
  order : OrderEntity
  item : Option OrderItemEntity
deriving DecidableEq

namespace Repository

/-- The columns that the queries mention. -/
def joinSchema : Sql.Schema Uuid JoinedRow where
  ty c :=
    match c.table, c.name with
    | some "o", "id" => some .key
    | some "o", "buyer_id" => some .key
    | some "o", "status" => some .text
    | some "oi", "seller_id" => some .key
    | _, _ => none
  value row c :=
    match c.table, c.name, row.item with
    | some "o", "buyer_id", _ => .key row.order.buyerId
    | some "o", "status", _ => .text row.order.status.asStr
    | some "oi", "seller_id", some item => .key item.sellerId
    | _, _, _ => .key row.order.id

/-- `o.id` and so on -/
def ofOrders (name : String) : Sql.Column := { table := some "o", name }

/-- `FROM orders o LEFT JOIN order_items oi ON oi.order_id = o.id` -/
def leftJoin (db : OrderDb) : List JoinedRow :=
  db.orders.rows.flatMap fun order =>
    match db.orderItems.filter (·.orderId = order.id) with
    | [] => [{ order, item := none }]
    | items => items.map fun item => { order, item := some item }

/-- `FROM orders o INNER JOIN order_items oi ON oi.order_id = o.id` -/
def innerJoin (db : OrderDb) : List JoinedRow :=
  db.orders.rows.flatMap fun order =>
    (db.orderItems.filter (·.orderId = order.id)).map fun item => { order, item := some item }

/-- The selected columns of a group, with `COUNT(oi.id) AS item_count`. -/
def selectOrder (group : List JoinedRow) : Option OrderListEntity :=
  group.head?.map fun row =>
    { id := row.order.id, buyerId := row.order.buyerId, status := row.order.status
      totalAmount := row.order.totalAmount, currency := row.order.currency
      itemCount := group.countP (·.item.isSome) }

def applyOrderFilters (qb : Sql.Builder Uuid JoinedRow) (filter : OrderFilter) :
    Sql.Builder Uuid JoinedRow :=
  match filter.status with
  | some status => (qb.push [.and, .column (ofOrders "status"), .op .eq]).pushBind (.text status.asStr)
  | none => qb

/-- `SELECT .. WHERE 1=1 AND o.buyer_id = ..` -/
def buyerQuery (buyerId : Uuid) (filter : OrderFilter) : Sql.Builder Uuid JoinedRow :=
  let qb : Sql.Builder Uuid JoinedRow :=
    { tokens := [.number 1, .op .eq, .number 1], binds := [] }
  let qb := (qb.push [.and, .column (ofOrders "buyer_id"), .op .eq]).pushBind (.key buyerId)
  applyOrderFilters qb filter

/-- `SELECT .. WHERE oi.seller_id = ..` -/
def sellerQuery (sellerId : Uuid) (filter : OrderFilter) : Sql.Builder Uuid JoinedRow :=
  let qb : Sql.Builder Uuid JoinedRow :=
    { tokens := [.column { table := some "oi", name := "seller_id" }, .op .eq], binds := [] }
  applyOrderFilters (qb.pushBind (.key sellerId)) filter

/-- The statement, once it is grouped and paged. -/
def pagedQuery (params : PaginationParams) (qb : Sql.Builder Uuid JoinedRow) :
    Sql.Builder Uuid JoinedRow :=
  keysetPaginate params (some "o") (qb.push [.groupBy, .column (ofOrders "id")])

def fetchOrders (qb : Sql.Builder Uuid JoinedRow) (failed : String) (params : PaginationParams)
    (rows : List JoinedRow) : Except AppError (List OrderListEntity) :=
  match (pagedQuery params qb).fetch joinSchema rows with
  | none => .error (.internalServerError s!"{failed}: {rejected}")
  | some groups => .ok (groups.filterMap selectOrder)

def listOrdersByBuyer (buyerId : Uuid) (params : PaginationParams) (filter : OrderFilter)
    (db : OrderDb) : Except AppError (List OrderListEntity) :=
  fetchOrders (buyerQuery buyerId filter) "Failed to list orders" params (leftJoin db)

/-- List orders containing items from a specific seller. -/
def listOrdersBySeller (sellerId : Uuid) (params : PaginationParams) (filter : OrderFilter)
    (db : OrderDb) : Except AppError (List OrderListEntity) :=
  fetchOrders (sellerQuery sellerId filter) "Failed to list seller orders" params (innerJoin db)

end Repository

/-- The end of both list functions. -/
def paginated (params : PaginationParams) (orders : List OrderListEntity) :
    PaginationRes OrderListRes :=
  let (cursors, orders) := getCursors params orders
  PaginationRes.new (orders.map OrderListRes.new) cursors

def listMyOrders (buyerId : Uuid) (params : PaginationParams) (filter : OrderFilter)
    (db : OrderDb) : Except AppError (PaginationRes OrderListRes) := do
  let orders ← Repository.listOrdersByBuyer buyerId params filter db
  return paginated params orders

def listSellerOrders (sellerId : Uuid) (params : PaginationParams) (filter : OrderFilter)
    (db : OrderDb) : Except AppError (PaginationRes OrderListRes) := do
  let orders ← Repository.listOrdersBySeller sellerId params filter db
  return paginated params orders

end Order

end Koupang
