import Koupang.Spec.OrderHistory
import Koupang.Spec.Text

/-!
# Creating an order

`create_order` validates the request, looks the idempotency key up, and only for
a new key writes the order with its items and its `OrderCreated` event. The
lookup compares the key alone, so a key that another buyer has used returns that
buyer's order.

## Key results

- `createOrder_ok_iff`: the two ways in which a request is answered with an order
- `createOrderTx_created`: the row and the event that the transaction writes
- `createOrder_isolated_iff`: when the caller is answered with an order of its own
-/

namespace Koupang.Order

/-- What the creation rules are evaluated on. -/
def creationContext (valid : ValidCreateOrderReq) : CreateOrderContext where
  itemCount := valid.items.length
  totalAmount := valid.totalAmount
  currency := valid.currency
  shippingComplete := valid.shippingAddress.isComplete
  allPricesPositive := valid.items.all (·.unitPrice > 0)

/-- The request passes validation and the creation rules. -/
structure Admitted (key : String) (req : CreateOrderReq) (valid : ValidCreateOrderReq) : Prop where
  validated : ValidCreateOrderReq.new key req = .ok valid
  passed : (creationRules.evaluateDetailed (evalCreation (creationContext valid))).passed = true

theorem Admitted.eq {key : String} {req : CreateOrderReq} {valid valid' : ValidCreateOrderReq}
    (h : Admitted key req valid) (h' : Admitted key req valid') : valid = valid' := by
  have heq := h.validated.symm.trans h'.validated
  cases heq
  rfl

theorem quantity_new_iff {value quantity : Int} : Quantity.new value = .ok quantity ↔
    quantity = value ∧ 0 < value ∧ value ≤ maxOrderQuantity := by
  simp only [Quantity.new, Except.guard_eq_ok]
  constructor
  · intro h
    obtain ⟨hpos, hmax, h⟩ := h
    cases h
    exact ⟨rfl, by omega, by omega⟩
  · intro h
    obtain ⟨rfl, hpos, hmax⟩ := h
    exact ⟨by omega, by omega, rfl⟩

theorem price_new_iff {value price : Decimal} :
    Price.new value = .ok price ↔ price = value ∧ 0 ≤ value := by
  simp only [Price.new, Except.guard_eq_ok, not_lt]
  constructor
  · intro h
    obtain ⟨hnonneg, h⟩ := h
    cases h
    exact ⟨rfl, hnonneg⟩
  · intro h
    obtain ⟨rfl, hnonneg⟩ := h
    exact ⟨hnonneg, rfl⟩

/-- A line is validated as it was sent, with its total. -/
theorem validItem_new_iff {item : CreateOrderItemReq} {valid : ValidCreateOrderItem} :
    ValidCreateOrderItem.new item = .ok valid ↔
      valid = { productId := item.productId, skuId := item.skuId, productName := item.productName
                skuCode := item.skuCode, quantity := item.quantity, sellerId := item.sellerId
                unitPrice := item.unitPrice
                totalPrice := item.unitPrice * (item.quantity : Decimal) } ∧
      (0 < item.quantity ∧ item.quantity ≤ maxOrderQuantity) ∧ 0 ≤ item.unitPrice := by
  simp only [ValidCreateOrderItem.new, Except.bind_eq_ok, quantity_new_iff, price_new_iff]
  constructor
  · rintro ⟨quantity, ⟨rfl, hquantity⟩, price, ⟨rfl, hprice⟩, h⟩
    cases h
    exact ⟨rfl, hquantity, hprice⟩
  · rintro ⟨rfl, hquantity, hprice⟩
    exact ⟨_, ⟨rfl, hquantity⟩, _, ⟨rfl, hprice⟩, rfl⟩

/-- What a validated request has of the one that was sent. -/
theorem validated_ok {key : String} {req : CreateOrderReq} {valid : ValidCreateOrderReq}
    (h : ValidCreateOrderReq.new key req = .ok valid) :
    IdempotencyKey.new key = .ok valid.idempotencyKey ∧
      req.items.mapM ValidCreateOrderItem.new = .ok valid.items ∧
      valid.totalAmount = (valid.items.map (·.totalPrice)).sum := by
  obtain ⟨trimmed, hkey, h⟩ := Except.bind_eq_ok.mp h
  cases hcurrency : req.currency
  -- with and without a currency: the address, the test for an empty list, the items
  all_goals
    simp only [hcurrency] at h
    obtain ⟨currency, -, h⟩ := Except.bind_eq_ok.mp h
    obtain ⟨address, -, h⟩ := Except.bind_eq_ok.mp h
    obtain ⟨-, h⟩ := Except.guard_eq_ok.mp h
    obtain ⟨items, hitems, h⟩ := Except.bind_eq_ok.mp h
    cases h
    exact ⟨hkey, hitems, rfl⟩

/-- A validated key fits its column. -/
theorem idempotencyKey_fits {input key : String} (h : IdempotencyKey.new input = .ok key) :
    varchar 255 key = .ok key := by
  have hlen : Text.len key ≤ 255 := by
    unfold IdempotencyKey.new at h
    generalize Text.trim input = trimmed at h
    dsimp only at h
    split at h
    · exact absurd h Except.throw_ne_ok
    split at h
    · exact absurd h Except.throw_ne_ok
    · rename_i hlen
      cases h
      omega
  have hfits := Text.length_le_len key
  exact if_pos (by omega)

section Service

variable [SerdeJson]

/-- The closure that `create_order` runs in its transaction. -/
def createOrderTx (buyerId : Uuid) (valid : ValidCreateOrderReq) : Tx AppError OrderDb Uuid := do
  let orderId ← Repository.createOrder buyerId valid
  writeOrderOutbox orderId .orderCreated (orderCreatedPayload orderId buyerId valid) none
  return orderId

/-- A request is answered with the order stored under its key, or with a new one. -/
theorem createOrder_ok_iff {user : CurrentUser} {key : String} {req : CreateOrderReq}
    {db db' : OrderDb} {order : OrderEntity} :
    createOrder user key req db = .ok (order, db') ↔ ∃ valid, Admitted key req valid ∧
      ((Repository.getOrderByIdempotencyKey valid.idempotencyKey db = some order ∧ db' = db) ∨
      (Repository.getOrderByIdempotencyKey valid.idempotencyKey db = none ∧
        ∃ o, withTransaction (createOrderTx user.id valid) db = .ok (o, db') ∧
          db'.find? o = some order)) := by
  constructor
  · intro h
    simp only [createOrder, Except.bind_eq_ok] at h
    obtain ⟨valid, hvalid, h⟩ := h
    split at h
    · exact absurd h Except.throw_ne_ok
    rename_i hrules
    refine ⟨valid, ⟨hvalid, by simpa [creationContext] using hrules⟩, ?_⟩
    split at h
    · rename_i existing hexisting
      cases h
      exact .inl ⟨hexisting, rfl⟩
    rename_i hnone
    split at h
    · exact absurd h Except.throw_ne_ok
    rename_i o db₂ htx
    split at h
    · rename_i hfind
      cases h
      exact .inr ⟨hnone, o, htx, hfind⟩
    · exact absurd h Except.throw_ne_ok
  · rintro ⟨valid, hadmitted, h⟩
    have hpassed := hadmitted.passed
    unfold creationContext at hpassed
    unfold createOrder
    rw [hadmitted.validated, Except.bind_eq_ok]
    refine ⟨valid, rfl, ?_⟩
    simp only [hpassed, Bool.not_true, Bool.false_eq_true, if_false]
    rcases h with ⟨hexisting, rfl⟩ | ⟨hnone, o, htx, hfind⟩
    · rw [hexisting]
      rfl
    · rw [createOrderTx] at htx
      simp only [hnone, htx, hfind]
      rfl

/-- What creating an order writes. -/
structure CreatedFor (buyerId : Uuid) (valid : ValidCreateOrderReq) (db db' : OrderDb)
    (order : OrderEntity) (ins : OutboxInsert) : Prop where
  orders : db'.orders.rows = db.orders.rows ++ [order]
  outbox : db'.outbox = db.outbox ++ [ins]
  buyer : order.buyerId = buyerId
  key : varchar 255 valid.idempotencyKey = .ok order.idempotencyKey
  eventType : eventTypeOf ins = .orderCreated
  payload : ins.envelope.payload = orderCreatedPayload order.id buyerId valid

omit [SerdeJson] in
theorem insertOrder_row {buyerId o : Uuid} {valid : ValidCreateOrderReq} {db db' : OrderDb}
    (h : Repository.insertOrder buyerId valid db = .ok (o, db')) :
    ∃ order, db.orders.insert order = some db'.orders ∧ order.id = o ∧ order.buyerId = buyerId ∧
      varchar 255 valid.idempotencyKey = .ok order.idempotencyKey ∧ db'.outbox = db.outbox := by
  obtain ⟨total, currency, key, orders, -, -, -, hkey, rfl, hins, rfl⟩ := insertOrder_inserts h
  exact ⟨_, hins, rfl, rfl, hkey, rfl⟩

omit [SerdeJson] in
theorem forM_insertOrderItem_orders {o : Uuid} {onError : String → AppError}
    {items : List ValidCreateOrderItem} {s t : TxState OrderDb} {u : Unit}
    (h : (items.forM fun item => Tx.statement onError (Repository.insertOrderItem o item)) s
      = .ok u t) : t.db.orders = s.db.orders ∧ t.db.outbox = s.db.outbox := by
  induction items generalizing s with
  | nil =>
    obtain ⟨-, rfl⟩ := Tx.pure_ok.mp h
    exact ⟨rfl, rfl⟩
  | cons item items ih =>
    obtain ⟨_, s', hs', h⟩ := Tx.bind_ok.mp h
    obtain ⟨-, db, hdb, rfl⟩ := Tx.statement_ok.mp hs'
    obtain ⟨horders, houtbox⟩ := ih h
    -- an item leaves the orders and the outbox alone
    have hitem : db.orders = s.db.orders ∧ db.outbox = s.db.outbox := by
      simp only [Repository.insertOrderItem, Except.bind_eq_ok] at hdb
      obtain ⟨_, -, _, -, _, -, _, -, _, -, hdb⟩ := hdb
      split at hdb
      · exact absurd hdb Except.throw_ne_ok
      split at hdb
      · exact absurd hdb Except.throw_ne_ok
      split at hdb
      · exact absurd hdb Except.throw_ne_ok
      cases hdb
      exact ⟨rfl, rfl⟩
    exact ⟨horders.trans hitem.1, houtbox.trans hitem.2⟩

theorem keepsPool_createOrderTx (buyerId : Uuid) (valid : ValidCreateOrderReq) :
    Tx.KeepsPool (createOrderTx buyerId valid) := by
  have hcreate : Tx.KeepsPool (Repository.createOrder buyerId valid) :=
    Tx.keepsPool_bind (Tx.keepsPool_statement _ _) fun _ =>
      Tx.keepsPool_bind (Tx.keepsPool_forM (fun _ => Tx.keepsPool_statement _ _) _)
        fun _ => Tx.keepsPool_pure _
  exact Tx.keepsPool_bind hcreate fun o =>
    Tx.keepsPool_bind (keepsPool_writeOrderOutbox _ _ _ _) fun _ => Tx.keepsPool_pure _

theorem createOrderTx_ok {buyerId o : Uuid} {valid : ValidCreateOrderReq}
    {s t : TxState OrderDb} (h : createOrderTx buyerId valid s = .ok o t) :
    t.aborted = false ∧
      ∃ order ins, order.id = o ∧ CreatedFor buyerId valid s.db t.db order ins := by
  simp only [createOrderTx, Repository.createOrder, Tx.bind_ok, Tx.statement_ok,
    writeOrderOutbox_ok, Tx.pure_ok] at h
  obtain ⟨_, _, ⟨_, _, ⟨-, db₁, hins, rfl⟩, _, s₁, hitems, rfl, rfl⟩, _, _, ⟨-, hab, rfl⟩,
    rfl, rfl⟩ := h
  obtain ⟨order, hinsert, hid, hbuyer, hkey, houtbox⟩ := insertOrder_row hins
  obtain ⟨horders₁, houtbox₁⟩ := forM_insertOrderItem_orders hitems
  subst hid
  refine ⟨hab, order, s₁.db.event order.id .orderCreated
    (orderCreatedPayload order.id buyerId valid) none, rfl,
    CreatedFor.mk ?_ ?_ hbuyer hkey rfl rfl⟩
  · have hrows := ((Table.insert_eq_some _ _ _).mp hinsert).2
    rw [← hrows, ← horders₁]
    rfl
  · rw [← houtbox, ← houtbox₁]
    rfl

/-- A transaction that is committed has created the order. -/
theorem createOrderTx_created {buyerId o : Uuid} {valid : ValidCreateOrderReq}
    {db db' : OrderDb} (h : withTransaction (createOrderTx buyerId valid) db = .ok (o, db')) :
    ∃ order ins, order.id = o ∧ CreatedFor buyerId valid db db' order ins := by
  obtain ⟨s, hs, rfl⟩ := withTransaction_run h
  obtain ⟨hab, order, ins, hid, hcreated⟩ := createOrderTx_ok hs
  rw [if_neg (by simp [hab])]
  exact ⟨order, ins, hid, hcreated⟩

/-- A request with a new key is answered with the order that it has created. -/
theorem createOrder_new {user : CurrentUser} {key : String} {req : CreateOrderReq}
    {db db' : OrderDb} {order : OrderEntity} {valid : ValidCreateOrderReq}
    (h : createOrder user key req db = .ok (order, db')) (hadmitted : Admitted key req valid)
    (hnew : Repository.getOrderByIdempotencyKey valid.idempotencyKey db = none) :
    ∃ ins, CreatedFor user.id valid db db' order ins := by
  obtain ⟨valid', hadmitted', hcases⟩ := createOrder_ok_iff.mp h
  cases hadmitted.eq hadmitted'
  rcases hcases with ⟨hexisting, -⟩ | ⟨-, o, htx, hfind⟩
  · rw [hnew] at hexisting
    cases hexisting
  · obtain ⟨created, ins, hid, hcreated⟩ := createOrderTx_created htx
    have hrow : created ∈ db'.orders.rows := by simp [hcreated.orders]
    have hfound := (db'.orders.find?_eq_some_iff o created).mpr ⟨hrow, hid⟩
    have heq := hfound.symm.trans hfind
    cases heq
    exact ⟨ins, hcreated⟩

/-! ## Isolation -/

/-- No order of another buyer is stored under the key of the request, if the request is
    admitted. -/
def KeyIsCallers (user : CurrentUser) (key : String) (req : CreateOrderReq) (db : OrderDb) :
    Prop :=
  ∀ valid, Admitted key req valid →
    ∀ order ∈ Repository.getOrderByIdempotencyKey valid.idempotencyKey db, order.buyerId = user.id

/-- Every order that the caller is answered with is the caller's, exactly if no other buyer's
    order is found under the key. -/
theorem createOrder_isolated_iff (user : CurrentUser) (key : String) (req : CreateOrderReq)
    (db : OrderDb) :
    (∀ order db', createOrder user key req db = .ok (order, db') → order.buyerId = user.id) ↔
      KeyIsCallers user key req db := by
  constructor
  · intro h valid hadmitted order horder
    exact h order db (createOrder_ok_iff.mpr ⟨valid, hadmitted, .inl ⟨horder, rfl⟩⟩)
  · intro h order db' hok
    obtain ⟨valid, hadmitted, hcases⟩ := createOrder_ok_iff.mp hok
    cases hfound : Repository.getOrderByIdempotencyKey valid.idempotencyKey db with
    | none =>
      obtain ⟨ins, hcreated⟩ := createOrder_new hok hadmitted hfound
      exact hcreated.buyer
    | some existing =>
      rw [hfound] at hcases
      rcases hcases with ⟨hexisting, -⟩ | ⟨hnone, -⟩
      · cases hexisting
        exact h valid hadmitted _ hfound
      · cases hnone

end Service

/-- Another buyer, with another address. -/
def otherBuyer : CurrentUser := { id := ⟨9, 3⟩, role := .buyer }

def otherReq : CreateOrderReq :=
  { sampleReq with shippingAddress.street := "2 Side St" }

/-- The second buyer of a key is answered with the order of the first, address included. -/
theorem createOrder_leaks : ∃ order db, createOrder sampleBuyer "key-1" sampleReq {} =
    .ok (order, db) ∧ createOrder otherBuyer "key-1" otherReq db = .ok (order, db) ∧
    order.buyerId ≠ otherBuyer.id ∧ order.shippingAddress.street = "1 Main St" := by
  have hfirst : ((createOrder sampleBuyer "key-1" sampleReq {}).map fun p =>
      decide ((createOrder otherBuyer "key-1" otherReq p.2).toOption = some p ∧
        p.1.buyerId ≠ otherBuyer.id ∧ p.1.shippingAddress.street = "1 Main St")).toOption =
      some true := by decide +kernel
  cases hcreated : createOrder sampleBuyer "key-1" sampleReq {} with
  | error e =>
    rw [hcreated] at hfirst
    cases hfirst
  | ok p =>
    obtain ⟨order, db⟩ := p
    rw [hcreated] at hfirst
    obtain ⟨hsecond, hbuyer, hstreet⟩ := of_decide_eq_true (Option.some.inj hfirst)
    refine ⟨order, db, rfl, ?_, hbuyer, hstreet⟩
    cases hother : createOrder otherBuyer "key-1" otherReq db with
    | error e =>
      rw [hother] at hsecond
      cases hsecond
    | ok p =>
      rw [hother] at hsecond
      exact congrArg Except.ok (Option.some.inj hsecond)

end Koupang.Order
