import Koupang.ForStd.Rounding
import Koupang.Spec.CreateOrder
import Koupang.Spec.ServiceContracts

/-!
# Stored order totals

The total of an order is summed exactly and rounded once, when it is stored. The
totals of its lines are rounded one by one, and the event announces the sum
before any rounding. A line's residue is what its total has beyond the fourth
decimal place.

## Key results

- `itemsOwned_run`: no items without their order, over every run
- `totalsAddUp_iff`: the three amounts agree exactly if the residues of the lines add up
  to the number of lines rounded up
-/

namespace Koupang.Order

open Rounding (roundedUp sum_round_eq_sum_iff round_sum_eq_sum)

/-! ## Amounts in units of 0.0001 -/

/-- The total of a line, in units of 0.0001. -/
def CreateOrderItemReq.units (item : CreateOrderItemReq) : ℚ :=
  item.unitPrice * (item.quantity : Decimal) * 10000

/-- The residues of the lines add up to the number of lines rounded up. -/
def ResiduesCancel (items : List CreateOrderItemReq) : Prop :=
  ((items.map CreateOrderItemReq.units).map Int.fract).sum =
    roundedUp (items.map CreateOrderItemReq.units)

instance (items : List CreateOrderItemReq) : Decidable (ResiduesCancel items) :=
  inferInstanceAs (Decidable (_ = _))

/-- Prices of at most four decimal places leave no residue. -/
theorem residuesCancel_of_fourDecimals {items : List CreateOrderItemReq}
    (h : ∀ item ∈ items, ∃ n : ℤ, item.unitPrice * 10000 = n) : ResiduesCancel items := by
  have hfract : ∀ item ∈ items, Int.fract item.units = 0 := by
    intro item hitem
    obtain ⟨n, hn⟩ := h item hitem
    have hunits : item.units = ((n * item.quantity : ℤ) : ℚ) := by
      rw [CreateOrderItemReq.units, mul_right_comm, hn]
      push_cast
      rfl
    rw [hunits, Int.fract_intCast]
  unfold ResiduesCancel roundedUp
  rw [List.map_map, List.sum_eq_zero, List.countP_eq_zero.mpr, Nat.cast_zero]
  · intro x hx
    obtain ⟨item, hitem, rfl⟩ := List.mem_map.mp hx
    simp [hfract item hitem]
  · intro x hx
    obtain ⟨item, hitem, rfl⟩ := List.mem_map.mp hx
    exact hfract item hitem

/-! ## Validation -/

/-- The total of a validated line. -/
theorem validItem_total {item : CreateOrderItemReq} {valid : ValidCreateOrderItem}
    (h : ValidCreateOrderItem.new item = .ok valid) :
    valid.totalPrice * 10000 = item.units ∧ 0 ≤ valid.totalPrice := by
  obtain ⟨rfl, ⟨hpos, -⟩, hnonneg⟩ := validItem_new_iff.mp h
  have hpos' : (0 : ℚ) ≤ (item.quantity : ℚ) := by exact_mod_cast hpos.le
  exact ⟨rfl, mul_nonneg hnonneg hpos'⟩

/-- The lines of a request and of its validated form, in units of 0.0001. -/
theorem valid_units {key : String} {req : CreateOrderReq} {valid : ValidCreateOrderReq}
    (h : ValidCreateOrderReq.new key req = .ok valid) :
    valid.items.map (fun i => i.totalPrice * 10000) = req.items.map CreateOrderItemReq.units ∧
      ∀ i ∈ valid.items, 0 ≤ i.totalPrice := by
  have hitems := (validated_ok h).2.1
  refine ⟨?_, Except.forall_of_mapM_ok (fun _ _ hi => (validItem_total hi).2) hitems⟩
  have hlines := Except.mapM_eq_ok.mp hitems
  generalize req.items = sent at hlines
  generalize valid.items = validated at hlines
  -- by induction on the lines, side by side
  induction hlines with
  | nil => rfl
  | cons hi _ ih => rw [List.map_cons, List.map_cons, (validItem_total hi).1, ih]

/-! ## What is stored -/

/-- The rows of `order_items` of an order. -/
def OrderDb.itemsOf (db : OrderDb) (o : Uuid) : List OrderItemEntity :=
  db.orderItems.filter (·.orderId = o)

/-- The totals that the `OrderCreated` events of an order announce. -/
def OrderDb.announcedTotals (db : OrderDb) (o : Uuid) : List (Option Decimal) :=
  ((db.eventsOf o).filter (eventTypeOf · = .orderCreated)).map fun ins =>
    ins.envelope.payload.totalAmount.bind DecimalText.parse

/-- The three amounts of a stored order agree, and it has one `OrderCreated` event. -/
structure TotalsAddUp (db : OrderDb) (order : OrderEntity) : Prop where
  stored : db.find? order.id = some order
  items : ((db.itemsOf order.id).map (·.totalPrice)).sum = order.totalAmount
  announced : db.announcedTotals order.id = [some order.totalAmount]

instance (db : OrderDb) (order : OrderEntity) : Decidable (TotalsAddUp db order) :=
  decidable_of_iff (db.find? order.id = some order ∧
      ((db.itemsOf order.id).map (·.totalPrice)).sum = order.totalAmount ∧
      db.announcedTotals order.id = [some order.totalAmount])
    ⟨fun h => ⟨h.1, h.2.1, h.2.2⟩, fun h => ⟨h.stored, h.items, h.announced⟩⟩

theorem insertOrder_total {buyerId o : Uuid} {valid : ValidCreateOrderReq} {db db' : OrderDb}
    (h : Repository.insertOrder buyerId valid db = .ok (o, db')) :
    ∃ order, db'.find? o = some order ∧ order.totalAmount = roundNumeric valid.totalAmount ∧
      db'.orderItems = db.orderItems := by
  obtain ⟨total, currency, key, orders, htotal, -, -, -, rfl, hins, rfl⟩ := insertOrder_inserts h
  cases numeric19_4_ok htotal
  exact ⟨_, (Table.find?_of_insert hins _).trans (if_pos rfl), rfl, rfl⟩

theorem insertOrderItem_total {o : Uuid} {item : ValidCreateOrderItem} {db db' : OrderDb}
    {u : Unit} (h : Repository.insertOrderItem o item db = .ok (u, db')) :
    ∃ row, db'.orderItems = db.orderItems ++ [row] ∧ row.orderId = o ∧
      row.totalPrice = roundNumeric item.totalPrice := by
  obtain ⟨name, code, quantity, price, total, -, -, -, -, -, -, htotal, -, rfl⟩ :=
    insertOrderItem_inserts h
  exact ⟨_, rfl, rfl, numeric19_4_ok htotal⟩

/-- Every line gets a row, with its total rounded. -/
theorem forM_insertOrderItem_totals {o : Uuid} {onError : String → AppError}
    {items : List ValidCreateOrderItem} {s t : TxState OrderDb} {u : Unit}
    (h : (items.forM fun item => Tx.statement onError (Repository.insertOrderItem o item)) s
      = .ok u t) :
    ∃ rows, t.db.orderItems = s.db.orderItems ++ rows ∧ (∀ row ∈ rows, row.orderId = o) ∧
      rows.map (·.totalPrice) = items.map fun i => roundNumeric i.totalPrice := by
  -- by induction on the items; each one adds its row
  induction items generalizing s with
  | nil =>
    obtain ⟨-, rfl⟩ := Tx.pure_ok.mp h
    exact ⟨[], by simp, by simp, rfl⟩
  | cons item items ih =>
    obtain ⟨_, s', hs', h⟩ := Tx.bind_ok.mp h
    obtain ⟨-, db, hdb, rfl⟩ := Tx.statement_ok.mp hs'
    obtain ⟨row, hrow, ho, htotal⟩ := insertOrderItem_total hdb
    obtain ⟨rows, hrows, hos, htotals⟩ := ih h
    refine ⟨row :: rows, ?_, ?_, ?_⟩
    · rw [hrows, hrow, List.append_assoc, List.singleton_append]
    · intro r hr
      rcases List.mem_cons.mp hr with rfl | hr
      · exact ho
      · exact hos r hr
    · rw [List.map_cons, List.map_cons, htotal, htotals]

/-! ## Items and their orders -/

/-- Every item belongs to a stored order, as its foreign key demands. -/
def ItemsOwned (db : OrderDb) : Prop := ∀ row ∈ db.orderItems, (db.find? row.orderId).isSome

/-- An order that is stored stays stored. -/
theorem Wrote.find?_isSome {db db' : OrderDb} {o o' : Uuid} {ws : List OrderStatus}
    {new : List OutboxInsert} (h : Wrote db db' o ws new) (ho : (db.find? o').isSome) :
    (db'.find? o').isSome := by
  by_cases heq : o' = o
  · subst heq
    have hstatus : (db'.statusOf o').isSome := by
      rw [h.statusOf, Option.isSome_or, OrderDb.statusOf, Option.isSome_map, ho, Bool.or_true]
    rwa [OrderDb.statusOf, Option.isSome_map] at hstatus
  · rw [h.find?_other o' heq]
    exact ho

section Service

variable [SerdeJson]

theorem itemsOwned_step {db db' : OrderDb} {op : Op} (hinv : ItemsOwned db)
    (h : step db op = some db') : ItemsOwned db' := by
  rcases step_cases h with rfl | ⟨o, hcreated⟩ | ⟨o, order, ws, new, -, hw, hitems, -⟩
  · exact hinv
  · obtain ⟨ins, rows, items, hw, -, hrows, hitems, -⟩ := hcreated.wrote
    intro row hrow
    rw [hrows] at hrow
    rcases List.mem_append.mp hrow with hold | hnew
    · exact hw.find?_isSome (hinv row hold)
    · -- an item of the order that was created with it
      have hstatus : (db'.statusOf o).isSome := by
        rw [hw.statusOf]
        rfl
      rw [hitems.orderId row hnew]
      rwa [OrderDb.statusOf, Option.isSome_map] at hstatus
  · intro row hrow
    rw [hitems] at hrow
    exact hw.find?_isSome (hinv row hrow)

theorem itemsOwned_run {db : OrderDb} {ops : List Op} (h : Run.run step {} ops = some db) :
    ItemsOwned db := by
  have hstep : ∀ db op db', ItemsOwned db → step db op = some db' → ItemsOwned db' :=
    fun _ _ _ hinv hop => itemsOwned_step hinv hop
  exact Run.run_invariant hstep (fun row hrow => by cases hrow) h

/-- An order that is not stored has no items and no events. -/
theorem unknown_run {db : OrderDb} {ops : List Op} (h : Run.run step {} ops = some db) {o : Uuid}
    (ho : db.find? o = none) : db.itemsOf o = [] ∧ db.eventsOf o = [] := by
  have hinv := orderInv_run h o
  constructor
  · refine List.filter_eq_nil_iff.mpr fun row hrow hid => ?_
    have hsome := itemsOwned_run h row hrow
    rw [of_decide_eq_true hid, ho] at hsome
    cases hsome
  · refine hinv.unknown ?_
    have hstatus := hinv.statusOf
    rw [OrderDb.statusOf, ho, Option.map_none, eq_comm, List.getLast?_eq_none_iff] at hstatus
    exact hstatus

/-! ## A new order -/

/-- What a new order adds to the tables, in amounts. -/
structure CreatedTotals (valid : ValidCreateOrderReq) (db db' : OrderDb) (order : OrderEntity) :
    Prop where
  stored : db'.find? order.id = some order
  total : order.totalAmount = roundNumeric valid.totalAmount
  items : ∃ rows, db'.orderItems = db.orderItems ++ rows ∧ (∀ row ∈ rows, row.orderId = order.id) ∧
    rows.map (·.totalPrice) = valid.items.map fun i => roundNumeric i.totalPrice
  event : ∃ ins, db'.outbox = db.outbox ++ [ins] ∧ eventTypeOf ins = .orderCreated ∧
    ins.envelope.metadata.aggregateId = order.id ∧
    ins.envelope.payload.totalAmount = some (.decimal valid.totalAmount)

theorem createOrderTx_totals {buyerId o : Uuid} {valid : ValidCreateOrderReq} {db db' : OrderDb}
    (h : withTransaction (createOrderTx buyerId valid) db = .ok (o, db')) :
    ∃ order, order.id = o ∧ CreatedTotals valid db db' order := by
  obtain ⟨t, ht, rfl⟩ := withTransaction_run h
  simp only [createOrderTx, Repository.createOrder, Tx.bind_ok, Tx.statement_ok,
    writeOrderOutbox_ok, Tx.pure_ok] at ht
  obtain ⟨_, _, ⟨_, _, ⟨-, db₁, hins, rfl⟩, _, s₁, hitems, rfl, rfl⟩, _, _, ⟨-, hab, rfl⟩,
    rfl, rfl⟩ := ht
  rw [if_neg (by simp [hab])]
  obtain ⟨order, hfind, htotal, hnone⟩ := insertOrder_total hins
  obtain ⟨rows, hrows, hos, htotals⟩ := forM_insertOrderItem_totals hitems
  obtain ⟨horders, houtbox⟩ := forM_insertOrderItem_orders hitems
  obtain ⟨-, -, -, -, -, houtbox₁⟩ := insertOrder_row hins
  obtain ⟨-, hid⟩ := (Table.find?_eq_some_iff _ _ _).mp hfind
  subst hid
  refine ⟨order, rfl, ?_, htotal, ⟨rows, ?_, hos, htotals⟩,
    s₁.db.event order.id .orderCreated (orderCreatedPayload order.id buyerId valid) none, ?_, rfl,
    rfl, rfl⟩
  · show s₁.db.orders.find? order.id = some order
    rw [horders]
    exact hfind
  · show s₁.db.orderItems = db.orderItems ++ rows
    rw [hrows, hnone]
    rfl
  · show s₁.db.outbox ++ _ = _
    rw [houtbox, houtbox₁]
    rfl

omit [SerdeJson] in
/-- The total announced is the total stored, and the stored lines add up to it, exactly if the
    residues cancel. -/
theorem totals_agree_iff {key : String} {req : CreateOrderReq} {valid : ValidCreateOrderReq}
    (h : ValidCreateOrderReq.new key req = .ok valid) :
    ((valid.items.map fun i => roundNumeric i.totalPrice).sum = roundNumeric valid.totalAmount ∧
      valid.totalAmount = roundNumeric valid.totalAmount) ↔ ResiduesCancel req.items := by
  obtain ⟨hunits, hnonneg⟩ := valid_units h
  have htotal := (validated_ok h).2.2
  have hsum : valid.totalAmount * 10000 = (req.items.map CreateOrderItemReq.units).sum := by
    rw [htotal, ← hunits, List.sum_map_mul_right]
  have htotal_nonneg : 0 ≤ valid.totalAmount := by
    rw [htotal]
    refine List.sum_nonneg fun x hx => ?_
    obtain ⟨i, hi, rfl⟩ := List.mem_map.mp hx
    exact hnonneg i hi
  -- the lines and the total, in units
  have hlines : (valid.items.map fun i => roundNumeric i.totalPrice).sum =
      ((req.items.map CreateOrderItemReq.units).map fun x => (round x : ℚ)).sum / 10000 := by
    rw [← hunits, List.map_map, div_eq_mul_inv, ← List.sum_map_mul_right]
    congr 1
    refine List.map_congr_left fun i hi => ?_
    rw [roundNumeric_eq_round (hnonneg i hi), div_eq_mul_inv]
    rfl
  have hround : roundNumeric valid.totalAmount =
      (round (req.items.map CreateOrderItemReq.units).sum : ℚ) / 10000 := by
    rw [roundNumeric_eq_round htotal_nonneg, hsum]
  constructor
  · intro ⟨hstored, hannounced⟩
    refine sum_round_eq_sum_iff.mp ?_
    rw [← hannounced, hlines] at hstored
    linarith
  · intro hcancel
    have hannounced : valid.totalAmount = roundNumeric valid.totalAmount := by
      rw [hround, round_sum_eq_sum hcancel]
      linarith
    refine ⟨?_, hannounced⟩
    rw [← hannounced, hlines, sum_round_eq_sum_iff.mpr hcancel]
    linarith

/-- A request with a new key commits an order whose totals add up exactly if the residues of its
    lines cancel. -/
theorem totalsAddUp_iff {ops : List Op} {db db' : OrderDb} {user : CurrentUser} {key : String}
    {req : CreateOrderReq} {order : OrderEntity} (hrun : Run.run step {} ops = some db)
    (h : createOrder user key req db = .ok (order, db')) (hnew : db.find? order.id = none) :
    TotalsAddUp db' order ↔ ResiduesCancel req.items := by
  obtain ⟨valid, hadmitted, hcases⟩ := createOrder_ok_iff.mp h
  -- an order found under the key would be stored already
  rcases hcases with ⟨hexisting, rfl⟩ | ⟨-, o, htx, hfind⟩
  · have hmem := List.mem_of_find?_eq_some hexisting
    have hstored := (db'.orders.find?_eq_some_iff order.id order).mpr ⟨hmem, rfl⟩
    rw [OrderDb.find?, hstored] at hnew
    cases hnew
  obtain ⟨created, hid, hcreated⟩ := createOrderTx_totals htx
  have heq : created = order := by
    have hstored := hcreated.stored
    rw [hid, hfind] at hstored
    exact (Option.some.inj hstored).symm
  subst heq
  obtain ⟨hnoItems, hnoEvents⟩ := unknown_run hrun hnew
  obtain ⟨rows, hrows, hos, htotals⟩ := hcreated.items
  obtain ⟨ins, houtbox, htype, haggregate, hamount⟩ := hcreated.event
  have hitemsOf : db'.itemsOf created.id = rows := by
    rw [OrderDb.itemsOf, hrows, List.filter_append]
    rw [OrderDb.itemsOf] at hnoItems
    rw [hnoItems, List.nil_append, List.filter_eq_self]
    exact fun row hrow => decide_eq_true (hos row hrow)
  have hannounced : db'.announcedTotals created.id = [some valid.totalAmount] := by
    have hevents : db'.eventsOf created.id = [ins] := by
      rw [OrderDb.eventsOf] at hnoEvents ⊢
      rw [houtbox, List.filter_append, hnoEvents]
      simp [haggregate]
    rw [OrderDb.announcedTotals, hevents]
    simp [htype, hamount, DecimalText.parse]
  rw [← totals_agree_iff hadmitted.validated, ← hcreated.total, ← htotals]
  constructor
  · intro hadd
    have hsum := hadd.items
    have htotal := hadd.announced
    rw [hitemsOf] at hsum
    rw [hannounced] at htotal
    simp only [List.cons.injEq, Option.some.injEq, and_true] at htotal
    exact ⟨hsum, htotal⟩
  · intro hagree
    obtain ⟨hsum, htotal⟩ := hagree
    refine ⟨hcreated.stored, ?_, ?_⟩
    · rw [hitemsOf]
      exact hsum
    · rw [hannounced, htotal]

end Service

/-! ## Runs -/

theorem totalsAddUp_iff_sample : ∃ order db, createOrder sampleBuyer "key-1" sampleReq {} =
    .ok (order, db) ∧ TotalsAddUp db order := by
  have hrun : ((createOrder sampleBuyer "key-1" sampleReq {}).map fun p => p.1.id).toOption =
      some firstOrder := by decide +kernel
  cases hcreated : createOrder sampleBuyer "key-1" sampleReq {} with
  | error e =>
    rw [hcreated] at hrun
    cases hrun
  | ok p =>
    obtain ⟨order, db⟩ := p
    refine ⟨order, db, rfl, ?_⟩
    have hempty : Run.run step {} [] = some ({} : OrderDb) := rfl
    exact (totalsAddUp_iff hempty hcreated rfl).mpr (by decide +kernel)

def halfUnitLine : CreateOrderItemReq :=
  { productId := ⟨9, 0⟩, skuId := ⟨1, 0⟩, productName := "Mug", skuCode := "MUG-1", quantity := 1,
    sellerId := ⟨9, 1⟩, unitPrice := 1000005 / 100000 }

/-- Two lines of one piece each, at 10.00005 USD. -/
def halfUnitReq : CreateOrderReq := { sampleReq with items := [halfUnitLine, halfUnitLine] }

/-- Each line is stored as 10.0001 and the order as 20.0001. -/
theorem halfUnit_totals : ∃ order db, createOrder sampleBuyer "key-1" halfUnitReq {} =
    .ok (order, db) ∧ order.totalAmount = 200001 / 10000 ∧
    ((db.itemsOf order.id).map (·.totalPrice)).sum = 200002 / 10000 ∧ ¬ TotalsAddUp db order := by
  have hrun : ((createOrder sampleBuyer "key-1" halfUnitReq {}).map fun p =>
      decide (p.1.totalAmount = 200001 / 10000 ∧
        ((p.2.itemsOf p.1.id).map (·.totalPrice)).sum = 200002 / 10000)).toOption = some true := by
    decide +kernel
  cases hcreated : createOrder sampleBuyer "key-1" halfUnitReq {} with
  | error e =>
    rw [hcreated] at hrun
    cases hrun
  | ok p =>
    obtain ⟨order, db⟩ := p
    rw [hcreated] at hrun
    obtain ⟨htotal, hitems⟩ := of_decide_eq_true (Option.some.inj hrun)
    refine ⟨order, db, rfl, htotal, hitems, fun hadd => ?_⟩
    have hsum := hadd.items
    rw [hitems, htotal] at hsum
    norm_num at hsum

end Koupang.Order
