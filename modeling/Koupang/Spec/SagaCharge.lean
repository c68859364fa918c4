import Koupang.Spec.LedgerAmounts
import Koupang.Spec.OrderTotals
import Koupang.Spec.SagaCausality

/-!
# The buyer is charged the order's total

The amount of an order passes through three services: the order service stores
its total and announces it, the catalog repeats the announcement when it has
reserved the items, and the payment service books what it reads there. Each of
them rounds to its own column, and none of them asks another. Over every run in
which published events are delivered at any time, any number of times or never,
what is booked for an order is the total that is stored with it.

## Key results

- `charged_step`: what is announced and booked are stored totals
- `charged_total`: every ledger entry of an order has the amount of its row
-/

namespace Koupang.Saga

open Koupang.Order (OrderDb OrderStatus eventTypeOf)
open Koupang.Catalog (CatalogDb)
open Koupang.Payment (PaymentDb PaymentGateway BookInv HasBooked LedgerTransactionEntity)

/-! ## Stored totals -/

/-- The orders with their totals. -/
def totals (db : OrderDb) : List (Uuid × Decimal) :=
  db.orders.rows.map fun order => (order.id, order.totalAmount)

theorem mem_totals {db : OrderDb} {o : Uuid} {amount : Decimal} :
    (o, amount) ∈ totals db ↔ ∃ order, db.find? o = some order ∧ order.totalAmount = amount := by
  simp only [totals, List.mem_map, Prod.mk.injEq, OrderDb.find?, Table.find?_eq_some_iff]
  constructor
  · rintro ⟨order, hmem, hid, hamount⟩
    exact ⟨order, ⟨hmem, hid⟩, hamount⟩
  · rintro ⟨order, ⟨hmem, hid⟩, hamount⟩
    exact ⟨order, hmem, hid, hamount⟩

theorem totals_writeStatus (db : OrderDb) (o : Uuid) (status : OrderStatus)
    (reason : Option String) : totals (db.writeStatus o status reason) = totals db := by
  unfold OrderDb.writeStatus Order.Repository.updateStatusWhereId
  split
  · rfl
  · simp only [totals, Table.modify, List.map_map]
    refine List.map_congr_left fun order _ => ?_
    simp only [Function.comp_apply]
    split <;> rfl

section Order

variable {ts : List (Uuid × Decimal)}

theorem keepsTotals_updateOrderStatus (o : Uuid) (status : OrderStatus) (reason : Option String) :
    Tx.Keeps (totals · = ts) (Order.Repository.updateOrderStatus o status reason) := by
  intro s t u h hs
  obtain ⟨-, -, rfl⟩ := Order.updateOrderStatus_ok.mp h
  rw [totals_writeStatus]
  exact hs

variable [SerdeJson]

theorem keepsTotals_writeOrderOutbox (o : Uuid) (t : EventType) (payload : Payload)
    (causationId : Option Uuid) :
    Tx.Keeps (totals · = ts) (Order.writeOrderOutbox o t payload causationId) := by
  intro s s' u h hs
  obtain ⟨-, -, rfl⟩ := Order.writeOrderOutbox_ok.mp h
  exact hs

theorem totals_handle (env : EventEnvelope) (db : OrderDb) :
    totals (Tx.attempt (Order.handle env) db).db = totals db :=
  Tx.attempt_keeps (Order.keepsPool_handle env)
    (Order.keeps_handle keepsTotals_updateOrderStatus keepsTotals_writeOrderOutbox env) rfl

theorem totals_cancelOrder {user : CurrentUser} {o : Uuid} {reason : Option String}
    {db db' : OrderDb} (h : Order.cancelOrder user o reason db = .ok db') :
    totals db' = totals db := by
  obtain ⟨order, -, -, htx⟩ := Order.cancelOrder_run h
  have hkeeps : Tx.Keeps (totals · = totals db)
      (Order.cancelOrderTx o order.buyerId (reason.getD "Cancelled by buyer")) :=
    Tx.keeps_bind (keepsTotals_updateOrderStatus _ _ _) fun _ =>
      keepsTotals_writeOrderOutbox _ _ _ _
  exact withTransaction_keeps (Order.keepsPool_cancelOrderTx _ _ _) hkeeps htx rfl

/-- The event says what an order costs: it is about an order, and the amount in it is the one
    whose rounding is stored with the order. -/
def Announces (ts : List (Uuid × Decimal)) (env : EventEnvelope) : Prop :=
  ∃ o amount, env.payload.orderId = some o ∧ env.payload.totalAmount = some (.decimal amount) ∧
    (o, roundNumeric amount) ∈ ts

/-- A new order is announced at its total. -/
theorem createOrder_announces {user : CurrentUser} {key : String} {req : Order.CreateOrderReq}
    {db db' : OrderDb} {order : Order.OrderEntity}
    (h : Order.createOrder user key req db = .ok (order, db')) :
    (∀ entry ∈ totals db, entry ∈ totals db') ∧
      ∃ new, db'.outbox = db.outbox ++ new ∧ ∀ ins ∈ new, Announces (totals db') ins.envelope := by
  obtain ⟨valid, -, ⟨-, rfl⟩ | ⟨-, o, htx, -⟩⟩ := Order.createOrder_ok_iff.mp h
  · -- the order was there already
    exact ⟨fun _ => id, [], by simp, by simp⟩
  · obtain ⟨row, ins, hid, hcreated⟩ := Order.createOrderTx_created htx
    obtain ⟨row', hid', htotals⟩ := Order.createOrderTx_totals htx
    refine ⟨fun entry hentry => ?_, [ins], hcreated.outbox, fun ins' hins => ?_⟩
    · rw [totals, hcreated.orders, List.map_append]
      exact List.mem_append_left _ hentry
    · cases List.mem_singleton.mp hins
      refine ⟨o, valid.totalAmount, ?_, ?_, mem_totals.mpr ⟨row', ?_, htotals.total⟩⟩
      · rw [hcreated.payload, hid]
        rfl
      · rw [hcreated.payload]
        rfl
      · rw [← hid']
        exact htotals.stored

end Order

/-! ## What the catalog repeats -/

section Catalog

variable [SerdeJson]

/-- InventoryReserved has the amount of the OrderCreated that it answers. -/
theorem handle_repeats {env : EventEnvelope} {db db' : CatalogDb}
    (htype : env.eventType = .orderCreated)
    (h : Tx.attempt (Catalog.handle env) db = .committed () db') {ins : OutboxInsert}
    (hout : db'.outbox = db.outbox ++ [ins]) :
    ins.envelope.payload.orderId = env.payload.orderId ∧
      ins.envelope.payload.totalAmount = some (env.payload.totalAmount.getD (.decimal 0)) := by
  obtain ⟨s, hs, -, rfl⟩ := Tx.attempt_eq_committed.mp h
  simp only [Catalog.handle, htype, Catalog.handleOrderCreated, Tx.bind_ok, Tx.mapErr_ok,
    Tx.ofExcept_ok, payloadOrderId_ok] at hs
  obtain ⟨o, _, ⟨ho, rfl⟩, buyerId, _, ⟨-, rfl⟩, items, _, ⟨-, rfl⟩, hs⟩ := hs
  simp only [Catalog.reserveForOrderOnTx] at hs
  split at hs
  · rename_i u t hdo
    cases hs
    simp only [Catalog.doReserveAndWriteEvent, Catalog.newMetadata, Tx.bind_ok, Tx.client_ok,
      Tx.pure_ok, insertOutboxEvent_ok] at hdo
    obtain ⟨_, _, hitems, _, _, ⟨_, _, ⟨rfl, rfl⟩, rfl, rfl⟩, -, -, rfl⟩ := hdo
    obtain ⟨db₁, rfl, -, hout₁⟩ := Catalog.forM_reserveInventory_ok hitems
    have heq : db.outbox ++ [_] = db.outbox ++ [ins] :=
      (congrArg (· ++ [_]) hout₁.symm).trans hout
    obtain rfl := List.singleton_inj.mp (List.append_cancel_left heq)
    exact ⟨ho.symm, rfl⟩
  · -- the failure event is written, and then the handler fails
    obtain ⟨_, _, -, hthrow⟩ := Tx.bind_ok.mp hs
    exact absurd hthrow Tx.throw_ok

end Catalog

/-! ## What the payment service books -/

section Payment

open Koupang.Payment

variable [SerdeJson]

/-- An authorization books the amount that it was asked for, if it books anything. -/
theorem authorizePaymentOnTx_hasBooked {gateway : PaymentGateway} {o : Uuid} {amount : Decimal}
    {currency : String} {db : PaymentDb} {s : TxState PaymentDb} {u : Unit} (hbooks : BookInv db)
    (h : authorizePaymentOnTx gateway o amount currency (Tx.begin db) = .ok u s) :
    s.db.ledgerTransactions = db.ledgerTransactions ∨ HasBooked s.db o (roundNumeric amount) := by
  simp only [authorizePaymentOnTx, Tx.bind_ok, Tx.readPool_ok] at h
  obtain ⟨_, _, ⟨rfl, rfl⟩, h⟩ := h
  split at h
  · obtain ⟨-, rfl⟩ := Tx.pure_ok.mp h
    exact .inl rfl
  simp only [Tx.bind_ok, Tx.ofExcept_ok] at h
  obtain ⟨_, _, ⟨hvalid, rfl⟩, h⟩ := h
  cases hresult : gateway.authorize (.auth o) o amount currency with
  | ok result =>
    simp only [hresult] at h
    split at h
    · obtain ⟨_, _, -, h⟩ := Tx.bind_ok.mp h
      exact absurd h Tx.throw_ok
    · exact .inr (recordAuthorization_hasBooked hbooks hvalid h)
  | error gwErr =>
    simp only [hresult] at h
    obtain ⟨-, -, rfl⟩ := writeOutbox_ok.mp h
    exact .inl rfl

/-- The ledger of an order begins with an authorization of the announced amount. -/
theorem handle_hasBooked {gateway : PaymentGateway} {env : EventEnvelope} {db db' : PaymentDb}
    (hbooks : BookInv db) (htype : env.eventType = .inventoryReserved) {o : Uuid}
    {amount : Decimal} (ho : env.payload.orderId = some o)
    (hamount : env.payload.totalAmount = some (.decimal amount))
    (h : Tx.attempt (handle gateway env) db = .committed () db') :
    db'.ledgerTransactions = db.ledgerTransactions ∨ HasBooked db' o (roundNumeric amount) := by
  obtain ⟨s, hs, -, rfl⟩ := Tx.attempt_eq_committed.mp h
  simp only [handle, htype, Tx.bind_ok, Tx.mapErr_ok, Tx.ofExcept_ok, handleInventoryReserved,
    payloadOrderId_ok, ho, hamount] at hs
  obtain ⟨_, _, ⟨-, rfl⟩, o', _, ⟨heq, rfl⟩, hs⟩ := hs
  cases heq
  exact authorizePaymentOnTx_hasBooked hbooks hs

omit [SerdeJson] in
/-- Only an authorization gives an order a first transaction. -/
theorem effect_rows {db db' : PaymentDb} {o : Uuid} {t : EventType} (hinv : LedgerInv db)
    (h : Payment.Effect db db' o t) : ∀ tx ∈ db'.ledgerTransactions.rows,
      (∃ old ∈ db.ledgerTransactions.rows, old.orderId = tx.orderId) ∨
        t = .inventoryReserved ∧ tx.orderId = o := by
  intro tx htx
  cases h with
  | failed _ he | retried _ he =>
    rw [he.frame] at htx
    exact .inl ⟨tx, htx, rfl⟩
  | authorized ht _ _ hr =>
    obtain ⟨row, hrows, -, ho, -⟩ := hr.row
    rw [hrows, List.mem_append, List.mem_singleton] at htx
    rcases htx with htx | rfl
    · exact .inl ⟨tx, htx, rfl⟩
    · exact .inr ⟨ht, ho⟩
  | captured _ hstate _ hr =>
    obtain ⟨row, hrows, -, ho, -⟩ := hr.row
    rw [hrows, List.mem_append, List.mem_singleton] at htx
    rcases htx with htx | rfl
    · exact .inl ⟨tx, htx, rfl⟩
    · -- the authorization that is captured
      have hshape := hinv.shape_state o
      rw [hstate] at hshape
      obtain ⟨a, htxs, -⟩ := hshape.rows_of_authorized
      have hmem : a ∈ db.txsOf o := by simp [htxs]
      obtain ⟨ha, hao⟩ := List.mem_filter.mp hmem
      exact .inl ⟨a, ha, (of_decide_eq_true hao).trans ho.symm⟩
  | voided _ _ auth hauth _ _ hr =>
    obtain ⟨row, hrows, -, ho, -⟩ := hr.row
    obtain ⟨ha, hao⟩ := List.mem_filter.mp ((List.mem_insertionSort _).mp hauth)
    rw [hrows, List.mem_append, List.mem_singleton] at htx
    rcases htx with htx | rfl
    · -- a row that was there, one of them discarded now
      rw [PaymentDb.discard, Table.mem_modify] at htx
      rcases htx with ⟨htx, -⟩ | ⟨old, hold, -, rfl⟩
      · exact .inl ⟨tx, htx, rfl⟩
      · exact .inl ⟨old, hold, rfl⟩
    · exact .inl ⟨auth, ha, (of_decide_eq_true hao).trans ho.symm⟩

end Payment

/-! ## The invariant -/

/-- The two events that carry what an order costs. -/
def carriesTotal (ins : OutboxInsert) : Prop :=
  eventTypeOf ins = .orderCreated ∨ eventTypeOf ins = .inventoryReserved

structure Charged (s : Services) : Prop where
  announced : ∀ ins ∈ s.outbox, carriesTotal ins → Announces (totals s.order) ins.envelope
  books : BookInv s.payment
  /-- an order with a ledger has booked its total -/
  booked : ∀ tx ∈ s.payment.ledgerTransactions.rows, ∃ amount,
    (tx.orderId, amount) ∈ totals s.order ∧ HasBooked s.payment tx.orderId amount

theorem charged_empty : Charged {} where
  announced := by simp [Services.outbox]
  books := Payment.bookInv_empty
  booked := by simp

section Charged

variable {s : Services}

theorem Announces.mono {ts ts' : List (Uuid × Decimal)} {env : EventEnvelope}
    (h : Announces ts env) (hsub : ∀ entry ∈ ts, entry ∈ ts') : Announces ts' env := by
  obtain ⟨o, amount, ho, hamount, hmem⟩ := h
  exact ⟨o, amount, ho, hamount, hsub _ hmem⟩

theorem Charged.order (h : Charged s) {db : OrderDb} {new : List OutboxInsert}
    (hsub : ∀ entry ∈ totals s.order, entry ∈ totals db)
    (hout : db.outbox = s.order.outbox ++ new)
    (hnew : ∀ ins ∈ new, carriesTotal ins → Announces (totals db) ins.envelope) :
    Charged { s with order := db } where
  announced ins hins hcarries := by
    simp only [Services.outbox, hout, List.mem_append] at hins
    have hold (hmem : ins ∈ s.outbox) : Announces (totals db) ins.envelope :=
      (h.announced ins hmem hcarries).mono hsub
    rcases hins with ((hmem | hmem) | hmem) | hmem
    · exact hold (by simp [Services.outbox, hmem])
    · exact hnew ins hmem hcarries
    · exact hold (by simp [Services.outbox, hmem])
    · exact hold (by simp [Services.outbox, hmem])
  books := h.books
  booked tx htx := (h.booked tx htx).imp fun _ hbooked => ⟨hsub _ hbooked.1, hbooked.2⟩

theorem Charged.catalog (h : Charged s) {db : CatalogDb} {new : List OutboxInsert}
    (hout : db.outbox = s.catalog.outbox ++ new)
    (hnew : ∀ ins ∈ new, carriesTotal ins → Announces (totals s.order) ins.envelope) :
    Charged { s with catalog := db } where
  announced ins hins hcarries := by
    simp only [Services.outbox, hout, List.mem_append] at hins
    have hold (hmem : ins ∈ s.outbox) : Announces (totals s.order) ins.envelope :=
      h.announced ins hmem hcarries
    rcases hins with (hmem | hmem | hmem) | hmem
    · exact hold (by simp [Services.outbox, hmem])
    · exact hold (by simp [Services.outbox, hmem])
    · exact hnew ins hmem hcarries
    · exact hold (by simp [Services.outbox, hmem])
  books := h.books
  booked := h.booked

variable [SerdeJson]

theorem Charged.handleOrder (h : Charged s) (env : EventEnvelope) :
    Charged { s with order := (Tx.attempt (Order.handle env) s.order).db } := by
  have htotals := totals_handle env s.order
  have hsub : ∀ entry ∈ totals s.order,
      entry ∈ totals (Tx.attempt (Order.handle env) s.order).db := fun entry hentry => by
    rwa [htotals]
  rcases Order.handle_db env s.order with hdb | ⟨o, order, ws, new, -, -, hwrote, -, heffect⟩
  · have hout : (Tx.attempt (Order.handle env) s.order).db.outbox = s.order.outbox ++ [] := by
      rw [hdb, List.append_nil]
    exact h.order hsub hout (by simp)
  · -- the order service answers with a confirmation or a cancellation
    refine h.order hsub hwrote.outbox fun ins hins hcarries => ?_
    have htype : eventTypeOf ins ∈ new.map eventTypeOf := List.mem_map_of_mem hins
    unfold carriesTotal at hcarries
    generalize eventTypeOf ins = t at htype hcarries
    generalize new.map eventTypeOf = ts, env.eventType = t', order.status = status at heffect htype
    cases heffect <;> simp_all

theorem Charged.handleCatalog (hcausal : Causal s) (h : Charged s) {env : EventEnvelope}
    (horder : ∃ o, env.payload.orderId = some o)
    (hannounces : env.eventType = .orderCreated → Announces (totals s.order) env) :
    Charged { s with catalog := (Tx.attempt (Catalog.handle env) s.catalog).db } := by
  cases htype : env.eventType
  case orderCreated =>
    have hdecision := Catalog.handle_orderCreated s.catalog htype
    have hrepeats := fun db' => @handle_repeats _ env s.catalog db' htype
    generalize Tx.attempt (Catalog.handle env) s.catalog = result at hdecision hrepeats
    cases hdecision with
    | @reserved db' o items ins ho hitems hreserves hout hevent =>
      refine h.catalog hout fun ins' hins _ => ?_
      cases List.mem_singleton.mp hins
      obtain ⟨o', amount, ho', hamount, hmem⟩ := hannounces htype
      obtain ⟨hsame, htotal⟩ := hrepeats _ rfl hout
      exact ⟨o', amount, hsame.trans ho', by rw [htotal, hamount]; rfl, hmem⟩
    | @refused msg db' hrefused =>
      rcases hrefused with rfl | ⟨o, ho, hemits⟩
      · exact h.catalog (List.append_nil _).symm (by simp)
      · obtain ⟨ins, hout, hevent⟩ := hemits.outbox
        refine h.catalog hout fun ins' hins hcarries => ?_
        cases List.mem_singleton.mp hins
        have htype' : eventTypeOf ins = .inventoryReservationFailed := hevent.eventType
        simp [carriesTotal, htype'] at hcarries
  case orderCancelled =>
    obtain ⟨o, ho⟩ := horder
    obtain ⟨db', hatt, hrel, -⟩ := Catalog.handle_orderCancelled hcausal.stock htype ho
    rw [hatt]
    exact h.catalog (by rw [Tx.Attempt.db, hrel.outbox, List.append_nil]) (by simp)
  all_goals
    have hatt : Tx.attempt (Catalog.handle env) s.catalog = .committed () s.catalog := by
      simp only [Catalog.handle, htype]
      rfl
    rw [hatt]
    exact h.catalog (List.append_nil _).symm (by simp)

theorem Charged.handlePayment (h : Charged s) {env : EventEnvelope}
    (hannounces : env.eventType = .inventoryReserved → Announces (totals s.order) env)
    (tick : Nat) (gateway : PaymentGateway) :
    Charged { s with payment :=
      (Tx.attempt (Payment.handle gateway env) (s.payment.startTransaction tick)).db } := by
  obtain ⟨hstart, hnow⟩ := h.books.toLedgerInv.startTransaction tick
  have hbooks : BookInv (s.payment.startTransaction tick) := h.books.congr hstart rfl rfl rfl
  rcases payment_handle gateway env (s.payment.startTransaction tick) with
    ⟨o, db', hatt, ho, heffect⟩ | hdb
  · obtain ⟨-, -, t', ins, hout, hevent, hstate⟩ := Payment.ledgerInv_effect hstart hnow heffect
    have hbooks' : BookInv db' := by
      rcases Payment.handle_performs hatt with rfl | ⟨o', t, -, rfl, hperforms⟩
      · exact hbooks
      · exact Payment.bookInv_performs hbooks hnow hperforms
    rw [hatt]
    refine ⟨fun ins' hins hcarries => ?_, hbooks', fun tx htx => ?_⟩
    · simp only [Services.outbox, Tx.Attempt.db, hout, List.mem_append, List.mem_singleton] at hins
      rcases hins with hmem | hmem | rfl
      · have hold : ins' ∈ s.order.outbox ++ s.catalog.outbox := List.mem_append.mpr hmem
        exact h.announced ins' (List.mem_append_left _ hold) hcarries
      · exact h.announced ins' (List.mem_append_right _ hmem) hcarries
      · -- the event of the payment service is on another topic
        have htype : eventTypeOf ins' = t' := hevent.eventType
        have htopic := stateEffect_topicOf hstate
        rw [← htype] at htopic
        rcases hcarries with hcarries | hcarries
        · rw [hcarries] at htopic
          cases htopic
        · rw [hcarries] at htopic
          cases htopic
    · rcases effect_rows hstart heffect tx htx with ⟨old, hold, horder⟩ | ⟨htype, horder⟩
      · obtain ⟨amount, hmem, hbooked⟩ := h.booked old hold
        have hstarted : HasBooked (s.payment.startTransaction tick) old.orderId amount := hbooked
        rw [← horder]
        exact ⟨amount, hmem, hstarted.effect heffect⟩
      · obtain ⟨o', amount, ho', hamount, hmem⟩ := hannounces htype
        obtain rfl : o' = o := Option.some.inj (ho'.symm.trans ho)
        rcases handle_hasBooked hbooks htype ho hamount hatt with hsame | hbooked
        · -- nothing was booked now
          have hold : tx ∈ s.payment.ledgerTransactions.rows := by
            have hrows : db'.ledgerTransactions = s.payment.ledgerTransactions := hsame
            rwa [← hrows]
          obtain ⟨amount', hmem', hbooked⟩ := h.booked tx hold
          have hstarted : HasBooked (s.payment.startTransaction tick) tx.orderId amount' := hbooked
          exact ⟨amount', hmem', hstarted.effect heffect⟩
        · rw [horder]
          exact ⟨_, hmem, hbooked⟩
  · -- nothing but the clock has changed
    rw [hdb]
    exact ⟨h.announced, hbooks, h.booked⟩

end Charged

/-! ## Runs -/

section Service

variable [SerdeJson] {s s' : Services}

theorem charged_step {l : AnyLabel} (hcausal : Causal s) (h : Charged s)
    (hstep : anyStep s l = some s') : Charged s' := by
  cases l with
  | request r =>
    cases r with
    | createOrder user key req =>
      obtain ⟨db, hdb, rfl⟩ := Option.map_eq_some_iff.mp hstep
      simp only [Order.step] at hdb
      split at hdb
      · rename_i order db₁ hok
        cases hdb
        obtain ⟨hsub, new, hout, hnew⟩ := createOrder_announces hok
        exact h.order hsub hout fun ins hins _ => hnew ins hins
      · cases hdb
        exact h
    | cancelOrder user o reason =>
      obtain ⟨db, hdb, rfl⟩ := Option.map_eq_some_iff.mp hstep
      simp only [Order.step] at hdb
      split at hdb
      · rename_i db₁ hok
        cases hdb
        have htotals := totals_cancelOrder hok
        rcases Order.cancelOrder_ok hok with rfl | ⟨order, ins, -, -, hwrote, htype, -⟩
        · exact h
        · refine h.order (fun entry hentry => by rwa [htotals]) hwrote.outbox
            fun ins' hins hcarries => ?_
          cases List.mem_singleton.mp hins
          simp [carriesTotal, htype] at hcarries
      · cases hdb
        exact h
    | stock op =>
      cases hstep
      obtain ⟨-, -, hout⟩ := Catalog.stockInv_stockOp op hcausal.stock
      exact h.catalog (by rw [hout, List.append_nil]) (by simp)
  | deliver service ins tick gateway =>
    simp only [anyStep] at hstep
    split at hstep
    · rename_i hins
      cases hstep
      have horder : ∃ o, ins.envelope.payload.orderId = some o :=
        (hcausal.events ins hins.1).imp fun _ hjust => hjust.1
      cases service with
      | order => exact h.handleOrder ins.envelope
      | catalog =>
        exact h.handleCatalog hcausal horder fun htype => h.announced ins hins.1 (.inl htype)
      | payment =>
        exact h.handlePayment (fun htype => h.announced ins hins.1 (.inr htype)) tick gateway
    · cases hstep
  | timeOut env =>
    simp only [anyStep] at hstep
    split at hstep
    · cases hstep
      exact h.handleOrder env
    · cases hstep

/-- Whatever is booked for an order, in whichever operation, is the total stored with the order:
    the order of every ledger transaction exists, and each entry has the amount of its row. -/
theorem charged_total (ls : List AnyLabel) {s : Services}
    (hrun : Run.run anyStep {} ls = some s) (tx : LedgerTransactionEntity)
    (htx : tx ∈ s.payment.ledgerTransactions.rows) :
    ∃ order, s.order.find? tx.orderId = some order ∧
      ∀ e ∈ s.payment.ledgerEntries, e.transactionId = tx.id → e.amount = order.totalAmount := by
  have hstep : ∀ s l s', Causal s ∧ Charged s → anyStep s l = some s' → Causal s' ∧ Charged s' :=
    fun s l s' hinv h => ⟨causal_step hinv.1 h, charged_step hinv.1 hinv.2 h⟩
  obtain ⟨-, h⟩ := Run.run_invariant hstep ⟨causal_empty, charged_empty⟩ hrun
  obtain ⟨amount, hmem, hbooked⟩ := h.booked tx htx
  obtain ⟨order, hfind, rfl⟩ := mem_totals.mp hmem
  refine ⟨order, hfind, fun e he hid => ?_⟩
  have hrecords := h.books.ledgerRecords hbooked
  refine hrecords.amounts tx.transactionType e (Payment.mem_bookings.mpr ⟨tx, ?_, rfl, ?_⟩)
  · exact List.mem_filter.mpr ⟨htx, by simp⟩
  · exact List.mem_filter.mpr ⟨he, by simpa using hid⟩

end Service

/-- Two units at 10: the authorization and the capture book 20 on two accounts each. -/
theorem charged_total_captured : ∃ s, Run.run anyStep {} capturedRun = some s ∧
    s.payment.ledgerTransactions.rows.map (·.transactionType) = [.authorization, .capture] ∧
    s.payment.ledgerEntries.map (·.amount) = [20, 20, 20, 20] ∧
    ∀ tx ∈ s.payment.ledgerTransactions.rows, ∃ order,
      s.order.find? tx.orderId = some order ∧
        ∀ e ∈ s.payment.ledgerEntries, e.transactionId = tx.id → e.amount = order.totalAmount := by
  obtain ⟨s, hrun, htypes, hentries⟩ : ∃ s, Run.run anyStep {} capturedRun = some s ∧
      s.payment.ledgerTransactions.rows.map (·.transactionType) = [.authorization, .capture] ∧
      s.payment.ledgerEntries.map (·.amount) = [20, 20, 20, 20] :=
    Run.run_decide (by decide +kernel)
  exact ⟨s, hrun, htypes, hentries, charged_total capturedRun hrun⟩

end Koupang.Saga
