import Koupang.Spec.CatalogCorrect
import Koupang.Spec.OrderHistory
import Koupang.Spec.PaymentLedger
import Koupang.Spec.SagaRefinement

/-!
# Causality

Over every run in which published events are delivered at any time, any number of
times or never: no capture without confirmation, no confirmation without
authorization, no authorization without reservation. Nothing checks this; it
follows from which handler emits which event. The invariant is that every event
that was ever published is justified by what the services have recorded, and
that the records which justify an event are never taken back (`Grows`).

## Key results

- `causal_step`: a step of one service keeps every event justified
- `saga_causality`: the order of the records, in every reachable state
-/

namespace Koupang.Saga

open Koupang.Order (OrderDb OrderStatus OrderItemEntity ItemRows Wrote eventTypeOf sampleReq
  sampleBuyer firstOrder)
open Koupang.Catalog (CatalogDb StockInv parseItem parseItems)
open Koupang.Payment (PaymentDb PaymentState PaymentGateway LedgerInv StateEffect approving)

/-! ## Records -/

/-- What an order asks for: SKU and quantity of each of its items. -/
def demands (db : OrderDb) (o : Uuid) : List (Uuid × Int) :=
  (db.orderItems.filter (·.orderId = o)).map OrderItemEntity.demand

/-- Order, SKU and quantity of every reservation that was ever made. -/
def reservations (db : CatalogDb) : List (Uuid × Uuid × Int) :=
  db.inventoryReservations.rows.map (·.item)

/-- The order exists, and the catalog has reserved every item of it. -/
def Reserved (s : Services) (o : Uuid) : Prop :=
  s.order.statusOf o ≠ none ∧ ∀ d ∈ demands s.order o, (o, d) ∈ reservations s.catalog

/-- The order has been Confirmed. -/
def Confirmed (s : Services) (o : Uuid) : Prop := .confirmed ∈ s.order.history o

/-- The order's payment has been authorized. -/
def Authorized (s : Services) (o : Uuid) : Prop := s.payment.paymentState o ≠ .new

/-- What must have happened before an event about order `o` is published. -/
def Justified (s : Services) (env : EventEnvelope) (o : Uuid) : Prop :=
  match env.eventType with
  | .orderCreated =>
    s.order.statusOf o ≠ none ∧ parseItems env.payload = .ok (demands s.order o)
  | .inventoryReserved => Reserved s o
  | .paymentAuthorized => Authorized s o
  | .orderConfirmed | .paymentCaptureRetryRequested => Confirmed s o
  | _ => True

/-- The records of `s` are still there in `s'`. -/
structure Grows (s s' : Services) : Prop where
  born : ∀ o, s.order.statusOf o ≠ none → s'.order.statusOf o ≠ none
  demands : ∀ o, s.order.statusOf o ≠ none → demands s'.order o = demands s.order o
  reservations : ∀ r ∈ reservations s.catalog, r ∈ reservations s'.catalog
  confirmed : ∀ o, Confirmed s o → Confirmed s' o
  authorized : ∀ o, Authorized s o → Authorized s' o

theorem Grows.refl (s : Services) : Grows s s :=
  ⟨fun _ => id, fun _ _ => rfl, fun _ => id, fun _ => id, fun _ => id⟩

section Grows

variable {s s' : Services} {o : Uuid}

theorem Reserved.grows (h : Reserved s o) (hgrows : Grows s s') : Reserved s' o := by
  refine ⟨hgrows.born o h.1, fun d hd => ?_⟩
  rw [hgrows.demands o h.1] at hd
  exact hgrows.reservations _ (h.2 d hd)

theorem Justified.grows {env : EventEnvelope} (h : Justified s env o) (hgrows : Grows s s') :
    Justified s' env o := by
  unfold Justified at h ⊢
  cases htype : env.eventType <;> simp only [htype] at h ⊢
  case orderCreated =>
    refine ⟨hgrows.born o h.1, ?_⟩
    rw [hgrows.demands o h.1]
    exact h.2
  case inventoryReserved => exact h.grows hgrows
  case paymentAuthorized => exact hgrows.authorized o h
  case orderConfirmed | paymentCaptureRetryRequested => exact hgrows.confirmed o h

end Grows

/-! ## The invariant -/

/-- The event names an order, and is justified for it. -/
def EventJustified (s : Services) (env : EventEnvelope) : Prop :=
  ∃ o, env.payload.orderId = some o ∧ Justified s env o

structure Causal (s : Services) : Prop where
  stock : StockInv s.catalog
  ledger : LedgerInv s.payment
  /-- no item of an order that does not exist -/
  items : ∀ row ∈ s.order.orderItems, s.order.statusOf row.orderId ≠ none
  history : ∀ o, s.order.statusOf o = (s.order.history o).getLast?
  events : ∀ ins ∈ s.outbox, EventJustified s ins.envelope
  authorized : ∀ o, Authorized s o → Reserved s o
  confirmed : ∀ o, Confirmed s o → Authorized s o
  captured : ∀ o, s.payment.paymentState o = .captured → Confirmed s o

theorem causal_empty : Causal {} where
  stock := Catalog.stockInv_empty
  ledger := Payment.ledgerInv_empty
  items := by simp
  history _ := rfl
  events := by simp [Services.outbox]
  authorized o h := absurd rfl h
  confirmed o h := by simp [Confirmed, OrderDb.history] at h
  captured o h := by
    rw [show PaymentDb.paymentState _ o = .new from rfl] at h
    cases h

/-- The services went from `s` to `s'`, and every new record and every new event has what must
    come before it. -/
structure Advances (s s' : Services) : Prop where
  grows : Grows s s'
  stock : StockInv s'.catalog
  ledger : LedgerInv s'.payment
  items : ∀ row ∈ s'.order.orderItems, s'.order.statusOf row.orderId ≠ none
  history : ∀ o, s'.order.statusOf o = (s'.order.history o).getLast?
  events : ∀ ins ∈ s'.outbox, ins ∈ s.outbox ∨ EventJustified s' ins.envelope
  authorized : ∀ o, Authorized s' o → Authorized s o ∨ Reserved s' o
  confirmed : ∀ o, Confirmed s' o → Confirmed s o ∨
    Authorized s' o ∧ s'.order.statusOf o = some .confirmed ∧ s'.payment = s.payment
  captured : ∀ o, s'.payment.paymentState o = .captured →
    s.payment.paymentState o = .captured ∨ Confirmed s' o

theorem Causal.advances {s s' : Services} (hinv : Causal s) (h : Advances s s') : Causal s' where
  stock := h.stock
  ledger := h.ledger
  items := h.items
  history := h.history
  events ins hins := (h.events ins hins).elim
    (fun hold => (hinv.events ins hold).imp fun _ hjust => ⟨hjust.1, hjust.2.grows h.grows⟩) id
  authorized o ho := (h.authorized o ho).elim
    (fun hold => (hinv.authorized o hold).grows h.grows) id
  confirmed o ho := (h.confirmed o ho).elim
    (fun hold => h.grows.authorized o (hinv.confirmed o hold)) And.left
  captured o ho := (h.captured o ho).elim
    (fun hold => h.grows.confirmed o (hinv.captured o hold)) id

theorem Causal.refl {s : Services} (hinv : Causal s) : Advances s s where
  grows := Grows.refl s
  stock := hinv.stock
  ledger := hinv.ledger
  items := hinv.items
  history := hinv.history
  events _ := .inl
  authorized _ := .inl
  confirmed _ := .inl
  captured _ := .inl

/-! ## The order service -/

section Order

variable {s : Services} {db : OrderDb} {o : Uuid} {ws : List OrderStatus} {new : List OutboxInsert}

theorem Grows.order (hwrote : Wrote s.order db o ws new)
    (hdemands : ∀ o', s.order.statusOf o' ≠ none → Saga.demands db o' = Saga.demands s.order o') :
    Grows s { s with order := db } where
  born o' hborn := by
    show db.statusOf o' ≠ none
    by_cases ho : o' = o
    · subst ho
      rw [hwrote.statusOf]
      exact fun h => hborn (Option.or_eq_none_iff.mp h).2
    · rwa [hwrote.statusOf_other ho]
  demands := hdemands
  reservations _ := id
  confirmed o' h := by
    show .confirmed ∈ db.history o'
    by_cases ho : o' = o
    · subst ho
      rw [hwrote.history]
      exact List.mem_append_left _ h
    · rwa [hwrote.history_other ho]
  authorized _ := id

theorem Advances.order (hinv : Causal s) (hwrote : Wrote s.order db o ws new)
    (hdemands : ∀ o', s.order.statusOf o' ≠ none → demands db o' = demands s.order o')
    (hitems : ∀ row ∈ db.orderItems, db.statusOf row.orderId ≠ none)
    (hevents : ∀ ins ∈ new, EventJustified { s with order := db } ins.envelope)
    (hconfirmed : .confirmed ∈ ws → Authorized s o ∧ ws.getLast? = some .confirmed) :
    Advances s { s with order := db } where
  grows := Grows.order hwrote hdemands
  stock := hinv.stock
  ledger := hinv.ledger
  items := hitems
  history o' := by
    show db.statusOf o' = (db.history o').getLast?
    by_cases ho : o' = o
    · subst ho
      rw [hwrote.statusOf, hwrote.history, List.getLast?_append, hinv.history]
    · rw [hwrote.statusOf_other ho, hwrote.history_other ho, hinv.history]
  events ins hins := by
    simp only [Services.outbox, hwrote.outbox, List.mem_append] at hins ⊢
    rcases hins with ((h | h) | h) | h
    · exact .inl (.inl (.inl h))
    · exact .inr (hevents ins h)
    · exact .inl (.inl (.inr h))
    · exact .inl (.inr h)
  authorized _ := .inl
  confirmed o' h := by
    by_cases ho : o' = o
    · subst ho
      -- confirmed before, or by these writes
      have hmem : .confirmed ∈ db.history o' := h
      rw [hwrote.history] at hmem
      rcases List.mem_append.mp hmem with hmem | hmem
      · exact .inl hmem
      · obtain ⟨hauth, hlast⟩ := hconfirmed hmem
        refine .inr ⟨hauth, ?_, rfl⟩
        show db.statusOf o' = some .confirmed
        rw [hwrote.statusOf, hlast, Option.some_or]
    · have hmem : .confirmed ∈ db.history o' := h
      rw [hwrote.history_other ho] at hmem
      exact .inl hmem
  captured _ := .inl

/-- The events that the order service emits about an order that exists. -/
theorem Advances.effect (hinv : Causal s) (hwrote : Wrote s.order db o ws new)
    (hitems : db.orderItems = s.order.orderItems)
    (hevents : ∀ t ∈ new.map eventTypeOf,
      t = .orderCancelled ∨ t = .orderConfirmed ∧ .confirmed ∈ ws)
    (hconfirmed : .confirmed ∈ ws → Authorized s o ∧ ws.getLast? = some .confirmed) :
    Advances s { s with order := db } := by
  have hdemands (o' : Uuid) : demands db o' = demands s.order o' := by rw [demands, hitems, demands]
  refine Advances.order hinv hwrote (fun o' _ => hdemands o') ?_ ?_ hconfirmed
  · intro row hrow
    rw [hitems] at hrow
    exact (Grows.order hwrote fun o' _ => hdemands o').born _ (hinv.items row hrow)
  · intro ins hins
    refine ⟨o, hwrote.new_orderId ins hins, ?_⟩
    unfold Justified
    rcases hevents _ (List.mem_map_of_mem hins) with htype | ⟨htype, hmem⟩
    · rw [show ins.envelope.eventType = _ from htype]
      trivial
    · rw [show ins.envelope.eventType = _ from htype]
      show .confirmed ∈ db.history o
      rw [hwrote.history]
      exact List.mem_append_right _ hmem

theorem asI32_of_inRange {q : Int} (hmin : -2147483648 ≤ q) (hmax : q ≤ 2147483647) :
    asI32 q = q := by
  unfold asI32
  rw [Int.bmod_eq_of_le] <;> omega

theorem parseItem_ok {item : ItemPayload} {skuId : Uuid} {q : Int} (hsku : item.skuId = some skuId)
    (hq : item.quantity = some q) (hrange : asI32 q = q) : parseItem item = .ok (skuId, q) := by
  simp only [parseItem, hsku, hq, hrange]
  rfl

/-- Items whose quantities fit an `i32` are parsed to what was written. -/
theorem parseItems_ok {payload : Payload} {items : List Order.ValidCreateOrderItem}
    (hpayload : payload.items = some (items.map fun i =>
      { productId := some i.productId, skuId := some i.skuId, quantity := some i.quantity,
        unitPrice := some (.decimal i.unitPrice) }))
    (hrange : ∀ i ∈ items, asI32 i.quantity = i.quantity) :
    parseItems payload = .ok (items.map fun i => (i.skuId, i.quantity)) := by
  unfold parseItems
  rw [hpayload]
  show (items.map _).mapM parseItem = _
  rw [Except.mapM_eq_ok, List.forall₂_map_left_iff, List.forall₂_map_right_iff]
  -- each item is parsed to what its row demands
  exact List.forall₂_same.mpr fun i hi => parseItem_ok rfl rfl (hrange i hi)

/-- The catalog reads from OrderCreated what the order service has stored. -/
theorem parseItems_created {payload : Payload} {items : List Order.ValidCreateOrderItem}
    {rows : List OrderItemEntity} (hrows : ItemRows o items rows)
    (hpayload : payload.items = some (items.map fun i =>
      { productId := some i.productId, skuId := some i.skuId, quantity := some i.quantity,
        unitPrice := some (.decimal i.unitPrice) })) :
    parseItems payload = .ok (rows.map OrderItemEntity.demand) := by
  -- the quantities were stored in an INTEGER column, so `as i32` does not change them
  have hrange : ∀ i ∈ items, asI32 i.quantity = i.quantity := by
    intro i hi
    have hmem : (i.skuId, i.quantity) ∈ rows.map OrderItemEntity.demand := by
      rw [hrows.demand]
      exact List.mem_map_of_mem hi
    obtain ⟨row, hrow, heq⟩ := List.mem_map.mp hmem
    obtain ⟨hmin, hmax⟩ := hrows.inRange row hrow
    rw [← show row.quantity = i.quantity from congrArg Prod.snd heq]
    exact asI32_of_inRange hmin hmax
  rw [hrows.demand]
  exact parseItems_ok hpayload hrange

theorem Advances.created (hinv : Causal s) (hcreated : Order.Created s.order db o) :
    Advances s { s with order := db } := by
  obtain ⟨ins, rows, items, hwrote, htype, hitems, hrows, hpayload⟩ := hcreated.wrote
  have hnone : s.order.statusOf o = none := by simp [OrderDb.statusOf, hcreated.fresh]
  have hstatus : db.statusOf o = some .pending := hwrote.statusOf
  have hborn : ∀ o', s.order.statusOf o' ≠ none → db.statusOf o' ≠ none := by
    intro o' ho'
    have hne : o' ≠ o := fun h => ho' (h ▸ hnone)
    rwa [hwrote.statusOf_other hne]
  refine Advances.order hinv hwrote (fun o' ho' => ?_) (fun row hrow => ?_) (fun ins' hins => ?_)
    (by simp)
  · -- the new items belong to the new order
    have hne : o ≠ o' := fun h => ho' (h ▸ hnone)
    have hfilter : rows.filter (·.orderId = o') = [] := by
      refine List.filter_eq_nil_iff.mpr fun row hrow => ?_
      simpa [hrows.orderId row hrow] using hne
    simp only [demands, hitems, List.filter_append, hfilter, List.append_nil]
  · rw [hitems] at hrow
    rcases List.mem_append.mp hrow with hrow | hrow
    · exact hborn _ (hinv.items row hrow)
    · simp [hrows.orderId row hrow, hstatus]
  · cases List.mem_singleton.mp hins
    refine ⟨o, hwrote.new_orderId ins hins, ?_⟩
    -- no items of the order were stored before
    have hold : s.order.orderItems.filter (·.orderId = o) = [] :=
      List.filter_eq_nil_iff.mpr fun row hrow hrowo =>
        hinv.items row hrow (by rw [of_decide_eq_true hrowo, hnone])
    have hnew : rows.filter (·.orderId = o) = rows :=
      List.filter_eq_self.mpr fun row hrow => by simpa using hrows.orderId row hrow
    unfold Justified
    rw [show ins.envelope.eventType = _ from htype]
    refine ⟨by simp [hstatus], ?_⟩
    simp only [demands, hitems, List.filter_append, hold, hnew, List.nil_append]
    exact parseItems_created hrows hpayload

variable [SerdeJson]

/-- The order service handles an event. -/
theorem Advances.handleOrder (hinv : Causal s) {env : EventEnvelope}
    (hjust : ∀ o, env.payload.orderId = some o → Justified s env o) :
    Advances s { s with order := (Tx.attempt (Order.handle env) s.order).db } := by
  rcases Order.handle_db env s.order with hdb |
    ⟨o, order, ws, new, ho, hfind, hwrote, hitems, heffect⟩
  · rw [hdb]
    exact hinv.refl
  · have hjust' := hjust o ho
    unfold Justified at hjust'
    refine Advances.effect hinv hwrote hitems ?_ ?_
    · generalize env.eventType = t, order.status = status, new.map eventTypeOf = ts at heffect
      cases heffect <;> simp
    · intro hmem
      generalize env.eventType = t, order.status = status, new.map eventTypeOf = ts
        at heffect hjust'
      -- only PaymentAuthorized confirms an order, and it is justified by an authorization
      cases heffect with
      | paymentAuthorized => exact ⟨hjust', rfl⟩
      | inventoryReserved | inventoryReservationFailed | paymentFailed | paymentTimedOut =>
        simp at hmem

/-- A request to the order service. -/
theorem Advances.requestOrder (hinv : Causal s) {op : Order.Op} (hop : ∀ env, op ≠ .handle env)
    (h : Order.step s.order op = some db) : Advances s { s with order := db } := by
  rcases Order.step_cases h with rfl | ⟨o, hcreated⟩ |
    ⟨o, order, ws, new, hfind, hwrote, hitems, heffect⟩
  · exact hinv.refl
  · exact Advances.created hinv hcreated
  · generalize htypes : new.map eventTypeOf = ts at heffect
    cases heffect with
    | cancelOrder =>
      exact Advances.effect hinv hwrote hitems (by simp [htypes]) (by simp)
    | handle => exact absurd rfl (hop _)

end Order

/-! ## The catalog service -/

section Catalog

variable {s : Services} {db : CatalogDb} {o : Uuid} {new : List OutboxInsert}

theorem Advances.catalog (hinv : Causal s) (hout : db.outbox = s.catalog.outbox ++ new)
    (hrows : ∀ r ∈ reservations s.catalog, r ∈ reservations db) (hstock : StockInv db)
    (hevents : ∀ ins ∈ new, EventJustified { s with catalog := db } ins.envelope) :
    Advances s { s with catalog := db } where
  grows := { Grows.refl s with reservations := hrows }
  stock := hstock
  ledger := hinv.ledger
  items := hinv.items
  history := hinv.history
  events ins hins := by
    simp only [Services.outbox, hout, List.mem_append] at hins ⊢
    rcases hins with (h | h | h) | h
    · exact .inl (.inl (.inl h))
    · exact .inl (.inl (.inr h))
    · exact .inr (hevents ins h)
    · exact .inl (.inr h)
  authorized _ := .inl
  confirmed _ := .inl
  captured _ := .inl

theorem reservations_reserves {db db' : CatalogDb} {items : List Catalog.ReservationItem}
    (h : Catalog.Reserves db db' o items) :
    reservations db' = reservations db ++ items.map fun i => (o, i) := by
  obtain ⟨new, hrows, hitems⟩ := h.rows
  rw [reservations, hrows, List.map_append, hitems, reservations]

/-- The seller changes the stock. -/
theorem Advances.stockOp (hinv : Causal s) (op : Catalog.StockOp) :
    Advances s { s with catalog := (Tx.attempt op.tx s.catalog).db } := by
  obtain ⟨hstock, hrows, hout⟩ := Catalog.stockInv_stockOp op hinv.stock
  rw [← List.append_nil s.catalog.outbox] at hout
  refine Advances.catalog hinv hout (fun r hr => ?_) hstock (by simp)
  rwa [reservations, hrows]

variable [SerdeJson]

/-- The catalog decides about an order. -/
theorem Advances.decision (hinv : Causal s) {env : EventEnvelope}
    (htype : env.eventType = .orderCreated) (hjust : EventJustified s env) :
    Advances s { s with catalog := (Tx.attempt (Catalog.handle env) s.catalog).db } := by
  have hdecision := Catalog.handle_orderCreated s.catalog htype
  generalize Tx.attempt (Catalog.handle env) s.catalog = result at hdecision
  cases hdecision with
  | @reserved db' o items ins ho hitems hreserves hout hevent =>
    show Advances s { s with catalog := db' }
    have hrows := reservations_reserves hreserves
    refine Advances.catalog hinv hout (fun r hr => ?_) (hreserves.stockInv hinv.stock) ?_
    · rw [hrows]
      exact List.mem_append_left _ hr
    · intro ins' hins
      cases List.mem_singleton.mp hins
      refine ⟨o, hevent.orderId, ?_⟩
      -- the items of the event are those that the order service has stored
      obtain ⟨o', ho', hjust'⟩ := hjust
      obtain rfl : o = o' := Option.some.inj (ho.symm.trans ho')
      simp only [Justified, htype] at hjust'
      obtain rfl : items = demands s.order o := Except.ok.inj (hitems.symm.trans hjust'.2)
      simp only [Justified, hevent.eventType]
      refine ⟨hjust'.1, fun d hd => ?_⟩
      rw [hrows]
      exact List.mem_append_right _ (List.mem_map_of_mem hd)
  | @refused msg db' h =>
    show Advances s { s with catalog := db' }
    rcases h with rfl | ⟨o, ho, hemits⟩
    · exact hinv.refl
    · obtain ⟨ins, hout, hevent⟩ := hemits.outbox
      refine Advances.catalog hinv hout (fun r hr => ?_)
        (hinv.stock.frame hemits.skus hemits.inventoryReservations) ?_
      · rw [reservations, hemits.inventoryReservations]
        exact hr
      · intro ins' hins
        cases List.mem_singleton.mp hins
        refine ⟨o, hevent.orderId, ?_⟩
        simp only [Justified, hevent.eventType]

/-- The catalog handles an event. -/
theorem Advances.handleCatalog (hinv : Causal s) {env : EventEnvelope}
    (hjust : EventJustified s env) :
    Advances s { s with catalog := (Tx.attempt (Catalog.handle env) s.catalog).db } := by
  cases htype : env.eventType
  case orderCreated => exact Advances.decision hinv htype hjust
  case orderCancelled =>
    obtain ⟨o, ho, -⟩ := hjust
    obtain ⟨db', hatt, hrel, -⟩ := Catalog.handle_orderCancelled hinv.stock htype ho
    rw [hatt]
    show Advances s { s with catalog := db' }
    have hout : db'.outbox = s.catalog.outbox ++ [] := by rw [hrel.outbox, List.append_nil]
    refine Advances.catalog hinv hout (fun r hr => ?_) hrel.stockInv (by simp)
    rwa [reservations, hrel.items]
  all_goals
    have hatt : Tx.attempt (Catalog.handle env) s.catalog = .committed () s.catalog := by
      simp only [Catalog.handle, htype]
      rfl
    rw [hatt]
    exact hinv.refl

end Catalog

/-! ## The payment service -/

section Payment

variable {s : Services} {db : PaymentDb} {o : Uuid} {env : EventEnvelope}

theorem stateEffect_ne_new {t t' : EventType} {state state' : PaymentState}
    (h : StateEffect t state state' t') (hstate : state ≠ .new) : state' ≠ .new := by
  cases h with
  | failed => exact hstate
  | retried => exact hstate
  | authorized => nofun
  | captured => nofun
  | voided => nofun

/-- What justifies the event also justifies the records that the payment service makes. -/
theorem stateEffect_justified {t : EventType}
    (hjust : Justified s env o)
    (h : StateEffect env.eventType (s.payment.paymentState o) (db.paymentState o) t) :
    (db.paymentState o ≠ .new → Authorized s o ∨ Reserved s o) ∧
      (db.paymentState o = .captured → s.payment.paymentState o = .captured ∨ Confirmed s o) ∧
      (t = .paymentAuthorized → db.paymentState o ≠ .new) ∧
      (t = .paymentCaptureRetryRequested → Confirmed s o) ∧ topicOf t = .paymentsEvents := by
  unfold Authorized
  unfold Justified at hjust
  generalize env.eventType = t₀, s.payment.paymentState o = state, db.paymentState o = state' at *
  cases h with
  | failed => exact ⟨.inl, .inl, nofun, nofun, rfl⟩
  | retried h =>
    have hconfirmed : Confirmed s o := by rcases h with rfl | rfl <;> exact hjust
    exact ⟨.inl, .inl, nofun, fun _ => hconfirmed, rfl⟩
  | authorized => exact ⟨fun _ => .inr hjust, nofun, fun _ => nofun, nofun, rfl⟩
  | captured h =>
    have hconfirmed : Confirmed s o := by rcases h with rfl | rfl <;> exact hjust
    exact ⟨fun _ => .inl nofun, fun _ => .inr hconfirmed, nofun, nofun, rfl⟩
  | voided => exact ⟨fun _ => .inl nofun, nofun, nofun, nofun, rfl⟩

/-- The payment service has an effect on the order of a justified event. -/
theorem Advances.payment (hinv : Causal s) (hledger : LedgerInv db) (hjust : Justified s env o)
    (hothers : ∀ o', o' ≠ o → db.paymentState o' = s.payment.paymentState o') {ins : OutboxInsert}
    {t : EventType} (hout : db.outbox = s.payment.outbox ++ [ins])
    (hevent : IsEvent ins .paymentsEvents o t)
    (heffect : StateEffect env.eventType (s.payment.paymentState o) (db.paymentState o) t) :
    Advances s { s with payment := db } := by
  obtain ⟨hauthorized, hcaptured, hevauth, hevretry, htopic⟩ := stateEffect_justified hjust heffect
  have hgrows : Grows s { s with payment := db } := by
    refine { Grows.refl s with authorized := fun o' hauth => ?_ }
    show db.paymentState o' ≠ .new
    by_cases heq : o' = o
    · subst heq
      exact stateEffect_ne_new heffect hauth
    · rwa [hothers o' heq]
  refine ⟨hgrows, hinv.stock, hledger, hinv.items, hinv.history, fun ins' hins => ?_,
    fun o' h => ?_, fun _ => .inl, fun o' h => ?_⟩
  · simp only [Services.outbox, hout, List.mem_append, List.mem_singleton] at hins ⊢
    rcases hins with (h | h) | h | rfl
    · exact .inl (.inl (.inl h))
    · exact .inl (.inl (.inr h))
    · exact .inl (.inr h)
    · refine .inr ⟨o, hevent.orderId, ?_⟩
      unfold Justified
      rw [hevent.eventType]
      -- the two events of the payment service that need a justification
      cases t
      case paymentAuthorized => exact hevauth rfl
      case paymentCaptureRetryRequested => exact hgrows.confirmed o (hevretry rfl)
      case orderCreated | orderConfirmed | orderCancelled | inventoryReserved |
          inventoryReservationFailed | inventoryReleased => exact nomatch htopic
      all_goals trivial
  · have hne : db.paymentState o' ≠ .new := h
    by_cases heq : o' = o
    · subst heq
      exact (hauthorized hne).imp_right fun hres => hres.grows hgrows
    · rw [hothers o' heq] at hne
      exact .inl hne
  · have hstate : db.paymentState o' = .captured := h
    by_cases heq : o' = o
    · subst heq
      exact (hcaptured hstate).imp_right (hgrows.confirmed o')
    · rw [hothers o' heq] at hstate
      exact .inl hstate

variable [SerdeJson]

/-- The payment service handles an event. -/
theorem Advances.handlePayment (hinv : Causal s) (hjust : EventJustified s env) (tick : Nat)
    (gateway : PaymentGateway) :
    Advances s { s with payment :=
      (Tx.attempt (Payment.handle gateway env) (s.payment.startTransaction tick)).db } := by
  obtain ⟨hstart, hnow⟩ := hinv.ledger.startTransaction tick
  rcases Payment.handle_db gateway env (s.payment.startTransaction tick) with hdb | ⟨o, ho, heffect⟩
  · -- nothing but the clock has changed
    rw [hdb]
    exact ⟨⟨fun _ => id, fun _ _ => rfl, fun _ => id, fun _ => id, fun _ => id⟩, hinv.stock, hstart,
      hinv.items, hinv.history, fun _ => .inl, fun _ => .inl, fun _ => .inl, fun _ => .inl⟩
  · generalize (Tx.attempt (Payment.handle gateway env)
      (s.payment.startTransaction tick)).db = db' at heffect ⊢
    obtain ⟨hledger, hothers, t, ins, hout, hevent, hstate⟩ :=
      Payment.ledgerInv_effect hstart hnow heffect
    obtain ⟨o', ho', hjust'⟩ := hjust
    obtain rfl : o = o' := Option.some.inj (ho.symm.trans ho')
    exact Advances.payment hinv hledger hjust'
      (fun o' hne => hinv.ledger.paymentState_congr hledger (hothers o' hne)) hout hevent hstate

end Payment

/-! ## Runs -/

/-- A transaction of the given type in the ledger of an order. -/
def HasTransaction (s : Services) (o : Uuid) (type : Payment.TransactionType) : Prop :=
  ∃ t ∈ s.payment.ledgerTransactions.rows, t.orderId = o ∧ t.transactionType = type

theorem hasTransaction_iff {s : Services} {o : Uuid} {type : Payment.TransactionType} :
    HasTransaction s o type ↔ type ∈ ((s.payment.txsOf o).map Payment.kindOf).map Prod.fst := by
  simp only [HasTransaction, List.map_map, List.mem_map, PaymentDb.txsOf, List.mem_filter,
    decide_eq_true_eq, Function.comp_apply, and_assoc]

theorem hasTransaction_authorization {s : Services} (h : LedgerInv s.payment) (o : Uuid) :
    HasTransaction s o .authorization ↔ Authorized s o := by
  have hshape := h.shape_state o
  rw [hasTransaction_iff, Authorized]
  generalize (s.payment.txsOf o).map Payment.kindOf = kinds, s.payment.paymentState o = state
    at hshape
  cases hshape <;> decide

theorem hasTransaction_capture {s : Services} (h : LedgerInv s.payment) (o : Uuid) :
    HasTransaction s o .capture ↔ s.payment.paymentState o = .captured := by
  have hshape := h.shape_state o
  rw [hasTransaction_iff]
  generalize (s.payment.txsOf o).map Payment.kindOf = kinds, s.payment.paymentState o = state
    at hshape
  cases hshape <;> decide

section Service

variable [SerdeJson] {s s' : Services} {o : Uuid}

theorem advances_step {l : AnyLabel} (hinv : Causal s) (h : anyStep s l = some s') :
    Advances s s' := by
  cases l with
  | request r =>
    cases r with
    | createOrder user key req =>
      obtain ⟨db, hdb, rfl⟩ := Option.map_eq_some_iff.mp h
      exact Advances.requestOrder hinv (by simp) hdb
    | cancelOrder user o reason =>
      obtain ⟨db, hdb, rfl⟩ := Option.map_eq_some_iff.mp h
      exact Advances.requestOrder hinv (by simp) hdb
    | stock op =>
      cases h
      exact Advances.stockOp hinv op
  | deliver service ins tick gateway =>
    simp only [anyStep] at h
    split at h
    · rename_i hins
      cases h
      have hjust := hinv.events ins hins.1
      cases service with
      | order =>
        obtain ⟨o, ho, hjust⟩ := hjust
        refine Advances.handleOrder hinv fun o' ho' => ?_
        rwa [← Option.some.inj (ho.symm.trans ho')]
      | catalog => exact Advances.handleCatalog hinv hjust
      | payment => exact Advances.handlePayment hinv hjust tick gateway
    · exact nomatch h
  | timeOut env =>
    simp only [anyStep] at h
    split at h
    · rename_i htype
      cases h
      refine Advances.handleOrder hinv fun o _ => ?_
      simp only [Justified, htype]
    · exact nomatch h

theorem causal_step {l : AnyLabel} (hinv : Causal s) (h : anyStep s l = some s') : Causal s' :=
  hinv.advances (advances_step hinv h)

theorem causal_run {ls : List AnyLabel} (h : Run.run anyStep {} ls = some s) : Causal s :=
  Run.run_invariant (fun _ _ _ => causal_step) causal_empty h

/-- An authorization is never taken back. -/
theorem authorized_run {ls : List AnyLabel} (hinv : Causal s) (hauth : Authorized s o)
    (h : Run.run anyStep s ls = some s') : Authorized s' o := by
  have hstep : ∀ s l s', Causal s ∧ Authorized s o → anyStep s l = some s' →
      Causal s' ∧ Authorized s' o := fun s l s' ⟨hinv, hauth⟩ h =>
    ⟨causal_step hinv h, (advances_step hinv h).grows.authorized o hauth⟩
  exact (Run.run_invariant hstep ⟨hinv, hauth⟩ h).2

/-- An order that has been Confirmed was Confirmed before its payment was captured. -/
theorem confirmed_visited (ls : List AnyLabel) (h : Run.run anyStep {} ls = some s)
    (hconfirmed : Confirmed s o) :
    ∃ u, Run.Visits anyStep {} ls u ∧ u.order.statusOf o = some .confirmed ∧
      ¬ HasTransaction u o .capture := by
  -- induction on the run from its end: the step that confirms the order is in it
  induction ls using List.reverseRecOn generalizing s with
  | nil =>
    cases h
    simp [Confirmed, OrderDb.history] at hconfirmed
  | append_singleton ls l ih =>
    obtain ⟨t, ht, hstep⟩ := Run.run_concat_some h
    have hinv := causal_run ht
    by_cases hbefore : Confirmed t o
    · obtain ⟨u, ⟨pre, post, rfl, hu⟩, hstatus⟩ := ih ht hbefore
      exact ⟨u, ⟨pre, post ++ [l], by simp, hu⟩, hstatus⟩
    · -- the last step confirms the order
      obtain ⟨-, hstatus, hpayment⟩ :=
        ((advances_step hinv hstep).confirmed o hconfirmed).resolve_left hbefore
      refine ⟨s, ⟨ls ++ [l], [], by simp, h⟩, hstatus, fun hcapture => hbefore ?_⟩
      refine hinv.captured o ((hasTransaction_capture hinv.ledger o).mp ?_)
      rwa [HasTransaction, ← hpayment]

/-- No capture without confirmation, no confirmation without authorization, no authorization
    without reservation. -/
theorem saga_causality (ls : List AnyLabel) {s : Services}
    (hrun : Run.run anyStep {} ls = some s) (o : Uuid) :
    (HasTransaction s o .authorization → s.order.statusOf o ≠ none ∧
      ∀ item ∈ s.order.orderItems, item.orderId = o →
        ∃ r ∈ s.catalog.inventoryReservations.rows,
          r.orderId = o ∧ r.skuId = item.skuId ∧ r.quantity = item.quantity) ∧
    ((∃ u, Run.Visits anyStep {} ls u ∧ u.order.statusOf o = some .confirmed) →
      HasTransaction s o .authorization) ∧
    (HasTransaction s o .capture → ∃ u, Run.Visits anyStep {} ls u ∧
      u.order.statusOf o = some .confirmed ∧ ¬ HasTransaction u o .capture) := by
  have hinv := causal_run hrun
  refine ⟨fun hauth => ?_, ?_, fun hcapture => ?_⟩
  · obtain ⟨hborn, hreserved⟩ :=
      hinv.authorized o ((hasTransaction_authorization hinv.ledger o).mp hauth)
    refine ⟨hborn, fun item hitem ho => ?_⟩
    have hdemand : item.demand ∈ demands s.order o :=
      List.mem_map_of_mem (List.mem_filter.mpr ⟨hitem, by simpa using ho⟩)
    obtain ⟨r, hr, heq⟩ := List.mem_map.mp (hreserved _ hdemand)
    obtain ⟨horder, hitem⟩ := Prod.mk.inj heq
    obtain ⟨hsku, hquantity⟩ := Prod.mk.inj hitem
    exact ⟨r, hr, horder, hsku, hquantity⟩
  · rintro ⟨u, ⟨pre, post, rfl, hu⟩, hstatus⟩
    have hinvu := causal_run hu
    have hconfirmed : Confirmed u o := by
      rw [hinvu.history] at hstatus
      exact List.mem_of_getLast? hstatus
    -- authorized when it was Confirmed, and so ever since
    rw [Run.run_append, hu, Option.bind_some] at hrun
    exact (hasTransaction_authorization hinv.ledger o).mpr
      (authorized_run hinvu (hinvu.confirmed o hconfirmed) hrun)
  · exact confirmed_visited ls hrun
      (hinv.captured o ((hasTransaction_capture hinv.ledger o).mp hcapture))

end Service

/-- The run goes on: a service receives the first event of type `t` that was published. -/
def thenReceives (service : Service) (t : EventType) (ls : List AnyLabel) : List AnyLabel :=
  match (Run.run anyStep {} ls).bind fun s => s.outbox.find? (eventTypeOf · = t) with
  | some ins => ls ++ [.deliver service ins 0 approving]
  | none => ls

/-- The first order is placed, reserved, authorized, confirmed and captured; the payment service
    receives InventoryReserved twice. -/
def capturedRun : List AnyLabel :=
  [.request (.stock (.createSku 5)), .request (.createOrder sampleBuyer "key-1" sampleReq)]
    |> thenReceives .catalog .orderCreated
    |> thenReceives .payment .inventoryReserved
    |> thenReceives .payment .inventoryReserved
    |> thenReceives .order .inventoryReserved
    |> thenReceives .order .paymentAuthorized
    |> thenReceives .payment .orderConfirmed

theorem saga_causality_captured : ∃ s, Run.run anyStep {} capturedRun = some s ∧
    s.order.orderItems.map OrderItemEntity.demand = [(⟨1, 0⟩, 2)] ∧
    (∀ item ∈ s.order.orderItems, item.orderId = firstOrder →
      ∃ r ∈ s.catalog.inventoryReservations.rows,
        r.orderId = firstOrder ∧ r.skuId = item.skuId ∧ r.quantity = item.quantity) ∧
    HasTransaction s firstOrder .authorization ∧ HasTransaction s firstOrder .capture ∧
    ∃ u, Run.Visits anyStep {} capturedRun u ∧ u.order.statusOf firstOrder = some .confirmed ∧
      ¬ HasTransaction u firstOrder .capture := by
  obtain ⟨s, hrun, hitems, hcapture⟩ : ∃ s, Run.run anyStep {} capturedRun = some s ∧
      s.order.orderItems.map OrderItemEntity.demand = [(⟨1, 0⟩, 2)] ∧
      ∃ t ∈ s.payment.ledgerTransactions.rows,
        t.orderId = firstOrder ∧ t.transactionType = .capture :=
    Run.run_decide (by decide +kernel)
  obtain ⟨hreserved, hauthorized, hconfirmed⟩ := saga_causality capturedRun hrun firstOrder
  obtain ⟨u, hu, hstatus, hnot⟩ := hconfirmed hcapture
  have hauth := hauthorized ⟨u, hu, hstatus⟩
  exact ⟨s, hrun, hitems, (hreserved hauth).2, hauth, hcapture, u, hu, hstatus, hnot⟩

end Koupang.Saga
