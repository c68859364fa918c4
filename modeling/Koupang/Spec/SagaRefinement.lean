import Koupang.Spec.CatalogCorrect
import Koupang.Spec.SagaView

/-!
# The system refines the saga of every order

The view of an order is read off the tables of the three services and the
queues. Every step of the system is one step of the saga of every order.

## Key results

- `sysInv_step`: the invariants of the services, and that events are where they belong
- `step_refines`: a step of the system is a step of the saga of every order
-/

namespace Koupang.Saga

open Koupang.Order (OrderDb OrderStatus Wrote eventTypeOf)
open Koupang.Catalog (CatalogDb StockOp StockInv)
open Koupang.Payment (PaymentDb PaymentState PaymentGateway LedgerInv StateEffect)

/-! ## The view of an order -/

/-- The topic on which events of a type are published. -/
def topicOf : EventType → Topic
  | .orderCreated | .orderConfirmed | .orderCancelled => .ordersEvents
  | .inventoryReserved | .inventoryReservationFailed | .inventoryReleased => .catalogEvents
  | .paymentAuthorized | .paymentFailed | .paymentCaptured | .paymentVoided | .paymentTimedOut
  | .paymentCaptureRetryRequested => .paymentsEvents

/-- The order has a reservation in status `reserved`. -/
def holdsReservation (db : CatalogDb) (o : Uuid) : Bool :=
  !(Catalog.Repository.findAllReserved o db).isEmpty

def Message.eventType (m : Message) : EventType := m.env.eventType

/-- The types of the events of an order that a service has yet to receive on a topic. -/
def System.inFlight (s : System) (service : Service) (topic : Topic) (o : Uuid) : List EventType :=
  (s.queues ⟨service, topic, o⟩).map Message.eventType

def System.view (s : System) (o : Uuid) : View where
  status := s.services.order.statusOf o
  pay := s.services.payment.paymentState o
  reserved := holdsReservation s.services.catalog o
  catalogOrders := s.inFlight .catalog .ordersEvents o
  paymentOrders := s.inFlight .payment .ordersEvents o
  orderCatalog := s.inFlight .order .catalogEvents o
  paymentCatalog := s.inFlight .payment .catalogEvents o
  orderPayments := s.inFlight .order .paymentsEvents o
  paymentPayments := s.inFlight .payment .paymentsEvents o

namespace View

variable (v : View)

/-- The events about an order are published. -/
def publish (topic : Topic) (ts : List EventType) : View :=
  match topic with
  | .ordersEvents => v.publishOrders ts
  | .catalogEvents => v.publishCatalog ts
  | .paymentsEvents => v.publishPayments ts

/-- A channel is left with the events `q`. -/
def setQueue (service : Service) (topic : Topic) (q : List EventType) : View :=
  match service, topic with
  | .catalog, .ordersEvents => { v with catalogOrders := q }
  | .payment, .ordersEvents => { v with paymentOrders := q }
  | .order, .catalogEvents => { v with orderCatalog := q }
  | .payment, .catalogEvents => { v with paymentCatalog := q }
  | .order, .paymentsEvents => { v with orderPayments := q }
  | .payment, .paymentsEvents => { v with paymentPayments := q }
  | _, _ => v

@[simp] theorem publish_nil (topic : Topic) : v.publish topic [] = v := by
  cases topic <;> simp [publish, publishOrders, publishCatalog, publishPayments]

end View

/-! ## Events are where they belong -/

/-- The rows of the outbox are events about order `o`. -/
structure Publishes (new : List OutboxInsert) (topic : Topic) (o : Uuid) : Prop where
  isEvent : ∀ ins ∈ new, IsEvent ins topic o (eventTypeOf ins)
  topicOf : ∀ ins ∈ new, topicOf (eventTypeOf ins) = topic

theorem Publishes.nil (topic : Topic) (o : Uuid) : Publishes [] topic o :=
  ⟨by simp, by simp⟩

theorem Publishes.singleton {ins : OutboxInsert} {topic : Topic} {o : Uuid} {t : EventType}
    (h : IsEvent ins topic o t) (ht : Saga.topicOf t = topic) : Publishes [ins] topic o := by
  have htype : eventTypeOf ins = t := h.eventType
  constructor
  · intro ins' hins
    cases List.mem_singleton.mp hins
    rwa [htype]
  · intro ins' hins
    cases List.mem_singleton.mp hins
    rwa [htype]

theorem Publishes.filter_carries {new : List OutboxInsert} {topic : Topic} {o : Uuid}
    (h : Publishes new topic o) (c : Channel) :
    new.filter c.carries =
      if topic = c.topic ∧ o = c.order ∧ c.topic ∈ c.service.topics then new else [] := by
  have hcarries : ∀ ins ∈ new, c.carries ins =
      decide (topic = c.topic ∧ o = c.order ∧ c.topic ∈ c.service.topics) := by
    intro ins hins
    obtain ⟨-, ho, -, ht⟩ := h.isEvent ins hins
    simp [Channel.carries, ht, ho, Bool.and_assoc]
  rw [List.filter_congr hcarries]
  split
  · simp [*]
  · simp [*]

/-- An event reaches a subscriber of its topic, on the channel of its order. -/
structure Keyed (c : Channel) (m : Message) : Prop where
  orderId : m.env.payload.orderId = some c.order
  topicOf : topicOf m.env.eventType = c.topic
  subscribed : c.topic ∈ c.service.topics

structure SysInv (s : System) : Prop where
  keyed : ∀ c, ∀ m ∈ s.queues c, Keyed c m
  stock : StockInv s.services.catalog
  ledger : LedgerInv s.services.payment

theorem sysInv_empty : SysInv {} :=
  ⟨by simp, Catalog.stockInv_empty, Payment.ledgerInv_empty⟩

section Publish

variable {s : System} {new : List OutboxInsert} {topic : Topic} {o : Uuid}

@[simp] theorem publish_services (s : System) (new : List OutboxInsert) :
    (s.publish new).services = s.services := rfl

theorem SysInv.publish (hinv : SysInv s) (h : Publishes new topic o) : SysInv (s.publish new) := by
  refine { hinv with keyed := fun c m hm => ?_ }
  rcases List.mem_append.mp hm with hm | hm
  · exact hinv.keyed c m hm
  · -- a new message is on the channels of its topic and its order
    rw [h.filter_carries] at hm
    split at hm
    · rename_i hc
      obtain ⟨rfl, rfl, hsub⟩ := hc
      obtain ⟨ins, hins, rfl⟩ := List.mem_map.mp hm
      exact ⟨(h.isEvent ins hins).orderId, h.topicOf ins hins, hsub⟩
    · exact nomatch hm

theorem inFlight_publish (h : Publishes new topic o) (service : Service) (topic' : Topic)
    (o' : Uuid) :
    (s.publish new).inFlight service topic' o' = s.inFlight service topic' o' ++
      if topic = topic' ∧ o = o' ∧ topic' ∈ service.topics then new.map eventTypeOf else [] := by
  simp only [System.inFlight, System.publish, List.map_append, h.filter_carries]
  congr 1
  split
  · rw [List.map_map]
    rfl
  · rfl

theorem view_publish (h : Publishes new topic o) :
    (s.publish new).view o = (s.view o).publish topic (new.map eventTypeOf) := by
  cases topic <;>
    simp [System.view, View.publish, View.publishOrders, View.publishCatalog,
      View.publishPayments, inFlight_publish h, Service.topics]

theorem view_publish_other (h : Publishes new topic o) {o' : Uuid} (ho : o' ≠ o) :
    (s.publish new).view o' = s.view o' := by
  simp [System.view, inFlight_publish h, ho.symm]

end Publish

section SetQueue

variable {s : System} {c : Channel} {q : List Message}

theorem SysInv.setQueue (hinv : SysInv s) (hq : ∀ m ∈ q, Keyed c m) : SysInv (s.setQueue c q) := by
  refine { hinv with keyed := fun c' m hm => ?_ }
  simp only [System.setQueue] at hm
  split at hm
  · rename_i hc
    exact hc ▸ hq m hm
  · exact hinv.keyed c' m hm

theorem view_setQueue (hsub : c.topic ∈ c.service.topics) : (s.setQueue c q).view c.order =
    (s.view c.order).setQueue c.service c.topic (q.map Message.eventType) := by
  obtain ⟨service, topic, o⟩ := c
  cases service <;> cases topic <;> simp [Service.topics] at hsub <;>
    simp [System.view, View.setQueue, System.inFlight, System.setQueue]

theorem view_setQueue_other {o : Uuid} (ho : o ≠ c.order) : (s.setQueue c q).view o = s.view o := by
  have hne (service : Service) (topic : Topic) : (⟨service, topic, o⟩ : Channel) ≠ c := by
    rintro rfl
    exact ho rfl
  simp [System.view, System.inFlight, System.setQueue, hne]

end SetQueue

/-! ## The services go on -/

/-- The services went from `s` to `s'`, which has an effect on order `o` only, and have written
    the events `new` about it. -/
structure Progress (s s' : Services) (topic : Topic) (o : Uuid) (new : List OutboxInsert) :
    Prop where
  rows : newRows s s' = new
  publishes : Publishes new topic o
  status : ∀ o', o' ≠ o → s'.order.statusOf o' = s.order.statusOf o'
  pay : ∀ o', o' ≠ o → s'.payment.paymentState o' = s.payment.paymentState o'
  reserved : ∀ o', o' ≠ o → holdsReservation s'.catalog o' = holdsReservation s.catalog o'
  stock : StockInv s.catalog → StockInv s'.catalog
  ledger : LedgerInv s.payment → LedgerInv s'.payment

theorem Progress.refl (s : Services) (topic : Topic) (o : Uuid) : Progress s s topic o [] where
  rows := by simp [newRows]
  publishes := Publishes.nil topic o
  status _ _ := rfl
  pay _ _ := rfl
  reserved _ _ := rfl
  stock := id
  ledger := id

section Progress

variable {s : System} {services : Services} {topic : Topic} {o : Uuid} {new : List OutboxInsert}

theorem Progress.sysInv (h : Progress s.services services topic o new) (hinv : SysInv s) :
    SysInv (s.advance services) := by
  have hnext : SysInv { s with services } :=
    ⟨hinv.keyed, h.stock hinv.stock, h.ledger hinv.ledger⟩
  unfold System.advance
  rw [h.rows]
  exact hnext.publish h.publishes

theorem Progress.view (h : Progress s.services services topic o new) :
    (s.advance services).view o =
      { s.view o with
        status := services.order.statusOf o
        pay := services.payment.paymentState o
        reserved := holdsReservation services.catalog o }.publish topic (new.map eventTypeOf) := by
  unfold System.advance
  rw [h.rows, view_publish h.publishes]
  rfl

theorem Progress.view_other (h : Progress s.services services topic o new) {o' : Uuid}
    (ho : o' ≠ o) : (s.advance services).view o' = s.view o' := by
  unfold System.advance
  rw [h.rows, view_publish_other h.publishes ho]
  simp only [System.view, System.inFlight, h.status o' ho, h.pay o' ho, h.reserved o' ho]

end Progress

/-! ## Handling an event -/

theorem View.setQueue_same (v : View) (service : Service) (topic : Topic) (q : List EventType) :
    { v.setQueue service topic q with status := v.status, pay := v.pay, reserved := v.reserved } =
      v.setQueue service topic q := by
  cases service <;> cases topic <;> rfl

theorem view_setQueue_self (s : System) (c : Channel) :
    (s.view c.order).setQueue c.service c.topic ((s.queues c).map Message.eventType) =
      s.view c.order := by
  obtain ⟨service, topic, o⟩ := c
  cases service <;> cases topic <;> rfl

/-- A rejected event stays where it is, unless it was its last attempt or the error is permanent. -/
theorem requeue_cases (maxRetries : Nat) (m : Message) (rest : List Message) (verdict : Verdict) :
    (requeue maxRetries m rest verdict = rest ∧
      (verdict = .transient → maxRetries ≤ m.failures)) ∨
    ∃ failures, requeue maxRetries m rest verdict = { m with failures } :: rest := by
  cases verdict with
  | done => exact .inl ⟨rfl, nofun⟩
  | permanent => exact .inl ⟨rfl, nofun⟩
  | transient =>
    simp only [requeue]
    split
    · exact .inr ⟨_, rfl⟩
    · rename_i hlast
      exact .inl ⟨rfl, fun _ => Nat.le_of_not_lt hlast⟩

/-- The first message of channel `c` was handled, and the services went on to `r.2`. -/
structure Delivery (maxRetries : Nat) (s : System) (c : Channel) (m : Message)
    (rest : List Message) (voids : Prop) (r : Verdict × Services) : Prop where
  progress : ∃ topic new, Progress s.services r.2 topic c.order new
  view : ViewStep (s.view c.order) (.deliver c.service c.topic (maxRetries ≤ m.failures) voids)
    (((s.setQueue c (requeue maxRetries m rest r.1)).advance r.2).view c.order)

section Delivery

variable {maxRetries : Nat} {s : System} {c : Channel} {m : Message} {rest : List Message}
  {voids : Prop} {services : Services} {topic : Topic} {new : List OutboxInsert}

theorem Progress.view_setQueue (h : Progress s.services services topic c.order new)
    (hc : Keyed c m) (q : List Message) :
    ((s.setQueue c q).advance services).view c.order =
      { (s.view c.order).setQueue c.service c.topic (q.map Message.eventType) with
        status := services.order.statusOf c.order
        pay := services.payment.paymentState c.order
        reserved := holdsReservation services.catalog c.order }.publish topic
          (new.map eventTypeOf) := by
  have h' : Progress (s.setQueue c q).services services topic c.order new := h
  rw [h'.view, Saga.view_setQueue hc.subscribed]

/-- The event is handled, and the services go on. -/
theorem Progress.delivery (h : Progress s.services services topic c.order new) (hc : Keyed c m)
    {verdict : Verdict} (hverdict : verdict = .done ∨ verdict = .permanent)
    (hstep : ViewStep (s.view c.order)
      (.deliver c.service c.topic (maxRetries ≤ m.failures) voids)
      ({ (s.view c.order).setQueue c.service c.topic (rest.map Message.eventType) with
        status := services.order.statusOf c.order
        pay := services.payment.paymentState c.order
        reserved := holdsReservation services.catalog c.order }.publish topic
          (new.map eventTypeOf))) :
    Delivery maxRetries s c m rest voids (verdict, services) := by
  have hrest : requeue maxRetries m rest verdict = rest := by
    rcases hverdict with rfl | rfl
    · rfl
    · rfl
  refine ⟨⟨topic, new, h⟩, ?_⟩
  rw [hrest, h.view_setQueue hc]
  exact hstep

/-- The event has no effect, and is dropped or stays where it is. -/
theorem Progress.delivery_skip (h : Progress s.services services topic c.order [])
    (hc : Keyed c m) (hq : s.queues c = m :: rest) {verdict : Verdict}
    (hsame : { s with services }.view c.order = s.view c.order)
    (hstep : (verdict = .transient → maxRetries ≤ m.failures) → ViewStep (s.view c.order)
      (.deliver c.service c.topic (maxRetries ≤ m.failures) voids)
      ((s.view c.order).setQueue c.service c.topic (rest.map Message.eventType))) :
    Delivery maxRetries s c m rest voids (verdict, services) := by
  refine ⟨⟨topic, [], h⟩, ?_⟩
  have hview (q : List Message) : ((s.setQueue c q).advance services).view c.order =
      (s.view c.order).setQueue c.service c.topic (q.map Message.eventType) := by
    have hstatus : services.order.statusOf c.order = (s.view c.order).status :=
      congrArg View.status hsame
    have hpay : services.payment.paymentState c.order = (s.view c.order).pay :=
      congrArg View.pay hsame
    have hreserved : holdsReservation services.catalog c.order = (s.view c.order).reserved :=
      congrArg View.reserved hsame
    rw [h.view_setQueue hc, List.map_nil, View.publish_nil, hstatus, hpay, hreserved,
      View.setQueue_same]
  -- dropped, or put back: then the order sees no difference
  rcases requeue_cases maxRetries m rest verdict with ⟨hrest, hlast⟩ | ⟨failures, hrest⟩
  · rw [hrest, hview]
    exact hstep hlast
  · have htypes : ({ m with failures } :: rest).map Message.eventType =
        (s.queues c).map Message.eventType := by
      rw [hq]
      rfl
    rw [hrest, hview, htypes, view_setQueue_self]
    exact .stutter

end Delivery

/-! ## The order service -/

section Order

variable {s : Services} {db : OrderDb} {o : Uuid}

theorem Progress.order {ws : List OrderStatus} {new : List OutboxInsert}
    (h : Wrote s.order db o ws new)
    (htypes : ∀ t ∈ new.map eventTypeOf, topicOf t = .ordersEvents) :
    Progress s { s with order := db } .ordersEvents o new where
  rows := by simp [newRows, h.outbox]
  publishes :=
    ⟨fun ins hins =>
        ⟨rfl, h.new_aggregateId ins hins, h.new_orderId ins hins, h.new_topic ins hins⟩,
      fun ins hins => htypes _ (List.mem_map_of_mem hins)⟩
  status _ ho := h.statusOf_other ho
  pay _ _ := rfl
  reserved _ _ := rfl
  stock := id
  ledger := id

/-- The step of the saga in which the order service handles an event. -/
theorem viewStep_orderEffect {v : View} {topic : Topic} {last voids : Prop} {t : EventType}
    {q ts : List EventType} {status : OrderStatus} {ws : List OrderStatus}
    (heffect : Order.Effect t status ws ts) (htopic : topicOf t = topic)
    (hq : v.setQueue .order topic (t :: q) = v) (hstatus : v.status = some status)
    {status' : Option OrderStatus} (hstatus' : status' = ws.getLast?.or v.status) :
    ViewStep v (.deliver .order topic last voids)
      ({ v.setQueue .order topic q with
        status := status'
        pay := v.pay
        reserved := v.reserved }.publish .ordersEvents ts) := by
  subst htopic hstatus'
  cases heffect with
  | inventoryReserved =>
    rw [View.publish_nil]
    exact .orderReserved (congrArg View.orderCatalog hq).symm hstatus
  | inventoryReservationFailed h =>
    rw [View.publish_nil]
    exact .orderRefused (congrArg View.orderCatalog hq).symm hstatus h
  | paymentAuthorized => exact .orderConfirmed (congrArg View.orderPayments hq).symm hstatus
  | paymentFailed h =>
    exact .orderFailed (congrArg View.orderPayments hq).symm (.inl rfl) hstatus h
  | paymentTimedOut h =>
    exact .orderFailed (congrArg View.orderPayments hq).symm (.inr rfl) hstatus h

theorem orderEffect_topicOf {t : EventType} {status : OrderStatus} {ws : List OrderStatus}
    {ts : List EventType} (h : Order.Effect t status ws ts) :
    ∀ t' ∈ ts, topicOf t' = .ordersEvents := by
  cases h <;> simp [topicOf]

variable [SerdeJson]

/-- The order service handles an event, or it stays as it is; an event that it reacts to is then
    handled again. -/
theorem order_handle (env : EventEnvelope) (db : OrderDb) :
    (∃ db', Tx.attempt (Order.handle env) db = .committed () db' ∧ Order.Handled db db' env) ∨
      (Tx.attempt (Order.handle env) db).db = db ∧ (env.eventType ∈ Order.consumedTypes →
        verdictOf (Tx.attempt (Order.handle env) db) = .transient) := by
  have hdb := Tx.attempt_db_eq (Order.keepsPool_handle env) db
  cases hatt : Tx.attempt (Order.handle env) db with
  | committed u db' =>
    rcases Order.handle_committed hatt with ⟨rfl, htype⟩ | h
    · -- an event that the order service ignores
      exact .inr ⟨rfl, fun hmem => absurd hmem htype⟩
    · exact .inl ⟨db', rfl, h⟩
  | failed e db' =>
    rw [hatt] at hdb
    refine .inr ⟨hdb.resolve_left nofun, fun _ => ?_⟩
    simp [verdictOf, Order.handle_failed hatt]
  | aborted u db' =>
    rw [hatt] at hdb
    exact .inr ⟨hdb.resolve_left nofun, fun _ => rfl⟩

theorem delivery_order {maxRetries : Nat} {s : System} {topic : Topic} {m : Message}
    {rest : List Message} {voids : Prop} (hc : Keyed ⟨.order, topic, o⟩ m)
    (hq : s.queues ⟨.order, topic, o⟩ = m :: rest) (tick : Nat) (gateway : PaymentGateway) :
    Delivery maxRetries s ⟨.order, topic, o⟩ m rest voids
      (s.services.handle .order m.env tick gateway) := by
  have hself := view_setQueue_self s ⟨.order, topic, o⟩
  rw [hq] at hself
  simp only [Services.handle]
  rcases order_handle m.env s.services.order with ⟨db', hatt, h⟩ | ⟨hdb, hverdict⟩
  · obtain ⟨o', order, ws, new, ho', hfind, hwrote, -, heffect⟩ := h
    obtain rfl : o' = o := Option.some.inj (ho'.symm.trans hc.orderId)
    have hstatus : s.services.order.statusOf o' = some order.status := by
      simp [OrderDb.statusOf, hfind]
    rw [hatt]
    refine (Progress.order hwrote (orderEffect_topicOf heffect)).delivery hc (.inl rfl) ?_
    exact viewStep_orderEffect heffect hc.topicOf hself hstatus hwrote.statusOf
  · rw [hdb]
    refine (Progress.refl s.services .ordersEvents o).delivery_skip hc hq rfl fun hlast => ?_
    cases topic with
    | ordersEvents => exact absurd hc.subscribed (by simp [Service.topics])
    | catalogEvents => exact .orderSkipsCatalog (congrArg View.orderCatalog hself).symm
    | paymentsEvents =>
      refine .orderSkipsPayments (congrArg View.orderPayments hself).symm fun ht => ?_
      -- PaymentAuthorized would have been handled if the order were InventoryReserved
      have htype : m.env.eventType = .paymentAuthorized := ht
      have htransient := hverdict (by simp [htype, Order.consumedTypes])
      refine ⟨fun hstatus => ?_, hlast htransient⟩
      obtain ⟨order, hfind, hreserved⟩ := Option.map_eq_some_iff.mp hstatus
      obtain ⟨db', hatt⟩ :=
        Order.handle_paymentAuthorized_commits htype hc.orderId hfind hreserved
      simp [hatt, verdictOf] at htransient

end Order

section Catalog

variable {s : Services} {db : CatalogDb} {o : Uuid}

theorem Progress.catalog {new : List OutboxInsert} (hout : db.outbox = s.catalog.outbox ++ new)
    (hpub : Publishes new .catalogEvents o)
    (hothers : ∀ o', o' ≠ o → Catalog.Repository.findAllReserved o' db =
      Catalog.Repository.findAllReserved o' s.catalog)
    (hstock : StockInv s.catalog → StockInv db) :
    Progress s { s with catalog := db } .catalogEvents o new where
  rows := by simp [newRows, hout]
  publishes := hpub
  status _ _ := rfl
  pay _ _ := rfl
  reserved o' ho := by simp only [holdsReservation, hothers o' ho]
  stock := hstock
  ledger := id

theorem findAllReserved_reserves {db db' : CatalogDb} {items : List Catalog.ReservationItem}
    (h : Catalog.Reserves db db' o items) {o' : Uuid} (ho : o' ≠ o) :
    Catalog.Repository.findAllReserved o' db' = Catalog.Repository.findAllReserved o' db := by
  obtain ⟨new, hrows, hitems⟩ := h.rows
  have hnone : ∀ r ∈ new, r.orderId ≠ o' := by
    rintro r hr rfl
    have hmem : r.item ∈ new.map (·.item) := List.mem_map_of_mem hr
    rw [hitems] at hmem
    obtain ⟨i, -, hi⟩ := List.mem_map.mp hmem
    exact ho (congrArg Prod.fst hi).symm
  simp only [Catalog.Repository.findAllReserved, hrows, List.filter_append,
    List.append_right_eq_self, List.filter_eq_nil_iff]
  intro r hr
  simp [hnone r hr]

variable [SerdeJson]

theorem delivery_catalog {maxRetries : Nat} {s : System} {topic : Topic} {m : Message}
    {rest : List Message} {voids : Prop} (hinv : SysInv s) (hc : Keyed ⟨.catalog, topic, o⟩ m)
    (hq : s.queues ⟨.catalog, topic, o⟩ = m :: rest) (tick : Nat) (gateway : PaymentGateway) :
    Delivery maxRetries s ⟨.catalog, topic, o⟩ m rest voids
      (s.services.handle .catalog m.env tick gateway) := by
  obtain rfl : topic = .ordersEvents := by simpa [Service.topics] using hc.subscribed
  have hself : m.env.eventType :: rest.map Message.eventType = (s.view o).catalogOrders := by
    simp [System.view, System.inFlight, hq, Message.eventType]
  simp only [Services.handle]
  cases htype : m.env.eventType
  case orderCreated =>
    rw [htype] at hself
    have hdecision := Catalog.handle_orderCreated s.services.catalog htype
    generalize Tx.attempt (Catalog.handle m.env) s.services.catalog = result at hdecision
    cases hdecision with
    | @reserved db' o' items ins ho' hitems hreserves hout hevent =>
      obtain rfl : o' = o := Option.some.inj (ho'.symm.trans hc.orderId)
      refine (Progress.catalog hout (.singleton hevent rfl)
        (fun _ ho => findAllReserved_reserves hreserves ho) hreserves.stockInv).delivery hc
          (.inl rfl) ?_
      rw [List.map_singleton, show eventTypeOf ins = _ from hevent.eventType]
      exact .catalogReserves _ hself.symm
    | @refused msg db' h =>
      -- a permanent error: the event is dropped, with or without an answer
      rcases h with rfl | ⟨o', ho', hemits⟩
      · exact (Progress.refl s.services .catalogEvents o).delivery hc (.inr rfl)
          (.catalogRefuses hself.symm (.inl rfl))
      · obtain rfl : o' = o := Option.some.inj (ho'.symm.trans hc.orderId)
        obtain ⟨ins, hout, hevent⟩ := hemits.outbox
        have hothers (o'' : Uuid) : Catalog.Repository.findAllReserved o'' db' =
            Catalog.Repository.findAllReserved o'' s.services.catalog := by
          simp only [Catalog.Repository.findAllReserved, hemits.inventoryReservations]
        refine (Progress.catalog hout (.singleton hevent rfl) (fun o'' _ => hothers o'')
          fun h => h.frame hemits.skus hemits.inventoryReservations).delivery hc (.inr rfl) ?_
        rw [List.map_singleton, show eventTypeOf ins = _ from hevent.eventType]
        have hstep : ViewStep (s.view o') (.deliver .catalog .ordersEvents
            (maxRetries ≤ m.failures) voids)
            ({ s.view o' with
              catalogOrders := rest.map Message.eventType
              reserved := holdsReservation db' o' }.publishCatalog
                [.inventoryReservationFailed]) := by
          rw [holdsReservation, hothers]
          exact .catalogRefuses hself.symm (.inr rfl)
        exact hstep
  case orderCancelled =>
    rw [htype] at hself
    obtain ⟨db', hatt, hrel, hnil⟩ := Catalog.handle_orderCancelled hinv.stock htype hc.orderId
    rw [hatt]
    have hprog : Progress s.services { s.services with catalog := db' } .catalogEvents o [] :=
      Progress.catalog (by rw [hrel.outbox, List.append_nil]) (.nil _ _) hrel.others
        fun _ => hrel.stockInv
    refine hprog.delivery hc (.inl rfl) ?_
    rw [List.map_nil, View.publish_nil]
    have hstep : ViewStep (s.view o) (.deliver .catalog .ordersEvents
        (maxRetries ≤ m.failures) voids)
        { s.view o with
          catalogOrders := rest.map Message.eventType
          reserved := holdsReservation db' o } := by
      rw [holdsReservation, hnil]
      exact .catalogReleases hself.symm
    exact hstep
  -- the catalog ignores everything else
  all_goals
    rw [htype] at hself
    have hatt : Tx.attempt (Catalog.handle m.env) s.services.catalog =
        .committed () s.services.catalog := by
      simp only [Catalog.handle, htype]
      rfl
    rw [hatt]
    refine (Progress.refl s.services .catalogEvents o).delivery hc (.inl rfl) ?_
    rw [List.map_nil, View.publish_nil]
    exact .catalogIgnores hself.symm (by decide) (by decide)

end Catalog

section Payment

variable {s : Services} {db : PaymentDb} {o : Uuid}

theorem Progress.payment {new : List OutboxInsert} (hout : db.outbox = s.payment.outbox ++ new)
    (hpub : Publishes new .paymentsEvents o)
    (hothers : ∀ o', o' ≠ o → db.paymentState o' = s.payment.paymentState o')
    (hledger : LedgerInv s.payment → LedgerInv db) :
    Progress s { s with payment := db } .paymentsEvents o new where
  rows := by simp [newRows, hout]
  publishes := hpub
  status _ _ := rfl
  pay := hothers
  reserved _ _ := rfl
  stock := id
  ledger := hledger

theorem stateEffect_topicOf {t t' : EventType} {state state' : PaymentState}
    (h : StateEffect t state state' t') : topicOf t' = .paymentsEvents := by
  cases h <;> rfl

/-- The step of the saga in which the payment service handles an event. -/
theorem viewStep_stateEffect {v : View} {topic : Topic} {last voids : Prop} {t t' : EventType}
    {q : List EventType} {pay : PaymentState} (heffect : StateEffect t v.pay pay t')
    (htopic : topicOf t = topic) (hq : v.setQueue .payment topic (t :: q) = v) :
    ViewStep v (.deliver .payment topic last voids)
      ({ v.setQueue .payment topic q with
        status := v.status
        pay := pay
        reserved := v.reserved }.publish .paymentsEvents [t']) := by
  cases topic with
  | ordersEvents =>
    refine .paymentOrders (congrArg View.paymentOrders hq).symm ?_ heffect
    rintro rfl
    exact nomatch htopic
  | catalogEvents => exact .paymentCatalog (congrArg View.paymentCatalog hq).symm heffect
  | paymentsEvents =>
    refine .paymentPayments (congrArg View.paymentPayments hq).symm ?_ heffect
    rintro rfl
    exact nomatch htopic

variable [SerdeJson]

/-- The payment service handles an event, or it stays as it is. -/
theorem payment_handle (gateway : PaymentGateway) (env : EventEnvelope) (db : PaymentDb) :
    (∃ o db', Tx.attempt (Payment.handle gateway env) db = .committed () db' ∧
      env.payload.orderId = some o ∧ Payment.Effect db db' o env.eventType) ∨
      (Tx.attempt (Payment.handle gateway env) db).db = db := by
  rcases Tx.attempt_db_eq (Payment.keepsPool_handle gateway env) db with ⟨u, hatt⟩ | hdb
  · rcases Payment.handle_committed hatt with hdb | ⟨o, ho, heffect⟩
    · exact .inr hdb
    · exact .inl ⟨o, _, hatt, ho, heffect⟩
  · exact .inr hdb

theorem delivery_payment {maxRetries : Nat} {s : System} {topic : Topic} {m : Message}
    {rest : List Message} (hinv : SysInv s) (hc : Keyed ⟨.payment, topic, o⟩ m)
    (hq : s.queues ⟨.payment, topic, o⟩ = m :: rest) (tick : Nat) (gateway : PaymentGateway) :
    Delivery maxRetries s ⟨.payment, topic, o⟩ m rest (∀ ref, gateway.void ref = .ok ())
      (s.services.handle .payment m.env tick gateway) := by
  have hself := view_setQueue_self s ⟨.payment, topic, o⟩
  rw [hq] at hself
  obtain ⟨hstart, hnow⟩ := hinv.ledger.startTransaction tick
  simp only [Services.handle]
  rcases payment_handle gateway m.env (s.services.payment.startTransaction tick) with
    ⟨o', db', hatt, ho', heffect⟩ | hdb
  · obtain rfl : o' = o := Option.some.inj (ho'.symm.trans hc.orderId)
    obtain ⟨hinv', hothers, t', ins, hout, hevent, hstate⟩ :=
      Payment.ledgerInv_effect hstart hnow heffect
    have hpay (o'' : Uuid) (ho'' : o'' ≠ o') :
        db'.paymentState o'' = s.services.payment.paymentState o'' :=
      hinv.ledger.paymentState_congr hinv' (hothers o'' ho'')
    rw [hatt]
    refine (Progress.payment hout (.singleton hevent (stateEffect_topicOf hstate)) hpay
      fun _ => hinv').delivery hc (.inl rfl) ?_
    rw [List.map_singleton, show eventTypeOf ins = _ from hevent.eventType]
    exact viewStep_stateEffect hstate hc.topicOf hself
  · -- nothing but the clock has changed
    rw [hdb]
    have hprog : Progress s.services
        { s.services with payment := s.services.payment.startTransaction tick }
        .paymentsEvents o [] :=
      Progress.payment (List.append_nil _).symm (.nil _ _) (fun _ _ => rfl) fun _ => hstart
    refine hprog.delivery_skip hc hq rfl fun _ => ?_
    cases topic with
    | catalogEvents => exact .paymentSkipsCatalog (congrArg View.paymentCatalog hself).symm
    | paymentsEvents => exact .paymentSkipsPayments (congrArg View.paymentPayments hself).symm
    | ordersEvents =>
      refine .paymentSkipsOrders (congrArg View.paymentOrders hself).symm fun ht hvoid hpay => ?_
      -- the event would have been handled
      obtain ⟨db', hatt, heffect⟩ :=
        Payment.handle_orderCancelled_voids hstart ht hc.orderId hpay hvoid
      obtain ⟨-, -, t', ins, hout, -⟩ := Payment.ledgerInv_effect hstart hnow heffect
      rw [hatt] at hdb
      rw [show db' = _ from hdb] at hout
      simp at hout

end Payment

/-! ## Every step -/

/-- How an order sees a step. -/
def Label.action (maxRetries : Nat) (s : System) (o : Uuid) : Label → Action
  | .deliver c _ gateway =>
    if c.order = o then
      .deliver c.service c.topic (∀ m ∈ (s.queues c).head?, maxRetries ≤ m.failures)
        (∀ ref, gateway.void ref = .ok ())
    else .other
  | _ => .other

section Step

variable [SerdeJson]

theorem delivery {maxRetries : Nat} {s : System} {c : Channel} {m : Message}
    {rest : List Message} (hinv : SysInv s) (hq : s.queues c = m :: rest) (tick : Nat)
    (gateway : PaymentGateway) :
    Delivery maxRetries s c m rest (∀ ref, gateway.void ref = .ok ())
      (s.services.handle c.service m.env tick gateway) := by
  have hc : Keyed c m := hinv.keyed c m (by simp [hq])
  obtain ⟨service, topic, o⟩ := c
  cases service with
  | order => exact delivery_order hc hq tick gateway
  | catalog => exact delivery_catalog hinv hc hq tick gateway
  | payment => exact delivery_payment hinv hc hq tick gateway

/-- A request to the order service creates an order, cancels one, or does nothing. -/
theorem order_progress {s : System} {db : OrderDb} {op : Order.Op}
    (hop : ∀ env, op ≠ .handle env) (h : Order.step s.services.order op = some db) :
    ∃ o new, Progress s.services { s.services with order := db } .ordersEvents o new ∧
      ViewStep (s.view o) .other ((s.advance { s.services with order := db }).view o) := by
  rcases Order.step_cases h with rfl | ⟨o, hcreated⟩ |
    ⟨o, order, ws, new, hfind, hwrote, -, heffect⟩
  · -- the request fails; any order will do
    have hprog := Progress.refl s.services .ordersEvents ⟨0, 0⟩
    refine ⟨_, _, hprog, ?_⟩
    rw [hprog.view, List.map_nil, View.publish_nil]
    exact .stutter
  · obtain ⟨ins, rows, items, hwrote, htype, -⟩ := hcreated.wrote
    have hprog := Progress.order hwrote (by simp [htype, topicOf])
    refine ⟨o, _, hprog, ?_⟩
    rw [hprog.view, List.map_singleton, htype]
    have hstatus : db.statusOf o = some .pending := hwrote.statusOf
    have hstep : ViewStep (s.view o) .other
        ({ s.view o with status := db.statusOf o }.publishOrders [.orderCreated]) := by
      rw [hstatus]
      exact .create (by simp [System.view, OrderDb.statusOf, hcreated.fresh])
    exact hstep
  · generalize htypes : new.map eventTypeOf = types at heffect
    cases heffect with
    | cancelOrder hcancel =>
      have hprog := Progress.order hwrote (by simp [htypes, topicOf])
      refine ⟨o, _, hprog, ?_⟩
      rw [hprog.view, htypes]
      have hstatus : db.statusOf o = some .cancelled := hwrote.statusOf
      have hstep : ViewStep (s.view o) .other
          ({ s.view o with status := db.statusOf o }.publishOrders [.orderCancelled]) := by
        rw [hstatus]
        exact .cancel (by simp [System.view, OrderDb.statusOf, hfind]) hcancel
      exact hstep
    | handle => exact absurd rfl (hop _)

theorem request_progress {s : System} {services : Services} {r : Request} (hinv : SysInv s)
    (h : s.services.request r = some services) :
    ∃ topic o new, Progress s.services services topic o new ∧
      ViewStep (s.view o) .other ((s.advance services).view o) := by
  cases r with
  | createOrder user key req =>
    obtain ⟨db, hdb, rfl⟩ := Option.map_eq_some_iff.mp h
    exact ⟨_, order_progress (by simp) hdb⟩
  | cancelOrder user o reason =>
    obtain ⟨db, hdb, rfl⟩ := Option.map_eq_some_iff.mp h
    exact ⟨_, order_progress (by simp) hdb⟩
  | stock op =>
    cases h
    obtain ⟨hstock, hrows, hout⟩ := Catalog.stockInv_stockOp op hinv.stock
    have hothers (o : Uuid) : Catalog.Repository.findAllReserved o (Tx.attempt op.tx
        s.services.catalog).db = Catalog.Repository.findAllReserved o s.services.catalog := by
      simp only [Catalog.Repository.findAllReserved, hrows]
    -- no order sees it, so any order will do
    have hprog : Progress s.services
        { s.services with catalog := (Tx.attempt op.tx s.services.catalog).db }
        .catalogEvents ⟨0, 0⟩ [] :=
      Progress.catalog (by rw [hout, List.append_nil]) (.nil _ _) (fun o _ => hothers o)
        fun _ => hstock
    refine ⟨_, _, _, hprog, ?_⟩
    have hsame : holdsReservation (Tx.attempt op.tx s.services.catalog).db ⟨0, 0⟩ =
        holdsReservation s.services.catalog ⟨0, 0⟩ := by
      rw [holdsReservation, hothers, holdsReservation]
    rw [hprog.view, List.map_nil, View.publish_nil]
    have hstep : ViewStep (s.view ⟨0, 0⟩) .other { s.view ⟨0, 0⟩ with
        reserved := holdsReservation (Tx.attempt op.tx s.services.catalog).db ⟨0, 0⟩ } := by
      rw [hsame]
      exact .stutter
    exact hstep

theorem sysInv_step {maxRetries : Nat} {s t : System} {l : Label} (hinv : SysInv s)
    (h : step maxRetries s l = some t) : SysInv t := by
  cases l with
  | request r =>
    obtain ⟨services, hreq, rfl⟩ := Option.map_eq_some_iff.mp h
    obtain ⟨topic, o, new, hprog, -⟩ := request_progress hinv hreq
    exact hprog.sysInv hinv
  | timeOut env =>
    simp only [step] at h
    split at h
    · rename_i henv
      cases h
      exact hinv.publish (.singleton ⟨henv.1, rfl, henv.2, rfl⟩ rfl)
    · exact nomatch h
  | deliver c tick gateway =>
    simp only [step] at h
    split at h
    · exact nomatch h
    · rename_i m rest hq
      cases h
      have hdel : Delivery maxRetries s c m rest _ _ := delivery hinv hq tick gateway
      obtain ⟨topic, new, hprog⟩ := hdel.progress
      -- what is put back is the message that was there, with one more failure
      have hset : SysInv (s.setQueue c (requeue maxRetries m rest
          (s.services.handle c.service m.env tick gateway).1)) := by
        refine hinv.setQueue fun m' hm' => ?_
        rcases requeue_cases maxRetries m rest
          (s.services.handle c.service m.env tick gateway).1 with ⟨hrest, -⟩ | ⟨failures, hrest⟩
        · rw [hrest] at hm'
          exact hinv.keyed c m' (by simp [hq, hm'])
        · rw [hrest] at hm'
          rcases List.mem_cons.mp hm' with rfl | hm'
          · obtain ⟨horder, htopic, hsub⟩ := hinv.keyed c m (by simp [hq])
            exact ⟨horder, htopic, hsub⟩
          · exact hinv.keyed c m' (by simp [hq, hm'])
      exact Progress.sysInv hprog hset

theorem step_refines {maxRetries : Nat} {s t : System} {l : Label} (hinv : SysInv s)
    (h : step maxRetries s l = some t) (o : Uuid) :
    ViewStep (s.view o) (l.action maxRetries s o) (t.view o) := by
  cases l with
  | request r =>
    obtain ⟨services, hreq, rfl⟩ := Option.map_eq_some_iff.mp h
    obtain ⟨topic, o', new, hprog, hstep⟩ := request_progress hinv hreq
    -- the orders that the request is not about see nothing
    by_cases ho : o = o'
    · exact ho ▸ hstep
    · rw [hprog.view_other ho]
      exact .stutter
  | timeOut env =>
    simp only [step] at h
    split at h
    · rename_i henv
      cases h
      have hpub : Publishes [{ topic := .paymentsEvents, envelope := env }] .paymentsEvents
          env.metadata.aggregateId := .singleton ⟨henv.1, rfl, henv.2, rfl⟩ rfl
      by_cases ho : o = env.metadata.aggregateId
      · subst ho
        rw [view_publish hpub, List.map_singleton, show eventTypeOf _ = _ from henv.1]
        exact .timeOut
      · rw [view_publish_other hpub ho]
        exact .stutter
    · exact nomatch h
  | deliver c tick gateway =>
    simp only [step] at h
    split at h
    · exact nomatch h
    · rename_i m rest hq
      cases h
      have hdel : Delivery maxRetries s c m rest _ _ := delivery hinv hq tick gateway
      obtain ⟨⟨topic, new, hprog⟩, hstep⟩ := hdel
      by_cases ho : c.order = o
      · subst ho
        simpa [Label.action, hq] using hstep
      · have hprog' : Progress (s.setQueue c (requeue maxRetries m rest
          (s.services.handle c.service m.env tick gateway).1)).services _ topic c.order new := hprog
        rw [hprog'.view_other (Ne.symm ho), view_setQueue_other (Ne.symm ho)]
        exact .stutter

end Step

end Koupang.Saga
