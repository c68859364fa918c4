import Mathlib.Algebra.Order.BigOperators.Group.Finset
import Koupang.Spec.SagaCompensation

/-!
# Every saga comes to an end

The services answer events with events, a rejected event is handled again, and a
capture asks for its own repetition. What bounds all this is the work that is
left of an order: the attempts at the messages in flight, and the events that
can still follow from them. An order is cancelled at most once, so what follows
from a cancellation is counted with the status of the order and not with the
events that can cause it.

## Key results

- `step_work`: what a step does to the work that is left of an order
- `deliveries_le`: how many deliveries an order can ever cause
- `saga_completes`: deliveries alone end, and they can always be carried to an end
-/

namespace Koupang.Saga

open Koupang.Order (OrderDb OrderStatus Wrote eventTypeOf sampleReq sampleBuyer firstOrder)
open Koupang.Catalog (CatalogDb)
open Koupang.Payment (PaymentDb PaymentGateway maxCaptureRetries approving)

/-! ## The work that is left -/

/-- The service that may answer an event with another. -/
def answers : EventType → Service
  | .orderCreated => .catalog
  | .orderConfirmed | .orderCancelled | .inventoryReserved | .paymentCaptureRetryRequested =>
    .payment
  | _ => .order

/-- The number of events that can follow from an event one after the other, those of a
    cancellation apart; `retryCount` is the counter in its payload. -/
def followersOf (retryCount : Nat) : EventType → Nat
  | .orderCreated => 14
  | .inventoryReserved => 13
  | .paymentAuthorized => 12
  | .orderConfirmed => 11
  -- the capture is tried again until the counter is ten, and then it fails
  | .paymentCaptureRetryRequested => maxCaptureRetries - retryCount + 1
  | .orderCancelled => 1
  | _ => 0

def followers (env : EventEnvelope) : Nat :=
  followersOf (asU32 (env.payload.retryCount.getD 0)) env.eventType

/-- The handlings of an event at its two subscribers, each tried again up to `maxRetries`
    times. -/
def eventWork (maxRetries : Nat) : Nat := 2 * (maxRetries + 1)

/-- What a message can cost the services. -/
def Message.work (maxRetries : Nat) (service : Service) (m : Message) : Nat :=
  maxRetries - m.failures + 1 +
    if answers m.env.eventType = service then eventWork maxRetries * followers m.env else 0

def queueWork (maxRetries : Nat) (service : Service) (q : List Message) : Nat :=
  (q.map (·.work maxRetries service)).sum

/-- An order that is not yet cancelled can be: OrderCancelled and PaymentVoided are to come. -/
def statusWork (maxRetries : Nat) : Option OrderStatus → Nat
  | none | some .cancelled => 0
  | some _ => eventWork maxRetries * 2

/-- The channels on which the events of an order are received. -/
def channelsOf (o : Uuid) : List Channel :=
  [⟨.catalog, .ordersEvents, o⟩, ⟨.payment, .ordersEvents, o⟩, ⟨.order, .catalogEvents, o⟩,
    ⟨.payment, .catalogEvents, o⟩, ⟨.order, .paymentsEvents, o⟩, ⟨.payment, .paymentsEvents, o⟩]

/-- What the events in flight about an order can cost the services. -/
def System.flightWork (maxRetries : Nat) (s : System) (o : Uuid) : Nat :=
  ((channelsOf o).map fun c => queueWork maxRetries c.service (s.queues c)).sum

/-- What an order that exists can still cost the services. -/
def System.work (maxRetries : Nat) (s : System) (o : Uuid) : Nat :=
  s.flightWork maxRetries o + statusWork maxRetries (s.services.order.statusOf o)

/-- What the events of an outbox can cost the services. -/
def outboxWork (maxRetries : Nat) (new : List OutboxInsert) : Nat :=
  (new.map fun ins => eventWork maxRetries * (followers ins.envelope + 1)).sum

section Queues

variable {maxRetries : Nat} {s : System} {c : Channel} {q : List Message} {service : Service}

@[simp] theorem queueWork_nil : queueWork maxRetries service [] = 0 := rfl

@[simp] theorem queueWork_cons (m : Message) : queueWork maxRetries service (m :: q) =
    m.work maxRetries service + queueWork maxRetries service q := by
  simp [queueWork]

@[simp] theorem queueWork_append (q' : List Message) : queueWork maxRetries service (q ++ q') =
    queueWork maxRetries service q + queueWork maxRetries service q' := by
  simp [queueWork]

@[simp] theorem outboxWork_nil : outboxWork maxRetries [] = 0 := rfl

theorem outboxWork_singleton (ins : OutboxInsert) : outboxWork maxRetries [ins] =
    eventWork maxRetries * (followers ins.envelope + 1) := by
  simp [outboxWork]

theorem statusWork_of_canCancel {status : OrderStatus} (h : status.canCancel = true) :
    statusWork maxRetries (some status) = eventWork maxRetries * 2 := by
  cases status <;> first | rfl | exact absurd h (by decide)

variable (maxRetries service) in
theorem Message.work_pos (m : Message) : 0 < m.work maxRetries service := by
  unfold Message.work
  omega

theorem flightWork_setQueue (hsub : c.topic ∈ c.service.topics) :
    (s.setQueue c q).flightWork maxRetries c.order + queueWork maxRetries c.service (s.queues c) =
      s.flightWork maxRetries c.order + queueWork maxRetries c.service q := by
  obtain ⟨service, topic, o⟩ := c
  cases service <;> cases topic <;> simp [Service.topics] at hsub <;>
    simp [System.flightWork, channelsOf, System.setQueue] <;> omega

theorem flightWork_setQueue_other {o : Uuid} (ho : o ≠ c.order) :
    (s.setQueue c q).flightWork maxRetries o = s.flightWork maxRetries o := by
  have hne (service : Service) (topic : Topic) : (⟨service, topic, o⟩ : Channel) ≠ c := by
    rintro rfl
    exact ho rfl
  simp [System.flightWork, channelsOf, System.setQueue, hne]

variable (maxRetries) in
/-- Both subscribers of an event may have to try as often as they can, and one of them may
    answer it. -/
theorem work_fresh {env : EventEnvelope} {service service' : Service} (hne : service ≠ service')
    (hanswers : answers env.eventType = service ∨ answers env.eventType = service') :
    Message.work maxRetries service { env } + Message.work maxRetries service' { env } =
      eventWork maxRetries * (followers env + 1) := by
  rcases hanswers with rfl | rfl
  · simp [Message.work, hne, eventWork]
    ring
  · simp [Message.work, hne.symm, eventWork]
    ring

theorem queueWork_published {new : List OutboxInsert} {service service' : Service}
    (hne : service ≠ service') (hanswers : ∀ ins ∈ new,
      answers ins.envelope.eventType = service ∨ answers ins.envelope.eventType = service') :
    queueWork maxRetries service (new.map fun ins => { env := ins.envelope }) +
      queueWork maxRetries service' (new.map fun ins => { env := ins.envelope }) =
        outboxWork maxRetries new := by
  induction new with
  | nil => rfl
  | cons ins new ih =>
    have hfresh := work_fresh maxRetries hne (hanswers ins (by simp))
    have hrest := ih fun ins' hins' => hanswers ins' (List.mem_cons_of_mem _ hins')
    simp only [List.map_cons, queueWork_cons, outboxWork, List.sum_cons]
    simp only [outboxWork] at hrest
    omega

/-- The service that may answer an event subscribes to its topic. -/
theorem answers_subscribed (t : EventType) : topicOf t ∈ (answers t).topics := by
  cases t <;> decide

theorem flightWork_publish {new : List OutboxInsert} {topic : Topic} {o : Uuid}
    (h : Publishes new topic o) : (s.publish new).flightWork maxRetries o =
      s.flightWork maxRetries o + outboxWork maxRetries new := by
  -- the events are received by the two subscribers of the topic
  have hwork (service service' : Service) (hne : service ≠ service')
      (hsubs : ∀ other : Service, topic ∈ other.topics → other = service ∨ other = service') :
      queueWork maxRetries service (new.map fun ins => { env := ins.envelope }) +
        queueWork maxRetries service' (new.map fun ins => { env := ins.envelope }) =
          outboxWork maxRetries new :=
    queueWork_published hne fun ins hins => by
      have htopic := h.topicOf ins hins
      exact hsubs _ (htopic ▸ answers_subscribed _)
  cases topic with
  | ordersEvents =>
    have := hwork .catalog .payment (by decide)
      fun other => by cases other <;> simp [Service.topics]
    simp [System.flightWork, channelsOf, System.publish, h.filter_carries, Service.topics]
    omega
  | catalogEvents =>
    have := hwork .order .payment (by decide)
      fun other => by cases other <;> simp [Service.topics]
    simp [System.flightWork, channelsOf, System.publish, h.filter_carries, Service.topics]
    omega
  | paymentsEvents =>
    have := hwork .order .payment (by decide)
      fun other => by cases other <;> simp [Service.topics]
    simp [System.flightWork, channelsOf, System.publish, h.filter_carries, Service.topics]
    omega

theorem flightWork_publish_other {new : List OutboxInsert} {topic : Topic} {o o' : Uuid}
    (h : Publishes new topic o) (ho : o' ≠ o) :
    (s.publish new).flightWork maxRetries o' = s.flightWork maxRetries o' := by
  simp [System.flightWork, channelsOf, System.publish, h.filter_carries, ho.symm]

end Queues

/-! ## Handling a message -/

/-- What the handling of the message takes off the work of its order: it is dropped or put back
    without an effect, or what follows from it pays for the events that it is answered with. -/
structure Reacts (maxRetries : Nat) (s : Services) (c : Channel) (m : Message)
    (r : Verdict × Services) : Prop where
  rejected : r.1 = .transient → newRows s r.2 = [] ∧
    r.2.order.statusOf c.order = s.order.statusOf c.order
  work : outboxWork maxRetries (newRows s r.2) +
      statusWork maxRetries (r.2.order.statusOf c.order) ≤
    (if answers m.env.eventType = c.service then eventWork maxRetries * followers m.env else 0) +
      statusWork maxRetries (s.order.statusOf c.order)
  exists_kept : s.order.statusOf c.order ≠ none → r.2.order.statusOf c.order ≠ none

/-- Nothing happens to the order. -/
theorem Reacts.unchanged {maxRetries : Nat} {s services : Services} {c : Channel} {m : Message}
    {verdict : Verdict} (hrows : newRows s services = [])
    (hstatus : services.order.statusOf c.order = s.order.statusOf c.order) :
    Reacts maxRetries s c m (verdict, services) := by
  refine ⟨fun _ => ⟨hrows, hstatus⟩, ?_, fun hne => by rwa [hstatus]⟩
  rw [hrows, hstatus, outboxWork_nil]
  omega

theorem followers_eq {env : EventEnvelope} {t : EventType} (h : env.eventType = t) :
    followers env = followersOf (asU32 (env.payload.retryCount.getD 0)) t := by
  rw [followers, h]

section Order

variable [SerdeJson] {maxRetries : Nat} {s : Services} {topic : Topic} {o : Uuid} {m : Message}

theorem reacts_order (hc : Keyed ⟨.order, topic, o⟩ m) (tick : Nat) (gateway : PaymentGateway) :
    Reacts maxRetries s ⟨.order, topic, o⟩ m (s.handle .order m.env tick gateway) := by
  simp only [Services.handle]
  rcases order_handle m.env s.order with ⟨db', hatt, h⟩ | ⟨hdb, -⟩
  · obtain ⟨o', order, ws, new, ho', hfind, hwrote, -, heffect⟩ := h
    obtain rfl : o' = o := Option.some.inj (ho'.symm.trans hc.orderId)
    have hstatus : s.order.statusOf o' = some order.status := by
      simp [OrderDb.statusOf, hfind]
    have hstatus' : db'.statusOf o' = ws.getLast?.or (s.order.statusOf o') := hwrote.statusOf
    have hrows : newRows s { s with order := db' } = new := by simp [newRows, hwrote.outbox]
    rw [hatt]
    refine ⟨by simp [verdictOf], ?_, fun _ => by simp [Tx.Attempt.db, hstatus', hstatus]⟩
    show outboxWork maxRetries (newRows s { s with order := db' }) +
      statusWork maxRetries (db'.statusOf o') ≤ _
    rw [hrows, hstatus', hstatus]
    generalize order.status = status at heffect
    generalize htype : m.env.eventType = t at heffect
    generalize htypes : new.map eventTypeOf = types at heffect
    cases heffect with
    | inventoryReserved =>
      simp [List.map_eq_nil_iff.mp htypes, statusWork]
    | inventoryReservationFailed h =>
      simp [List.map_eq_nil_iff.mp htypes, statusWork]
    | paymentAuthorized =>
      obtain ⟨ins, rfl, hins⟩ := List.map_eq_singleton_iff.mp htypes
      have hfollow : followers ins.envelope = 11 := followers_eq hins
      rw [outboxWork_singleton, hfollow, followers_eq htype]
      simp [answers, followersOf, statusWork]
    | paymentFailed h =>
      -- an order that is cancelled now was not before
      obtain ⟨ins, rfl, hins⟩ := List.map_eq_singleton_iff.mp htypes
      have hfollow : followers ins.envelope = 1 := followers_eq hins
      rw [outboxWork_singleton, hfollow, statusWork_of_canCancel h]
      simp [statusWork]
    | paymentTimedOut h =>
      obtain ⟨ins, rfl, hins⟩ := List.map_eq_singleton_iff.mp htypes
      have hfollow : followers ins.envelope = 1 := followers_eq hins
      rw [outboxWork_singleton, hfollow, statusWork_of_canCancel h]
      simp [statusWork]
  · rw [hdb]
    exact .unchanged (by simp [newRows]) rfl

end Order

section Catalog

variable {maxRetries : Nat} {s : Services} {topic : Topic} {o : Uuid} {m : Message}

/-- The catalog answers with the events `new`; the order service does not take part. -/
theorem Reacts.catalog {db : CatalogDb} {verdict : Verdict} {new : List OutboxInsert}
    (hout : db.outbox = s.catalog.outbox ++ new) (hverdict : verdict = .transient → new = [])
    (hwork : outboxWork maxRetries new ≤
      if answers m.env.eventType = .catalog then eventWork maxRetries * followers m.env else 0) :
    Reacts maxRetries s ⟨.catalog, topic, o⟩ m (verdict, { s with catalog := db }) := by
  have hrows : newRows s { s with catalog := db } = new := by simp [newRows, hout]
  refine ⟨fun hv => ⟨hrows.trans (hverdict hv), rfl⟩, ?_, id⟩
  simp only [hrows]
  omega

variable [SerdeJson]

theorem reacts_catalog (hinv : Catalog.StockInv s.catalog) (hc : Keyed ⟨.catalog, topic, o⟩ m)
    (tick : Nat) (gateway : PaymentGateway) :
    Reacts maxRetries s ⟨.catalog, topic, o⟩ m (s.handle .catalog m.env tick gateway) := by
  simp only [Services.handle]
  cases htype : m.env.eventType
  case orderCreated =>
    have hfollow : followers m.env = 14 := followers_eq htype
    have hdecision := Catalog.handle_orderCreated s.catalog htype
    generalize Tx.attempt (Catalog.handle m.env) s.catalog = result at hdecision
    cases hdecision with
    | @reserved db' o' items ins ho' hitems hreserves hout hevent =>
      have hins : followers ins.envelope = 13 := followers_eq hevent.eventType
      refine Reacts.catalog hout (by simp [verdictOf]) ?_
      simp [outboxWork_singleton, hfollow, hins, htype, answers]
    | @refused msg db' h =>
      rcases h with rfl | ⟨o', -, hemits⟩
      · exact .unchanged (by simp [newRows, Tx.Attempt.db]) rfl
      · obtain ⟨ins, hout, hevent⟩ := hemits.outbox
        have hins : followers ins.envelope = 0 := followers_eq hevent.eventType
        refine Reacts.catalog hout (by simp [verdictOf, HandlerError.isTransient]) ?_
        simp [outboxWork_singleton, hfollow, hins, htype, answers]
        omega
  case orderCancelled =>
    obtain ⟨db', hatt, hrel, -⟩ := Catalog.handle_orderCancelled hinv htype hc.orderId
    rw [hatt]
    exact .unchanged (by simp [newRows, hrel.outbox, Tx.Attempt.db]) rfl
  -- the catalog ignores everything else
  all_goals
    have hatt : Tx.attempt (Catalog.handle m.env) s.catalog = .committed () s.catalog := by
      simp only [Catalog.handle, htype]
      rfl
    rw [hatt]
    exact .unchanged (by simp [newRows, Tx.Attempt.db]) rfl

end Catalog

section Payment

open Koupang.Payment

variable [SerdeJson] {maxRetries : Nat} {gateway : PaymentGateway} {o : Uuid}

theorem writeOutbox_appends {t : EventType} {payload : Payload} {s s' : TxState PaymentDb}
    {u : Unit} (h : writeOutbox o t payload s = .ok u s') :
    s'.db.outbox = s.db.outbox ++ [s.db.event o t payload] := by
  obtain ⟨-, -, rfl⟩ := writeOutbox_ok.mp h
  rfl

/-- An attempt at the capture that asks for another one writes down how many there were. -/
theorem captureOnTx_retryCount {retryCount : Nat} {declined : String} {db : PaymentDb}
    {s : TxState PaymentDb} {u : Unit}
    (h : captureOnTx gateway o retryCount declined (Tx.begin db) = .ok u s) {ins : OutboxInsert}
    (hout : s.db.outbox = db.outbox ++ [ins])
    (htype : ins.envelope.eventType = .paymentCaptureRetryRequested) :
    ins.envelope.payload.retryCount = some retryCount := by
  simp only [captureOnTx, Tx.bind_ok, Tx.readPool_ok, Tx.ofExcept_ok] at h
  obtain ⟨_, _, ⟨rfl, rfl⟩, auth, _, ⟨hauth, rfl⟩, h⟩ := h
  cases hresult : gateway.capture auth.gatewayRef with
  | ok _ =>
    simp only [hresult] at h
    rw [recordCapture_eq] at h
    obtain ⟨db', rfl, hrec⟩ := recordTransaction_ok (fun _ => rfl) h
    obtain ⟨ins', hout', hevent⟩ := hrec.outbox
    obtain rfl : ins' = ins := by simpa using hout'.symm.trans hout
    exact absurd (hevent.eventType.symm.trans htype) (by decide)
  | error gwErr =>
    simp only [hresult] at h
    split at h
    · obtain rfl := List.singleton_inj.mp
        (List.append_cancel_left ((writeOutbox_appends h).symm.trans hout))
      rfl
    · obtain rfl := List.singleton_inj.mp
        (List.append_cancel_left ((writeOutbox_appends h).symm.trans hout))
      cases htype

/-- The counter of a retry goes up with every event, until it is ten. -/
theorem handle_retryCount {env : EventEnvelope} {db db' : PaymentDb}
    (h : Tx.attempt (handle gateway env) db = .committed () db') {ins : OutboxInsert}
    (hout : db'.outbox = db.outbox ++ [ins])
    (htype : ins.envelope.eventType = .paymentCaptureRetryRequested) :
    env.eventType = .orderConfirmed ∧ ins.envelope.payload.retryCount = some 1 ∨
      env.eventType = .paymentCaptureRetryRequested ∧
        ∃ n, n = asU32 (env.payload.retryCount.getD 0) ∧ n < maxCaptureRetries ∧
          ins.envelope.payload.retryCount = some (n + 1) := by
  have heffect := (handle_committed h).resolve_left fun hsame => by simp [hsame] at hout
  obtain ⟨o, ho, heffect⟩ := heffect
  obtain ⟨s, hs, -, rfl⟩ := Tx.attempt_eq_committed.mp h
  -- only an attempt at the capture asks for a retry
  have hcapture : env.eventType = .orderConfirmed ∨
      env.eventType = .paymentCaptureRetryRequested := by
    have hother {t : EventType} (hne : t ≠ .paymentCaptureRetryRequested) :
        ¬ ∃ ins, s.db.outbox = db.outbox ++ [ins] ∧ IsEvent ins .paymentsEvents o t := by
      rintro ⟨ins', hout', hevent⟩
      obtain rfl : ins' = ins := by simpa using hout'.symm.trans hout
      exact hne (hevent.eventType.symm.trans htype)
    cases heffect with
    | failed _ h => exact absurd h.outbox (hother (by decide))
    | retried ht => exact ht
    | authorized _ _ _ h => exact absurd h.outbox (hother (by decide))
    | captured ht => exact ht
    | voided _ _ _ _ _ _ h => exact absurd h.outbox (hother (by decide))
  rcases hcapture with henv | henv
  · simp only [handle, henv, Tx.bind_ok, Tx.mapErr_ok, Tx.ofExcept_ok, handleOrderConfirmed,
      payloadOrderId_ok] at hs
    obtain ⟨_, _, ⟨-, rfl⟩, o, _, ⟨-, rfl⟩, hs⟩ := hs
    exact .inl ⟨henv, captureOnTx_retryCount hs hout htype⟩
  · simp only [handle, henv, Tx.bind_ok, Tx.mapErr_ok, Tx.ofExcept_ok, handleCaptureRetry,
      payloadOrderId_ok] at hs
    obtain ⟨_, _, ⟨-, rfl⟩, o, _, ⟨-, rfl⟩, hs⟩ := hs
    split at hs
    · -- the retries are used up
      obtain rfl := List.singleton_inj.mp
        (List.append_cancel_left ((writeOutbox_appends hs).symm.trans hout))
      cases htype
    · rename_i hlt
      exact .inr ⟨henv, _, rfl, Nat.lt_of_not_le hlt, captureOnTx_retryCount hs hout htype⟩

/-- The event that the payment service answers with has fewer followers. -/
theorem handle_followers {env : EventEnvelope} {db db' : PaymentDb}
    (h : Tx.attempt (handle gateway env) db = .committed () db')
    (heffect : Payment.Effect db db' o env.eventType) {ins : OutboxInsert}
    (hout : db'.outbox = db.outbox ++ [ins]) :
    answers env.eventType = .payment ∧ followers ins.envelope + 1 ≤ followers env := by
  have hins {t : EventType} (hwrites : ∃ ins, db'.outbox = db.outbox ++ [ins] ∧
      IsEvent ins .paymentsEvents o t) : ins.envelope.eventType = t := by
    obtain ⟨ins', hout', hevent⟩ := hwrites
    obtain rfl : ins' = ins := by simpa using hout'.symm.trans hout
    exact hevent.eventType
  cases heffect with
  | failed ht h =>
    rw [followers_eq (hins h.outbox)]
    rcases ht with ht | ht | ht
    · simp [followers, ht, followersOf, answers]
    · simp [followers, ht, followersOf, answers]
    · simp [followers, ht, followersOf, answers]
  | retried ht he =>
    rw [followers_eq (hins he.outbox)]
    have hmax : maxCaptureRetries = 10 := rfl
    rcases handle_retryCount h hout (hins he.outbox) with ⟨henv, hcount⟩ |
      ⟨henv, n, hn, hlt, hcount⟩
    · simp [followers, henv, followersOf, answers, hcount, hmax, asU32]
    · have hnext : asU32 (n + 1) = n + 1 := by
        unfold asU32
        omega
      simp [followers, henv, followersOf, answers, hcount, hnext, ← hn]
      omega
  | authorized ht _ _ h =>
    rw [followers_eq (hins h.outbox)]
    simp [followers, ht, followersOf, answers]
  | captured ht _ _ h =>
    rw [followers_eq (hins h.outbox)]
    rcases ht with ht | ht
    · simp [followers, ht, followersOf, answers]
    · simp [followers, ht, followersOf, answers]
  | voided ht _ _ _ _ _ h =>
    rw [followers_eq (hins h.outbox)]
    simp [followers, ht, followersOf, answers]

omit [SerdeJson] in
theorem effect_appends {db db' : PaymentDb} {t : EventType} (h : Payment.Effect db db' o t) :
    ∃ ins, db'.outbox = db.outbox ++ [ins] := by
  cases h with
  | failed _ h | retried _ h => exact h.outbox.imp fun _ => And.left
  | authorized _ _ _ h | captured _ _ _ h | voided _ _ _ _ _ _ h =>
    exact h.outbox.imp fun _ => And.left

theorem reacts_payment {s : Services} {topic : Topic} (m : Message) (tick : Nat) :
    Reacts maxRetries s ⟨.payment, topic, o⟩ m (s.handle .payment m.env tick gateway) := by
  simp only [Services.handle]
  rcases payment_handle gateway m.env (s.payment.startTransaction tick) with
    ⟨o', db', hatt, ho', heffect⟩ | hdb
  · obtain ⟨ins, hout⟩ := effect_appends heffect
    obtain ⟨hanswers, hle⟩ := handle_followers hatt heffect hout
    have hrows : newRows s { s with payment := db' } = [ins] := by
      simp [newRows, hout, PaymentDb.startTransaction]
    rw [hatt]
    refine ⟨by simp [verdictOf], ?_, id⟩
    show outboxWork maxRetries (newRows s { s with payment := db' }) +
      statusWork maxRetries (s.order.statusOf o) ≤ _
    have hmul := Nat.mul_le_mul_left (eventWork maxRetries) hle
    rw [hrows, outboxWork_singleton, if_pos hanswers]
    exact Nat.add_le_add_right hmul _
  · rw [hdb]
    exact .unchanged (by simp [newRows, PaymentDb.startTransaction]) rfl

end Payment

section Delivery

variable [SerdeJson] {maxRetries : Nat} {s : System} {c : Channel} {m : Message}
  {rest : List Message}

theorem reacts (hinv : SysInv s) (hq : s.queues c = m :: rest) (tick : Nat)
    (gateway : PaymentGateway) :
    Reacts maxRetries s.services c m (s.services.handle c.service m.env tick gateway) := by
  have hc : Keyed c m := hinv.keyed c m (by simp [hq])
  obtain ⟨service, topic, o⟩ := c
  cases service with
  | order => exact reacts_order hc tick gateway
  | catalog => exact reacts_catalog hinv.stock hc tick gateway
  | payment => exact reacts_payment m tick

omit [SerdeJson] in
variable (maxRetries) in
/-- What is put back has one attempt less, and what is dropped has no attempt. -/
theorem requeue_work (m : Message) (rest : List Message) (service : Service) (verdict : Verdict) :
    (requeue maxRetries m rest verdict = rest ∨ verdict = .transient) ∧
      queueWork maxRetries service (requeue maxRetries m rest verdict) + 1 ≤
        queueWork maxRetries service (m :: rest) := by
  have hpos := Message.work_pos maxRetries service m
  cases verdict with
  | done | permanent =>
    refine ⟨.inl rfl, ?_⟩
    simp only [requeue, queueWork_cons]
    omega
  | transient =>
    refine ⟨.inr rfl, ?_⟩
    simp only [requeue]
    split
    · simp only [queueWork_cons, Message.work]
      omega
    · rw [queueWork_cons]
      omega

variable (maxRetries) in
/-- A delivery takes something off the work of its order, and leaves the others alone. -/
theorem work_deliver (hinv : SysInv s) (hq : s.queues c = m :: rest) (tick : Nat)
    (gateway : PaymentGateway) {r : Verdict × Services}
    (hr : r = s.services.handle c.service m.env tick gateway) {t : System}
    (ht : t = (s.setQueue c (requeue maxRetries m rest r.1)).advance r.2) :
    t.work maxRetries c.order + 1 ≤ s.work maxRetries c.order ∧
      (s.services.order.statusOf c.order ≠ none → t.services.order.statusOf c.order ≠ none) ∧
      ∀ o, o ≠ c.order → t.work maxRetries o = s.work maxRetries o ∧
        t.services.order.statusOf o = s.services.order.statusOf o := by
  have hc : Keyed c m := hinv.keyed c m (by simp [hq])
  have hdel : Delivery maxRetries s c m rest _ r := hr ▸ delivery hinv hq tick gateway
  obtain ⟨topic, new, hprog⟩ := hdel.progress
  have hreacts : Reacts maxRetries s.services c m r := hr ▸ reacts hinv hq tick gateway
  have hnew : newRows (s.setQueue c (requeue maxRetries m rest r.1)).services r.2 = new :=
    hprog.rows
  have hstatus (o : Uuid) : t.services.order.statusOf o = r.2.order.statusOf o := by
    rw [ht]
    rfl
  have hflight (o : Uuid) : t.flightWork maxRetries o =
      ((s.setQueue c (requeue maxRetries m rest r.1)).publish new).flightWork maxRetries o := by
    rw [ht, System.advance, hnew]
    rfl
  refine ⟨?_, fun hne => by rw [hstatus]; exact hreacts.exists_kept hne, fun o ho => ?_⟩
  · obtain ⟨hrest, hle⟩ := requeue_work maxRetries m rest c.service r.1
    have hset := @flightWork_setQueue maxRetries s c (requeue maxRetries m rest r.1) hc.subscribed
    have hrows := hprog.rows
    rw [hq] at hset
    rw [System.work, System.work, hstatus, hflight, flightWork_publish hprog.publishes]
    rcases hrest with hrest | htransient
    · -- what the message could cause pays for what it has caused
      have hwork := hreacts.work
      rw [hrest, queueWork_cons, Message.work] at hset
      rw [hrows] at hwork
      rw [hrest]
      omega
    · obtain ⟨hnil, hsame⟩ := hreacts.rejected htransient
      rw [hrows] at hnil
      rw [hnil, hsame, outboxWork_nil]
      omega
  · have hsame := hprog.status o ho
    refine ⟨?_, (hstatus o).trans hsame⟩
    rw [System.work, System.work, hstatus, hflight, flightWork_publish_other hprog.publishes ho,
      flightWork_setQueue_other ho, hsame]

end Delivery

/-! ## Every step -/

/-- What a step does to the one order that it can be about. -/
inductive Spends (maxRetries : Nat) (o : Uuid) (s t : System) : Label → Prop
  | delivered {c : Channel} {tick : Nat} {gateway : PaymentGateway} (ho : c.order = o)
    (h : t.work maxRetries o + 1 ≤ s.work maxRetries o)
    (hexists : s.services.order.statusOf o ≠ none → t.services.order.statusOf o ≠ none) :
    Spends maxRetries o s t (.deliver c tick gateway)
  /-- PaymentTimedOut is published -/
  | timedOut {env : EventEnvelope} (ho : env.metadata.aggregateId = o)
    (h : t.work maxRetries o = s.work maxRetries o + eventWork maxRetries)
    (hstatus : t.services.order.statusOf o = s.services.order.statusOf o) :
    Spends maxRetries o s t (.timeOut env)
  /-- OrderCreated is published, and the order can be cancelled from now on -/
  | created {user : CurrentUser} {key : String} {req : Order.CreateOrderReq}
    (hfresh : s.services.order.statusOf o = none) (hexists : t.services.order.statusOf o ≠ none)
    (h : t.work maxRetries o = s.work maxRetries o + eventWork maxRetries * 17) :
    Spends maxRetries o s t (.request (.createOrder user key req))
  /-- the order is cancelled, or nothing happens to it -/
  | requested {r : Request} (h : t.work maxRetries o ≤ s.work maxRetries o)
    (hexists : s.services.order.statusOf o ≠ none → t.services.order.statusOf o ≠ none) :
    Spends maxRetries o s t (.request r)

section Step

variable {maxRetries : Nat} {s t : System}

variable (maxRetries) in
/-- The services go on, and order `o` only sees it. -/
theorem Progress.work {services : Services} {topic : Topic} {o : Uuid} {new : List OutboxInsert}
    (h : Progress s.services services topic o new) :
    (s.advance services).work maxRetries o = s.flightWork maxRetries o +
        outboxWork maxRetries new + statusWork maxRetries (services.order.statusOf o) ∧
      ∀ o', o' ≠ o → (s.advance services).work maxRetries o' = s.work maxRetries o' ∧
        services.order.statusOf o' = s.services.order.statusOf o' := by
  have hflight (o : Uuid) : (s.advance services).flightWork maxRetries o =
      (s.publish new).flightWork maxRetries o := by
    rw [System.advance, h.rows]
    rfl
  have hstatus : (s.advance services).services = services := by
    simp [System.advance]
  refine ⟨?_, fun o' ho => ⟨?_, h.status o' ho⟩⟩
  · rw [System.work, hflight, flightWork_publish h.publishes, hstatus]
  · rw [System.work, hflight, flightWork_publish_other h.publishes ho, hstatus, h.status o' ho,
      System.work]

variable [SerdeJson]

theorem work_request {services : Services} {r : Request} (hinv : SysInv s)
    (h : s.services.request r = some services) :
    ∃ o, (∀ o', o' ≠ o → (s.advance services).work maxRetries o' = s.work maxRetries o' ∧
        (s.advance services).services.order.statusOf o' = s.services.order.statusOf o') ∧
      Spends maxRetries o s (s.advance services) (.request r) := by
  have hafter : (s.advance services).services = services := by
    simp [System.advance]
  rw [hafter]
  -- a request that fails changes nothing
  have hnothing {r : Request} (hprog : Progress s.services services .ordersEvents ⟨0, 0⟩ [])
      (hsame : services.order.statusOf ⟨0, 0⟩ = s.services.order.statusOf ⟨0, 0⟩) :
      ∃ o, (∀ o', o' ≠ o → (s.advance services).work maxRetries o' = s.work maxRetries o' ∧
          services.order.statusOf o' = s.services.order.statusOf o') ∧
        Spends maxRetries o s (s.advance services) (.request r) := by
    obtain ⟨hwork, hothers⟩ := hprog.work maxRetries
    refine ⟨⟨0, 0⟩, hothers, .requested ?_ ?_⟩
    · rw [hwork, hsame, outboxWork_nil, System.work, Nat.add_zero]
    · rw [hafter, hsame]
      exact id
  cases r with
  | createOrder user key req =>
    obtain ⟨db, hdb, rfl⟩ := Option.map_eq_some_iff.mp h
    have hcases : db = s.services.order ∨ ∃ o, Order.Created s.services.order db o := by
      simp only [Order.step] at hdb
      split at hdb
      · rename_i order db₁ hok
        cases hdb
        exact Order.createOrder_ok hok
      · cases hdb
        exact .inl rfl
    rcases hcases with rfl | ⟨o, hcreated⟩
    · exact hnothing (Progress.refl ..) rfl
    · obtain ⟨ins, rows, items, hwrote, htype, -⟩ := hcreated.wrote
      have hprog := Progress.order hwrote (by simp [htype, topicOf])
      have hfresh : s.services.order.statusOf o = none := by
        simp [OrderDb.statusOf, hcreated.fresh]
      have hstatus : db.statusOf o = some .pending := hwrote.statusOf
      have hfollow : followers ins.envelope = 14 := followers_eq htype
      obtain ⟨hwork, hothers⟩ := hprog.work maxRetries
      refine ⟨o, hothers, .created hfresh ?_ ?_⟩
      · rw [hafter, hstatus]
        simp
      · rw [hwork, System.work, hfresh, hstatus, outboxWork_singleton, hfollow]
        simp only [statusWork]
        omega
  | cancelOrder user o reason =>
    obtain ⟨db, hdb, rfl⟩ := Option.map_eq_some_iff.mp h
    simp only [Order.step] at hdb
    split at hdb
    · rename_i db₁ hok
      cases hdb
      rcases Order.cancelOrder_ok hok with rfl | ⟨order, ins, hfind, hcancel, hwrote, htype, -⟩
      · exact hnothing (Progress.refl ..) rfl
      · have hprog := Progress.order hwrote (by simp [htype, topicOf])
        have hstatus : s.services.order.statusOf o = some order.status := by
          simp [OrderDb.statusOf, hfind]
        have hstatus' : db.statusOf o = some .cancelled := hwrote.statusOf
        have hfollow : followers ins.envelope = 1 := followers_eq htype
        obtain ⟨hwork, hothers⟩ := hprog.work maxRetries
        refine ⟨o, hothers, .requested ?_ ?_⟩
        · rw [hwork, System.work, hstatus, hstatus', outboxWork_singleton, hfollow,
            statusWork_of_canCancel hcancel]
          simp [statusWork]
        · rw [hafter, hstatus']
          simp
    · cases hdb
      exact hnothing (Progress.refl ..) rfl
  | stock op =>
    cases h
    obtain ⟨hstock, hrows, hout⟩ := Catalog.stockInv_stockOp op hinv.stock
    have hprog : Progress s.services
        { s.services with catalog := (Tx.attempt op.tx s.services.catalog).db }
        .ordersEvents ⟨0, 0⟩ [] :=
      { rows := by simp [newRows, hout]
        publishes := Publishes.nil ..
        status := fun _ _ => rfl
        pay := fun _ _ => rfl
        reserved := fun _ _ => by
          simp only [holdsReservation, Catalog.Repository.findAllReserved, hrows]
        stock := fun _ => hstock
        ledger := id }
    exact hnothing hprog rfl

theorem step_work {l : Label} (hinv : SysInv s) (h : step maxRetries s l = some t) :
    ∃ o, (∀ o', o' ≠ o → t.work maxRetries o' = s.work maxRetries o' ∧
        t.services.order.statusOf o' = s.services.order.statusOf o') ∧
      Spends maxRetries o s t l := by
  cases l with
  | request r =>
    obtain ⟨services, hreq, rfl⟩ := Option.map_eq_some_iff.mp h
    exact work_request hinv hreq
  | timeOut env =>
    simp only [step] at h
    split at h
    · rename_i henv
      cases h
      have hpub : Publishes [{ topic := .paymentsEvents, envelope := env }] .paymentsEvents
          env.metadata.aggregateId := .singleton ⟨henv.1, rfl, henv.2, rfl⟩ rfl
      have hfollow : followers env = 0 := followers_eq henv.1
      refine ⟨_, fun o' ho => ⟨?_, rfl⟩, .timedOut rfl ?_ rfl⟩
      · rw [System.work, flightWork_publish_other hpub ho]
        rfl
      · rw [System.work, System.work, flightWork_publish hpub, outboxWork_singleton, hfollow]
        simp only [publish_services]
        omega
    · cases h
  | deliver c tick gateway =>
    simp only [step] at h
    split at h
    · cases h
    · rename_i m rest hq
      cases h
      obtain ⟨hle, hexists, hothers⟩ :=
        work_deliver maxRetries hinv hq tick gateway rfl rfl
      exact ⟨c.order, hothers, .delivered rfl hle hexists⟩

end Step

/-! ## Whole runs -/

def Label.isDelivery : Label → Bool
  | .deliver .. => true
  | _ => false

/-- An event of the order is handled. -/
def Label.delivers (o : Uuid) : Label → Bool
  | .deliver c _ _ => c.order = o
  | _ => false

/-- The order that a handled event is about. -/
def Label.delivered : Label → Option Uuid
  | .deliver c _ _ => some c.order
  | _ => none

/-- A timeout of the order is published. -/
def Label.timesOut (o : Uuid) : Label → Bool
  | .timeOut env => env.metadata.aggregateId = o
  | _ => false

/-- An order is placed, or times out. -/
def Label.starts : Label → Bool
  | .request (.createOrder ..) | .timeOut _ => true
  | _ => false

/-- What an order can cost the services from now on, whether it exists or not. -/
def System.budget (maxRetries : Nat) (s : System) (o : Uuid) : Nat :=
  s.work maxRetries o +
    if s.services.order.statusOf o = none then eventWork maxRetries * 17 else 0

/-- What the orders in `os` that exist can still cost the services. -/
def System.totalWork (maxRetries : Nat) (s : System) (os : Finset Uuid) : Nat :=
  ∑ o ∈ os, s.work maxRetries o

theorem statusOf_empty (o : Uuid) : ({} : System).services.order.statusOf o = none := rfl

theorem work_empty (maxRetries : Nat) (o : Uuid) : System.work maxRetries {} o = 0 := by
  rw [System.work, statusOf_empty]
  rfl

theorem budget_le {maxRetries n : Nat} {s t : System} {o : Uuid}
    (hexists : s.services.order.statusOf o ≠ none → t.services.order.statusOf o ≠ none)
    (hwork : t.work maxRetries o + n ≤ s.work maxRetries o) :
    t.budget maxRetries o + n ≤ s.budget maxRetries o := by
  unfold System.budget
  by_cases hs : s.services.order.statusOf o = none
  · rw [if_pos hs]
    split <;> omega
  · rw [if_neg hs, if_neg (hexists hs)]
    omega

/-- A step that is about one order changes the total by what it changes there. -/
theorem totalWork_le {maxRetries n k : Nat} {s t : System} {o : Uuid} {os : Finset Uuid}
    (hothers : ∀ o', o' ≠ o → t.work maxRetries o' = s.work maxRetries o')
    (hwork : t.work maxRetries o + n ≤ s.work maxRetries o + k) (hos : n = 0 ∨ o ∈ os) :
    t.totalWork maxRetries os + n ≤ s.totalWork maxRetries os + k := by
  unfold System.totalWork
  by_cases ho : o ∈ os
  · have hrest : ∑ o' ∈ os.erase o, t.work maxRetries o' =
        ∑ o' ∈ os.erase o, s.work maxRetries o' :=
      Finset.sum_congr rfl fun o' ho' => hothers o' (Finset.ne_of_mem_erase ho')
    rw [← Finset.sum_erase_add os _ ho, ← Finset.sum_erase_add os _ ho, hrest]
    omega
  · have hsame : ∑ o' ∈ os, t.work maxRetries o' = ∑ o' ∈ os, s.work maxRetries o' :=
      Finset.sum_congr rfl fun o' ho' => hothers o' fun heq => ho (heq ▸ ho')
    have := hos.resolve_right ho
    omega

section Service

variable [SerdeJson] {maxRetries : Nat} {s t : System} {l : Label} {o : Uuid}

theorem budget_step (hinv : SysInv s) (h : step maxRetries s l = some t) :
    t.budget maxRetries o + (if l.delivers o then 1 else 0) ≤
      s.budget maxRetries o + if l.timesOut o then eventWork maxRetries else 0 := by
  obtain ⟨o', hothers, hspends⟩ := step_work hinv h
  by_cases ho : o = o'
  · subst ho
    cases hspends with
    | delivered hc hwork hexists =>
      have hle := budget_le hexists hwork
      simpa [Label.delivers, Label.timesOut, hc] using hle
    | timedOut henv hwork hstatus =>
      simp only [Label.delivers, Label.timesOut, System.budget, henv, hstatus, hwork]
      simp
      omega
    | created hfresh hexists hwork =>
      simp [Label.delivers, Label.timesOut, System.budget, hfresh, hexists, hwork]
    | requested hwork hexists =>
      have hle := budget_le (n := 0) hexists hwork
      simpa [Label.delivers, Label.timesOut] using hle
  · -- the step is about another order
    obtain ⟨hwork, hstatus⟩ := hothers o ho
    have hnot : l.delivers o = false ∧ l.timesOut o = false := by
      cases hspends with
      | delivered hc => simpa [Label.delivers, Label.timesOut, hc] using Ne.symm ho
      | timedOut henv => simpa [Label.delivers, Label.timesOut, henv] using Ne.symm ho
      | created => exact ⟨rfl, rfl⟩
      | requested => exact ⟨rfl, rfl⟩
    simp [System.budget, hwork, hstatus, hnot.1, hnot.2]

theorem totalWork_step {os : Finset Uuid} (hinv : SysInv s) (h : step maxRetries s l = some t)
    (hl : ∀ c tick gateway, l = .deliver c tick gateway → c.order ∈ os) :
    t.totalWork maxRetries os + (if l.isDelivery then 1 else 0) ≤
      s.totalWork maxRetries os + if l.starts then eventWork maxRetries * 17 else 0 := by
  obtain ⟨o, hothers, hspends⟩ := step_work hinv h
  refine totalWork_le (fun o' ho => (hothers o' ho).1) ?_ ?_
  · cases hspends with
    | delivered hc hwork hexists => simpa [Label.isDelivery, Label.starts] using hwork
    | timedOut henv hwork hstatus =>
      simp only [Label.isDelivery, Label.starts, hwork]
      simp
      omega
    | created hfresh hexists hwork => simp [Label.isDelivery, Label.starts, hwork]
    | @requested r hwork hexists =>
      simp only [Label.isDelivery, Bool.false_eq_true, if_false]
      omega
  · cases hspends with
    | delivered hc => exact .inr (hc ▸ hl _ _ _ rfl)
    | timedOut => exact .inl rfl
    | created => exact .inl rfl
    | requested => exact .inl rfl

/-- Each order that is placed, and each timeout, pays for a bounded number of deliveries. -/
theorem countP_isDelivery_le (maxRetries : Nat) (ls : List Label) {s : System}
    (hrun : Run.run (step maxRetries) {} ls = some s) :
    ls.countP Label.isDelivery ≤ 34 * (maxRetries + 1) * ls.countP Label.starts := by
  -- the sum is over the orders that the events of the run are about
  have hos : ∀ l ∈ ls, ∀ c tick gateway, l = .deliver c tick gateway →
      c.order ∈ (ls.filterMap Label.delivered).toFinset := by
    rintro l hl c tick gateway rfl
    rw [List.mem_toFinset, List.mem_filterMap]
    exact ⟨_, hl, rfl⟩
  have hstep : ∀ s l t, (∀ c tick gateway, l = Label.deliver c tick gateway →
      c.order ∈ (ls.filterMap Label.delivered).toFinset) → SysInv s → step maxRetries s l = some t →
      SysInv t ∧ t.totalWork maxRetries (ls.filterMap Label.delivered).toFinset +
        (if l.isDelivery then 1 else 0) ≤
          s.totalWork maxRetries (ls.filterMap Label.delivered).toFinset +
            if l.starts then eventWork maxRetries * 17 else 0 :=
    fun _ _ _ hl hinv h => ⟨sysInv_step hinv h, totalWork_step hinv h hl⟩
  have hbound := Run.run_countP_le hstep hos sysInv_empty hrun
  have hempty : System.totalWork maxRetries {} (ls.filterMap Label.delivered).toFinset = 0 :=
    Finset.sum_eq_zero fun o _ => work_empty maxRetries o
  have hwork : eventWork maxRetries * 17 = 34 * (maxRetries + 1) := by
    unfold eventWork
    omega
  rw [hempty, hwork] at hbound
  omega

/-- A message that is in flight can be delivered. -/
theorem quiet_of_stuck {tick : Nat} {gateway : PaymentGateway}
    (h : ∀ c, step maxRetries s (.deliver c tick gateway) = none) (o : Uuid) : s.Quiet o := by
  intro service topic
  cases hq : s.queues ⟨service, topic, o⟩ with
  | nil => rfl
  | cons m rest =>
    have hnone := h ⟨service, topic, o⟩
    simp [step, hq] at hnone

end Service

/-! ## The longest saga -/

/-- A gateway that authorizes and voids, and is not available for a capture. -/
def unavailable : PaymentGateway :=
  { approving with
    capture := fun _ => .error { code := "unavailable", message := "", isRetryable := true } }

/-- Both subscribers of a topic receive the next event of the first order. -/
def receiveBoth (topic : Topic) (service service' : Service) : List Label :=
  [.deliver ⟨service, topic, firstOrder⟩ 0 unavailable,
    .deliver ⟨service', topic, firstOrder⟩ 0 unavailable]

/-- The capture of the order is tried eleven times; then the order is cancelled and its
    authorization voided. -/
def longestRun : List Label :=
  [.request (.stock (.createSku 5)), .request (.createOrder sampleBuyer "key-1" sampleReq)] ++
    receiveBoth .ordersEvents .catalog .payment ++ receiveBoth .catalogEvents .order .payment ++
    receiveBoth .paymentsEvents .order .payment ++ receiveBoth .ordersEvents .catalog .payment ++
    (List.replicate 11 (receiveBoth .paymentsEvents .order .payment)).flatten ++
    receiveBoth .ordersEvents .catalog .payment ++ receiveBoth .paymentsEvents .order .payment

end Koupang.Saga
