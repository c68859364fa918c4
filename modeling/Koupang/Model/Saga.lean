import Koupang.Model.Catalog
import Koupang.Model.Order
import Koupang.Model.Payment

/-!
# The ordering saga

The order, catalog and payment services with the events between them. Every
request and every handling of an event is one atomic step.

There are two transports. `step` is Kafka as the consumers use it: each service
receives the events of an order on a topic in the order of their publication,
one at a time; a rejected event is handled again up to `maxRetries` times and
then dropped to the dead-letter queue. `anyStep` makes no promise at all: any
published event can reach a subscriber at any time, any number of times.
-/

namespace Koupang.Saga

open Koupang.Order (OrderDb)
open Koupang.Catalog (CatalogDb StockOp)
open Koupang.Payment (PaymentDb PaymentGateway)

inductive Service where
  | order
  | catalog
  | payment
deriving DecidableEq, Repr

/-- The topics in a service's consumer configuration. -/
def Service.topics : Service → List Topic
  | .order => [.catalogEvents, .paymentsEvents]
  | .catalog => [.ordersEvents]
  | .payment => [.catalogEvents, .ordersEvents, .paymentsEvents]

/-! ## The three services -/

structure Services where
  order : OrderDb := {}
  catalog : CatalogDb := {}
  payment : PaymentDb := {}
deriving DecidableEq

/-- What happens to the services from outside. -/
inductive Request where
  | createOrder (user : CurrentUser) (idempotencyKey : String) (req : Order.CreateOrderReq)
  | cancelOrder (user : CurrentUser) (orderId : Uuid) (reason : Option String)
  | stock (op : StockOp)

/-- How the handling of an event ended. -/
inductive Verdict where
  | done
  | transient
  | permanent
deriving DecidableEq, Repr

/-- A handler that catches the error of a statement leaves an aborted transaction behind, in
    which the event cannot be recorded as processed. -/
def verdictOf {σ : Type} : Tx.Attempt HandlerError σ Unit → Verdict
  | .committed _ _ => .done
  | .failed e _ => if e.isTransient then .transient else .permanent
  | .aborted _ _ => .transient

section Service

variable [SerdeJson]

def Services.request (s : Services) : Request → Option Services
  | .createOrder user key req =>
    (Order.step s.order (.createOrder user key req)).map fun order => { s with order }
  | .cancelOrder user o reason =>
    (Order.step s.order (.cancelOrder user o reason)).map fun order => { s with order }
  | .stock op => some { s with catalog := (Tx.attempt op.tx s.catalog).db }

/-- A service handles an event; `tick` and `gateway` are for the payment service. -/
def Services.handle (s : Services) (service : Service) (env : EventEnvelope) (tick : Nat)
    (gateway : PaymentGateway) : Verdict × Services :=
  match service with
  | .order =>
    let result := Tx.attempt (Order.handle env) s.order
    (verdictOf result, { s with order := result.db })
  | .catalog =>
    let result := Tx.attempt (Catalog.handle env) s.catalog
    (verdictOf result, { s with catalog := result.db })
  | .payment =>
    let result := Tx.attempt (Payment.handle gateway env) (s.payment.startTransaction tick)
    (verdictOf result, { s with payment := result.db })

end Service

/-! ## Kafka -/

/-- The events of one order that a service receives on one topic. -/
structure Channel where
  service : Service
  topic : Topic
  order : Uuid
deriving DecidableEq

structure Message where
  env : EventEnvelope
  /-- attempts that were rejected -/
  failures : Nat := 0
deriving DecidableEq

/-- The channel on which a subscriber receives the event. -/
def Channel.carries (c : Channel) (ins : OutboxInsert) : Bool :=
  ins.topic = c.topic && ins.envelope.metadata.aggregateId = c.order && c.topic ∈ c.service.topics

/-- The services and the events in flight, oldest first on each channel. -/
structure System where
  services : Services := {}
  queues : Channel → List Message := fun _ => []

/-- The rows that were added to the outboxes. -/
def newRows (before after : Services) : List OutboxInsert :=
  after.order.outbox.drop before.order.outbox.length ++
    after.catalog.outbox.drop before.catalog.outbox.length ++
    after.payment.outbox.drop before.payment.outbox.length

def System.publish (s : System) (new : List OutboxInsert) : System :=
  { s with queues := fun c =>
      s.queues c ++ (new.filter c.carries).map fun ins => { env := ins.envelope } }

/-- The services go on, and what they have written to their outboxes is published. -/
def System.advance (s : System) (services : Services) : System :=
  { s with services }.publish (newRows s.services services)

def System.setQueue (s : System) (c : Channel) (queue : List Message) : System :=
  { s with queues := fun c' => if c' = c then queue else s.queues c' }

/-- What is left of a channel after its first message was handled. -/
def requeue (maxRetries : Nat) (m : Message) (rest : List Message) : Verdict → List Message
  | .done => rest
  | .transient =>
    if m.failures < maxRetries then { m with failures := m.failures + 1 } :: rest else rest
  | .permanent => rest

inductive Label where
  | request (r : Request)
  /-- a PaymentTimedOut event, which no service emits -/
  | timeOut (env : EventEnvelope)
  | deliver (c : Channel) (tick : Nat) (gateway : PaymentGateway)

section Service

variable [SerdeJson]

/-- One step of the services over Kafka. -/
def step (maxRetries : Nat) (s : System) : Label → Option System
  | .request r => (s.services.request r).map s.advance
  | .timeOut env =>
    if env.eventType = .paymentTimedOut ∧ env.payload.orderId = some env.metadata.aggregateId then
      some (s.publish [{ topic := .paymentsEvents, envelope := env }])
    else none
  | .deliver c tick gateway =>
    match s.queues c with
    | [] => none
    | m :: rest =>
      let (verdict, services) := s.services.handle c.service m.env tick gateway
      some ((s.setQueue c (requeue maxRetries m rest verdict)).advance services)

end Service

/-! ## A transport without promises -/

inductive AnyLabel where
  | request (r : Request)
  | deliver (service : Service) (ins : OutboxInsert) (tick : Nat) (gateway : PaymentGateway)
  | timeOut (env : EventEnvelope)

/-- Every event that was ever published. -/
def Services.outbox (s : Services) : List OutboxInsert :=
  s.order.outbox ++ s.catalog.outbox ++ s.payment.outbox

section Service

variable [SerdeJson]

/-- One step in which a published event, or a PaymentTimedOut, can be delivered at any time. -/
def anyStep (s : Services) : AnyLabel → Option Services
  | .request r => s.request r
  | .deliver service ins tick gateway =>
    if ins ∈ s.outbox ∧ ins.topic ∈ service.topics then
      some (s.handle service ins.envelope tick gateway).2
    else none
  | .timeOut env =>
    if env.eventType = .paymentTimedOut then
      some { s with order := (Tx.attempt (Order.handle env) s.order).db }
    else none

end Service

end Koupang.Saga
