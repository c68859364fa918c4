import Koupang.Model.PaymentInterleaving

/-!
# The capture of one order, from event to event

An OrderConfirmed event asks the payment service to capture the authorization
of its order. When the gateway's failure is retryable, the handler writes a
PaymentCaptureRetryRequested event, which comes back to the same consumer. The
handlings of one order's events follow each other; between them the service
handles other events.
-/

namespace Koupang.Payment.CaptureRetry

/-- `gateway.capture` -/
def isCapture : Interleaving.Stmt → Bool
  | .capture .. => true
  | _ => false

/-- The events that ask for a capture or a void of the order's authorization. -/
def Concerns (orderId : Uuid) (env : EventEnvelope) : Prop :=
  env.payload.orderId = some orderId ∧ (env.eventType = .orderConfirmed ∨
    env.eventType = .orderCancelled ∨ env.eventType = .paymentCaptureRetryRequested)

instance (orderId : Uuid) (env : EventEnvelope) : Decidable (Concerns orderId env) :=
  inferInstanceAs (Decidable (_ ∧ _))

/-- How far the capture of an order has come. -/
structure Chain where
  db : PaymentDb
  /-- the events for the capture that are still to be handled -/
  pending : List EventEnvelope
  /-- the calls of `gateway.capture` that their handlings have made -/
  captureCalls : Nat := 0

inductive Label where
  /-- the next event for the capture is handled -/
  | next (tick : Nat) (gateway : PaymentGateway)
  /-- an event is handled that does not concern the capture -/
  | other (h : Handling)

section Service

variable [SerdeJson]

/-- Handle an event for the capture: once, whether the handler succeeds or not. -/
def handleNext (s : Chain) (tick : Nat) (gateway : PaymentGateway) (env : EventEnvelope)
    (rest : List EventEnvelope) : Chain :=
  let opened := s.db.startTransaction tick
  let db := (Tx.attempt (handle gateway env) opened).db
  let retries := ((db.outbox.drop opened.outbox.length).map (·.envelope)).filter
    (·.eventType = .paymentCaptureRetryRequested)
  { db, pending := rest ++ retries
    captureCalls := s.captureCalls +
      (Interleaving.dispatch env).count isCapture gateway (Tx.begin opened) }

def step (orderId : Uuid) (s : Chain) : Label → Option Chain
  | .next tick gateway =>
    match s.pending with
    | [] => none
    | env :: rest => some (handleNext s tick gateway env rest)
  | .other h =>
    if Concerns orderId h.env then none
    else (Payment.step s.db h).map fun db => { s with db }

end Service

end Koupang.Payment.CaptureRetry
