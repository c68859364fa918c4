import Koupang.Model.Consumer
import Koupang.Model.Payment

/-!
# The payment consumer

The retry loop of `shared/src/events/consumer.rs` with the handler of the
payment service. Every attempt runs the handler in a transaction of its own on
the payment tables, which is rolled back when the handler returns an error.
-/

namespace Koupang.Payment

open Consumer (AttemptInput AttemptResult DbFault ProcessResult)

/-- What keeps the handler from doing its work. -/
inductive Interruption where
  /-- `LockError::AlreadyHeld` -/
  | lockHeld
  /-- a statement fails on its connection, with the error the handler reports -/
  | statement (e : String)

/-- What the environment does during an attempt. -/
structure AttemptEnv where
  tick : Nat
  gateway : PaymentGateway
  interruption : Option Interruption
  fault : DbFault

/-- What the environment does while one message is processed. -/
structure DeliveryEnv where
  attempts : Nat → AttemptEnv
  /-- the shutdown token is cancelled during the backoff after an attempt -/
  shutdown : Nat → Bool
  dlqOk : Bool

/-- The tables of the payment service, with its `processed_events`. -/
structure ConsumerDb where
  db : PaymentDb := {}
  processedEvents : List Uuid := []

section Consumer

variable [SerdeJson]

/-- `PaymentEventHandler::handle` with what may interrupt it. Both interruptions are transient
    errors. Without one, the lock is acquired, or Redis is not available. -/
def handleInterrupted (interruption : Option Interruption) (gateway : PaymentGateway)
    (env : EventEnvelope) : Tx HandlerError PaymentDb Unit :=
  match env.eventType with
  | .inventoryReserved | .orderConfirmed | .orderCancelled | .paymentCaptureRetryRequested => do
    let orderId ← Tx.mapErr (fun e : AppError => HandlerError.permanent (toString e))
      (Tx.ofExcept env.payloadOrderId)
    match interruption with
    | some .lockHeld => throw (.transient s!"payment:{orderId} in-flight, will retry")
    | some (.statement e) => throw (.transient e)
    | none => handle gateway env
  | _ => pure ()

/-- The verdict of the handler, with the tables that its transaction would commit. -/
def runHandler (env : EventEnvelope) (a : AttemptEnv) (db : PaymentDb) :
    AttemptInput × PaymentDb :=
  match Tx.attempt (handleInterrupted a.interruption a.gateway env) db with
  | .committed _ db => (⟨.ok, a.fault⟩, db)
  -- `mark_event_processed` fails in a transaction that is aborted
  | .aborted _ db => (⟨.ok, .mark⟩, db)
  | .failed (.permanent _) db => (⟨.permanent, a.fault⟩, db)
  | .failed (.transient _) db => (⟨.transient, a.fault⟩, db)

/-- Single processing attempt: begin tx → idempotency check → handler → commit. -/
def tryProcessOnce (s : ConsumerDb) (env : EventEnvelope) (a : AttemptEnv) :
    AttemptResult × ConsumerDb :=
  let eventId := env.metadata.eventId
  let opened := s.db.startTransaction a.tick
  let (input, db) := runHandler env a opened
  match Consumer.tryProcessOnce s.processedEvents eventId input with
  | (result, true) => (result, { db, processedEvents := eventId :: s.processedEvents })
  | (result, false) => (result, { s with db := opened })

def publishEnvelopeToDlq (input : DeliveryEnv) : ProcessResult :=
  if input.dlqOk then .sentToDlq else .dlqFailed

/-- The attempts from `attempt` on, with `remaining = max_retries - attempt` retries left. -/
def retryLoop (env : EventEnvelope) (input : DeliveryEnv) (s : ConsumerDb) (attempt : Nat)
    (remaining : Nat) : ProcessResult × ConsumerDb :=
  match tryProcessOnce s env (input.attempts attempt) with
  | (.committed, s) => (.success, s)
  | (.alreadyProcessed, s) => (.skipped, s)
  | (.dbError, s) => (.dbError, s)
  | (.permanentFailure, s) => (publishEnvelopeToDlq input, s)
  | (.transientFailure, s) =>
    match remaining with
    -- Exhausted all retries
    | 0 => (publishEnvelopeToDlq input, s)
    | remaining + 1 =>
      if input.shutdown attempt then (publishEnvelopeToDlq input, s)
      else retryLoop env input s (attempt + 1) remaining

/-- Retry loop: each attempt gets its own database transaction. -/
def processWithRetry (maxRetries : Nat) (env : EventEnvelope) (input : DeliveryEnv)
    (s : ConsumerDb) : ProcessResult × ConsumerDb :=
  retryLoop env input s 0 maxRetries

/-- A delivery to the payment consumer. -/
structure Delivery where
  env : EventEnvelope
  input : DeliveryEnv

/-- Deliveries one after the other, in any order and any number of times. -/
def deliver (maxRetries : Nat) (s : ConsumerDb) (d : Delivery) : Option ConsumerDb :=
  some (processWithRetry maxRetries d.env d.input s).2

end Consumer

end Koupang.Payment
