import Koupang.Model.Shared

/-!
# Kafka consumer

The model of `shared/src/events/consumer.rs` on one partition: the message loop,
the retry loop with one database transaction per attempt, the dead-letter queue
and the offset commits. What the environment decides (the handler's verdict,
failing statements, a failing DLQ publish, a shutdown) is in the label.

A session receives the messages in order from the committed offset on and never
reads one twice; a restart begins a new session at the committed offset.
-/

namespace Koupang.Consumer

/-- A message: the `event_id` of its envelope, or `none` when it does not deserialize. -/
abbrev Message := Option Uuid

/-! ## One attempt -/

/-- Where the database fails during an attempt. -/
inductive DbFault where
  | none
  | begin
  | check
  | mark
  /-- the commit fails and the transaction is rolled back -/
  | commit
  /-- the transaction is committed, but the answer is lost -/
  | commitAnswer
deriving DecidableEq, Repr

inductive HandlerVerdict where
  | ok
  | transient
  | permanent
deriving DecidableEq, Repr

/-- What the environment does during an attempt. -/
structure AttemptInput where
  verdict : HandlerVerdict
  fault : DbFault
deriving DecidableEq, Repr

inductive AttemptResult where
  | committed
  | alreadyProcessed
  | dbError
  | permanentFailure
  | transientFailure
deriving DecidableEq, Repr

/-- Single processing attempt: begin tx → idempotency check → handler → commit. Returns
    the result, and whether the handler's transaction was committed. -/
def tryProcessOnce (processedEvents : List Uuid) (eventId : Uuid) (input : AttemptInput) :
    AttemptResult × Bool :=
  if input.fault = .begin then (.dbError, false)
  else if input.fault = .check then (.dbError, false)
  else if processedEvents.contains eventId then
    -- the commit of the skip transaction
    if input.fault = .commit || input.fault = .commitAnswer then (.dbError, false)
    else (.alreadyProcessed, false)
  else match input.verdict with
    | .ok =>
      if input.fault = .mark then (.dbError, false)
      else if input.fault = .commit then (.dbError, false)
      else if input.fault = .commitAnswer then (.dbError, true)
      else (.committed, true)
    | .permanent => (.permanentFailure, false)
    | .transient => (.transientFailure, false)

/-! ## Retry loop -/

inductive ProcessResult where
  | success
  | skipped
  | sentToDlq
  | dlqFailed
  | dbError
deriving DecidableEq, Repr

/-- What the environment does while one message is processed. -/
structure ProcessInput where
  attempts : Nat → AttemptInput
  /-- the shutdown token is cancelled during the backoff after an attempt -/
  shutdown : Nat → Bool
  dlqOk : Bool

def publishEnvelopeToDlq (input : ProcessInput) : ProcessResult :=
  if input.dlqOk then .sentToDlq else .dlqFailed

/-- The attempts from `attempt` on, with `remaining = max_retries - attempt` retries left. -/
def retryLoop (processedEvents : List Uuid) (eventId : Uuid) (input : ProcessInput)
    (attempt : Nat) (remaining : Nat) : ProcessResult × Bool :=
  match tryProcessOnce processedEvents eventId (input.attempts attempt) with
  | (.committed, done) => (.success, done)
  | (.alreadyProcessed, done) => (.skipped, done)
  | (.dbError, done) => (.dbError, done)
  | (.permanentFailure, done) => (publishEnvelopeToDlq input, done)
  | (.transientFailure, done) =>
    match remaining with
    -- Exhausted all retries
    | 0 => (publishEnvelopeToDlq input, done)
    | remaining + 1 =>
      if input.shutdown attempt then (publishEnvelopeToDlq input, done)
      else retryLoop processedEvents eventId input (attempt + 1) remaining

/-- Retry loop: each attempt gets its own database transaction. -/
def processWithRetry (maxRetries : Nat) (processedEvents : List Uuid) (eventId : Uuid)
    (input : ProcessInput) : ProcessResult × Bool :=
  retryLoop processedEvents eventId input 0 maxRetries

/-! ## Message loop -/

structure State where
  /-- the committed offset: the first message that a new session receives -/
  committedOffset : Nat := 0
  /-- the next message that this session receives -/
  position : Nat := 0
  /-- the message whose offset `process_message` is about to commit -/
  toCommit : Option Nat := none
  /-- offsets of the messages of this session that ended in DlqFailed or DbError -/
  uncommitted : List Nat := []
  /-- `processed_events` -/
  processedEvents : List Uuid := []
  /-- offsets of the messages whose handler's transaction was committed -/
  handled : List Nat := []
  /-- offsets of the messages recognised as already processed -/
  skipped : List Nat := []
  /-- offsets of the messages published to the DLQ -/
  dlq : List Nat := []

inductive Label where
  /-- `recv` returns the next message, and it is processed up to `commit_offset` -/
  | receive (input : ProcessInput)
  /-- `commit_message` -/
  | commitOffset
  /-- `commit_message` fails, which is only logged -/
  | commitOffsetFails
  /-- the process dies, or the partition moves to another consumer of the group -/
  | restart
  /-- `cleanup_processed_events` -/
  | cleanup (keep : Uuid → Bool)

/-- Record the result of message number `offset`. The offset is to be committed on
    Success, Skipped and SentToDlq, and not on DlqFailed and DbError. -/
def State.record (s : State) (offset : Nat) (result : ProcessResult) : State :=
  match result with
  | .success => { s with toCommit := some offset }
  | .skipped => { s with toCommit := some offset, skipped := offset :: s.skipped }
  | .sentToDlq => { s with toCommit := some offset, dlq := offset :: s.dlq }
  -- Do NOT commit: the message is to be redelivered
  | .dlqFailed | .dbError => { s with uncommitted := offset :: s.uncommitted }

/-- `process_message` for the message at the session's position, up to `commit_offset`. -/
def processMessage (maxRetries : Nat) (s : State) (msg : Message) (input : ProcessInput) :
    State :=
  let next := { s with position := s.position + 1 }
  match msg with
  | none =>
    -- Failed to deserialize: the raw bytes go to the DLQ
    next.record s.position (publishEnvelopeToDlq input)
  | some eventId =>
    match processWithRetry maxRetries s.processedEvents eventId input with
    | (result, true) =>
      { next with processedEvents := eventId :: s.processedEvents
                  handled := s.position :: s.handled }.record s.position result
    | (result, false) => next.record s.position result

/-- The consumer on the partition `msgs`. -/
def step (maxRetries : Nat) (msgs : List Message) (s : State) : Label → Option State
  | .receive input =>
    if s.toCommit.isSome then none
    else match msgs[s.position]? with
      | some msg => some (processMessage maxRetries s msg input)
      | none => none
  | .commitOffset =>
    match s.toCommit with
    | some offset => some { s with committedOffset := offset + 1, toCommit := none }
    | none => none
  | .commitOffsetFails => some { s with toCommit := none }
  | .restart =>
    some { s with position := s.committedOffset, toCommit := none, uncommitted := [] }
  | .cleanup keep => some { s with processedEvents := s.processedEvents.filter keep }

end Koupang.Consumer
