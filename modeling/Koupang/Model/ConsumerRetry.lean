import Koupang.ForStd.Solo
import Koupang.Model.ConsumerAttempt

/-!
# The consumer's retries, with the tables

The model of `shared/src/events/consumer.rs` for one instance of a consumer, from
`process_message` down to the statements of an attempt. A handler is any program
on the tables of its service. What the environment decides is an argument: the
answers to statements, the failures of `BEGIN`, of a statement and of `COMMIT`,
a shutdown during a backoff, the failure of a publish to the dead-letter queue,
and what the rest of the service does to the tables between two attempts.
-/

namespace Koupang.Consumer.Retry

open ReadCommitted

variable {σ : Type} {D : Database σ}

structure ConsumerConfig where
  groupId : String
  maxRetries : Nat
  dlqTopicOverride : Option String := none

/-! ## Processed events -/

section ProcessedEvents

variable (D)

def isEventProcessed (key : ProcessedKey) : Prog (withProcessedEvents D) AppError Bool :=
  Prog.send (D := withProcessedEvents D) .tx .internalServerError (Stmt.isEventProcessed key)

def markEventProcessed (key : ProcessedKey) : Prog (withProcessedEvents D) AppError Unit :=
  Prog.send (D := withProcessedEvents D) .tx .internalServerError (Stmt.markEventProcessed key)

end ProcessedEvents

/-! ## One attempt -/

/-- How `COMMIT` ends. -/
inductive CommitAnswer where
  | ok
  /-- it fails, and the transaction is rolled back -/
  | failed
  /-- the transaction is committed, but the answer is lost -/
  | lost
deriving DecidableEq, Repr

/-- What the environment does during an attempt. -/
structure AttemptEnv (D : Database σ) where
  /-- what the rest of the service has done to the tables since the last attempt -/
  meanwhile : σ → σ := id
  beginOk : Bool := true
  env : Env D
  commit : CommitAnswer := .ok

inductive AttemptResult where
  | committed
  | alreadyProcessed
  | dbError
  | permanentFailure (err : String)
  | transientFailure (err : String)
deriving DecidableEq, Repr

/-- An attempt that has ended. -/
structure Attempt (σ : Type) where
  result : AttemptResult
  /-- the committed tables -/
  db : Tables σ
  /-- the handler was called -/
  handlerRan : Bool
  /-- the transaction in which the handler has run was committed -/
  handled : Bool := false

/-- The committed tables after `tx.commit()`. Committing an aborted transaction is a rollback. -/
def commitTx (answer : CommitAnswer) (db : Tables σ) (tx : Solo (withProcessedEvents D)) :
    Bool × Tables σ :=
  let outside := view (withProcessedEvents D) tx.outside db
  if answer = .failed || tx.aborted then (false, outside)
  else (true, view (withProcessedEvents D) tx.writes outside)

/-- The committed tables after the transaction was dropped. -/
def dropTx (db : Tables σ) (tx : Solo (withProcessedEvents D)) : Tables σ :=
  view (withProcessedEvents D) tx.outside db

/-- The environment for the statements on `processed_events`, too. -/
def liftEnv (env : Env D) : Env (withProcessedEvents D) where
  input := env.input
  fault := env.fault

/-- Single processing attempt: begin tx → idempotency check → handler → commit. -/
def tryProcessOnce (handle : Prog D HandlerError Unit) (key : ProcessedKey) (env : AttemptEnv D)
    (db : Tables σ) : Attempt σ :=
  if !env.beginOk then
    { result := .dbError, db, handlerRan := false }
  else match (isEventProcessed D key).solo (liftEnv env.env) db {} with
    | (.error _, tx) => { result := .dbError, db := dropTx db tx, handlerRan := false }
    | (.ok true, tx) =>
      let (_, db) := commitTx env.commit db tx
      { result := if env.commit = .ok then .alreadyProcessed else .dbError, db
        handlerRan := false }
    | (.ok false, tx) =>
      match (onTables handle).solo (liftEnv env.env) db tx with
      | (.error (.permanent e), tx) =>
        { result := .permanentFailure e, db := dropTx db tx, handlerRan := true }
      | (.error (.transient e), tx) =>
        { result := .transientFailure e, db := dropTx db tx, handlerRan := true }
      | (.ok (), tx) =>
        match (markEventProcessed D key).solo (liftEnv env.env) db tx with
        | (.error _, tx) => { result := .dbError, db := dropTx db tx, handlerRan := true }
        | (.ok (), tx) =>
          let (handled, db) := commitTx env.commit db tx
          { result := if env.commit = .ok then .committed else .dbError, db
            handlerRan := true, handled }

/-! ## Dead-letter queue -/

/-- How a publish to the dead-letter queue ends. -/
inductive DlqAnswer where
  | ok
  | failed
  /-- the record is there, but the answer is lost -/
  | lost
deriving DecidableEq, Repr

inductive DlqPayload where
  | envelope (envelope : EventEnvelope)
  | raw (payload : String)
deriving DecidableEq

/-- A record of a dead-letter topic, with its headers but for the time. -/
structure DlqRecord where
  topic : String
  key : Option Uuid
  payload : DlqPayload
  reason : String
  retryCount : Nat
  originalTopic : String
  consumerGroup : String
deriving DecidableEq

inductive ProcessResult where
  | success
  | skipped
  | sentToDlq
  | dlqFailed
  | dbError
deriving DecidableEq, Repr

def dlqTopicFor (config : ConsumerConfig) (sourceTopic : String) : String :=
  match config.dlqTopicOverride with
  | some topic => topic
  | none => s!"{sourceTopic}.dlq"

/-- `producer.send(record, ..)`: whether it succeeds, and the records that are there then. -/
def sendRecord (answer : DlqAnswer) (record : DlqRecord) : Bool × List DlqRecord :=
  match answer with
  | .ok => (true, [record])
  | .failed => (false, [])
  | .lost => (false, [record])

/-- The key of the record is the envelope's partition key, the identifier of its aggregate. -/
def publishEnvelopeToDlq (config : ConsumerConfig) (originalTopic : String)
    (envelope : EventEnvelope) (error : String) (retryCount : Nat) (answer : DlqAnswer) :
    ProcessResult × List DlqRecord :=
  let (sent, records) := sendRecord answer
    { topic := dlqTopicFor config originalTopic, key := some envelope.metadata.aggregateId
      payload := .envelope envelope, reason := error, retryCount, originalTopic
      consumerGroup := config.groupId }
  (if sent then .sentToDlq else .dlqFailed, records)

def publishRawToDlq (config : ConsumerConfig) (originalTopic rawPayload error : String)
    (answer : DlqAnswer) : Bool × List DlqRecord :=
  sendRecord answer
    { topic := dlqTopicFor config originalTopic, key := none, payload := .raw rawPayload
      reason := error, retryCount := 0, originalTopic, consumerGroup := config.groupId }

/-! ## Retry loop -/

/-- What the environment does while one message is processed. -/
structure ProcessEnv (D : Database σ) where
  attempts : Nat → AttemptEnv D
  /-- the shutdown token is cancelled during the backoff after an attempt -/
  shutdown : Nat → Bool := fun _ => false
  dlq : DlqAnswer := .ok

/-- A message whose processing has ended. -/
structure Processed (σ : Type) where
  result : ProcessResult
  db : Tables σ
  handlerRuns : Nat
  handled : Bool
  dlq : List DlqRecord := []

section Loop

variable (config : ConsumerConfig) (handle : EventEnvelope → Prog D HandlerError Unit)
  (topic : String) (envelope : EventEnvelope) (env : ProcessEnv D)

/-- `consumer_group` completes the primary key. -/
def processedKey : ProcessedKey := (envelope.metadata.eventId, config.groupId)

/-- The end of the loop in the dead-letter queue. -/
def sendToDlq (error : String) (retryCount : Nat) (done : Attempt σ) (handlerRuns : Nat) :
    Processed σ :=
  let (result, dlq) := publishEnvelopeToDlq config topic envelope error retryCount env.dlq
  { result, db := done.db, handlerRuns, handled := done.handled, dlq }

/-- The attempts from `attempt` on, with `remaining = max_retries - attempt` retries left. -/
def retryLoop (attempt remaining : Nat) (db : Tables σ) (handlerRuns : Nat) : Processed σ :=
  let attemptEnv := env.attempts attempt
  let db := { db with tables := attemptEnv.meanwhile db.tables }
  let done := tryProcessOnce (handle envelope) (processedKey config envelope) attemptEnv db
  let handlerRuns := handlerRuns + done.handlerRan.toNat
  match done.result with
  | .committed => { result := .success, db := done.db, handlerRuns, handled := done.handled }
  | .alreadyProcessed =>
    { result := .skipped, db := done.db, handlerRuns, handled := done.handled }
  | .dbError => { result := .dbError, db := done.db, handlerRuns, handled := done.handled }
  | .permanentFailure err => sendToDlq config topic envelope env err 0 done handlerRuns
  | .transientFailure err =>
    match remaining with
    -- Exhausted all retries
    | 0 => sendToDlq config topic envelope env err config.maxRetries done handlerRuns
    | remaining + 1 =>
      if env.shutdown attempt then
        sendToDlq config topic envelope env s!"shutdown during backoff: {err}" (attempt + 1)
          done handlerRuns
      else retryLoop (attempt + 1) remaining done.db handlerRuns

/-- Retry loop: each attempt gets its own database transaction. -/
def processWithRetry (db : Tables σ) : Processed σ :=
  retryLoop config handle topic envelope env 0 config.maxRetries db 0

end Loop

/-! ## Messages -/

inductive Message where
  | event (topic : String) (envelope : EventEnvelope)
  /-- the payload does not deserialize -/
  | malformed (topic rawPayload error : String)
deriving DecidableEq

/-- A message that was delivered. -/
structure Delivery (σ : Type) where
  /-- the result of `process_with_retry`, if it was called -/
  processed : Option (Processed σ)
  db : Tables σ
  dlq : List DlqRecord
  /-- `commit_offset` was called -/
  offsetCommitted : Bool

def processMessage (config : ConsumerConfig) (handle : EventEnvelope → Prog D HandlerError Unit)
    (msg : Message) (env : ProcessEnv D) (db : Tables σ) : Delivery σ :=
  match msg with
  | .malformed topic rawPayload error =>
    let (sent, dlq) := publishRawToDlq config topic rawPayload error env.dlq
    { processed := none, db, dlq, offsetCommitted := sent }
  | .event topic envelope =>
    let processed := processWithRetry config handle topic envelope env db
    let offsetCommitted := match processed.result with
      | .success | .skipped | .sentToDlq => true
      -- Do NOT commit: the message will be redelivered
      | .dlqFailed | .dbError => false
    { processed := some processed, db := processed.db, dlq := processed.dlq, offsetCommitted }

structure State (σ : Type) where
  db : Tables σ
  /-- the events whose handler's effects were committed, each until its row is removed -/
  effects : List ProcessedKey := []

inductive Label (D : Database σ) where
  /-- a message is delivered, for the first time or again -/
  | deliver (msg : Message) (env : ProcessEnv D)
  /-- the rest of the service writes its tables -/
  | other (write : σ → σ)
  /-- `cleanup_processed_events` -/
  | cleanup (keep : ProcessedKey → Bool)

def step (config : ConsumerConfig) (handle : EventEnvelope → Prog D HandlerError Unit)
    (s : State σ) : Label D → Option (State σ)
  | .deliver msg env =>
    let delivery := processMessage config handle msg env s.db
    let effects := match msg, delivery.processed with
      | .event _ envelope, some processed =>
        if processed.handled then s.effects ++ [processedKey config envelope] else s.effects
      | _, _ => s.effects
    some { db := delivery.db, effects }
  | .other write => some { s with db := { s.db with tables := write s.db.tables } }
  | .cleanup keep =>
    some { db := { s.db with processedEvents := s.db.processedEvents.filter keep }
           effects := s.effects.filter keep }

end Koupang.Consumer.Retry
