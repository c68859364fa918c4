import Koupang.ForStd.ReadCommitted
import Koupang.Model.Consumer

/-!
# One attempt of the consumer, statement by statement

`try_process_once` runs the idempotency check, the handler and the insert into
`processed_events` in one transaction. The check is a plain `SELECT`, and the
insert is `ON CONFLICT DO NOTHING`: it waits while another transaction has
inserted the same key, and then does nothing if that one has committed.

The handler is any program on the tables of its service.
-/

namespace Koupang.Consumer

open ReadCommitted

variable {σ ε α : Type}

/-- Primary key of `processed_events`: `(event_id, consumer_group)`. -/
abbrev ProcessedKey := Uuid × String

/-- The tables of a service, with its `processed_events`. -/
structure Tables (σ : Type) where
  tables : σ
  processedEvents : List ProcessedKey := []

inductive Stmt (D : Database σ) where
  /-- a statement of the handler -/
  | handler (s : D.Stmt)
  /-- `SELECT EXISTS(SELECT 1 FROM processed_events WHERE ..)` -/
  | isEventProcessed (key : ProcessedKey)
  /-- `INSERT INTO processed_events .. ON CONFLICT (event_id, consumer_group) DO NOTHING` -/
  | markEventProcessed (key : ProcessedKey)

/-- The statements on the tables of a service and on its `processed_events`. -/
abbrev withProcessedEvents (D : Database σ) : Database (Tables σ) where
  Stmt := Stmt D
  Result
    | .handler s => D.Result s
    | .isEventProcessed _ => Bool
    | .markEventProcessed _ => Unit
  Input := D.Input
  Write := D.Write ⊕ ProcessedKey
  Key := D.Key ⊕ ProcessedKey
  exec
    | .handler s, input, db => (D.exec s input db.tables).map fun p => (p.1, p.2.map .inl)
    | .isEventProcessed key, _, db => .ok (db.processedEvents.contains key, [])
    | .markEventProcessed key, _, db =>
      .ok ((), if db.processedEvents.contains key then [] else [.inr key])
  apply
    | db, .inl w => { db with tables := D.apply db.tables w }
    | db, .inr key => { db with processedEvents := db.processedEvents ++ [key] }
  key
    | .inl w => (D.key w).map .inl
    | .inr key => some (.inr key)

/-- A program on the tables of a service. -/
def onTables {D : Database σ} (x : Prog D ε α) : Prog (withProcessedEvents D) ε α :=
  match x with
  | .done r => .done r
  | .stmt c s k => .stmt c (.handler s) fun r => onTables (k r)

def handlerFailure : HandlerError → AttemptResult
  | .permanent _ => .permanentFailure
  | .transient _ => .transientFailure

section Attempt

variable {D : Database σ}

def isEventProcessed (key : ProcessedKey) :
    Prog (withProcessedEvents D) AttemptResult Bool :=
  Prog.send (D := withProcessedEvents D) .tx (fun _ => .dbError) (Stmt.isEventProcessed key)

def markEventProcessed (key : ProcessedKey) :
    Prog (withProcessedEvents D) AttemptResult Unit :=
  Prog.send (D := withProcessedEvents D) .tx (fun _ => .dbError) (Stmt.markEventProcessed key)

/-- Single processing attempt: idempotency check → handler → mark. It ends with the result
    that the transaction is to be committed with, or with an error and is rolled back. -/
def tryProcessOnceOnTx (handle : Prog D HandlerError Unit) (key : ProcessedKey) :
    Prog (withProcessedEvents D) AttemptResult AttemptResult := do
  if ← isEventProcessed key then
    return .alreadyProcessed
  (onTables handle).mapErr handlerFailure
  markEventProcessed key
  return .committed

end Attempt

/-! ## Attempts at one event -/

abbrev AttemptState (D : Database σ) :=
  ReadCommitted.State (withProcessedEvents D) Unit AttemptResult AttemptResult

abbrev AttemptLabel (D : Database σ) := ReadCommitted.Label (withProcessedEvents D) Unit

/-- Any number of instances of the consumer group attempt the same event. -/
def attempts {D : Database σ} (handle : Prog D HandlerError Unit) (key : ProcessedKey)
    (s : AttemptState D) (a : AttemptLabel D) : Option (AttemptState D) :=
  ReadCommitted.step (fun _ => tryProcessOnceOnTx handle key) s a

end Koupang.Consumer
