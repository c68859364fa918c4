import Mathlib.Logic.Function.Basic
import Koupang.ForStd.Table
import Koupang.Model.Shared

/-!
# Outbox relay

The model of `shared/src/outbox/`: the table `outbox_events` with its status
trigger, the statements of the repository, the Redis dedup cache, and any number
of relays running `process_batch` step by step, with the stale-lock and cleanup
loops beside them. A relay can crash between any two steps.

`claim_batch` is two steps: its first part works on the statement's snapshot,
and when a row is then locked only `locked_by` is looked at again.

`State.inserted` and `State.trace` are records that nothing reads: the rows as
they were inserted, and the successful publishes and the transitions to `failed`,
newest first. `Escalating.escalated` is a record of the events that were handed to
`on_permanent_failure`.
-/

namespace Koupang.Outbox

/-! ## Table -/

inductive OutboxStatus where
  | pending
  | published
  | failed
deriving DecidableEq, Repr

structure OutboxEvent where
  id : Uuid
  eventId : Uuid
  aggregateId : Uuid
  /-- times are in microseconds -/
  createdAt : Nat
  status : OutboxStatus := .pending
  publishedAt : Option Nat := none
  lockedBy : Option Nat := none
  lockedAt : Option Nat := none
  retryCount : Nat := 0
  maxRetries : Nat := 10
  nextRetryAt : Nat
deriving DecidableEq, Repr

/-- The trigger `enforce_outbox_status_transition`. -/
def enforceOutboxStatusTransition (old new : OutboxStatus) : Bool :=
  old = new || (old = .pending && (new = .published || new = .failed))

namespace OutboxEvent

/-- An `UPDATE` of a row. When the trigger raises, the statement fails and the row stays. -/
def update (set : OutboxEvent → OutboxEvent) (e : OutboxEvent) : OutboxEvent :=
  let e' := { set e with id := e.id }
  if enforceOutboxStatusTransition e.status e'.status then e' else e

theorem update_id (set : OutboxEvent → OutboxEvent) (e : OutboxEvent) :
    (e.update set).id = e.id := by
  unfold update
  dsimp only
  split <;> rfl

/-- Transition an event to `published` and clear its lock. -/
def markPublished (now : Nat) (e : OutboxEvent) : OutboxEvent :=
  { e with status := .published, publishedAt := some now, lockedBy := none, lockedAt := none }

/-- Increment the retry count, compute the back-off, and unlock; or transition to `failed`. -/
def markRetryOrFailed (now : Nat) (e : OutboxEvent) : OutboxEvent :=
  let exhausted := e.retryCount + 1 ≥ e.maxRetries
  { e with
    status := if exhausted then .failed else .pending
    retryCount := e.retryCount + 1
    nextRetryAt := if exhausted then e.nextRetryAt
      else now + 2 ^ min (e.retryCount + 1) 10 * 1000000
    lockedBy := none
    lockedAt := none }

/-- `SET locked_by = $2, locked_at = NOW()` -/
def lock (r now : Nat) (e : OutboxEvent) : OutboxEvent :=
  { e with lockedBy := some r, lockedAt := some now }

/-- `SET locked_by = NULL, locked_at = NULL` -/
def unlock (e : OutboxEvent) : OutboxEvent := { e with lockedBy := none, lockedAt := none }

/-- `WHERE locked_by IS NOT NULL AND locked_at < NOW() - .. AND status = 'pending'` -/
def isStale (now staleTimeout : Nat) (e : OutboxEvent) : Bool :=
  e.lockedBy.isSome && e.lockedAt.any (· + staleTimeout < now) && e.status = .pending

/-- `WHERE status = 'published' AND published_at < NOW() - ..` -/
def isOldPublished (now maxAge : Nat) (e : OutboxEvent) : Bool :=
  e.status = .published && e.publishedAt.any (· + maxAge < now)

/-- `WHERE status = 'pending' AND next_retry_at <= NOW()` -/
def isDue (now : Nat) (e : OutboxEvent) : Bool :=
  e.status = .pending && e.nextRetryAt ≤ now

end OutboxEvent

/-! ## Relays -/

structure RelayConfig where
  batchSize : Nat
  deleteOnPublish : Bool
  /-- a Redis connection is configured -/
  redis : Bool

/-- Where `process_batch` is with the event it works on. -/
inductive Pc where
  | checkDedup
  | publish
  | markDedup
  | markPublished
  | markRetry
deriving DecidableEq, Repr

inductive Relay where
  | idle
  /-- `claim_batch` has computed `oldest_per_aggregate` -/
  | selected (ids : List Uuid)
  | working (event : OutboxEvent) (pc : Pc) (rest : List OutboxEvent)
deriving DecidableEq, Repr

/-- Go on with the next event of the batch. -/
def Relay.next : List OutboxEvent → Relay
  | [] => .idle
  | event :: rest => .working event .checkDedup rest

/-- What the records say about an event. -/
inductive Entry where
  /-- `publisher.publish` returned Ok -/
  | published (eventId : Uuid)
  /-- the row's status became `failed` -/
  | failed (eventId : Uuid)
deriving DecidableEq, Repr

structure State where
  now : Nat := 0
  events : Table OutboxEvent.id := .empty
  uuids : Nat := 0
  /-- keys of the dedup cache -/
  redis : List Uuid := []
  relays : Nat → Relay := fun _ => .idle
  inserted : List OutboxEvent := []
  /-- newest first -/
  trace : List Entry := []

def State.setRelay (s : State) (r : Nat) (relay : Relay) : State :=
  { s with relays := Function.update s.relays r relay }

theorem State.relays_setRelay (s : State) (r : Nat) (relay : Relay) (r' : Nat) :
    (s.setRelay r relay).relays r' = if r' = r then relay else s.relays r' :=
  Function.update_apply ..

inductive Label where
  | tick (duration : Nat)
  /-- a service commits `insert_outbox_event` in a transaction that began at `createdAt` -/
  | insert (aggregateId : Uuid) (createdAt : Nat)
  /-- the snapshot of relay `r`'s `claim_batch` -/
  | claimSelect (r : Nat) (ids : List Uuid)
  /-- the rows that it locks: `SKIP LOCKED` and `LIMIT` can leave any of them out -/
  | claimLock (r : Nat) (ids : List Uuid)
  | checkDedup (r : Nat) (redisUp : Bool)
  | publish (r : Nat) (ok : Bool)
  | markDedup (r : Nat) (redisUp : Bool)
  /-- `mark_published` or `delete_published`; it may fail, or be applied and its answer lost -/
  | markPublished (r : Nat) (applied : Bool)
  /-- `mark_retry_or_failed` -/
  | markRetry (r : Nat) (applied : Bool)
  | crash (r : Nat)
  /-- a key of the dedup cache expires -/
  | expire (eventId : Uuid)
  | releaseStaleLocks (staleTimeout : Nat)
  | cleanupPublished (maxAge : Nat) (ids : List Uuid)

/-- `INSERT INTO outbox_events ..` with the defaults of the columns; `NOW()` is the start of
    the transaction. -/
def State.newEvent (s : State) (aggregateId : Uuid) (createdAt : Nat) : OutboxEvent :=
  { id := ⟨0, s.uuids⟩, eventId := ⟨1, s.uuids⟩, aggregateId, createdAt,
    nextRetryAt := createdAt }

/-- `SELECT DISTINCT ON (aggregate_id) .. ORDER BY aggregate_id, created_at ASC`: the row is
    due, and none of its aggregate that is due is older. -/
def State.isOldestDue (s : State) (e : OutboxEvent) : Bool :=
  e.isDue s.now && s.events.rows.all fun e' =>
    !(e'.aggregateId = e.aggregateId && e'.isDue s.now) || e.createdAt ≤ e'.createdAt

/-- The rows with the given identifiers. -/
def State.eventsWith (s : State) (ids : List Uuid) : List OutboxEvent :=
  ids.filterMap s.events.find?

/-- An `UPDATE` of the rows that satisfy `cond`; it leaves the keys alone. -/
def updateWhere (cond : OutboxEvent → Bool) (set : OutboxEvent → OutboxEvent) (e : OutboxEvent) :
    OutboxEvent :=
  if cond e then e.update set else e

theorem updateWhere_id (cond : OutboxEvent → Bool) (set : OutboxEvent → OutboxEvent)
    (e : OutboxEvent) : (updateWhere cond set e).id = e.id := by
  unfold updateWhere
  split
  · exact e.update_id set
  · rfl

/-- Apply an `UPDATE` to the rows that satisfy `cond`. -/
def State.updateEvents (s : State) (cond : OutboxEvent → Bool)
    (set : OutboxEvent → OutboxEvent) : State :=
  { s with events := s.events.map (updateWhere cond set) (updateWhere_id cond set) }

/-- `mark_published`, or `delete_published` in `delete_on_publish` mode. -/
def State.settleEvent (s : State) (deleteOnPublish : Bool) (id : Uuid) : State :=
  if deleteOnPublish then { s with events := s.events.filter (·.id ≠ id) }
  else s.updateEvents (·.id = id) (OutboxEvent.markPublished s.now)

/-- `mark_retry_or_failed`, with the record of a transition to `failed`. -/
def State.retryEvent (s : State) (id : Uuid) : State :=
  let s' := s.updateEvents (·.id = id) (OutboxEvent.markRetryOrFailed s.now)
  match s.events.find? id with
  | some e =>
    if e.status = .pending && (e.markRetryOrFailed s.now).status = .failed then
      { s' with trace := .failed e.eventId :: s.trace }
    else s'
  | none => s'

/-! ## Steps -/

/-- The snapshot part of `claim_batch`: one oldest due row of each aggregate. -/
def State.selects (s : State) (ids : List Uuid) : Bool :=
  ids.all (fun id => (s.events.find? id).any s.isOldestDue) &&
    ((s.eventsWith ids).map (·.aggregateId)).Nodup

/-- The locking part of `claim_batch`: rows of the snapshot that are not locked now. -/
def State.locks (s : State) (batchSize : Nat) (selected ids : List Uuid) : Bool :=
  ids.all (fun id => id ∈ selected && (s.events.find? id).any (·.lockedBy.isNone)) &&
    ids.Nodup && ids.length ≤ batchSize

/-- One step of `process_batch`, of the environment or of a maintenance loop. -/
def step (config : Nat → RelayConfig) (s : State) : Label → Option State
  | .tick duration => some { s with now := s.now + duration }
  | .insert aggregateId createdAt =>
    if createdAt ≤ s.now then do
      let event := s.newEvent aggregateId createdAt
      let events ← s.events.insert event
      some { s with events, uuids := s.uuids + 1, inserted := s.inserted ++ [event] }
    else none
  | .claimSelect r ids =>
    match s.relays r with
    | .idle => if s.selects ids then some (s.setRelay r (.selected ids)) else none
    | _ => none
  | .claimLock r ids =>
    match s.relays r with
    | .selected selected =>
      if s.locks (config r).batchSize selected ids then
        let s' := s.updateEvents (·.id ∈ ids) (OutboxEvent.lock r s.now)
        -- RETURNING outbox_events.*
        some (s'.setRelay r (Relay.next (s'.eventsWith ids)))
      else none
    | _ => none
  | .checkDedup r redisUp =>
    match s.relays r with
    | .working event .checkDedup rest =>
      -- fail-open: without Redis the event is published again
      let hit := (config r).redis && redisUp && event.eventId ∈ s.redis
      some (s.setRelay r (.working event (if hit then .markPublished else .publish) rest))
    | _ => none
  | .publish r ok =>
    match s.relays r with
    | .working event .publish rest =>
      if ok then
        some ({ s with trace := .published event.eventId :: s.trace }.setRelay r
          (.working event .markDedup rest))
      else some (s.setRelay r (.working event .markRetry rest))
    | _ => none
  | .markDedup r redisUp =>
    match s.relays r with
    | .working event .markDedup rest =>
      let redis := if (config r).redis && redisUp then event.eventId :: s.redis else s.redis
      some ({ s with redis }.setRelay r (.working event .markPublished rest))
    | _ => none
  | .markPublished r applied =>
    match s.relays r with
    | .working event .markPublished rest =>
      let s' := if applied then s.settleEvent (config r).deleteOnPublish event.id else s
      some (s'.setRelay r (Relay.next rest))
    | _ => none
  | .markRetry r applied =>
    match s.relays r with
    | .working event .markRetry rest =>
      let s' := if applied then s.retryEvent event.id else s
      some (s'.setRelay r (Relay.next rest))
    | _ => none
  | .crash r => some (s.setRelay r .idle)
  | .expire eventId => some { s with redis := s.redis.filter (· ≠ eventId) }
  | .releaseStaleLocks staleTimeout =>
    some (s.updateEvents (·.isStale s.now staleTimeout) OutboxEvent.unlock)
  | .cleanupPublished maxAge ids =>
    -- `LIMIT 1000` leaves open which of the old rows go
    if ids.length ≤ 1000 then
      some { s with events :=
        s.events.filter fun e => !(e.id ∈ ids && e.isOldPublished s.now maxAge) }
    else none

/-! ## Escalation -/

/-- `retry_count + 1 >= max_retries` -/
def OutboxEvent.exhausted (e : OutboxEvent) : Bool := e.retryCount + 1 ≥ e.maxRetries

/-- `mark_retry_or_failed` returns Ok: its row is gone, or the trigger lets the status pass. -/
def State.retryOk (s : State) (id : Uuid) : Bool :=
  (s.events.find? id).all fun e =>
    enforceOutboxStatusTransition e.status (e.markRetryOrFailed s.now).status

/-- The event that a step hands to `on_permanent_failure`, by its `event_id`. An `UPDATE`
    that is applied is taken to be answered. -/
def State.escalates (s : State) : Label → List Uuid
  | .markRetry r applied =>
    match s.relays r with
    | .working event .markRetry _ =>
      -- `event` is the row as it was claimed
      if applied && s.retryOk event.id && event.exhausted then [event.eventId] else []
    | _ => []
  | _ => []

structure Escalating extends State where
  escalated : List Uuid := []

/-- A step together with `escalate_failure`. -/
def escalatingStep (config : Nat → RelayConfig) (s : Escalating) (a : Label) :
    Option Escalating :=
  (step config s.toState a).map fun t =>
    { toState := t, escalated := s.escalates a ++ s.escalated }

end Koupang.Outbox
