import Mathlib.Data.List.Infix
import Koupang.ForStd.Table
import Koupang.Model.Shared
import Koupang.Model.Text

/-!
# Persistent jobs

The model of `shared/src/jobs/{types,registry,repository}.rs` and of the table
`persistent_jobs`, with its status trigger and its partial unique index. None of
the repository's statements looks at who holds a row: they are keyed by `id`, or
by the status and the age of the lock.

The payload of a job is left out, since only its handler reads it.
-/

namespace Koupang.Jobs

/-! ## Names -/

/-- The first rule of a job name that the trimmed input breaks. -/
def JobName.check (trimmed : String) : Option String :=
  let chars := trimmed.toList
  if trimmed = "" then some "Job name must not be empty"
  else if Text.len trimmed > 255 then some "Job name must not exceed 255 characters"
  else if !chars.all (fun c => c.isLower || c.isDigit || c = '.' || c = '_' || c = '-') then
    some "Job name must contain only lowercase alphanumeric, dots, underscores, and hyphens"
  else if '.' ∉ chars then
    some "Job name must contain at least one dot for namespacing (e.g. 'payment.disburse')"
  else if chars.head? = some '.' || chars.getLast? = some '.' then
    some "Job name must not start or end with a dot"
  else if ['.', '.'] <:+: chars then some "Job name must not contain consecutive dots"
  else none

/-- Validated job type identifier following the `{namespace}.{name}` convention. -/
structure JobName where
  value : String
  valid : JobName.check value = none
deriving DecidableEq

def JobName.new (input : String) : Except AppError JobName :=
  match h : JobName.check (Text.trim input) with
  | some msg => .error (.badRequest msg)
  | none => .ok ⟨Text.trim input, h⟩

/-! ## Table -/

inductive JobStatus where
  | pending
  | running
  | completed
  | failed
  | deadLettered
  | cancelled
deriving DecidableEq, Repr

def JobStatus.toString : JobStatus → String
  | .pending => "pending"
  | .running => "running"
  | .completed => "completed"
  | .failed => "failed"
  | .deadLettered => "dead_lettered"
  | .cancelled => "cancelled"

instance : ToString JobStatus := ⟨JobStatus.toString⟩

/-- Error returned by job handlers. -/
inductive JobError where
  | transient (msg : String)
  | permanent (msg : String)
deriving DecidableEq, Repr

/-- A row of `persistent_jobs`; times are in microseconds. -/
structure Job where
  id : Uuid
  jobType : String
  status : JobStatus := .pending
  schedule : Option String := none
  dedupKey : Option String
  maxRetries : Int
  timeoutSeconds : Int
  attempts : Nat := 0
  lastError : Option String := none
  lockedBy : Option String := none
  lockedAt : Option Nat := none
  nextRunAt : Nat
  updatedAt : Nat
deriving DecidableEq, Repr

abbrev JobTable := Table Job.id

/-- `job.timeout_seconds as u64`, in microseconds -/
def Job.timeout (job : Job) : Nat := (job.timeoutSeconds % 18446744073709551616).toNat * 1000000

/-- The trigger `enforce_job_status_transition`. -/
def enforceJobStatusTransition (old new : JobStatus) (schedule : Option String) :
    Except String Unit :=
  if old = new then .ok ()
  else match old, new with
    | .pending, .running => .ok ()
    | .running, .completed => .ok ()
    | .running, .failed => .ok ()
    | .running, .deadLettered => .ok ()
    | .running, .pending => .ok ()
    | .pending, .cancelled => .ok ()
    | .deadLettered, .pending => .ok ()
    | .failed, .pending => .ok ()
    | .completed, .pending =>
      if schedule.isSome then .ok ()
      else .error "completed -> pending only valid for recurring jobs (schedule IS NOT NULL)"
    | _, _ => .error s!"invalid job status transition: {old} -> {new}"

/-- The row's entry in the index `idx_jobs_dedup`. -/
def Job.dedupEntry (job : Job) : Option (String × String) :=
  if job.status = .pending ∨ job.status = .running then job.dedupKey.map (job.jobType, ·)
  else none

/-- Another row has the row's entry. -/
def dedupConflict (jobs : JobTable) (job : Job) : Bool :=
  job.dedupEntry.isSome &&
    jobs.rows.any fun other => other.id ≠ job.id && other.dedupEntry = job.dedupEntry

def dedupViolation : AppError :=
  .internalServerError "duplicate key value violates unique constraint \"idx_jobs_dedup\""

/-- A row with its new values; the trigger `persistent_jobs_set_updated_at` has run. -/
def Job.write (set : Job → Job) (now : Nat) (job : Job) : Job :=
  { set job with id := job.id, updatedAt := now }

/-- An `UPDATE .. WHERE id = $1` with the status trigger and the unique index. -/
def updateJob (jobs : JobTable) (now : Nat) (id : Uuid) (set : Job → Job) :
    Except AppError JobTable :=
  match jobs.find? id with
  | none => .ok jobs
  | some job => do
    let job' := job.write set now
    (enforceJobStatusTransition job.status job'.status job'.schedule).mapError
      .internalServerError
    if dedupConflict jobs job' then throw dedupViolation
    return jobs.set job'

/-! ## Schedules and the registry -/

/-- What is used of `cron::Schedule`. -/
structure CronSchedule where
  source : String
  /-- `upcoming(Utc).next()` at a given time -/
  upcoming : Nat → Nat
  lt_upcoming : ∀ now, now < upcoming now

/-- Schedule for recurring jobs. -/
inductive JobSchedule where
  | cron (s : CronSchedule)
  /-- a duration in microseconds -/
  | interval (d : Nat)

def computeNextRunAt (schedule : JobSchedule) (now : Nat) : Nat :=
  match schedule with
  | .cron s => s.upcoming now
  | .interval d => now + d

/-- What to do when a recurring job exhausts all retries. -/
inductive RecurringFailurePolicy where
  | die
  | resetToNext
deriving DecidableEq, Repr

instance : Inhabited RecurringFailurePolicy := ⟨.die⟩

/-- Deduplication strategy for one-shot jobs. -/
inductive DedupStrategy where
  | skip
  | enqueue
  | replace
deriving DecidableEq, Repr

/-- Per-job configuration overrides. -/
structure JobConfig where
  maxRetries : Option Nat := none
  timeoutSeconds : Option Nat := none
  dedupStrategy : DedupStrategy := .skip
  dedupKey : Option String := none

structure RecurringJobDefinition where
  jobName : JobName
  schedule : JobSchedule
  dedupKey : String
  config : Option JobConfig
  failurePolicy : RecurringFailurePolicy

/-- The job types that have a handler, and the recurring definitions. -/
structure JobRegistry where
  handlers : List String := []
  recurring : List RecurringJobDefinition := []
  /-- `register_recurring` panics otherwise -/
  registered : ∀ d ∈ recurring, d.jobName.value ∈ handlers := by simp

/-! ## Repository -/

/-- Insert a new one-shot job, returning the job ID. `NOW()` is the start of the transaction. -/
def enqueueJob (jobs : JobTable) (now : Nat) (id : Uuid) (jobName : JobName)
    (config : Option JobConfig) : Except AppError (Uuid × JobTable) := do
  let maxRetries := asI32 ((config.bind (·.maxRetries)).getD 5)
  let timeoutSeconds := asI32 ((config.bind (·.timeoutSeconds)).getD 300)
  let dedupKey ← ((config.bind (·.dedupKey)).mapM (varchar 255)).mapError .internalServerError
  let job : Job := { id, jobType := jobName.value, dedupKey, maxRetries, timeoutSeconds,
                     nextRunAt := now, updatedAt := now }
  if dedupConflict jobs job then throw dedupViolation
  match jobs.insert job with
  | some jobs' => return (id, jobs')
  | none =>
    throw (.internalServerError
      "duplicate key value violates unique constraint \"persistent_jobs_pkey\"")

/-- The `schedule` column. -/
def JobSchedule.column : JobSchedule → String
  | .cron s => s.source
  | .interval d => s!"@every {d / 1000000}s"

/-- Create the initial slot for a recurring job: `ON CONFLICT .. DO NOTHING`. -/
def seedRecurringJob (jobs : JobTable) (now : Nat) (id : Uuid)
    (definition : RecurringJobDefinition) : Except AppError (Option Uuid × JobTable) := do
  let schedule ← (varchar 255 definition.schedule.column).mapError .internalServerError
  let maxRetries := asI32 ((definition.config.bind (·.maxRetries)).getD 5)
  let timeoutSeconds := asI32 ((definition.config.bind (·.timeoutSeconds)).getD 300)
  let dedupKey ← (varchar 255 definition.dedupKey).mapError .internalServerError
  let job : Job := { id, jobType := definition.jobName.value, schedule := some schedule,
                     dedupKey := some dedupKey, maxRetries, timeoutSeconds,
                     nextRunAt := now, updatedAt := now }
  if dedupConflict jobs job then return (none, jobs)
  match jobs.insert job with
  | some jobs' => return (some id, jobs')
  | none =>
    throw (.internalServerError
      "duplicate key value violates unique constraint \"persistent_jobs_pkey\"")

namespace Job

/-- `SET status = 'running', locked_by = $2, locked_at = NOW(), attempts = attempts + 1` -/
def claim (instanceId : String) (now : Nat) (job : Job) : Job :=
  { job with
    status := .running
    lockedBy := some instanceId
    lockedAt := some now
    attempts := job.attempts + 1
    updatedAt := now }

/-- `SET status = 'pending', locked_by = NULL, locked_at = NULL` -/
def release (now : Nat) (job : Job) : Job :=
  { job with status := .pending, lockedBy := none, lockedAt := none, updatedAt := now }

/-- `WHERE status = 'pending' AND next_run_at <= NOW()`; the claim of a row whose `attempts`
    cannot be incremented fails. -/
def isClaimable (now : Nat) (job : Job) : Bool :=
  job.status = .pending && job.nextRunAt ≤ now && job.attempts < 2147483647

/-- `WHERE status = 'running' AND locked_at < NOW() - ..` -/
def isStale (now staleTimeout : Nat) (job : Job) : Bool :=
  job.status = .running && job.lockedAt.any (· + staleTimeout < now)

/-- `WHERE status = 'completed' AND updated_at < NOW() - ..` -/
def isOldCompleted (now maxAge : Nat) (job : Job) : Bool :=
  job.status = .completed && job.updatedAt + maxAge < now

/-- Transition a job to `completed` and clear its lock. -/
def markCompleted (job : Job) : Job :=
  { job with status := .completed, lockedBy := none, lockedAt := none }

/-- Retry with exponential backoff, or transition to `failed` if retries are exhausted. -/
def markRetryOrFailed (now : Nat) (error : String) (maxRetries : Int) (job : Job) : Job :=
  let exhausted : Bool := job.attempts ≥ maxRetries
  { job with
    status := if exhausted then .failed else .pending
    nextRunAt := if exhausted then job.nextRunAt else now + 2 ^ min job.attempts 10 * 1000000
    lastError := some error
    lockedBy := none
    lockedAt := none }

/-- Transition a job to `dead_lettered` (permanent error, no retry). -/
def markDeadLettered (error : String) (job : Job) : Job :=
  { job with
    status := .deadLettered, lastError := some error, lockedBy := none, lockedAt := none }

/-- Reset a recurring job slot back to `pending` with a new `next_run_at`. -/
def resetRecurring (nextRunAt : Nat) (job : Job) : Job :=
  { job with
    status := .pending
    nextRunAt
    attempts := 0
    lockedBy := none
    lockedAt := none
    lastError := none }

end Job

def markCompleted (jobs : JobTable) (now : Nat) (jobId : Uuid) : Except AppError JobTable :=
  updateJob jobs now jobId Job.markCompleted

def markRetryOrFailed (jobs : JobTable) (now : Nat) (jobId : Uuid) (error : String)
    (maxRetries : Int) : Except AppError JobTable :=
  updateJob jobs now jobId (Job.markRetryOrFailed now error maxRetries)

def markDeadLettered (jobs : JobTable) (now : Nat) (jobId : Uuid) (error : String) :
    Except AppError JobTable :=
  updateJob jobs now jobId (Job.markDeadLettered error)

def resetRecurring (jobs : JobTable) (now : Nat) (jobId : Uuid) (nextRunAt : Nat) :
    Except AppError JobTable :=
  updateJob jobs now jobId (Job.resetRecurring nextRunAt)

/-- Free jobs whose lock is older than `staleTimeout`. -/
def releaseStaleLocks (jobs : JobTable) (now staleTimeout : Nat) : JobTable :=
  jobs.map (fun job => if job.isStale now staleTimeout then job.release now else job) fun job => by
    split <;> rfl

/-- Delete completed jobs older than `maxAge`; `LIMIT 1000` leaves open which ones. -/
def cleanupCompleted (jobs : JobTable) (now maxAge : Nat) (ids : List Uuid) : JobTable :=
  jobs.filter fun job => !(job.id ∈ ids && job.isOldCompleted now maxAge)

/-- Claim the jobs with the given identifiers. -/
def claimBatch (jobs : JobTable) (now : Nat) (ids : List Uuid) (instanceId : String) : JobTable :=
  jobs.map (fun job => if job.id ∈ ids then job.claim instanceId now else job) fun job => by
    split <;> rfl

end Koupang.Jobs
