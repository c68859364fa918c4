import Mathlib.Logic.Function.Basic
import Koupang.Model.Jobs

/-!
# Job runners

The model of `shared/src/jobs/runner.rs` and `config/job_runner_config.rs`: any
number of runners that work on one table `persistent_jobs`. A row that is claimed
becomes a task of its runner, which is spawned, executes the handler, marks the
result and, for a recurring job, resets the slot. The stale-lock and cleanup loops
run beside it, and a runner can crash between any two steps. What a handler does is
left open: it may return anything, run into its timeout, or panic.

`State.inserted` and `State.trace` are records that nothing reads, and so is
`Task.epoch`, the number of claims and recoveries of the row up to the task's claim.
-/

namespace Koupang.Jobs

/-! ## Configuration -/

/-- The variables `JOB_RUNNER_..`, where they are set and can be parsed. -/
structure JobRunnerEnv where
  instanceId : Option String := none
  maxConcurrentJobs : Option Nat := none
  pollIntervalMs : Option Nat := none
  staleLockCheckIntervalSecs : Option Nat := none
  staleLockTimeoutSecs : Option Nat := none
  cleanupIntervalSecs : Option Nat := none
  cleanupMaxAgeSecs : Option Nat := none

/-- Durations are in microseconds. -/
structure JobRunnerConfig where
  instanceId : String
  maxConcurrentJobs : Nat
  pollInterval : Nat
  staleLockCheckInterval : Nat
  staleLockTimeout : Nat
  cleanupInterval : Nat
  cleanupMaxAge : Nat

/-- `none` where an assertion fails. -/
def JobRunnerConfig.fromEnv (env : JobRunnerEnv) (nowV7 : String) : Option JobRunnerConfig :=
  let maxConcurrent := env.maxConcurrentJobs.getD 5
  let pollIntervalMs := env.pollIntervalMs.getD 1000
  let staleLockCheckSecs := env.staleLockCheckIntervalSecs.getD 30
  let staleLockTimeoutSecs := env.staleLockTimeoutSecs.getD 300
  if maxConcurrent > 0 ∧ pollIntervalMs > 0 ∧ staleLockTimeoutSecs > staleLockCheckSecs then
    some
      { instanceId := env.instanceId.getD nowV7
        maxConcurrentJobs := maxConcurrent
        pollInterval := pollIntervalMs * 1000
        staleLockCheckInterval := staleLockCheckSecs * 1000000
        staleLockTimeout := staleLockTimeoutSecs * 1000000
        cleanupInterval := env.cleanupIntervalSecs.getD 3600 * 1000000
        cleanupMaxAge := env.cleanupMaxAgeSecs.getD (7 * 24 * 3600) * 1000000 }
  else none

structure JobRunner where
  registry : JobRegistry
  config : JobRunnerConfig

/-- The definition of the slot: the first one of its job type. -/
def JobRunner.recurringDef (runner : JobRunner) (job : Job) : Option RecurringJobDefinition :=
  if job.schedule.isSome then
    runner.registry.recurring.find? (·.jobName.value = job.jobType)
  else none

def JobRunner.schedule (runner : JobRunner) (job : Job) : Option JobSchedule :=
  (runner.recurringDef job).map (·.schedule)

def JobRunner.failurePolicy (runner : JobRunner) (job : Job) : RecurringFailurePolicy :=
  ((runner.recurringDef job).map (·.failurePolicy)).getD default

/-! ## Tasks -/

/-- Where `process_available` is with a job. -/
inductive Pc where
  /-- returned by `claim_batch` -/
  | claimed
  /-- in the handler, since the given time -/
  | executing (since : Nat)
  /-- the handler has returned -/
  | mark (result : Except JobError Unit)
  /-- `reset_recurring` is next -/
  | reset
  | ended
deriving DecidableEq

structure Task where
  runner : Nat
  /-- the row as it was claimed -/
  job : Job
  epoch : Nat
  pc : Pc
deriving DecidableEq

/-- What follows after the result has been marked, whether or not that has failed. -/
def JobRunner.afterMark (runner : JobRunner) (job : Job) : Except JobError Unit → Pc
  | .ok () => if (runner.schedule job).isSome then .reset else .ended
  | .error (.transient _) =>
    if job.schedule.isSome && job.attempts ≥ job.maxRetries &&
      runner.failurePolicy job = .resetToNext && (runner.schedule job).isSome then .reset
    else .ended
  | .error (.permanent _) => .ended

/-- The statement that marks a result. -/
def Task.markResult (task : Task) (jobs : JobTable) (now : Nat) :
    Except JobError Unit → Except AppError JobTable
  | .ok () => markCompleted jobs now task.job.id
  | .error (.transient msg) => markRetryOrFailed jobs now task.job.id msg task.job.maxRetries
  | .error (.permanent msg) => markDeadLettered jobs now task.job.id msg

/-! ## States -/

inductive Entry where
  | claimed (id : Uuid)
  | recovered (id : Uuid)
  /-- a handler was called -/
  | started (id : Uuid)
  /-- a handler returned `Ok` -/
  | succeeded (id : Uuid)
deriving DecidableEq, Repr

structure State where
  now : Nat := 0
  jobs : JobTable := .empty
  uuids : Nat := 0
  /-- in the order of their claims -/
  tasks : List Task := []
  inFlight : Nat → Nat := fun _ => 0
  inserted : List Job := []
  /-- newest first -/
  trace : List Entry := []

/-- How often the row was claimed or recovered. -/
def State.epoch (s : State) (id : Uuid) : Nat :=
  s.trace.count (.claimed id) + s.trace.count (.recovered id)

/-- The task `i` goes on. -/
def State.goOn (s : State) (i : Nat) (task : Task) (pc : Pc) : State :=
  { s with tasks := s.tasks.set i { task with pc } }

/-- The task `i` ends, and its `InFlightGuard` is dropped. -/
def State.finish (s : State) (i : Nat) (task : Task) : State :=
  { s.goOn i task .ended with
    inFlight := Function.update s.inFlight task.runner (s.inFlight task.runner - 1) }

/-- The task `i` goes on, or ends. -/
def State.proceed (s : State) (i : Nat) (task : Task) (pc : Pc) : State :=
  if pc = .ended then s.finish i task else s.goOn i task pc

/-- A statement runs; when it fails, the table stays as it is and the error is logged. -/
def State.exec (s : State) (stmt : Except AppError JobTable) : State :=
  match stmt with
  | .ok jobs => { s with jobs }
  | .error _ => s

inductive Label where
  | tick (duration : Nat)
  /-- a service commits `enqueue_job` in a transaction that began at `createdAt` -/
  | enqueue (jobName : JobName) (config : Option JobConfig) (createdAt : Nat)
  /-- runner `r` seeds its recurring definition number `k` -/
  | seed (r k : Nat)
  /-- `claim_batch`: `SKIP LOCKED` and `LIMIT` can leave out any of the rows that are due;
      the answer may be lost -/
  | claim (r : Nat) (ids : List Uuid) (answered : Bool)
  /-- the handler of task `i` is looked up and called -/
  | spawn (i : Nat)
  | returns (i : Nat) (result : Except JobError Unit)
  | timeOut (i : Nat)
  | panic (i : Nat)
  /-- the result is marked; without `applied` the statement does not reach the database -/
  | mark (i : Nat) (applied : Bool)
  /-- `reset_recurring`, with the next run computed at `computedAt` -/
  | reset (i computedAt : Nat) (applied : Bool)
  | crash (r : Nat)
  | releaseStaleLocks (r : Nat)
  | cleanupCompleted (r : Nat) (ids : List Uuid)

/-- `claim_batch` with a limit returns the rows with these identifiers. -/
def State.claims (s : State) (limit : Int) (ids : List Uuid) : Bool :=
  ids.all (fun id => (s.jobs.find? id).any (·.isClaimable s.now)) && ids.Nodup &&
    ids.length ≤ limit

/-- Runner `r` is at `claim_batch`: it has spawned all the jobs of its last batch. -/
def State.isPolling (s : State) (r : Nat) : Bool :=
  s.tasks.all fun task => !(task.runner = r && task.pc = .claimed)

/-- The tasks for the rows that `claim_batch` returns. -/
def State.newTasks (s : State) (r : Nat) (ids : List Uuid) : List Task :=
  (ids.filterMap s.jobs.find?).map fun job =>
    { runner := r, job, epoch := s.epoch job.id, pc := .claimed }

/-! ## Steps -/

/-- One step of a runner, of its environment or of a maintenance loop. -/
def step (runners : Nat → JobRunner) (s : State) : Label → Option State
  | .tick duration => some { s with now := s.now + duration }
  | .enqueue jobName config createdAt =>
    if createdAt ≤ s.now then
      match enqueueJob s.jobs createdAt ⟨0, s.uuids⟩ jobName config with
      | .ok (id, jobs) =>
        some { s with jobs, uuids := s.uuids + 1,
                      inserted := (jobs.find? id).toList ++ s.inserted }
      | .error _ => some { s with uuids := s.uuids + 1 }
    else none
  | .seed r k => do
    let definition ← (runners r).registry.recurring[k]?
    match seedRecurringJob s.jobs s.now ⟨0, s.uuids⟩ definition with
    | .ok (some id, jobs) =>
      some { s with jobs, uuids := s.uuids + 1,
                    inserted := (jobs.find? id).toList ++ s.inserted }
    | _ => some { s with uuids := s.uuids + 1 }
  | .claim r ids answered =>
    let config := (runners r).config
    -- `capacity` is an i32
    let capacity := asI32 (config.maxConcurrentJobs - s.inFlight r : Nat)
    if s.isPolling r && 0 < capacity && s.claims capacity ids then
      let s' := { s with jobs := claimBatch s.jobs s.now ids config.instanceId
                         trace := ids.map Entry.claimed ++ s.trace }
      some { s' with tasks := if answered then s'.tasks ++ s'.newTasks r ids else s'.tasks }
    else none
  | .spawn i =>
    match s.tasks[i]? with
    | some task =>
      if task.pc = .claimed then
        if task.job.jobType ∈ (runners task.runner).registry.handlers then
          some { s.goOn i task (.executing s.now) with
            inFlight := Function.update s.inFlight task.runner (s.inFlight task.runner + 1)
            trace := .started task.job.id :: s.trace }
        else some (s.goOn i task .ended)
      else none
    | none => none
  | .returns i result =>
    match s.tasks[i]? with
    | some task =>
      match task.pc with
      | .executing _ =>
        let trace := match result with
          | .ok () => .succeeded task.job.id :: s.trace
          | .error _ => s.trace
        some { s.goOn i task (.mark result) with trace }
      | _ => none
    | none => none
  | .timeOut i =>
    match s.tasks[i]? with
    | some task =>
      match task.pc with
      | .executing since =>
        -- the row is left as running for stale lock recovery
        if since + task.job.timeout ≤ s.now then some (s.finish i task) else none
      | _ => none
    | none => none
  | .panic i =>
    match s.tasks[i]? with
    | some task =>
      match task.pc with
      | .executing _ => some (s.finish i task)
      | _ => none
    | none => none
  | .mark i applied =>
    match s.tasks[i]? with
    | some task =>
      match task.pc with
      | .mark result =>
        let s' := if applied then s.exec (task.markResult s.jobs s.now result) else s
        some (s'.proceed i task ((runners task.runner).afterMark task.job result))
      | _ => none
    | none => none
  | .reset i computedAt applied =>
    match s.tasks[i]? with
    | some task =>
      match task.pc, (runners task.runner).schedule task.job with
      | .reset, some schedule =>
        if computedAt ≤ s.now then
          let nextRunAt := computeNextRunAt schedule computedAt
          let s' := if applied then
              s.exec (resetRecurring s.jobs s.now task.job.id nextRunAt)
            else s
          some (s'.finish i task)
        else none
      | _, _ => none
    | none => none
  | .crash r =>
    some { s with
      tasks := s.tasks.map fun task =>
        if task.runner = r then { task with pc := .ended } else task
      inFlight := Function.update s.inFlight r 0 }
  | .releaseStaleLocks r =>
    let staleTimeout := (runners r).config.staleLockTimeout
    some { s with
      jobs := releaseStaleLocks s.jobs s.now staleTimeout
      trace := (s.jobs.rows.filter (·.isStale s.now staleTimeout)).map
          (fun job => Entry.recovered job.id) ++ s.trace }
  | .cleanupCompleted r ids =>
    if ids.length ≤ 1000 then
      some { s with jobs := cleanupCompleted s.jobs s.now (runners r).config.cleanupMaxAge ids }
    else none

end Koupang.Jobs
