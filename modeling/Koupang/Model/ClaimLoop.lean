import Koupang.Model.JobRunner

/-!
# The claim loop of one runner

`process_available` and the tasks it spawns, access by access to the counter
`in_flight`: the counter is loaded, the capacity is computed from the loaded value,
`claim_batch` answers at some later time, and each job of the batch gets a guard
before its task is spawned. Between any two of these accesses other tasks may end,
whatever their end is, and drop their guards. What a task does until then is the
subject of `Koupang.Model.JobRunner`.
-/

namespace Koupang.Jobs.ClaimLoop

/-- How a task ends. Its `InFlightGuard` is dropped in every case. -/
inductive Outcome where
  | succeeded
  | failed (e : JobError)
  | timedOut
  | panicked

/-- Where the loop is. -/
inductive Pc where
  /-- in `select!` -/
  | waiting
  /-- `in_flight` has been loaded -/
  | loaded (current : Nat)
  /-- in `claim_batch` -/
  | claiming (capacity : Int)
  /-- in the `for` over the batch, with the jobs that are left -/
  | spawning (jobs : List Job)
  /-- the guard of a job is there, its task is not -/
  | guarded (job : Job) (jobs : List Job)

structure State where
  pc : Pc := .waiting
  /-- the atomic counter, a `usize` -/
  inFlight : Nat := 0
  /-- the jobs of the tasks that are alive -/
  tasks : List Job := []

inductive Label where
  /-- a notification or the poll interval; `cancelled` if shutdown was requested -/
  | wake (cancelled : Bool)
  /-- the capacity is computed -/
  | request
  /-- `claim_batch` returns -/
  | answer (result : Except AppError (List Job))
  /-- the next job of the batch is looked at -/
  | next
  | spawn
  /-- the task number `i` ends -/
  | ends (i : Nat) (outcome : Outcome)

/-- `fetch_add(1)` -/
def fetchAdd (n : Nat) : Nat := (n + 1) % 18446744073709551616

/-- `fetch_sub(1)` -/
def fetchSub (n : Nat) : Nat := (n + 18446744073709551615) % 18446744073709551616

def step (runner : JobRunner) (s : State) : Label → Option State
  | .wake cancelled =>
    match s.pc with
    | .waiting => if cancelled then some s else some { s with pc := .loaded s.inFlight }
    | _ => none
  | .request =>
    match s.pc with
    | .loaded current =>
      let capacity := asI32 (runner.config.maxConcurrentJobs - current : Nat)
      if capacity ≤ 0 then some { s with pc := .waiting }
      else some { s with pc := .claiming capacity }
    | _ => none
  | .answer result =>
    match s.pc, result with
    | .claiming _, .error _ => some { s with pc := .waiting }
    | .claiming capacity, .ok jobs =>
      if jobs.length ≤ capacity then some { s with pc := .spawning jobs } else none
    | _, _ => none
  | .next =>
    match s.pc with
    | .spawning [] => some { s with pc := .waiting }
    | .spawning (job :: jobs) =>
      if job.jobType ∈ runner.registry.handlers then
        some { s with pc := .guarded job jobs, inFlight := fetchAdd s.inFlight }
      else some { s with pc := .spawning jobs }
    | _ => none
  | .spawn =>
    match s.pc with
    | .guarded job jobs => some { s with pc := .spawning jobs, tasks := s.tasks ++ [job] }
    | _ => none
  | .ends i _ =>
    if i < s.tasks.length then
      some { s with tasks := s.tasks.eraseIdx i, inFlight := fetchSub s.inFlight }
    else none

end Koupang.Jobs.ClaimLoop
