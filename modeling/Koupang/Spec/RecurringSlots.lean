import Koupang.Spec.JobRunner

/-!
# Recurring slots

A recurring job is meant to be one row, its slot, that cycles between pending and
running, or is dead. A service may enqueue a one-shot job with the same type and
key, which the unique index does not tell from it.

## Key results

- `Slot.Has.dedupEntry`: an active row of the slot occupies its entry in the index
- `jobs_of_not_applied`: a statement that does not reach the database
-/

namespace Koupang.Jobs

/-- The row of a recurring job, by its `(job_type, dedup_key)`. -/
structure Slot where
  jobType : String
  dedupKey : String

def Slot.Has (slot : Slot) (job : Job) : Prop :=
  job.schedule.isSome ∧ job.jobType = slot.jobType ∧ job.dedupKey = some slot.dedupKey

instance (slot : Slot) (job : Job) : Decidable (slot.Has job) :=
  inferInstanceAs (Decidable (_ ∧ _ ∧ _))

/-- The definition is one of the slot; its key is cut to the width of the column. -/
def Slot.Defines (slot : Slot) (d : RecurringJobDefinition) : Prop :=
  d.jobName.value = slot.jobType ∧ varchar 255 d.dedupKey = .ok slot.dedupKey

instance (slot : Slot) (d : RecurringJobDefinition) : Decidable (slot.Defines d) :=
  decidable_of_iff
    (d.jobName.value = slot.jobType ∧ (varchar 255 d.dedupKey).toOption = some slot.dedupKey)
    (and_congr_right fun _ => Except.toOption_eq_some)

def Job.IsActive (job : Job) : Prop := job.status = .pending ∨ job.status = .running

instance (job : Job) : Decidable job.IsActive := inferInstanceAs (Decidable (_ ∨ _))

/-- The slot has a pending or running row. -/
def State.Active (s : State) (slot : Slot) : Prop :=
  ∃ job ∈ s.jobs.rows, slot.Has job ∧ job.IsActive

instance (s : State) (slot : Slot) : Decidable (s.Active slot) :=
  inferInstanceAs (Decidable (∃ job ∈ s.jobs.rows, _))

/-! ## Rows and statements -/

variable {runners : Nat → JobRunner} {slot : Slot} {s t : State} {a : Label}

theorem Slot.Has.of_same {job job' : Job} (h : slot.Has job) (hsame : SameJob job job') :
    slot.Has job' := by
  obtain ⟨hschedule, htype, hkey⟩ := h
  exact ⟨hsame.schedule ▸ hschedule, hsame.jobType.trans htype, hsame.dedupKey.trans hkey⟩

theorem Slot.Has.to_same {job job' : Job} (h : slot.Has job') (hsame : SameJob job job') :
    slot.Has job := by
  obtain ⟨hschedule, htype, hkey⟩ := h
  exact ⟨hsame.schedule ▸ hschedule, hsame.jobType ▸ htype, hsame.dedupKey ▸ hkey⟩

theorem Slot.Has.dedupEntry {job : Job} (h : slot.Has job) (hactive : job.IsActive) :
    job.dedupEntry = some (slot.jobType, slot.dedupKey) := by
  obtain ⟨-, htype, hkey⟩ := h
  unfold Job.IsActive at hactive
  simp [Job.dedupEntry, hactive, htype, hkey]

theorem dedupEntry_eq_some {job : Job} {jobType dedupKey : String}
    (h : job.dedupEntry = some (jobType, dedupKey)) :
    job.IsActive ∧ job.jobType = jobType ∧ job.dedupKey = some dedupKey := by
  unfold Job.dedupEntry at h
  split at h
  · rename_i hactive
    obtain ⟨key, hkey, heq⟩ := Option.map_eq_some_iff.mp h
    cases heq
    exact ⟨hactive, rfl, hkey⟩
  · cases h

/-- Without `applied`, the statement of a task does not reach the database. -/
def Label.applied : Label → Bool
  | .mark _ applied => applied
  | .reset _ _ applied => applied
  | _ => true

theorem jobs_of_not_applied (h : step runners s a = some t) (ha : a.applied = false) :
    t.jobs = s.jobs := by
  cases a with
  | mark i applied =>
    cases (show applied = false from ha)
    simp only [step] at h
    split at h
    · split at h
      · cases h
        exact State.proceed_jobs ..
      · cases h
    · cases h
  | reset i computedAt applied =>
    cases (show applied = false from ha)
    simp only [step] at h
    split at h
    · split at h
      · split at h
        · cases h
          rfl
        · cases h
      · cases h
    · cases h
  | _ => cases ha

/-! ## Sample slots -/

def reconcile : JobName := ⟨"payment.reconcile", by decide +kernel⟩
def report : JobName := ⟨"payment.report", by decide +kernel⟩

/-- A slot that is executed every minute. -/
def everyMinute (jobName : JobName) : RecurringJobDefinition :=
  { jobName, schedule := .interval 60000000, dedupKey := "all", config := none
    failurePolicy := .die }

/-- Runners with two recurring jobs. -/
def reconcilers (r : Nat) : JobRunner where
  registry :=
    { handlers := ["payment.reconcile", "payment.report"]
      recurring := [everyMinute reconcile, everyMinute report]
      registered := by decide +kernel }
  config := defaultConfig s!"runner-{r}"

def reconcileSlot : Slot := ⟨"payment.reconcile", "all"⟩

end Koupang.Jobs
