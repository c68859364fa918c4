import Mathlib.Data.List.Count
import Koupang.ForStd.Run
import Koupang.Model.JobRunner

/-!
# What a step of a job runner does

Every invariant of the runs is derived from two facts that are stated once here:
which rows a statement leaves in the table, and, in `Stepped`, the branches that a
step of the runners can take.

## Key results

- `updateJob_ok`: an `UPDATE` of a row that passes the trigger and the index
- `Stepped`, `stepped_of_step`: the branches of a step
-/

namespace Koupang.Jobs

/-! ## Rows -/

/-- Two versions of the row of one job. -/
structure SameJob (job job' : Job) : Prop where
  id : job'.id = job.id
  jobType : job'.jobType = job.jobType
  schedule : job'.schedule = job.schedule
  dedupKey : job'.dedupKey = job.dedupKey
  maxRetries : job'.maxRetries = job.maxRetries

theorem SameJob.refl (job : Job) : SameJob job job := ⟨rfl, rfl, rfl, rfl, rfl⟩

theorem SameJob.trans {j₁ j₂ j₃ : Job} (h : SameJob j₁ j₂) (h' : SameJob j₂ j₃) :
    SameJob j₁ j₃ :=
  ⟨h'.id.trans h.id, h'.jobType.trans h.jobType, h'.schedule.trans h.schedule,
    h'.dedupKey.trans h.dedupKey, h'.maxRetries.trans h.maxRetries⟩

/-- What the four statements that end an execution have in common: they unlock the row, and
    leave alone what identifies the job. -/
structure Unlocks (set : Job → Job) : Prop where
  same : ∀ job, SameJob job (set job)
  lockedBy : ∀ job, (set job).lockedBy = none
  status : ∀ job, (set job).status ≠ .running

theorem unlocks_markCompleted : Unlocks Job.markCompleted where
  same _ := ⟨rfl, rfl, rfl, rfl, rfl⟩
  lockedBy _ := rfl
  status _ := by simp [Job.markCompleted]

theorem unlocks_markRetryOrFailed (now : Nat) (error : String) (maxRetries : Int) :
    Unlocks (Job.markRetryOrFailed now error maxRetries) where
  same _ := ⟨rfl, rfl, rfl, rfl, rfl⟩
  lockedBy _ := rfl
  status _ := by
    simp only [Job.markRetryOrFailed]
    split <;> simp

theorem unlocks_markDeadLettered (error : String) : Unlocks (Job.markDeadLettered error) where
  same _ := ⟨rfl, rfl, rfl, rfl, rfl⟩
  lockedBy _ := rfl
  status _ := by simp [Job.markDeadLettered]

theorem unlocks_resetRecurring (nextRunAt : Nat) : Unlocks (Job.resetRecurring nextRunAt) where
  same _ := ⟨rfl, rfl, rfl, rfl, rfl⟩
  lockedBy _ := rfl
  status _ := by simp [Job.resetRecurring]

@[simp] theorem Job.write_id (set : Job → Job) (now : Nat) (job : Job) :
    (job.write set now).id = job.id := rfl

@[simp] theorem Job.write_status (set : Job → Job) (now : Nat) (job : Job) :
    (job.write set now).status = (set job).status := rfl

theorem Unlocks.write {set : Job → Job} (h : Unlocks set) (now : Nat) (job : Job) :
    SameJob job (job.write set now) :=
  ⟨rfl, (h.same job).jobType, (h.same job).schedule, (h.same job).dedupKey,
    (h.same job).maxRetries⟩

/-! ## Statements -/

/-- An `UPDATE` that succeeds finds no row, or one for which the trigger and the index accept
    the new values. -/
theorem updateJob_ok {jobs jobs' : JobTable} {now : Nat} {id : Uuid} {set : Job → Job}
    (h : updateJob jobs now id set = .ok jobs') :
    (jobs.find? id = none ∧ jobs' = jobs) ∨
      ∃ job, jobs.find? id = some job ∧
        enforceJobStatusTransition job.status (set job).status (set job).schedule = .ok () ∧
        dedupConflict jobs (job.write set now) = false ∧ jobs' = jobs.set (job.write set now) := by
  unfold updateJob at h
  cases hfind : jobs.find? id with
  | none =>
    rw [hfind] at h
    cases h
    exact .inl ⟨rfl, rfl⟩
  | some job =>
    rw [hfind] at h
    refine .inr ⟨job, rfl, ?_⟩
    obtain ⟨_, htrigger, h⟩ := Except.bind_eq_ok.mp h
    dsimp only at h
    split at h
    · cases h
    · rename_i hconflict
      cases h
      exact ⟨Except.mapError_eq_ok.mp htrigger, by simpa using hconflict, rfl⟩

/-- The rows after such an `UPDATE`. -/
theorem mem_updateJob {jobs jobs' : JobTable} {now : Nat} {id : Uuid} {set : Job → Job}
    (h : updateJob jobs now id set = .ok jobs') {job' : Job} (hmem : job' ∈ jobs'.rows) :
    (job' ∈ jobs.rows ∧ job'.id ≠ id) ∨ ∃ job, jobs.find? id = some job ∧
      enforceJobStatusTransition job.status (set job).status (set job).schedule = .ok () ∧
      dedupConflict jobs job' = false ∧ job' = job.write set now := by
  rcases updateJob_ok h with ⟨hnone, rfl⟩ | ⟨job, hfind, htrigger, hconflict, rfl⟩
  · exact .inl ⟨hmem, (jobs'.find?_eq_none_iff id).mp hnone job' hmem⟩
  · have hid : (job.write set now).id = id := ((jobs.find?_eq_some_iff ..).mp hfind).2
    rcases (jobs.mem_set _ _).mp hmem with rfl | ⟨hmem, hne⟩
    · exact .inr ⟨job, hfind, htrigger, hconflict, rfl⟩
    · exact .inl ⟨hmem, by rwa [hid] at hne⟩

/-- It leaves the other rows alone. -/
theorem find?_updateJob {jobs jobs' : JobTable} {now : Nat} {id id' : Uuid} {set : Job → Job}
    (h : updateJob jobs now id set = .ok jobs') (hne : id' ≠ id) :
    jobs'.find? id' = jobs.find? id' := by
  rcases updateJob_ok h with ⟨-, rfl⟩ | ⟨job, hfind, -, -, rfl⟩
  · rfl
  · have hid : (job.write set now).id = id := ((jobs.find?_eq_some_iff ..).mp hfind).2
    rw [jobs.find?_set, hid, if_neg (Ne.symm hne)]

/-! ## Steps -/

/-- A row as `enqueue_job` and `seed_recurring_job` insert it. -/
structure NewRow (s : State) (job : Job) : Prop where
  id : job.id = ⟨0, s.uuids⟩
  status : job.status = .pending
  attempts : job.attempts = 0
  lockedBy : job.lockedBy = none
  unique : dedupConflict s.jobs job = false

/-- The label of a write of task `i`: its mark, or the reset of its slot. -/
def Label.IsDecision (a : Label) (i : Nat) : Prop :=
  (∃ applied, a = .mark i applied) ∨ ∃ computedAt applied, a = .reset i computedAt applied

/-- The labels of inserts. -/
def Label.IsInsert : Label → Prop
  | .enqueue .. => True
  | .seed .. => True
  | _ => False

/-- The labels of executions that end without a result. -/
def Label.IsStop : Label → Prop
  | .timeOut _ => True
  | .panic _ => True
  | _ => False

/-- The rows that a step claims. -/
def Label.claims : Label → List Uuid
  | .claim _ ids _ => ids
  | _ => []

/-- Task `i` is about to run the statement that applies `set` to its row, and goes on at `pc`. -/
inductive Deciding (runners : Nat → JobRunner) (s : State) (i : Nat) (task : Task) :
    Label → (Job → Job) → Pc → Prop where
  | completed {applied} (pc : task.pc = .mark (.ok ())) :
      Deciding runners s i task (.mark i applied) Job.markCompleted
        ((runners task.runner).afterMark task.job (.ok ()))
  | retried {applied msg} (pc : task.pc = .mark (.error (.transient msg))) :
      Deciding runners s i task (.mark i applied)
        (Job.markRetryOrFailed s.now msg task.job.maxRetries)
        ((runners task.runner).afterMark task.job (.error (.transient msg)))
  | deadLettered {applied msg} (pc : task.pc = .mark (.error (.permanent msg))) :
      Deciding runners s i task (.mark i applied) (Job.markDeadLettered msg)
        ((runners task.runner).afterMark task.job (.error (.permanent msg)))
  | reset {applied computedAt schedule} (pc : task.pc = .reset)
      (hschedule : (runners task.runner).schedule task.job = some schedule) :
      Deciding runners s i task (.reset i computedAt applied)
        (Job.resetRecurring (computeNextRunAt schedule computedAt)) .ended

/-- The branches of a step. -/
inductive Stepped (runners : Nat → JobRunner) (s : State) : Label → State → Prop where
  | tick {duration} : Stepped runners s (.tick duration) { s with now := s.now + duration }
  | inserted {a job jobs} (label : a.IsInsert) (new : NewRow s job)
      (ok : s.jobs.insert job = some jobs) :
      Stepped runners s a
        { s with jobs, uuids := s.uuids + 1, inserted := job :: s.inserted }
  | refused {a} (label : a.IsInsert) :
      Stepped runners s a { s with uuids := s.uuids + 1 }
  | claimed {r ids answered t}
      (claimable : ∀ id ∈ ids, ∃ job, s.jobs.find? id = some job ∧ job.isClaimable s.now)
      (nodup : ids.Nodup)
      (ht : t = { s with
        jobs := claimBatch s.jobs s.now ids (runners r).config.instanceId
        trace := ids.map Entry.claimed ++ s.trace }) :
      Stepped runners s (.claim r ids answered)
        { t with tasks := if answered then t.tasks ++ t.newTasks r ids else t.tasks }
  | spawned {i task} (htask : s.tasks[i]? = some task) (pc : task.pc = .claimed) :
      Stepped runners s (.spawn i)
        { s.goOn i task (.executing s.now) with
          inFlight := Function.update s.inFlight task.runner (s.inFlight task.runner + 1)
          trace := .started task.job.id :: s.trace }
  | unhandled {i task} (htask : s.tasks[i]? = some task) (pc : task.pc = .claimed) :
      Stepped runners s (.spawn i) (s.goOn i task .ended)
  | returned {i task since result trace} (htask : s.tasks[i]? = some task)
      (pc : task.pc = .executing since)
      (htrace : trace = s.trace ∧ result ≠ .ok () ∨
        trace = .succeeded task.job.id :: s.trace ∧ result = .ok ()) :
      Stepped runners s (.returns i result) { s.goOn i task (.mark result) with trace }
  | stopped {a i task since} (label : a.IsStop) (htask : s.tasks[i]? = some task)
      (pc : task.pc = .executing since) : Stepped runners s a (s.finish i task)
  | written {a i task set pc jobs} (htask : s.tasks[i]? = some task)
      (deciding : Deciding runners s i task a set pc)
      (ok : updateJob s.jobs s.now task.job.id set = .ok jobs) :
      Stepped runners s a ({ s with jobs }.proceed i task pc)
  | skipped {a i task set pc} (htask : s.tasks[i]? = some task)
      (deciding : Deciding runners s i task a set pc) :
      Stepped runners s a (s.proceed i task pc)
  | crashed {r} : Stepped runners s (.crash r) { s with
      tasks := s.tasks.map fun task =>
        if task.runner = r then { task with pc := .ended } else task
      inFlight := Function.update s.inFlight r 0 }
  | released {r staleTimeout}
      (hstale : staleTimeout = (runners r).config.staleLockTimeout) :
      Stepped runners s (.releaseStaleLocks r) { s with
        jobs := releaseStaleLocks s.jobs s.now staleTimeout
        trace := (s.jobs.rows.filter (·.isStale s.now staleTimeout)).map
          (fun job => Entry.recovered job.id) ++ s.trace }
  | cleaned {r ids maxAge} : Stepped runners s (.cleanupCompleted r ids)
      { s with jobs := cleanupCompleted s.jobs s.now maxAge ids }

variable {runners : Nat → JobRunner} {s t : State} {a : Label}

theorem Label.IsInsert.not_isDecision (h : a.IsInsert) (i : Nat) :
    ¬ a.IsDecision i := by
  rintro (⟨_, rfl⟩ | ⟨_, _, rfl⟩) <;> exact h

theorem Label.IsStop.not_isDecision (h : a.IsStop) (i : Nat) :
    ¬ a.IsDecision i := by
  rintro (⟨_, rfl⟩ | ⟨_, _, rfl⟩) <;> exact h

theorem Label.IsInsert.claims (h : a.IsInsert) : a.claims = [] := by
  cases a with
  | claim => exact h.elim
  | _ => rfl

theorem Label.IsStop.claims (h : a.IsStop) : a.claims = [] := by
  cases a with
  | claim => exact h.elim
  | _ => rfl

theorem Label.IsDecision.claims {i : Nat} (h : a.IsDecision i) : a.claims = [] := by
  rcases h with ⟨_, rfl⟩ | ⟨_, _, rfl⟩ <;> rfl

theorem Deciding.unlocks {i : Nat} {task : Task} {set : Job → Job} {pc : Pc}
    (h : Deciding runners s i task a set pc) :
    Unlocks set := by
  cases h with
  | completed _ => exact unlocks_markCompleted
  | retried _ => exact unlocks_markRetryOrFailed ..
  | deadLettered _ => exact unlocks_markDeadLettered _
  | reset _ _ => exact unlocks_resetRecurring _

theorem Deciding.isDecision {i : Nat} {task : Task} {set : Job → Job} {pc : Pc}
    (h : Deciding runners s i task a set pc) :
    a.IsDecision i := by
  cases h with
  | completed _ => exact .inl ⟨_, rfl⟩
  | retried _ => exact .inl ⟨_, rfl⟩
  | deadLettered _ => exact .inl ⟨_, rfl⟩
  | reset _ _ => exact .inr ⟨_, _, rfl⟩

theorem enqueueJob_ok {now : Nat} {jobName : JobName} {config : Option JobConfig} {id : Uuid}
    {jobs : JobTable} (h : enqueueJob s.jobs now ⟨0, s.uuids⟩ jobName config = .ok (id, jobs)) :
    ∃ job, NewRow s job ∧ s.jobs.insert job = some jobs ∧ job.id = id := by
  obtain ⟨dedupKey, -, h⟩ := Except.bind_eq_ok.mp h
  dsimp only at h
  split at h
  · cases h
  · rename_i hconflict
    split at h
    · rename_i jobs' hinsert
      cases h
      exact ⟨_, ⟨rfl, rfl, rfl, rfl, by simpa using hconflict⟩, hinsert, rfl⟩
    · cases h

theorem seedRecurringJob_ok {now : Nat} {definition : RecurringJobDefinition} {id : Uuid}
    {jobs : JobTable}
    (h : seedRecurringJob s.jobs now ⟨0, s.uuids⟩ definition = .ok (some id, jobs)) :
    ∃ job, NewRow s job ∧ s.jobs.insert job = some jobs ∧ job.id = id := by
  obtain ⟨schedule, -, h⟩ := Except.bind_eq_ok.mp h
  obtain ⟨dedupKey, -, h⟩ := Except.bind_eq_ok.mp h
  dsimp only at h
  split at h
  · cases h
  · rename_i hconflict
    split at h
    · rename_i jobs' hinsert
      cases h
      exact ⟨_, ⟨rfl, rfl, rfl, rfl, by simpa using hconflict⟩, hinsert, rfl⟩
    · cases h

/-- A row that was just inserted is found. -/
theorem inserted_eq {jobs jobs' : JobTable} {job : Job} (h : jobs.insert job = some jobs') :
    (jobs'.find? job.id).toList = [job] := by
  rw [Table.find?_of_insert h, if_pos rfl]
  rfl

/-- The statement of a task succeeds, or it changes nothing. -/
theorem stepped_exec {i : Nat} {task : Task} {set : Job → Job} {pc : Pc} (applied : Bool)
    (htask : s.tasks[i]? = some task) (h : Deciding runners s i task a set pc) :
    Stepped runners s a
      ((if applied then s.exec (updateJob s.jobs s.now task.job.id set) else s).proceed i task
        pc) := by
  cases applied with
  | false => exact .skipped htask h
  | true =>
    cases hok : updateJob s.jobs s.now task.job.id set with
    | ok jobs => exact .written htask h hok
    | error e => exact .skipped htask h

theorem stepped_of_step (h : step runners s a = some t) : Stepped runners s a t := by
  cases a with
  | tick duration =>
    cases h
    exact .tick
  | enqueue jobName config createdAt =>
    simp only [step] at h
    split at h
    · split at h
      · rename_i id jobs hok
        obtain ⟨job, hnew, hinsert, rfl⟩ := enqueueJob_ok hok
        rw [inserted_eq hinsert] at h
        cases h
        exact .inserted trivial hnew hinsert
      · -- the row is refused, but an identifier has been drawn
        cases h
        exact .refused trivial
    · cases h
  | seed r k =>
    obtain ⟨definition, -, h⟩ := Option.bind_eq_some_iff.mp h
    split at h
    · rename_i id jobs hok
      obtain ⟨job, hnew, hinsert, rfl⟩ := seedRecurringJob_ok hok
      rw [inserted_eq hinsert] at h
      cases h
      exact .inserted trivial hnew hinsert
    · cases h
      exact .refused trivial
  | claim r ids answered =>
    simp only [step] at h
    split at h
    · rename_i hguard
      cases h
      -- the capacity bounds how many rows are claimed, nothing else
      simp only [State.claims, Bool.and_eq_true, List.all_eq_true, decide_eq_true_eq] at hguard
      obtain ⟨-, ⟨hclaimable, hnodup⟩, -⟩ := hguard
      refine .claimed (fun id hid => ?_) hnodup rfl
      obtain ⟨job, hfind, hjob⟩ := (Option.any_eq_true _ _).mp (hclaimable id hid)
      exact ⟨job, hfind, hjob⟩
    · cases h
  | spawn i =>
    simp only [step] at h
    split at h
    · rename_i task htask
      split at h
      · rename_i hpc
        split at h
        · cases h
          exact .spawned htask hpc
        · cases h
          exact .unhandled htask hpc
      · cases h
    · cases h
  | returns i result =>
    simp only [step] at h
    split at h
    · rename_i task htask
      split at h
      · rename_i since hpc
        cases h
        refine .returned htask hpc ?_
        cases result with
        | ok u => exact .inr ⟨rfl, rfl⟩
        | error e => exact .inl ⟨rfl, by simp⟩
      · cases h
    · cases h
  | timeOut i =>
    simp only [step] at h
    split at h
    · rename_i task htask
      split at h
      · rename_i since hpc
        split at h
        · cases h
          exact .stopped trivial htask hpc
        · cases h
      · cases h
    · cases h
  | panic i =>
    simp only [step] at h
    split at h
    · rename_i task htask
      split at h
      · rename_i since hpc
        cases h
        exact .stopped trivial htask hpc
      · cases h
    · cases h
  | mark i applied =>
    simp only [step] at h
    split at h
    · rename_i task htask
      split at h
      · rename_i result hpc
        cases h
        cases result with
        | ok u => exact stepped_exec applied htask (.completed hpc)
        | error e =>
          cases e with
          | transient msg => exact stepped_exec applied htask (.retried hpc)
          | permanent msg => exact stepped_exec applied htask (.deadLettered hpc)
      · cases h
    · cases h
  | reset i computedAt applied =>
    simp only [step] at h
    split at h
    · rename_i task htask
      split at h
      · rename_i schedule hpc hschedule
        split at h
        · cases h
          exact stepped_exec applied htask (.reset hpc hschedule)
        · cases h
      · cases h
    · cases h
  | crash r =>
    cases h
    exact .crashed
  | releaseStaleLocks r =>
    cases h
    exact .released rfl
  | cleanupCompleted r ids =>
    simp only [step] at h
    split at h
    · cases h
      exact .cleaned
    · cases h

/-! ## Rows and tasks after a step -/

/-- What a step makes of a row that it does not remove. -/
inductive RowStep (runners : Nat → JobRunner) (s : State) (a : Label) (job : Job) :
    Job → Prop where
  | kept (unclaimed : a.claims.count job.id = 0) : RowStep runners s a job job
  | claimed {r} (claimed : a.claims.count job.id = 1) (claimable : job.isClaimable s.now) :
      RowStep runners s a job (job.claim (runners r).config.instanceId s.now)
  | released {r} (ha : a = .releaseStaleLocks r)
      (stale : job.isStale s.now (runners r).config.staleLockTimeout) :
      RowStep runners s a job (job.release s.now)
  | written {i task set pc} (htask : s.tasks[i]? = some task) (id : task.job.id = job.id)
      (deciding : Deciding runners s i task a set pc)
      (accepted : enforceJobStatusTransition job.status (set job).status (set job).schedule =
        .ok ())
      (unique : dedupConflict s.jobs (job.write set s.now) = false) :
      RowStep runners s a job (job.write set s.now)

theorem RowStep.same {job job' : Job} (h : RowStep runners s a job job') : SameJob job job' := by
  cases h with
  | kept _ => exact .refl job
  | claimed _ _ => exact ⟨rfl, rfl, rfl, rfl, rfl⟩
  | released _ _ => exact ⟨rfl, rfl, rfl, rfl, rfl⟩
  | written _ _ deciding _ _ => exact deciding.unlocks.write ..

theorem State.proceed_eq (s : State) (i : Nat) (task : Task) (pc : Pc) :
    ∃ inFlight, s.proceed i task pc =
      { s with tasks := s.tasks.set i { task with pc }, inFlight } := by
  unfold State.proceed
  split
  · rename_i hended
    subst hended
    exact ⟨_, rfl⟩
  · exact ⟨s.inFlight, rfl⟩

@[simp] theorem State.proceed_jobs (s : State) (i : Nat) (task : Task) (pc : Pc) :
    (s.proceed i task pc).jobs = s.jobs := by
  obtain ⟨inFlight, h⟩ := s.proceed_eq i task pc
  rw [h]

@[simp] theorem State.proceed_trace (s : State) (i : Nat) (task : Task) (pc : Pc) :
    (s.proceed i task pc).trace = s.trace := by
  obtain ⟨inFlight, h⟩ := s.proceed_eq i task pc
  rw [h]

@[simp] theorem State.proceed_tasks (s : State) (i : Nat) (task : Task) (pc : Pc) :
    (s.proceed i task pc).tasks = s.tasks.set i { task with pc } := by
  obtain ⟨inFlight, h⟩ := s.proceed_eq i task pc
  rw [h]

@[simp] theorem State.proceed_uuids (s : State) (i : Nat) (task : Task) (pc : Pc) :
    (s.proceed i task pc).uuids = s.uuids := by
  obtain ⟨inFlight, h⟩ := s.proceed_eq i task pc
  rw [h]

@[simp] theorem State.proceed_inserted (s : State) (i : Nat) (task : Task) (pc : Pc) :
    (s.proceed i task pc).inserted = s.inserted := by
  obtain ⟨inFlight, h⟩ := s.proceed_eq i task pc
  rw [h]

/-- The label of a decision names its task. -/
theorem Deciding.eq {i k : Nat} {task task' : Task} {set set' : Job → Job} {pc pc' : Pc}
    (h : Deciding runners s i task a set pc) (h' : Deciding runners s k task' a set' pc') :
    i = k := by
  cases h <;> cases h' <;> rfl

theorem Stepped.trace_subset (h : Stepped runners s a t) : s.trace ⊆ t.trace := by
  cases h with
  | claimed _ _ ht =>
    subst ht
    exact List.subset_append_right ..
  | spawned => exact List.subset_cons_self ..
  | returned _ _ htrace =>
    rcases htrace with ⟨htrace, -⟩ | ⟨htrace, -⟩
    · exact htrace ▸ List.Subset.refl _
    · exact htrace ▸ List.subset_cons_self ..
  | written => rw [State.proceed_trace]; exact List.Subset.refl _
  | skipped => rw [State.proceed_trace]; exact List.Subset.refl _
  | released => exact List.subset_append_right ..
  | _ => exact List.Subset.refl _

theorem Stepped.uuids_le (h : Stepped runners s a t) : s.uuids ≤ t.uuids := by
  cases h with
  | inserted => exact Nat.le_succ _
  | refused => exact Nat.le_succ _
  | claimed _ _ ht => exact ht ▸ Nat.le_refl _
  | written => rw [State.proceed_uuids]
  | skipped => rw [State.proceed_uuids]
  | _ => exact Nat.le_refl _

/-- How a step moves the task `i`. -/
inductive PcStep (runners : Nat → JobRunner) (s : State) (a : Label) (t : State) (i : Nat)
    (task : Task) : Pc → Prop where
  | kept : PcStep runners s a t i task task.pc
  | executing (pc : task.pc = .claimed) : PcStep runners s a t i task (.executing s.now)
  | mark {since result} (pc : task.pc = .executing since)
      (succeeded : result = .ok () → .succeeded task.job.id ∈ t.trace) :
      PcStep runners s a t i task (.mark result)
  | reset {set} (deciding : Deciding runners s i task a set .reset) :
      PcStep runners s a t i task .reset
  | ended : PcStep runners s a t i task .ended

/-- What became of a row. -/
theorem Stepped.row (h : Stepped runners s a t) {job : Job} (hjob : job ∈ s.jobs.rows) :
    (∃ job', t.jobs.find? job.id = some job' ∧ RowStep runners s a job job') ∨
      t.jobs.find? job.id = none ∧ job.status = .completed ∧
        ∃ r ids, a = .cleanupCompleted r ids := by
  have hfind : s.jobs.find? job.id = some job := (s.jobs.find?_eq_some_iff ..).mpr ⟨hjob, rfl⟩
  have hkept : a.claims = [] → RowStep runners s a job job := fun hclaims =>
    .kept (by rw [hclaims, List.count_nil])
  cases h with
  | tick => exact .inl ⟨job, hfind, hkept rfl⟩
  | @inserted a new jobs label hnew ok =>
    have hnone := ((Table.insert_eq_some ..).mp ok).1
    have hne : new.id ≠ job.id := by
      rw [Table.find?_eq_none_iff] at hnone
      exact Ne.symm (hnone job hjob)
    exact .inl ⟨job, by rw [Table.find?_of_insert ok, if_neg hne, hfind], hkept label.claims⟩
  | refused label => exact .inl ⟨job, hfind, hkept label.claims⟩
  | @claimed r ids answered u claimable nodup ht =>
    subst ht
    simp only [claimBatch, Table.find?_map, hfind, Option.map_some]
    by_cases hmem : job.id ∈ ids
    · -- a row that is claimed is claimed once
      obtain ⟨job', hfind', hclaimable⟩ := claimable job.id hmem
      cases hfind.symm.trans hfind'
      refine .inl ⟨_, rfl, ?_⟩
      rw [if_pos hmem]
      exact .claimed (List.count_eq_one_of_mem nodup hmem) hclaimable
    · refine .inl ⟨_, rfl, ?_⟩
      rw [if_neg hmem]
      exact .kept (List.count_eq_zero.mpr hmem)
  | spawned => exact .inl ⟨job, hfind, hkept rfl⟩
  | unhandled => exact .inl ⟨job, hfind, hkept rfl⟩
  | returned => exact .inl ⟨job, hfind, hkept rfl⟩
  | stopped label => exact .inl ⟨job, hfind, hkept label.claims⟩
  | @written a i task set pc jobs htask deciding ok =>
    rw [State.proceed_jobs]
    by_cases hid : job.id = task.job.id
    · rcases updateJob_ok ok with ⟨hnone, -⟩ | ⟨job', hfind', haccepted, hunique, hjobs⟩
      · rw [← hid, hfind] at hnone
        cases hnone
      · rw [← hid, hfind] at hfind'
        cases hfind'
        refine .inl ⟨job.write set s.now, ?_, .written htask hid.symm deciding haccepted hunique⟩
        rw [hjobs, Table.find?_set, Job.write_id, if_pos rfl]
    · exact .inl ⟨job, (find?_updateJob ok hid).trans hfind, hkept deciding.isDecision.claims⟩
  | skipped _ deciding =>
    exact .inl ⟨job, by rwa [State.proceed_jobs], hkept deciding.isDecision.claims⟩
  | crashed => exact .inl ⟨job, hfind, hkept rfl⟩
  | @released r staleTimeout hstale =>
    simp only [releaseStaleLocks, Table.find?_map, hfind, Option.map_some]
    by_cases hjobStale : job.isStale s.now staleTimeout = true
    · refine .inl ⟨_, rfl, ?_⟩
      rw [if_pos hjobStale]
      exact .released rfl (hstale ▸ hjobStale)
    · refine .inl ⟨_, rfl, ?_⟩
      rw [if_neg hjobStale]
      exact hkept rfl
  | @cleaned r ids maxAge =>
    simp only [cleanupCompleted, Table.find?_filter, hfind]
    by_cases hold : job.id ∈ ids ∧ job.isOldCompleted s.now maxAge
    · -- the only step that removes a row, and the row is completed
      refine .inr ⟨by simp [hold], ?_, r, ids, rfl⟩
      have hcompleted := hold.2
      simp only [Job.isOldCompleted, Bool.and_eq_true, decide_eq_true_eq] at hcompleted
      exact hcompleted.1
    · refine .inl ⟨job, ?_, hkept rfl⟩
      rw [Option.filter_eq_some_iff]
      exact ⟨rfl, by simpa [or_iff_not_imp_left] using hold⟩

/-- A step makes no row but by an insert. -/
theorem Stepped.ids (h : Stepped runners s a t) {job' : Job} (hjob' : job' ∈ t.jobs.rows) :
    (∃ job ∈ s.jobs.rows, job.id = job'.id) ∨
      NewRow s job' ∧ t.uuids = s.uuids + 1 ∧ t.inserted = job' :: s.inserted := by
  cases h with
  | tick => exact .inl ⟨job', hjob', rfl⟩
  | @inserted a new jobs _ hnew ok =>
    obtain ⟨-, hrows⟩ := (Table.insert_eq_some ..).mp ok
    rcases List.mem_append.mp (hrows ▸ hjob') with hjob | hjob
    · exact .inl ⟨job', hjob, rfl⟩
    · cases List.mem_singleton.mp hjob
      exact .inr ⟨hnew, rfl, rfl⟩
  | refused => exact .inl ⟨job', hjob', rfl⟩
  | claimed _ _ ht =>
    subst ht
    obtain ⟨job, hjob, rfl⟩ := List.mem_map.mp hjob'
    exact .inl ⟨job, hjob, by split <;> rfl⟩
  | spawned => exact .inl ⟨job', hjob', rfl⟩
  | unhandled => exact .inl ⟨job', hjob', rfl⟩
  | returned => exact .inl ⟨job', hjob', rfl⟩
  | stopped => exact .inl ⟨job', hjob', rfl⟩
  | written htask deciding ok =>
    rw [State.proceed_jobs] at hjob'
    rcases mem_updateJob ok hjob' with ⟨hjob, -⟩ | ⟨job, hfind, -, -, rfl⟩
    · exact .inl ⟨job', hjob, rfl⟩
    · exact .inl ⟨job, ((s.jobs.find?_eq_some_iff ..).mp hfind).1, rfl⟩
  | skipped => exact .inl ⟨job', by rwa [State.proceed_jobs] at hjob', rfl⟩
  | crashed => exact .inl ⟨job', hjob', rfl⟩
  | released =>
    obtain ⟨job, hjob, rfl⟩ := List.mem_map.mp hjob'
    exact .inl ⟨job, hjob, by split <;> rfl⟩
  | cleaned => exact .inl ⟨job', ((Table.mem_filter ..).mp hjob').1, rfl⟩

/-- Where a row comes from. -/
theorem Stepped.rows (h : Stepped runners s a t) {job' : Job} (hjob' : job' ∈ t.jobs.rows) :
    (∃ job ∈ s.jobs.rows, RowStep runners s a job job') ∨
      NewRow s job' ∧ t.uuids = s.uuids + 1 ∧ t.inserted = job' :: s.inserted := by
  rcases h.ids hjob' with ⟨job, hjob, hid⟩ | hnew
  · have hfind' : t.jobs.find? job.id = some job' :=
      (t.jobs.find?_eq_some_iff ..).mpr ⟨hjob', hid.symm⟩
    rcases h.row hjob with ⟨job'', hfind, hrow⟩ | ⟨hnone, -⟩
    · cases hfind.symm.trans hfind'
      exact .inl ⟨job, hjob, hrow⟩
    · rw [hfind'] at hnone
      cases hnone
  · exact .inr hnew

/-- The tasks after one of them has gone on. -/
theorem getElem?_set_task {tasks : List Task} {i k : Nat} {task' task'' : Task}
    (h : (tasks.set i task')[k]? = some task'') :
    (k = i ∧ task'' = task') ∨ tasks[k]? = some task'' := by
  rw [List.getElem?_set] at h
  split at h
  · rename_i hik
    split at h
    · cases h
      exact .inl ⟨hik.symm, rfl⟩
    · cases h
  · exact .inr h

/-- A task as `claim_batch` leaves it. -/
structure NewTask (runners : Nat → JobRunner) (s t : State) (task : Task) : Prop where
  pc : task.pc = .claimed
  job : ∃ r, ∃ job ∈ s.jobs.rows, job.isClaimable s.now ∧
    task.job = job.claim (runners r).config.instanceId s.now
  row : t.jobs.find? task.job.id = some task.job
  epoch : task.epoch = t.epoch task.job.id

/-- The tasks that a claim adds. -/
theorem mem_newTasks {r : Nat} {ids : List Uuid} {task : Task} (h : task ∈ s.newTasks r ids) :
    s.jobs.find? task.job.id = some task.job ∧ task.job.id ∈ ids ∧
      task.epoch = s.epoch task.job.id ∧ task.pc = .claimed := by
  obtain ⟨job, hjob, rfl⟩ := List.mem_map.mp h
  obtain ⟨id, hid, hfind⟩ := List.mem_filterMap.mp hjob
  obtain ⟨-, rfl⟩ := (s.jobs.find?_eq_some_iff id job).mp hfind
  exact ⟨hfind, hid, rfl, rfl⟩

/-- There is at most one for each row that is claimed. -/
theorem sublist_newTasks (s : State) (r : Nat) (ids : List Uuid) :
    ((s.newTasks r ids).map (·.job.id)).Sublist ids := by
  induction ids with
  | nil => exact List.Sublist.refl _
  | cons id ids ih =>
    cases hfind : s.jobs.find? id with
    | none =>
      -- without a row there is no task
      have heq : s.newTasks r (id :: ids) = s.newTasks r ids := by
        simp [State.newTasks, hfind]
      rw [heq]
      exact ih.cons id
    | some job =>
      have hid : job.id = id := ((s.jobs.find?_eq_some_iff ..).mp hfind).2
      have heq : (s.newTasks r (id :: ids)).map (·.job.id) =
          id :: (s.newTasks r ids).map (·.job.id) := by
        simp [State.newTasks, hfind, hid]
      rw [heq]
      exact ih.cons_cons id

theorem afterMark_eq (runner : JobRunner) (job : Job) (result : Except JobError Unit) :
    runner.afterMark job result = .reset ∨ runner.afterMark job result = .ended := by
  unfold JobRunner.afterMark
  split
  · split
    · exact .inl rfl
    · exact .inr rfl
  · split
    · exact .inl rfl
    · exact .inr rfl
  · exact .inr rfl

theorem Deciding.pc_eq {i : Nat} {task : Task} {set : Job → Job} {pc : Pc}
    (h : Deciding runners s i task a set pc) :
    pc = .reset ∨ pc = .ended := by
  cases h with
  | completed _ => exact afterMark_eq ..
  | retried _ => exact afterMark_eq ..
  | deadLettered _ => exact afterMark_eq ..
  | reset _ _ => exact .inr rfl

theorem Deciding.pc_ne_claimed {i : Nat} {task : Task} {set : Job → Job} {pc : Pc}
    (h : Deciding runners s i task a set pc) :
    pc ≠ .claimed := by
  rcases h.pc_eq with rfl | rfl <;> simp

theorem Deciding.pcStep {i : Nat} {task : Task} {set : Job → Job} {pc : Pc}
    (h : Deciding runners s i task a set pc) :
    PcStep runners s a t i task pc := by
  rcases h.pc_eq with rfl | rfl
  · exact .reset h
  · exact .ended

/-- Where a task comes from: it was a task before, or its row has just been claimed. -/
theorem Stepped.tasks (h : Stepped runners s a t) {i : Nat} {task' : Task}
    (htask' : t.tasks[i]? = some task') :
    (∃ task, s.tasks[i]? = some task ∧ task' = { task with pc := task'.pc } ∧
      PcStep runners s a t i task task'.pc) ∨
    s.tasks.length ≤ i ∧ NewTask runners s t task' := by
  -- one task goes on, or none
  have hset : ∀ (k : Nat) (task : Task) (pc : Pc), s.tasks[k]? = some task →
      (s.tasks.set k { task with pc })[i]? = some task' →
      (i = k → PcStep runners s a t i task pc) →
      ∃ task, s.tasks[i]? = some task ∧ task' = { task with pc := task'.pc } ∧
        PcStep runners s a t i task task'.pc := by
    intro k task pc htask hget hpc
    rcases getElem?_set_task hget with ⟨rfl, rfl⟩ | hold
    · exact ⟨task, htask, rfl, hpc rfl⟩
    · exact ⟨task', hold, rfl, .kept⟩
  cases h with
  | tick => exact .inl ⟨task', htask', rfl, .kept⟩
  | inserted => exact .inl ⟨task', htask', rfl, .kept⟩
  | refused => exact .inl ⟨task', htask', rfl, .kept⟩
  | @claimed r ids answered u claimable nodup ht =>
    subst ht
    cases answered with
    | false => exact .inl ⟨task', htask', rfl, .kept⟩
    | true =>
      simp only [if_true, List.getElem?_append] at htask'
      split at htask'
      · exact .inl ⟨task', htask', rfl, .kept⟩
      · -- the new tasks come after all the others
        rename_i hge
        obtain ⟨hfind, hid, hepoch, hpc⟩ := mem_newTasks (List.mem_of_getElem? htask')
        refine .inr ⟨Nat.le_of_not_lt hge, hpc, ⟨r, ?_⟩, hfind, hepoch⟩
        obtain ⟨job, hjob, hclaimable⟩ := claimable _ hid
        refine ⟨job, ((Table.find?_eq_some_iff ..).mp hjob).1, hclaimable, ?_⟩
        simp only [claimBatch, Table.find?_map, hjob, Option.map_some, Option.some.injEq] at hfind
        rw [if_pos (((Table.find?_eq_some_iff ..).mp hjob).2 ▸ hid)] at hfind
        exact hfind.symm
  | spawned htask pc => exact .inl (hset _ _ _ htask htask' fun _ => .executing pc)
  | unhandled htask pc => exact .inl (hset _ _ _ htask htask' fun _ => .ended)
  | returned htask pc htrace =>
    refine .inl (hset _ _ _ htask htask' fun _ => .mark pc fun hok => ?_)
    rcases htrace with ⟨-, hne⟩ | ⟨htrace, -⟩
    · exact absurd hok hne
    · rw [htrace]
      exact List.mem_cons_self ..
  | stopped _ htask pc => exact .inl (hset _ _ _ htask htask' fun _ => .ended)
  | written htask deciding ok =>
    rw [State.proceed_tasks] at htask'
    refine .inl (hset _ _ _ htask htask' fun hik => ?_)
    subst hik
    exact deciding.pcStep
  | skipped htask deciding =>
    rw [State.proceed_tasks] at htask'
    refine .inl (hset _ _ _ htask htask' fun hik => ?_)
    subst hik
    exact deciding.pcStep
  | crashed =>
    rw [List.getElem?_map] at htask'
    obtain ⟨task, htask, rfl⟩ := Option.map_eq_some_iff.mp htask'
    split
    · exact .inl ⟨task, htask, rfl, .ended⟩
    · exact .inl ⟨task, htask, rfl, .kept⟩
  | released => exact .inl ⟨task', htask', rfl, .kept⟩
  | cleaned => exact .inl ⟨task', htask', rfl, .kept⟩

/-- A step that is a decision of task `i` moves no other task. -/
theorem Stepped.of_isDecision (h : Stepped runners s a t) {i : Nat} (ha : a.IsDecision i) :
    ∃ task set pc, s.tasks[i]? = some task ∧ Deciding runners s i task a set pc ∧
      t.tasks = s.tasks.set i { task with pc } := by
  have hlabel : ∀ {k : Nat}, a.IsDecision k → i = k := by
    intro k hk
    rcases ha with ⟨_, rfl⟩ | ⟨_, _, rfl⟩ <;> simpa [Label.IsDecision] using hk
  cases h with
  | inserted label => exact absurd ha (label.not_isDecision i)
  | refused label => exact absurd ha (label.not_isDecision i)
  | stopped label => exact absurd ha (label.not_isDecision i)
  | written htask deciding =>
    cases hlabel deciding.isDecision
    exact ⟨_, _, _, htask, deciding, State.proceed_tasks ..⟩
  | skipped htask deciding =>
    cases hlabel deciding.isDecision
    exact ⟨_, _, _, htask, deciding, State.proceed_tasks ..⟩
  | _ => simp [Label.IsDecision] at ha

/-- The tasks that a step adds are tasks of different rows. -/
theorem Stepped.distinct (h : Stepped runners s a t) {i k : Nat} {task task' : Task}
    (htask : t.tasks[i]? = some task) (htask' : t.tasks[k]? = some task') (hi : s.tasks.length ≤ i)
    (hk : s.tasks.length ≤ k) (hne : i ≠ k) : task.job.id ≠ task'.job.id := by
  have hlt : i < t.tasks.length := (List.getElem?_eq_some_iff.mp htask).1
  by_cases hlength : t.tasks.length = s.tasks.length
  · omega
  cases h with
  | @claimed r ids answered u claimable hnodup ht =>
    have htasks : u.tasks = s.tasks := by rw [ht]
    cases answered with
    | false => exact absurd (congrArg List.length htasks) hlength
    | true =>
      simp only [if_true, htasks] at htask htask'
      rw [List.getElem?_append_right hi] at htask
      rw [List.getElem?_append_right hk] at htask'
      intro heq
      -- the identifiers of the new tasks are those of the batch, in its order
      have hids := hnodup.sublist (sublist_newTasks u r ids)
      have hget : ((u.newTasks r ids).map (·.job.id))[i - s.tasks.length]? =
          ((u.newTasks r ids).map (·.job.id))[k - s.tasks.length]? := by
        rw [List.getElem?_map, List.getElem?_map, htask, htask', Option.map_some, Option.map_some,
          heq]
      have hlt' : i - s.tasks.length < ((u.newTasks r ids).map (·.job.id)).length := by
        rw [List.length_map]
        exact (List.getElem?_eq_some_iff.mp htask).1
      have hsub := (List.getElem?_inj hlt' hids).mp hget
      omega
  | written => simp at hlength
  | skipped => simp at hlength
  | _ => simp [State.goOn, State.finish] at hlength

/-! ## Identities -/

/-- The record of the claims of a row. -/
theorem Stepped.count_claimed (h : Stepped runners s a t) (id : Uuid) :
    t.trace.count (.claimed id) = s.trace.count (.claimed id) + a.claims.count id := by
  cases h with
  | inserted label => simp [label.claims]
  | refused label => simp [label.claims]
  | @claimed r ids answered u _ _ ht =>
    subst ht
    have hinj : Function.Injective Entry.claimed := fun _ _ => Entry.claimed.inj
    simp only [List.count_append, Label.claims, List.count_map_of_injective _ _ hinj]
    omega
  | spawned => simp [Label.claims]
  | returned _ _ htrace =>
    rcases htrace with ⟨htrace, -⟩ | ⟨htrace, -⟩ <;> simp [htrace, Label.claims]
  | stopped label => simp [label.claims, State.finish, State.goOn]
  | written _ deciding => simp [deciding.isDecision.claims]
  | skipped _ deciding => simp [deciding.isDecision.claims]
  | @released r staleTimeout _ =>
    have hzero : ((s.jobs.rows.filter (·.isStale s.now staleTimeout)).map
        (fun job => Entry.recovered job.id)).count (.claimed id) = 0 :=
      List.count_eq_zero.mpr (by simp)
    simp only [List.count_append, hzero, Label.claims, List.count_nil]
    omega
  | _ => simp [Label.claims, State.goOn]

theorem Stepped.mem_claims (h : Stepped runners s a t) {id : Uuid} (hid : id ∈ a.claims) :
    ∃ job ∈ s.jobs.rows, job.id = id ∧ job.isClaimable s.now := by
  cases h with
  | inserted label => simp [label.claims] at hid
  | refused label => simp [label.claims] at hid
  | claimed claimable _ _ =>
    obtain ⟨job, hfind, hclaimable⟩ := claimable id hid
    obtain ⟨hjob, hid⟩ := (s.jobs.find?_eq_some_iff ..).mp hfind
    exact ⟨job, hjob, hid, hclaimable⟩
  | stopped label => simp [label.claims] at hid
  | written _ deciding => simp [deciding.isDecision.claims] at hid
  | skipped _ deciding => simp [deciding.isDecision.claims] at hid
  | _ => simp [Label.claims] at hid

theorem Stepped.nodup_claims (h : Stepped runners s a t) : a.claims.Nodup := by
  cases h with
  | inserted label => simp [label.claims]
  | refused label => simp [label.claims]
  | claimed _ hnodup _ => exact hnodup
  | stopped label => simp [label.claims]
  | written _ deciding => simp [deciding.isDecision.claims]
  | skipped _ deciding => simp [deciding.isDecision.claims]
  | _ => exact List.nodup_nil

theorem Stepped.mem_inserted (h : Stepped runners s a t) {job : Job} (hjob : job ∈ t.inserted) :
    job ∈ s.inserted ∨ NewRow s job ∧ t.uuids = s.uuids + 1 := by
  cases h with
  | inserted _ hnew _ =>
    rcases List.mem_cons.mp hjob with rfl | hjob
    · exact .inr ⟨hnew, rfl⟩
    · exact .inl hjob
  | claimed _ _ ht =>
    subst ht
    exact .inl hjob
  | written => exact .inl (by rwa [State.proceed_inserted] at hjob)
  | skipped => exact .inl (by rwa [State.proceed_inserted] at hjob)
  | _ => exact .inl hjob

/-- The identifier is one of those that were drawn for jobs. -/
def State.Drawn (s : State) (id : Uuid) : Prop := ∃ k < s.uuids, id = ⟨0, k⟩

theorem State.Drawn.mono {id : Uuid} (h : s.Drawn id) (hle : s.uuids ≤ t.uuids) :
    t.Drawn id := by
  obtain ⟨k, hk, heq⟩ := h
  exact ⟨k, Nat.lt_of_lt_of_le hk hle, heq⟩

theorem NewRow.not_drawn {job : Job} (h : NewRow s job) : ¬ s.Drawn job.id := by
  rintro ⟨k, hk, heq⟩
  cases h.id.symm.trans heq
  exact absurd hk (Nat.lt_irrefl _)

theorem NewRow.drawn {job : Job} (h : NewRow s job) (huuids : t.uuids = s.uuids + 1) :
    t.Drawn job.id := ⟨s.uuids, by omega, h.id⟩

/-- Identifiers are drawn once, and the versions of one job agree on what identifies it. -/
structure IdInv (s : State) : Prop where
  rows : ∀ job ∈ s.jobs.rows, s.Drawn job.id
  tasks : ∀ task ∈ s.tasks, s.Drawn task.job.id
  inserted : ∀ job ∈ s.inserted, s.Drawn job.id
  claimed : ∀ id, .claimed id ∈ s.trace → s.Drawn id
  taskRows : ∀ task ∈ s.tasks, ∀ job ∈ s.jobs.rows, job.id = task.job.id → SameJob task.job job
  insertedRows : ∀ job₀ ∈ s.inserted, ∀ job ∈ s.jobs.rows, job.id = job₀.id → SameJob job₀ job

theorem idInv_init : IdInv {} where
  rows := by simp
  tasks := by simp
  inserted := by simp
  claimed := by simp
  taskRows := by simp
  insertedRows := by simp

theorem idInv_step (hinv : IdInv s) (h : Stepped runners s a t) : IdInv t where
  rows job' hjob' := by
    rcases h.rows hjob' with ⟨job, hjob, hrow⟩ | ⟨hnew, huuids, -⟩
    · rw [hrow.same.id]
      exact (hinv.rows job hjob).mono h.uuids_le
    · exact hnew.drawn huuids
  tasks task' htask' := by
    obtain ⟨i, hi⟩ := List.getElem?_of_mem htask'
    rcases h.tasks hi with ⟨task, htask, heq, -⟩ | ⟨-, hnew⟩
    · rw [heq]
      exact (hinv.tasks task (List.mem_of_getElem? htask)).mono h.uuids_le
    · obtain ⟨r, job, hjob, -, heq⟩ := hnew.job
      rw [heq]
      exact (hinv.rows job hjob).mono h.uuids_le
  inserted job hjob := by
    rcases h.mem_inserted hjob with hjob | ⟨hnew, huuids⟩
    · exact (hinv.inserted job hjob).mono h.uuids_le
    · exact hnew.drawn huuids
  claimed id hmem := by
    rw [← List.one_le_count_iff, h.count_claimed] at hmem
    by_cases hold : .claimed id ∈ s.trace
    · exact (hinv.claimed id hold).mono h.uuids_le
    · -- the row is claimed in this step, so it is there
      rw [List.count_eq_zero.mpr hold, Nat.zero_add, List.one_le_count_iff] at hmem
      obtain ⟨job, hjob, rfl, -⟩ := h.mem_claims hmem
      exact (hinv.rows job hjob).mono h.uuids_le
  taskRows task' htask' job' hjob' hid := by
    obtain ⟨i, hi⟩ := List.getElem?_of_mem htask'
    rcases h.tasks hi with ⟨task, htask, heq, -⟩ | ⟨-, hnew⟩
    · have hmem := List.mem_of_getElem? htask
      have hjobEq : task'.job = task.job := by rw [heq]
      rw [hjobEq] at hid ⊢
      rcases h.rows hjob' with ⟨job, hjob, hrow⟩ | ⟨hnew, -⟩
      · exact (hinv.taskRows task hmem job hjob (hrow.same.id.symm.trans hid)).trans hrow.same
      · exact absurd (hid ▸ hinv.tasks task hmem) hnew.not_drawn
    · -- the task holds the row itself
      have hrow := ((t.jobs.find?_eq_some_iff ..).mp hnew.row).1
      rw [t.jobs.eq_of_key_eq hjob' hrow hid]
      exact .refl _
  insertedRows job₀ hjob₀ job' hjob' hid := by
    rcases h.rows hjob' with ⟨job, hjob, hrow⟩ | ⟨hnew, -, hinserted⟩
    · rcases h.mem_inserted hjob₀ with hjob₀ | ⟨hnew, -⟩
      · exact (hinv.insertedRows job₀ hjob₀ job hjob (hrow.same.id.symm.trans hid)).trans hrow.same
      · have hdrawn := hinv.rows job hjob
        rw [← hrow.same.id, hid] at hdrawn
        exact absurd hdrawn hnew.not_drawn
    · -- the row was inserted in this step
      rw [hinserted] at hjob₀
      rcases List.mem_cons.mp hjob₀ with rfl | hjob₀
      · exact .refl _
      · exact absurd (hid ▸ hinv.inserted job₀ hjob₀) hnew.not_drawn

/-! ## Sample runners -/

/-- The default settings, except for the name of the instance. -/
def defaultConfig (instanceId : String) : JobRunnerConfig :=
  (JobRunnerConfig.fromEnv { instanceId := some instanceId } "").get rfl

/-- Runners with a handler for one type of jobs. -/
def disbursers (r : Nat) : JobRunner where
  registry := { handlers := ["payment.disburse"] }
  config := defaultConfig s!"runner-{r}"

def disburse : JobName := ⟨"payment.disburse", by decide +kernel⟩

/-- A job runs into its timeout at runner 0, is recovered, and claimed by runner 1. -/
def recovered (config : Option JobConfig) : List Label :=
  [.enqueue disburse config 0, .claim 0 [⟨0, 0⟩] true, .spawn 0, .tick 300000000, .timeOut 0,
    .tick 1, .releaseStaleLocks 1, .claim 1 [⟨0, 0⟩] true, .spawn 1]

end Koupang.Jobs
