import Koupang.Spec.DeadSlots

/-!
# Definitions of recurring slots

A slot is seeded by `(job_type, dedup_key)`, but a runner that executes it looks for
its definition by the type alone, and takes the first one. Definitions that share a
name are therefore followed only where the first of them says the same.

## Key results

- `seededInv_of_seed`, `seededInv_step`: the rows and tasks of a seeded slot
- `slots_follow_definitions`: what every execution of a slot does
-/

namespace Koupang.Jobs

/-- Runners of one program, with one registry. -/
def fleet (registry : JobRegistry) (configs : Nat → JobRunnerConfig) (r : Nat) : JobRunner :=
  { registry, config := configs r }

/-- The run has inserted the row `id` for the definition `d`. -/
def SeededFrom (runners : Nat → JobRunner) (as : List Label) (d : RecurringJobDefinition)
    (id : Uuid) : Prop :=
  ∃ pre r k post s jobs, as = pre ++ .seed r k :: post ∧
    Run.run (step runners) {} pre = some s ∧ (runners r).registry.recurring[k]? = some d ∧
    seedRecurringJob s.jobs s.now ⟨0, s.uuids⟩ d = .ok (some id, jobs)

/-- What follows after a result of the slot of `d` has been marked. -/
def RecurringJobDefinition.afterMark (d : RecurringJobDefinition) (job : Job) :
    Except JobError Unit → Pc
  | .ok () => .reset
  | .error (.transient _) =>
    if job.attempts ≥ job.maxRetries ∧ d.failurePolicy = .resetToNext then .reset else .ended
  | .error (.permanent _) => .ended

/-- An execution of the row `id` goes on as `d` says after a result, and reschedules the row
    by the schedule of `d`. -/
structure FollowsDefinition (d : RecurringJobDefinition) (id : Uuid) (s : State) (a : Label)
    (t : State) : Prop where
  marked : ∀ i applied task result, a = .mark i applied → s.tasks[i]? = some task →
    task.job.id = id → task.pc = .mark result →
    t.tasks[i]? = some { task with pc := d.afterMark task.job result }
  rescheduled : ∀ i computedAt applied task, a = .reset i computedAt applied →
    s.tasks[i]? = some task → task.job.id = id →
    t.jobs = if applied then
        (s.exec (resetRecurring s.jobs s.now id (computeNextRunAt d.schedule computedAt))).jobs
      else s.jobs

/-- The first definition with the name of `d` has the schedule and the policy of `d`. -/
def JobRegistry.FirstAgrees (registry : JobRegistry) (d : RecurringJobDefinition) : Prop :=
  ∀ first ∈ registry.recurring.find? (·.jobName.value = d.jobName.value),
    (∀ now, computeNextRunAt first.schedule now = computeNextRunAt d.schedule now) ∧
      first.failurePolicy = d.failurePolicy

/-! ## Rows and tasks of a definition -/

variable {runners : Nat → JobRunner} {s t : State} {a : Label} {d : RecurringJobDefinition}
  {id : Uuid}

/-- The row is one of a slot with the name of the definition. -/
def RecurringJobDefinition.Names (d : RecurringJobDefinition) (job : Job) : Prop :=
  job.jobType = d.jobName.value ∧ job.schedule.isSome

theorem Names.of_same {job job' : Job} (h : d.Names job) (hsame : SameJob job job') :
    d.Names job' := ⟨hsame.jobType.trans h.1, hsame.schedule ▸ h.2⟩

/-- The row `id` is one of the definition, in the table and in the tasks. -/
structure SeededInv (d : RecurringJobDefinition) (id : Uuid) (s : State) : Prop where
  drawn : s.Drawn id
  rows : ∀ job ∈ s.jobs.rows, job.id = id → d.Names job
  tasks : ∀ task ∈ s.tasks, task.job.id = id → d.Names task.job

theorem seedRecurringJob_names {jobs jobs' : JobTable} {now : Nat} {id' : Uuid} {job : Job}
    (h : seedRecurringJob jobs now id d = .ok (some id', jobs'))
    (hjob : jobs'.find? id' = some job) : d.Names job := by
  obtain ⟨schedule, -, h⟩ := Except.bind_eq_ok.mp h
  obtain ⟨dedupKey, -, h⟩ := Except.bind_eq_ok.mp h
  dsimp only at h
  split at h
  · cases h
  · split at h
    · rename_i jobs'' hinsert
      cases h
      rw [Table.find?_of_insert hinsert, if_pos rfl] at hjob
      cases hjob
      exact ⟨rfl, rfl⟩
    · cases h

@[simp] theorem State.exec_tasks (s : State) (stmt : Except AppError JobTable) :
    (s.exec stmt).tasks = s.tasks := by
  cases stmt with
  | ok jobs => rfl
  | error e => rfl

/-- A seeded row is new, so that no task has it yet. -/
theorem seededInv_of_seed (hinv : IdInv s) {r k : Nat} {jobs : JobTable}
    (hd : (runners r).registry.recurring[k]? = some d)
    (hseed : seedRecurringJob s.jobs s.now ⟨0, s.uuids⟩ d = .ok (some id, jobs))
    (h : step runners s (.seed r k) = some t) : SeededInv d id t := by
  obtain ⟨job, hnew, hinsert, hid⟩ := seedRecurringJob_ok hseed
  have hnotDrawn : ¬ s.Drawn id := hid ▸ hnew.not_drawn
  simp only [step, hd, hseed, Option.bind_eq_bind, Option.bind_some, Option.some.injEq] at h
  subst h
  refine ⟨⟨s.uuids, Nat.lt_succ_self _, hid ▸ hnew.id⟩, fun job' hjob' hid' => ?_,
    fun task htask hid' => ?_⟩
  · exact seedRecurringJob_names hseed ((Table.find?_eq_some_iff ..).mpr ⟨hjob', hid'⟩)
  · exact absurd (hid' ▸ hinv.tasks task htask) hnotDrawn

theorem seededInv_step (hinv : SeededInv d id s) (h : Stepped runners s a t) :
    SeededInv d id t where
  drawn := hinv.drawn.mono h.uuids_le
  rows job' hjob' hid := by
    cases h.rows hjob' with
    | inl hold =>
      obtain ⟨job, hjob, hrow⟩ := hold
      exact Names.of_same (hinv.rows job hjob (hrow.same.id.symm.trans hid)) hrow.same
    | inr hnew => exact absurd (hid ▸ hinv.drawn) hnew.1.not_drawn
  tasks task' htask' hid := by
    obtain ⟨i, hi⟩ := List.getElem?_of_mem htask'
    cases h.tasks hi with
    | inl hold =>
      obtain ⟨task, htask, heq, -⟩ := hold
      rw [heq] at hid ⊢
      exact hinv.tasks task (List.mem_of_getElem? htask) hid
    | inr hnew =>
      -- the task holds the row that was claimed
      obtain ⟨r, job, hjob, -, heq⟩ := hnew.2.job
      rw [heq] at hid ⊢
      exact Names.of_same (hinv.rows job hjob hid) ⟨rfl, rfl, rfl, rfl, rfl⟩

theorem seededInv_run {as : List Label} (hrun : Run.run (step runners) {} as = some s)
    (hseeded : SeededFrom runners as d id) : SeededInv d id s := by
  obtain ⟨pre, r, k, post, s₀, jobs, rfl, hpre, hd, hseed⟩ := hseeded
  rw [Run.run_append, hpre, Option.bind_some] at hrun
  obtain ⟨s₁, hstep, hpost⟩ := Run.run_cons_some hrun
  have hid : IdInv s₀ := Run.run_invariant
    (fun s a t hs h => idInv_step hs (stepped_of_step h)) idInv_init hpre
  exact Run.run_invariant (fun s a t hs h => seededInv_step hs (stepped_of_step h))
    (seededInv_of_seed hid hd hseed hstep) hpost

/-! ## Executions -/

section Fleet

variable {registry : JobRegistry} {configs : Nat → JobRunnerConfig}

/-- The definition that a runner finds for the row. -/
theorem recurringDef_of_names {job : Job} (h : d.Names job) (hd : d ∈ registry.recurring)
    (configs : Nat → JobRunnerConfig) (r : Nat) : ∃ first ∈ registry.recurring.find? (·.jobName.value = d.jobName.value),
      (fleet registry configs r).recurringDef job = some first := by
  have hsome : (registry.recurring.find? (·.jobName.value = d.jobName.value)).isSome := by
    rw [List.find?_isSome]
    exact ⟨d, hd, by simp⟩
  obtain ⟨first, hfirst⟩ := Option.isSome_iff_exists.mp hsome
  refine ⟨first, hfirst, ?_⟩
  rw [JobRunner.recurringDef, if_pos h.2, h.1]
  exact hfirst

theorem afterMark_of_agrees {job : Job} {first : RecurringJobDefinition} {r : Nat}
    (hfirst : (fleet registry configs r).recurringDef job = some first)
    (hpolicy : first.failurePolicy = d.failurePolicy) (hnames : d.Names job)
    (result : Except JobError Unit) :
    (fleet registry configs r).afterMark job result = d.afterMark job result := by
  have hschedule : ((fleet registry configs r).schedule job).isSome := by
    rw [JobRunner.schedule, hfirst]
    rfl
  have hfound : (fleet registry configs r).failurePolicy job = d.failurePolicy := by
    rw [JobRunner.failurePolicy, hfirst]
    exact hpolicy
  cases result with
  | ok u => exact if_pos hschedule
  | error e =>
    cases e with
    | transient msg =>
      simp [JobRunner.afterMark, RecurringJobDefinition.afterMark, hschedule, hfound, hnames.2]
    | permanent msg => rfl

/-- Every execution of a slot follows the definition that the slot was seeded from, if the first
    definition with the same name agrees with it. -/
theorem slots_follow_definitions (registry : JobRegistry) (configs : Nat → JobRunnerConfig)
    (as : List Label) (hrun : Run.run (step (fleet registry configs)) {} as = some s)
    (hstep : step (fleet registry configs) s a = some t)
    (hseeded : SeededFrom (fleet registry configs) as d id)
    (hfirst : registry.FirstAgrees d) : FollowsDefinition d id s a t := by
  have hinv := seededInv_run hrun hseeded
  have hd : d ∈ registry.recurring := by
    obtain ⟨pre, r, k, post, s₀, jobs, -, -, hd, -⟩ := hseeded
    exact List.mem_of_getElem? hd
  refine ⟨fun i applied task result ha htask hid hpc => ?_,
    fun i computedAt applied task ha htask hid => ?_⟩
  · subst ha
    have hnames := hinv.tasks task (List.mem_of_getElem? htask) hid
    obtain ⟨first, hmem, hfound⟩ := recurringDef_of_names hnames hd configs task.runner
    have hnext := afterMark_of_agrees hfound (hfirst first hmem).2 hnames result
    have hlt : i < s.tasks.length := (List.getElem?_eq_some_iff.mp htask).1
    simp only [step, htask, hpc, Option.some.injEq] at hstep
    have htasks : ∀ stmt, (if applied then s.exec stmt else s).tasks = s.tasks := by
      intro stmt
      cases applied with
      | false => rfl
      | true => exact State.exec_tasks s stmt
    rw [← hstep, State.proceed_tasks, htasks, hnext, List.getElem?_set_self hlt]
  · subst ha
    have hnames := hinv.tasks task (List.mem_of_getElem? htask) hid
    obtain ⟨first, hmem, hfound⟩ := recurringDef_of_names hnames hd configs task.runner
    have hschedule : (fleet registry configs task.runner).schedule task.job =
        some first.schedule := by
      rw [JobRunner.schedule, hfound]
      rfl
    simp only [step, htask, hschedule] at hstep
    split at hstep
    · rename_i schedule _ hsome
      cases hsome
      split at hstep
      · cases hstep
        rw [(hfirst first hmem).1 computedAt, hid]
        cases applied with
        | false => rfl
        | true => rfl
      · cases hstep
    · cases hstep

end Fleet

/-! ## Two definitions of one job -/

/-- A report of a region. -/
def reportOf (region : String) (every : Nat) (policy : RecurringFailurePolicy) :
    RecurringJobDefinition :=
  { jobName := report, schedule := .interval every, dedupKey := region, config := none
    failurePolicy := policy }

/-- The report of Europe is due every minute, that of America every hour. -/
def regionalReports : JobRegistry where
  handlers := ["payment.report"]
  recurring := [reportOf "eu" 60000000 .die, reportOf "us" 3600000000 .resetToNext]
  registered := by decide +kernel

def reporters (r : Nat) : JobRunner := fleet regionalReports (fun _ => defaultConfig "runner") r

/-- The report number `k` is seeded, executed and marked. -/
def reported (k : Nat) : List Label :=
  [.seed 0 k, .claim 0 [⟨0, 0⟩] true, .spawn 0, .returns 0 (.ok ()), .mark 0 true]

theorem seededFrom_reported {k : Nat} {d : RecurringJobDefinition}
    (hd : regionalReports.recurring[k]? = some d)
    (hseed : (seedRecurringJob .empty 0 ⟨0, 0⟩ d).toOption.any (·.1 = some ⟨0, 0⟩) = true) :
    SeededFrom reporters (reported k) d ⟨0, 0⟩ := by
  obtain ⟨⟨id, jobs⟩, hsome, hid⟩ := (Option.any_eq_true _ _).mp hseed
  have hok := Except.toOption_eq_some.mp hsome
  rw [show id = some ⟨0, 0⟩ from of_decide_eq_true hid] at hok
  exact ⟨[], 0, k, _, {}, jobs, rfl, rfl, hd, hok⟩

theorem slots_follow_definitions_reported :
    ∃ s t, Run.run (step reporters) {} (reported 0) = some s ∧
      step reporters s (.reset 0 0 true) = some t ∧
      FollowsDefinition (reportOf "eu" 60000000 .die) ⟨0, 0⟩ s (.reset 0 0 true) t := by
  have hrun : ((Run.run (step reporters) {} (reported 0)).bind fun s =>
      (step reporters s (.reset 0 0 true))).isSome = true := by
    decide +kernel
  obtain ⟨t, ht⟩ := Option.isSome_iff_exists.mp hrun
  obtain ⟨s, hs, hstep⟩ := Option.bind_eq_some_iff.mp ht
  refine ⟨s, t, hs, hstep, slots_follow_definitions regionalReports _ _ hs hstep
    (seededFrom_reported rfl (by decide +kernel)) fun first hfirst => ?_⟩
  cases hfirst
  exact ⟨fun now => rfl, rfl⟩

/-- The report of America is rescheduled a minute later, as that of Europe would be. -/
theorem second_definition_ignored :
    ∃ s t, SeededFrom reporters (reported 1) (reportOf "us" 3600000000 .resetToNext) ⟨0, 0⟩ ∧
      Run.run (step reporters) {} (reported 1) = some s ∧
      step reporters s (.reset 0 0 true) = some t ∧
      ¬ FollowsDefinition (reportOf "us" 3600000000 .resetToNext) ⟨0, 0⟩ s (.reset 0 0 true) t := by
  have hrun : ((Run.run (step reporters) {} (reported 1)).bind fun s =>
      (step reporters s (.reset 0 0 true)).map fun t => decide (
        (∃ task ∈ s.tasks[0]?, task.job.id = ⟨0, 0⟩) ∧
        (t.jobs.find? ⟨0, 0⟩).map (·.nextRunAt) = some 60000000 ∧
        ((s.exec (resetRecurring s.jobs s.now ⟨0, 0⟩ 3600000000)).jobs.find? ⟨0, 0⟩).map
          (·.nextRunAt) = some 3600000000)) = some true := by
    decide +kernel
  obtain ⟨s, hs, hmap⟩ := Option.bind_eq_some_iff.mp hrun
  obtain ⟨t, hstep, hcheck⟩ := Option.map_eq_some_iff.mp hmap
  obtain ⟨⟨task, htask, hid⟩, hnext, hdue⟩ := of_decide_eq_true hcheck
  refine ⟨s, t, seededFrom_reported rfl (by decide +kernel), hs, hstep, fun hfollows => ?_⟩
  have hjobs := hfollows.rescheduled 0 0 true task rfl htask hid
  rw [if_pos rfl] at hjobs
  rw [hjobs] at hnext
  have hinterval : computeNextRunAt (reportOf "us" 3600000000 .resetToNext).schedule 0 =
      3600000000 := rfl
  rw [hinterval, hdue] at hnext
  cases hnext

end Koupang.Jobs
