import Koupang.Spec.JobRunner

/-!
# How often a job is executed

`mark_retry_or_failed` compares the attempts of a row with its `max_retries`, and
`release_stale_locks`, the other way back to `pending`, does not. A one-shot job is
executed no more often than `max_retries` says as long as the recovery meets only
rows that have an attempt left.

## Key results

- `executions_bounded`: the bound, under that condition
- `timeout_exceeds_retries`: a job with one attempt that runs into its timeout
-/

namespace Koupang.Jobs

/-- No one-shot job has been tried, or executed, more often than its `max_retries` allows. -/
structure Bounded (s : State) : Prop where
  attempts : ∀ job ∈ s.jobs.rows, job.schedule = none → job.attempts ≤ max 1 job.maxRetries
  executions : ∀ job ∈ s.inserted, job.schedule = none →
    s.trace.count (.started job.id) ≤ max 1 job.maxRetries

/-- The one-shot jobs that the recovery frees have an attempt left. -/
def RecoversUnexhausted (runners : Nat → JobRunner) (s : State) : Label → Prop
  | .releaseStaleLocks r => ∀ job ∈ s.jobs.rows, job.schedule = none →
    job.isStale s.now (runners r).config.staleLockTimeout → job.attempts < max 1 job.maxRetries
  | _ => True

instance (runners : Nat → JobRunner) (s : State) : ∀ a, Decidable (RecoversUnexhausted runners s a)
  | .releaseStaleLocks _ => inferInstanceAs (Decidable (∀ job ∈ s.jobs.rows, _ → _ → _))
  | .tick _ | .enqueue .. | .seed .. | .claim .. | .spawn _ | .returns .. | .timeOut _ | .panic _
  | .mark .. | .reset .. | .crash _ | .cleanupCompleted .. => .isTrue trivial

/-! ## Executions and claims -/

variable {runners : Nat → JobRunner} {s t : State} {a : Label}

/-- The claims of a row whose tasks wait to be spawned. -/
def unspawned (tasks : List Task) (id : Uuid) : Nat :=
  tasks.countP fun task => task.pc = .claimed && task.job.id = id

theorem countP_set {tasks : List Task} {i : Nat} {task : Task} (htask : tasks[i]? = some task)
    (task' : Task) (p : Task → Bool) :
    (tasks.set i task').countP p + (if p task then 1 else 0) =
      tasks.countP p + if p task' then 1 else 0 := by
  induction tasks generalizing i with
  | nil => simp at htask
  | cons task₀ tasks ih =>
    cases i with
    | zero =>
      simp only [List.getElem?_cons_zero, Option.some.injEq] at htask
      subst htask
      simp only [List.set_cons_zero, List.countP_cons]
      omega
    | succ i =>
      have hrest := ih htask
      simp only [List.set_cons_succ, List.countP_cons]
      omega

/-- A task that goes on no longer waits to be spawned. -/
theorem unspawned_set {tasks : List Task} {i : Nat} {task : Task} (htask : tasks[i]? = some task)
    {pc : Pc} (hpc : pc ≠ .claimed) (id : Uuid) :
    unspawned (tasks.set i { task with pc }) id +
      (if task.pc = .claimed ∧ task.job.id = id then 1 else 0) = unspawned tasks id := by
  have hcount := countP_set htask { task with pc }
    (fun task => task.pc = .claimed && task.job.id = id)
  simpa [unspawned, hpc] using hcount

/-- Every execution follows a claim of its own. -/
theorem Stepped.unspawned_le (h : Stepped runners s a t) (id : Uuid) :
    t.trace.count (.started id) + unspawned t.tasks id ≤
      s.trace.count (.started id) + unspawned s.tasks id + a.claims.count id := by
  cases h with
  | @claimed r ids answered u _ _ ht =>
    have htasks : u.tasks = s.tasks := by rw [ht]
    have htrace : u.trace.count (.started id) = s.trace.count (.started id) := by
      have hzero : (ids.map Entry.claimed).count (.started id) = 0 :=
        List.count_eq_zero.mpr (by simp)
      rw [ht]
      simp only [List.count_append, hzero, Nat.zero_add]
    have hnew : (u.newTasks r ids).countP (fun task => task.pc = .claimed && task.job.id = id) ≤
        ids.count id := by
      have hle := (sublist_newTasks u r ids).count_le id
      have hmono : (u.newTasks r ids).countP (fun task => task.pc = .claimed && task.job.id = id) ≤
          ((u.newTasks r ids).map (·.job.id)).count id := by
        rw [List.count, List.countP_map]
        refine List.countP_mono_left fun task _ htask => ?_
        simp only [Bool.and_eq_true, decide_eq_true_eq] at htask
        simp [htask.2]
      exact Nat.le_trans hmono hle
    cases answered with
    | false =>
      -- nobody will execute these claims
      simp only [unspawned, Label.claims, htasks, htrace]
      simp
    | true =>
      simp only [unspawned, Label.claims, htasks, htrace, if_true, List.countP_append]
      omega
  | @spawned i task htask pc =>
    -- one execution more, and one waiting task less
    have hpc : Pc.executing s.now ≠ .claimed := by simp
    have hset := unspawned_set htask hpc id
    simp only [State.goOn, List.count_cons, pc, true_and] at hset ⊢
    simp only [beq_iff_eq, Entry.started.injEq]
    omega
  | unhandled htask pc =>
    have hpc : Pc.ended ≠ .claimed := by simp
    have hset := unspawned_set htask hpc id
    simp only [State.goOn]
    omega
  | @returned i task since result trace htask pc htrace =>
    have hpc : Pc.mark result ≠ .claimed := by simp
    have hset := unspawned_set htask hpc id
    have hstarted : trace.count (.started id) = s.trace.count (.started id) := by
      rcases htrace with ⟨htrace, -⟩ | ⟨htrace, -⟩ <;> simp [htrace]
    simp only [State.goOn, hstarted]
    omega
  | stopped _ htask pc =>
    have hpc : Pc.ended ≠ .claimed := by simp
    have hset := unspawned_set htask hpc id
    simp only [State.finish, State.goOn]
    omega
  | @written a i task set pc jobs htask deciding ok =>
    have hset := unspawned_set htask deciding.pc_ne_claimed id
    simp only [State.proceed_trace, State.proceed_tasks]
    omega
  | @skipped a i task set pc htask deciding =>
    have hset := unspawned_set htask deciding.pc_ne_claimed id
    simp only [State.proceed_trace, State.proceed_tasks]
    omega
  | @crashed r =>
    have hmono : unspawned (s.tasks.map fun task =>
        if task.runner = r then { task with pc := .ended } else task) id ≤
        unspawned s.tasks id := by
      unfold unspawned
      rw [List.countP_map]
      refine List.countP_mono_left fun task _ htask => ?_
      by_cases hr : task.runner = r
      · -- what the runner had claimed is never spawned
        simp [hr] at htask
      · simpa [hr] using htask
    dsimp only
    omega
  | @released r staleTimeout _ =>
    have hzero : ((s.jobs.rows.filter (·.isStale s.now staleTimeout)).map
        (fun job => Entry.recovered job.id)).count (.started id) = 0 :=
      List.count_eq_zero.mpr (by simp)
    simp only [List.count_append, hzero]
    omega
  | _ => exact Nat.le_add_right ..

/-! ## The invariant -/

structure AttemptInv (s : State) : Prop extends IdInv s where
  counted : ∀ job ∈ s.jobs.rows, job.schedule = none →
    s.trace.count (.claimed job.id) = job.attempts
  bounded : ∀ job ∈ s.jobs.rows, job.schedule = none → job.attempts ≤ max 1 job.maxRetries
  pending : ∀ job ∈ s.jobs.rows, job.schedule = none → job.status = .pending →
    job.attempts < max 1 job.maxRetries
  claims : ∀ job ∈ s.inserted, job.schedule = none →
    s.trace.count (.claimed job.id) ≤ max 1 job.maxRetries
  started : ∀ id, s.trace.count (.started id) + unspawned s.tasks id ≤ s.trace.count (.claimed id)
  slots : ∀ task ∈ s.tasks, task.pc = .reset → task.job.schedule ≠ none

theorem attemptInv_init : AttemptInv {} where
  toIdInv := idInv_init
  counted := by simp
  bounded := by simp
  pending := by simp
  claims := by simp
  started := by simp [unspawned]
  slots := by simp

theorem schedule_ne_none {runner : JobRunner} {job : Job} (h : (runner.schedule job).isSome) :
    job.schedule ≠ none := by
  intro hnone
  simp [JobRunner.schedule, JobRunner.recurringDef, hnone] at h

/-- Only tasks of recurring jobs reset a slot. -/
theorem Deciding.schedule_ne_none {i : Nat} {task : Task} {set : Job → Job} {pc : Pc}
    (h : Deciding runners s i task a set pc) (hreset : pc = .reset) : task.job.schedule ≠ none := by
  cases h with
  | completed _ =>
    simp only [JobRunner.afterMark] at hreset
    split at hreset
    · rename_i hsome
      exact Koupang.Jobs.schedule_ne_none hsome
    · cases hreset
  | retried _ =>
    simp only [JobRunner.afterMark] at hreset
    split at hreset
    · rename_i hcond
      simp only [Bool.and_eq_true] at hcond
      exact Koupang.Jobs.schedule_ne_none hcond.2
    · cases hreset
  | deadLettered _ => cases hreset
  | reset _ _ => cases hreset

/-- A mark leaves the attempts alone; it makes the row pending only if there is one left. -/
theorem Deciding.attempts {i : Nat} {task : Task} {set : Job → Job} {pc : Pc}
    (h : Deciding runners s i task a set pc) (hmark : task.pc ≠ .reset) (job : Job) :
    (set job).attempts = job.attempts ∧
      ((set job).status = .pending → job.attempts < task.job.maxRetries) := by
  cases h with
  | completed _ => exact ⟨rfl, by simp [Job.markCompleted]⟩
  | retried _ =>
    refine ⟨rfl, fun hpending => ?_⟩
    simp only [Job.markRetryOrFailed] at hpending
    split at hpending
    · cases hpending
    · rename_i hleft
      simpa using hleft
  | deadLettered _ => exact ⟨rfl, by simp [Job.markDeadLettered]⟩
  | reset hpc _ => exact absurd hpc hmark

/-- What a step does to the attempts of a one-shot job. -/
theorem AttemptInv.row_step (hinv : AttemptInv s) (hcond : RecoversUnexhausted runners s a)
    (h : Stepped runners s a t) {job job' : Job} (hjob : job ∈ s.jobs.rows)
    (hrow : RowStep runners s a job job') (hschedule : job.schedule = none) :
    job'.attempts = job.attempts + a.claims.count job.id ∧
      job'.attempts ≤ max 1 job.maxRetries ∧
      (job'.status = .pending → job'.attempts < max 1 job.maxRetries) := by
  have hbounded := hinv.bounded job hjob hschedule
  have hpending := hinv.pending job hjob hschedule
  cases hrow with
  | kept hunclaimed => exact ⟨by omega, hbounded, hpending⟩
  | claimed hclaimed hclaimable =>
    simp only [Job.isClaimable, Bool.and_eq_true, decide_eq_true_eq] at hclaimable
    have hlt := hpending hclaimable.1.1
    refine ⟨by rw [hclaimed]; rfl, ?_, by simp [Job.claim]⟩
    simp only [Job.claim, Nat.cast_add, Nat.cast_one]
    omega
  | released ha hstale =>
    subst ha
    exact ⟨rfl, hbounded, fun _ => hcond job hjob hschedule hstale⟩
  | @written i task set pc htask hid hdeciding _ _ =>
    have hmem := List.mem_of_getElem? htask
    have hsame := hinv.taskRows task hmem job hjob hid.symm
    -- the job is no recurring one, so the task does not reset it
    have hmark : task.pc ≠ .reset := fun hpc =>
      hinv.slots task hmem hpc (hsame.schedule.symm.trans hschedule)
    obtain ⟨hattempts, hleft⟩ := hdeciding.attempts hmark job
    have hwritten : (job.write set s.now).attempts = job.attempts := hattempts
    rw [hwritten, hdeciding.isDecision.claims, List.count_nil]
    refine ⟨rfl, hbounded, fun hstatus => ?_⟩
    have hlt := hleft hstatus
    rw [← hsame.maxRetries] at hlt
    omega

theorem attemptInv_step (hinv : AttemptInv s) (hcond : RecoversUnexhausted runners s a)
    (h : Stepped runners s a t) :
    AttemptInv t := by
  -- a row that is inserted has never been claimed
  have hnew : ∀ job, NewRow s job → t.trace.count (.claimed job.id) = 0 := by
    intro job hnew
    have hold : s.trace.count (.claimed job.id) = 0 :=
      List.count_eq_zero.mpr fun hmem => hnew.not_drawn (hinv.claimed _ hmem)
    have hclaims : a.claims.count job.id = 0 := by
      refine List.count_eq_zero.mpr fun hmem => ?_
      obtain ⟨row, hrow, hid, -⟩ := h.mem_claims hmem
      exact hnew.not_drawn (hid ▸ hinv.rows row hrow)
    rw [h.count_claimed, hold, hclaims]
  have hrows : ∀ job' ∈ t.jobs.rows, job'.schedule = none →
      t.trace.count (.claimed job'.id) = job'.attempts ∧ job'.attempts ≤ max 1 job'.maxRetries ∧
        (job'.status = .pending → job'.attempts < max 1 job'.maxRetries) := by
    intro job' hjob' hschedule
    rcases h.rows hjob' with ⟨job, hjob, hrow⟩ | ⟨hrow, -⟩
    · have hsame := hrow.same
      rw [hsame.schedule] at hschedule
      obtain ⟨hattempts, hle, hlt⟩ := hinv.row_step hcond h hjob hrow hschedule
      rw [hsame.id, hsame.maxRetries, h.count_claimed, hinv.counted job hjob hschedule]
      exact ⟨hattempts.symm, hle, hlt⟩
    · rw [hnew job' hrow, hrow.attempts]
      refine ⟨rfl, ?_, fun _ => ?_⟩
      · simp
      · simp
  exact
    { toIdInv := idInv_step hinv.toIdInv h
      counted := fun job' hjob' hschedule => (hrows job' hjob' hschedule).1
      bounded := fun job' hjob' hschedule => (hrows job' hjob' hschedule).2.1
      pending := fun job' hjob' hschedule => (hrows job' hjob' hschedule).2.2
      claims := by
        intro job₀ hjob₀ hschedule
        rcases h.mem_inserted hjob₀ with hold | ⟨hrow, -⟩
        · have hle := hinv.claims job₀ hold hschedule
          rw [h.count_claimed]
          by_cases hclaims : job₀.id ∈ a.claims
          · -- the row is pending, with an attempt left
            obtain ⟨job, hjob, hid, hclaimable⟩ := h.mem_claims hclaims
            have hsame := hinv.insertedRows job₀ hold job hjob hid
            have hnone := hsame.schedule.trans hschedule
            simp only [Job.isClaimable, Bool.and_eq_true, decide_eq_true_eq] at hclaimable
            have hlt := hinv.pending job hjob hnone hclaimable.1.1
            rw [← hid, hinv.counted job hjob hnone, hid,
              List.count_eq_one_of_mem h.nodup_claims hclaims, ← hsame.maxRetries]
            omega
          · rw [List.count_eq_zero.mpr hclaims]
            exact hle
        · rw [hnew job₀ hrow]
          simp
      started := by
        intro id
        have hle := h.unspawned_le id
        have hcount := h.count_claimed id
        have hstarted := hinv.started id
        omega
      slots := by
        intro task' htask' hreset
        obtain ⟨i, hi⟩ := List.getElem?_of_mem htask'
        rcases h.tasks hi with ⟨task, htask, heq, hstep⟩ | ⟨-, htaskNew⟩
        · have hjob : task'.job = task.job := by rw [heq]
          rw [hjob]
          generalize task'.pc = pc at hreset hstep
          cases hstep with
          | kept => exact hinv.slots task (List.mem_of_getElem? htask) hreset
          | executing _ => cases hreset
          | mark _ _ => cases hreset
          | reset hdeciding => exact hdeciding.schedule_ne_none rfl
          | ended => cases hreset
        · rw [htaskNew.pc] at hreset
          cases hreset }

/-! ## Runs -/

/-- In every run, with any errors, timeouts, panics, crashes and recoveries, in which the
    recovery frees a one-shot job only if it has an attempt left: a one-shot job is tried, and
    executed, at most `max(1, max_retries)` times. -/
theorem executions_bounded (runners : Nat → JobRunner) (as : List Label) {s : State}
    (hrun : Run.run (step runners) {} as = some s)
    (hmeets : Run.Meets (step runners) (RecoversUnexhausted runners) {} as) : Bounded s := by
  have hinv : AttemptInv s :=
    Run.run_invariant_of_meets
      (fun _ _ _ hinv hcond hstep => attemptInv_step hinv hcond (stepped_of_step hstep))
      attemptInv_init hmeets hrun
  refine ⟨hinv.bounded, fun job hjob hschedule => ?_⟩
  -- no execution without a claim, and no claim beyond the bound
  have hclaims := hinv.claims job hjob hschedule
  have hstarted := hinv.started job.id
  omega

/-- A job with the default number of retries is executed again after a timeout. -/
theorem executions_bounded_recovered :
    ∃ s, Run.run (step disbursers) {} (recovered none) = some s ∧
      s.jobs.rows.map (·.attempts) = [2] ∧ Bounded s := by
  have hrun : (Run.run (step disbursers) {} (recovered none)).map
      (·.jobs.rows.map (·.attempts)) = some [2] := by
    decide +kernel
  obtain ⟨s, hs, hattempts⟩ := Option.map_eq_some_iff.mp hrun
  exact ⟨s, hs, hattempts, executions_bounded disbursers _ hs (by decide +kernel)⟩

/-- A job with a single attempt is executed again after a timeout. -/
theorem timeout_exceeds_retries :
    ∃ s, Run.run (step disbursers) {} (recovered (some { maxRetries := some 1 })) = some s ∧
      ¬ Bounded s := by
  have hrun : (Run.run (step disbursers) {} (recovered (some { maxRetries := some 1 }))).map
      (fun s => s.inserted.map fun job =>
        (job.schedule, job.maxRetries, s.trace.count (.started job.id))) =
      some [(none, 1, 2)] := by
    decide +kernel
  obtain ⟨s, hs, heq⟩ := Option.map_eq_some_iff.mp hrun
  obtain ⟨job, rest, hinserted, hjob, -⟩ := List.map_eq_cons_iff.mp heq
  obtain ⟨hschedule, hrest⟩ := Prod.mk.inj hjob
  obtain ⟨hmax, hstarted⟩ := Prod.mk.inj hrest
  refine ⟨s, hs, fun hbounded => ?_⟩
  have hle := hbounded.executions job (by simp [hinserted]) hschedule
  rw [hmax, hstarted] at hle
  exact absurd hle (by decide)

end Koupang.Jobs
