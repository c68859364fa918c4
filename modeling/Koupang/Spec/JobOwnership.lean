import Koupang.Spec.JobRunner

/-!
# Who decides about a job

A claimed row belongs to its task as long as nobody recovers it. The writes of a
task are keyed by the row's id alone, so everything depends on `release_stale_locks`:
it goes by the age of the lock, which says nothing about whether the task is still
there. Where it frees only rows whose tasks have ended, a job is never executed
twice at a time, and only its claimant decides what becomes of it.

## Key results

- `executions_exclusive`, `claimant_decides`: both, under that condition
- `executions_overlap`, `late_result_decides`: a job that runs for longer than the
  stale-lock timeout
-/

namespace Koupang.Jobs

def Task.isExecuting (task : Task) : Bool :=
  match task.pc with
  | .executing _ => true
  | _ => false

/-- No row is executed by two handlers at the same time. -/
def State.Exclusive (s : State) : Prop :=
  ∀ (i k : Nat) (task task' : Task), s.tasks[i]? = some task → s.tasks[k]? = some task' →
    i ≠ k → task.isExecuting → task'.isExecuting → task.job.id ≠ task'.job.id

/-- A task changes its row only if nobody has recovered or claimed the row since its claim. -/
def ClaimantDecides (s : State) (a : Label) (t : State) : Prop :=
  ∀ (i : Nat) (task : Task), a.IsDecision i → s.tasks[i]? = some task →
    t.jobs.find? task.job.id ≠ s.jobs.find? task.job.id →
    s.epoch task.job.id = task.epoch

/-- The recovery frees only rows whose tasks have ended. -/
def RecoversEnded (runners : Nat → JobRunner) (s : State) : Label → Prop
  | .releaseStaleLocks r => ∀ task ∈ s.tasks, task.pc ≠ .ended →
    ∀ job ∈ s.jobs.find? task.job.id, ¬ job.isStale s.now (runners r).config.staleLockTimeout
  | _ => True

instance (runners : Nat → JobRunner) (s : State) : ∀ a, Decidable (RecoversEnded runners s a)
  | .releaseStaleLocks _ => inferInstanceAs (Decidable (∀ task ∈ s.tasks, _ → ∀ job ∈ _, ¬ _))
  | .tick _ | .enqueue .. | .seed .. | .claim .. | .spawn _ | .returns .. | .timeOut _ | .panic _
  | .mark .. | .reset .. | .crash _ | .cleanupCompleted .. => .isTrue trivial

/-! ## Claims and recoveries -/

variable {runners : Nat → JobRunner} {s t : State} {a : Label}

/-- The step `a` claims or recovers the row `id`. -/
def Moves (runners : Nat → JobRunner) (s : State) (a : Label) (id : Uuid) : Prop :=
  ∃ job ∈ s.jobs.rows, job.id = id ∧ (job.isClaimable s.now ∨
    ∃ r, a = .releaseStaleLocks r ∧ job.isStale s.now (runners r).config.staleLockTimeout)

/-- A row that a step neither claims nor recovers keeps its epoch. -/
theorem Stepped.epoch (h : Stepped runners s a t) {id : Uuid} (hmoves : ¬ Moves runners s a id) :
    t.epoch id = s.epoch id := by
  cases h with
  | @claimed r ids answered u claimable _ ht =>
    have hid : id ∉ ids := by
      intro hid
      obtain ⟨job, hfind, hclaimable⟩ := claimable id hid
      obtain ⟨hjob, hid⟩ := (s.jobs.find?_eq_some_iff ..).mp hfind
      exact hmoves ⟨job, hjob, hid, .inl hclaimable⟩
    subst ht
    simp only [State.epoch, List.count_append]
    have hclaimed : (ids.map Entry.claimed).count (.claimed id) = 0 :=
      List.count_eq_zero.mpr (by simpa using hid)
    have hrecovered : (ids.map Entry.claimed).count (.recovered id) = 0 :=
      List.count_eq_zero.mpr (by simp)
    omega
  | spawned => simp [State.epoch]
  | returned _ _ htrace =>
    rcases htrace with ⟨htrace, -⟩ | ⟨htrace, -⟩ <;> simp [State.epoch, htrace]
  | written => simp [State.epoch]
  | skipped => simp [State.epoch]
  | @released r staleTimeout hstale =>
    simp only [State.epoch, List.count_append]
    have hclaimed : ((s.jobs.rows.filter (·.isStale s.now staleTimeout)).map
        (fun job => Entry.recovered job.id)).count (.claimed id) = 0 :=
      List.count_eq_zero.mpr (by simp)
    have hrecovered : ((s.jobs.rows.filter (·.isStale s.now staleTimeout)).map
        (fun job => Entry.recovered job.id)).count (.recovered id) = 0 := by
      refine List.count_eq_zero.mpr fun hmem => ?_
      obtain ⟨job, hjob, heq⟩ := List.mem_map.mp hmem
      obtain ⟨hjob, hjobStale⟩ := List.mem_filter.mp hjob
      exact hmoves ⟨job, hjob, Entry.recovered.inj heq, .inr ⟨r, rfl, hstale ▸ hjobStale⟩⟩
    omega
  | _ => rfl

/-! ## The invariant -/

/-- What is true of a task that has not ended: its claim is the last one of its row, and up
    to its own mark nobody has changed the row. -/
structure Task.Owns (s : State) (task : Task) : Prop where
  current : task.epoch = s.epoch task.job.id
  row : task.pc ≠ .reset → s.jobs.find? task.job.id = some task.job
  slot : ∀ job ∈ s.jobs.find? task.job.id, job.status ≠ .pending

structure OwnerInv (s : State) : Prop extends IdInv s where
  running : ∀ task ∈ s.tasks, task.job.status = .running
  owns : ∀ task ∈ s.tasks, task.pc ≠ .ended → task.Owns s
  distinct : ∀ (i k : Nat) (task task' : Task), s.tasks[i]? = some task →
    s.tasks[k]? = some task' → i ≠ k → task.pc ≠ .ended → task'.pc ≠ .ended →
    task.job.id ≠ task'.job.id

theorem ownerInv_init : OwnerInv {} where
  toIdInv := idInv_init
  running := by simp
  owns := by simp
  distinct := by simp

/-- Under the condition, no step claims or recovers the row of a task that has not ended. -/
theorem OwnerInv.not_moves (hinv : OwnerInv s) (hcond : RecoversEnded runners s a) {task : Task}
    (htask : task ∈ s.tasks) (hlive : task.pc ≠ .ended) : ¬ Moves runners s a task.job.id := by
  rintro ⟨job, hjob, hid, hclaimable | ⟨r, rfl, hstale⟩⟩
  · have hfind := (s.jobs.find?_eq_some_iff ..).mpr ⟨hjob, hid⟩
    simp only [Job.isClaimable, Bool.and_eq_true, decide_eq_true_eq] at hclaimable
    exact (hinv.owns task htask hlive).slot job hfind hclaimable.1.1
  · have hfind := (s.jobs.find?_eq_some_iff ..).mpr ⟨hjob, hid⟩
    exact hcond task htask hlive job hfind hstale

theorem Deciding.live {i : Nat} {task : Task} {set : Job → Job} {pc : Pc}
    (h : Deciding runners s i task a set pc) :
    task.pc ≠ .ended := by
  cases h with
  | completed hpc => simp [hpc]
  | retried hpc => simp [hpc]
  | deadLettered hpc => simp [hpc]
  | reset hpc _ => simp [hpc]

/-- A step makes no row with the id of a task. -/
theorem OwnerInv.find?_none (hinv : OwnerInv s) (h : Stepped runners s a t) {task : Task}
    (htask : task ∈ s.tasks) (hnone : s.jobs.find? task.job.id = none) :
    t.jobs.find? task.job.id = none := by
  rw [Table.find?_eq_none_iff] at hnone ⊢
  intro job' hjob' hid
  rcases h.ids hjob' with ⟨job, hjob, hid'⟩ | ⟨hnew, -⟩
  · exact hnone job hjob (hid'.trans hid)
  · exact absurd (hid ▸ hinv.tasks task htask) hnew.not_drawn

/-- A task that does not write in a step keeps its row. -/
theorem OwnerInv.owns_of_waiting (hinv : OwnerInv s) (hcond : RecoversEnded runners s a)
    (h : Stepped runners s a t) {i : Nat} {task : Task} (htask : s.tasks[i]? = some task)
    (hlive : task.pc ≠ .ended) (hwaits : ∀ task' set pc, ¬ Deciding runners s i task' a set pc) :
    task.Owns t := by
  have hmem := List.mem_of_getElem? htask
  have howns := hinv.owns task hmem hlive
  have hmoves := hinv.not_moves hcond hmem hlive
  have hcurrent : task.epoch = t.epoch task.job.id := (h.epoch hmoves).symm ▸ howns.current
  cases hfind : s.jobs.find? task.job.id with
  | none =>
    -- the slot is gone, and no row is made in its place
    have hnone := hinv.find?_none h hmem hfind
    refine ⟨hcurrent, fun hpc => ?_, by simp [hnone]⟩
    have hrow := howns.row hpc
    rw [hfind] at hrow
    cases hrow
  | some job =>
    obtain ⟨hjob, hid⟩ := (s.jobs.find?_eq_some_iff ..).mp hfind
    rcases h.row hjob with ⟨job', hfind', hrow⟩ | ⟨hnone, hcompleted, -⟩
    · rw [hid] at hfind'
      cases hrow with
      | kept =>
        have heq : t.jobs.find? task.job.id = s.jobs.find? task.job.id := hfind'.trans hfind.symm
        exact ⟨hcurrent, fun hpc => heq.trans (howns.row hpc), by rw [heq]; exact howns.slot⟩
      | claimed _ hclaimable => exact absurd ⟨job, hjob, hid, .inl hclaimable⟩ hmoves
      | released ha hstale => exact absurd ⟨job, hjob, hid, .inr ⟨_, ha, hstale⟩⟩ hmoves
      | @written k task' set pc htask' hid' hdeciding _ _ =>
        by_cases hik : i = k
        · subst hik
          exact absurd hdeciding (hwaits _ _ _)
        · -- a write of another task is a write of another row
          exact absurd (hid.symm.trans hid'.symm)
            (hinv.distinct i k task task' htask htask' hik hlive hdeciding.live)
    · -- the slot of a task that has marked its result is cleaned up
      rw [hid] at hnone
      refine ⟨hcurrent, fun hpc => ?_, by simp [hnone]⟩
      cases hfind.symm.trans (howns.row hpc)
      rw [hinv.running task hmem] at hcompleted
      cases hcompleted

/-- The statement of a task is determined by where the task is. -/
theorem Deciding.set_eq {i : Nat} {task : Task} {set set' : Job → Job} {pc pc' : Pc}
    (h : Deciding runners s i task a set pc) (h' : Deciding runners s i task a set' pc') :
    set' = set := by
  cases h with
  | completed hpc =>
    cases h' with
    | completed => rfl
    | retried hpc' => cases hpc.symm.trans hpc'
    | deadLettered hpc' => cases hpc.symm.trans hpc'
  | retried hpc =>
    cases h' with
    | completed hpc' => cases hpc.symm.trans hpc'
    | retried hpc' =>
      cases hpc.symm.trans hpc'
      rfl
    | deadLettered hpc' => cases hpc.symm.trans hpc'
  | deadLettered hpc =>
    cases h' with
    | completed hpc' => cases hpc.symm.trans hpc'
    | retried hpc' => cases hpc.symm.trans hpc'
    | deadLettered hpc' =>
      cases hpc.symm.trans hpc'
      rfl
  | reset hpc hschedule =>
    cases h' with
    | reset hpc' hschedule' =>
      cases hschedule.symm.trans hschedule'
      rfl

/-- A task is to reset the slot only after a mark that does not leave the row pending. -/
theorem Deciding.status_ne_pending {i : Nat} {task : Task} {set : Job → Job} {pc : Pc}
    (h : Deciding runners s i task a set pc) (hreset : pc = .reset) :
    (set task.job).status ≠ .pending := by
  cases h with
  | completed _ => simp [Job.markCompleted]
  | retried hpc =>
    simp only [JobRunner.afterMark] at hreset
    split at hreset
    · rename_i hexhausted
      simp only [Bool.and_eq_true, decide_eq_true_eq] at hexhausted
      simp [Job.markRetryOrFailed, hexhausted.1.1.2]
    · cases hreset
  | deadLettered _ => simp [Job.markDeadLettered]
  | reset _ _ => cases hreset

theorem Deciding.pc_ne_reset {i : Nat} {task : Task} {set : Job → Job} {pc : Pc}
    (h : Deciding runners s i task a set pc) (hreset : pc = .reset) : task.pc ≠ .reset := by
  cases h with
  | completed hpc => simp [hpc]
  | retried hpc => simp [hpc]
  | deadLettered hpc => simp [hpc]
  | reset _ _ => cases hreset

theorem OwnerInv.owns_of_deciding (hinv : OwnerInv s) (hcond : RecoversEnded runners s a)
    (h : Stepped runners s a t) {i : Nat} {task : Task} {set : Job → Job}
    (htask : s.tasks[i]? = some task) (hdeciding : Deciding runners s i task a set .reset) :
    { task with pc := .reset : Task }.Owns t := by
  have hmem := List.mem_of_getElem? htask
  have howns := hinv.owns task hmem hdeciding.live
  have hmoves := hinv.not_moves hcond hmem hdeciding.live
  refine ⟨(h.epoch hmoves).symm ▸ howns.current, fun hne => absurd rfl hne, fun job' hjob' => ?_⟩
  have hfind := howns.row (hdeciding.pc_ne_reset rfl)
  have hjob := ((s.jobs.find?_eq_some_iff ..).mp hfind).1
  change t.jobs.find? task.job.id = some job' at hjob'
  rcases h.row hjob with ⟨job'', hfind', hrow⟩ | ⟨hnone, -⟩
  · cases hfind'.symm.trans hjob'
    cases hrow with
    | kept => exact howns.slot _ hfind
    | claimed _ hclaimable => exact absurd ⟨_, hjob, rfl, .inl hclaimable⟩ hmoves
    | released ha hstale => exact absurd ⟨_, hjob, rfl, .inr ⟨_, ha, hstale⟩⟩ hmoves
    | @written k task' set' pc htask' _ hdeciding' _ _ =>
      -- the write is the task's own, which leaves the row completed or failed
      cases hdeciding.eq hdeciding'
      cases htask.symm.trans htask'
      rw [Job.write_status, hdeciding.set_eq hdeciding']
      exact hdeciding.status_ne_pending rfl
  · rw [hjob'] at hnone
    cases hnone

/-- A task that goes on had not ended. -/
theorem PcStep.live {i : Nat} {task : Task} {pc : Pc} (h : PcStep runners s a t i task pc)
    (hlive : pc ≠ .ended) : task.pc ≠ .ended := by
  cases h with
  | kept => exact hlive
  | executing hpc => simp [hpc]
  | mark hpc _ => simp [hpc]
  | reset hdeciding => exact hdeciding.live
  | ended => exact absurd rfl hlive

theorem ownerInv_step (hinv : OwnerInv s) (hcond : RecoversEnded runners s a)
    (h : Stepped runners s a t) : OwnerInv t where
  toIdInv := idInv_step hinv.toIdInv h
  running task' htask' := by
    obtain ⟨i, hi⟩ := List.getElem?_of_mem htask'
    rcases h.tasks hi with ⟨task, htask, heq, -⟩ | ⟨-, hnew⟩
    · rw [heq]
      exact hinv.running task (List.mem_of_getElem? htask)
    · obtain ⟨r, job, -, -, heq⟩ := hnew.job
      rw [heq]
      rfl
  owns task' htask' hlive := by
    obtain ⟨i, hi⟩ := List.getElem?_of_mem htask'
    rcases h.tasks hi with ⟨task, htask, heq, hstep⟩ | ⟨-, hnew⟩
    · have hlive₀ := hstep.live hlive
      by_cases ha : a.IsDecision i
      · obtain ⟨task₀, set, pc, htask₀, hdeciding, htasks⟩ := h.of_isDecision ha
        cases htask.symm.trans htask₀
        rw [htasks, List.getElem?_set_self (List.getElem?_eq_some_iff.mp htask).1] at hi
        cases hi
        rcases hdeciding.pc_eq with rfl | rfl
        · exact hinv.owns_of_deciding hcond h htask hdeciding
        · exact absurd rfl hlive
      · -- the task may go on, but it does not write
        have howns := hinv.owns_of_waiting hcond h htask hlive₀ fun task₀ set pc hdeciding =>
          ha hdeciding.isDecision
        rw [heq]
        refine ⟨howns.current, fun hpc => howns.row ?_, howns.slot⟩
        generalize task'.pc = pc at hstep hpc hlive
        cases hstep with
        | kept => exact hpc
        | executing hpc₀ => simp [hpc₀]
        | mark hpc₀ _ => simp [hpc₀]
        | reset hdeciding => exact absurd rfl hpc
        | ended => exact absurd rfl hlive
    · -- the task holds its row as the claim has left it
      obtain ⟨r, job, hjob, -, heq⟩ := hnew.job
      refine ⟨hnew.epoch, fun _ => hnew.row, fun job' hjob' => ?_⟩
      cases hnew.row.symm.trans hjob'
      rw [heq]
      simp [Job.claim]
  distinct i k task₁ task₂ htask₁ htask₂ hne hlive₁ hlive₂ := by
    -- a claimed row is not that of a task that has not ended
    have hclaimed : ∀ (i : Nat) (old new : Task), s.tasks[i]? = some old → old.pc ≠ .ended →
        NewTask runners s t new → old.job.id ≠ new.job.id := by
      intro i old new hold hlive hnew hid
      obtain ⟨r, job, hjob, hclaimable, heq⟩ := hnew.job
      rw [heq] at hid
      exact hinv.not_moves hcond (List.mem_of_getElem? hold) hlive
        ⟨job, hjob, hid.symm, .inl hclaimable⟩
    rcases h.tasks htask₁ with ⟨old₁, hold₁, heq₁, hstep₁⟩ | ⟨hi, hnew₁⟩
    · rcases h.tasks htask₂ with ⟨old₂, hold₂, heq₂, hstep₂⟩ | ⟨-, hnew₂⟩
      · rw [heq₁, heq₂]
        exact hinv.distinct i k old₁ old₂ hold₁ hold₂ hne (hstep₁.live hlive₁) (hstep₂.live hlive₂)
      · rw [heq₁]
        exact hclaimed i old₁ task₂ hold₁ (hstep₁.live hlive₁) hnew₂
    · rcases h.tasks htask₂ with ⟨old₂, hold₂, heq₂, hstep₂⟩ | ⟨hk, -⟩
      · rw [heq₂]
        exact Ne.symm (hclaimed k old₂ task₁ hold₂ (hstep₂.live hlive₂) hnew₁)
      · exact h.distinct htask₁ htask₂ hi hk hne

/-! ## Runs -/

theorem ownerInv_run {as : List Label} (hrun : Run.run (step runners) {} as = some s)
    (hmeets : Run.Meets (step runners) (RecoversEnded runners) {} as) : OwnerInv s :=
  Run.run_invariant_of_meets
    (fun _ _ _ hinv hcond hstep => ownerInv_step hinv hcond (stepped_of_step hstep))
    ownerInv_init hmeets hrun

theorem isExecuting_ne_ended {task : Task} (h : task.isExecuting) : task.pc ≠ .ended := by
  intro hended
  simp [Task.isExecuting, hended] at h

/-- In every run of any number of runners, with any configurations and any timeouts of the jobs,
    in which stale locks are recovered only from rows whose tasks have ended: no two handlers
    execute one row at the same time. -/
theorem executions_exclusive (runners : Nat → JobRunner) (as : List Label) {s : State}
    (hrun : Run.run (step runners) {} as = some s)
    (hmeets : Run.Meets (step runners) (RecoversEnded runners) {} as) : s.Exclusive := by
  have hinv := ownerInv_run hrun hmeets
  intro i k task task' htask htask' hne hexecuting hexecuting'
  exact hinv.distinct i k task task' htask htask' hne (isExecuting_ne_ended hexecuting)
    (isExecuting_ne_ended hexecuting')

/-- A job is executed again after its first execution has run into the timeout. -/
theorem executions_exclusive_recovered :
    ∃ s, Run.run (step disbursers) {} (recovered none) = some s ∧
      s.tasks.map (·.isExecuting) = [false, true] ∧ s.Exclusive := by
  have hrun : (Run.run (step disbursers) {} (recovered none)).map
      (·.tasks.map (·.isExecuting)) = some [false, true] := by
    decide +kernel
  obtain ⟨s, hs, htasks⟩ := Option.map_eq_some_iff.mp hrun
  exact ⟨s, hs, htasks, executions_exclusive disbursers _ hs (by decide +kernel)⟩

/-- A job that may run for ten minutes is recovered after five, and claimed by runner 1. -/
def overrun : List Label :=
  [.enqueue disburse (some { timeoutSeconds := some 600 }) 0, .claim 0 [⟨0, 0⟩] true, .spawn 0,
    .tick 301000000, .releaseStaleLocks 1, .claim 1 [⟨0, 0⟩] true, .spawn 1]

/-- Nobody has crashed, the settings are the default ones, and both handlers execute the job. -/
theorem executions_overlap :
    (∀ r, ∃ env nowV7, JobRunnerConfig.fromEnv env nowV7 = some (disbursers r).config) ∧
      (∀ r, Label.crash r ∉ overrun) ∧
      ∃ s, Run.run (step disbursers) {} overrun = some s ∧ ¬ s.Exclusive := by
  have hrun : (Run.run (step disbursers) {} overrun).map (fun s =>
      (s.tasks[0]?.map (fun task => (task.isExecuting, task.job.id)),
        s.tasks[1]?.map (fun task => (task.isExecuting, task.job.id)))) =
      some (some (true, ⟨0, 0⟩), some (true, ⟨0, 0⟩)) := by
    decide +kernel
  obtain ⟨s, hs, heq⟩ := Option.map_eq_some_iff.mp hrun
  obtain ⟨hfirst, hsecond⟩ := Prod.mk.inj heq
  obtain ⟨task, htask, hpair⟩ := Option.map_eq_some_iff.mp hfirst
  obtain ⟨task', htask', hpair'⟩ := Option.map_eq_some_iff.mp hsecond
  obtain ⟨hexecuting, hid⟩ := Prod.mk.inj hpair
  obtain ⟨hexecuting', hid'⟩ := Prod.mk.inj hpair'
  have hconfig : ∀ r, ∃ env nowV7,
      JobRunnerConfig.fromEnv env nowV7 = some (disbursers r).config := fun r =>
    ⟨{ instanceId := some s!"runner-{r}" }, "", rfl⟩
  refine ⟨hconfig, by simp [overrun], s, hs, fun hexclusive => ?_⟩
  exact hexclusive 0 1 task task' htask htask' (by decide) hexecuting hexecuting'
    (hid.trans hid'.symm)

/-- In every such run, and for every step from the state that it reaches: a task changes its
    row only if nobody has recovered or claimed the row since its claim. -/
theorem claimant_decides (runners : Nat → JobRunner) (as : List Label) {s t : State} {a : Label}
    (hrun : Run.run (step runners) {} as = some s)
    (hmeets : Run.Meets (step runners) (RecoversEnded runners) {} as)
    (hstep : step runners s a = some t) : ClaimantDecides s a t := by
  intro i task ha htask _
  obtain ⟨task', set, pc, htask', hdeciding, -⟩ := (stepped_of_step hstep).of_isDecision ha
  cases htask.symm.trans htask'
  have howns := (ownerInv_run hrun hmeets).owns task (List.mem_of_getElem? htask) hdeciding.live
  exact howns.current.symm

/-- The second execution of a recovered job marks its result. -/
theorem claimant_decides_recovered :
    ∃ s t, Run.run (step disbursers) {} (recovered none ++ [.returns 1 (.ok ())]) = some s ∧
      step disbursers s (.mark 1 true) = some t ∧ ClaimantDecides s (.mark 1 true) t ∧
      t.jobs.rows.map (·.status) = [.completed] := by
  have hrun : (Run.run (step disbursers) {} (recovered none ++ [.returns 1 (.ok ())])).bind
      (fun s => (step disbursers s (.mark 1 true)).map (·.jobs.rows.map (·.status))) =
      some [.completed] := by
    decide +kernel
  obtain ⟨s, hs, hstep⟩ := Option.bind_eq_some_iff.mp hrun
  obtain ⟨t, ht, hstatus⟩ := Option.map_eq_some_iff.mp hstep
  exact ⟨s, t, hs, ht, claimant_decides disbursers _ hs (by decide +kernel) ht, hstatus⟩

/-- The first execution of the job that was claimed twice fails late, and makes the row pending
    while the second one is at work. -/
theorem late_result_decides :
    ∃ s t, Run.run (step disbursers) {}
        (overrun ++ [.returns 0 (.error (.transient "db down"))]) = some s ∧
      step disbursers s (.mark 0 true) = some t ∧ ¬ ClaimantDecides s (.mark 0 true) t := by
  have hrun : (Run.run (step disbursers) {}
      (overrun ++ [.returns 0 (.error (.transient "db down"))])).bind (fun s =>
        (step disbursers s (.mark 0 true)).map fun t =>
          (s.tasks[0]?.map fun task => (task.job.id, task.epoch), s.epoch ⟨0, 0⟩,
            (s.jobs.find? ⟨0, 0⟩).map (·.status), (t.jobs.find? ⟨0, 0⟩).map (·.status))) =
      some (some (⟨0, 0⟩, 1), 3, some .running, some .pending) := by
    decide +kernel
  obtain ⟨s, hs, hstep⟩ := Option.bind_eq_some_iff.mp hrun
  obtain ⟨t, ht, heq⟩ := Option.map_eq_some_iff.mp hstep
  simp only [Prod.mk.injEq] at heq
  obtain ⟨htask, hepoch, hrunning, hpending⟩ := heq
  obtain ⟨task, htask, hpair⟩ := Option.map_eq_some_iff.mp htask
  obtain ⟨hid, htaskEpoch⟩ := Prod.mk.inj hpair
  refine ⟨s, t, hs, ht, fun hdecides => ?_⟩
  have hcurrent := hdecides 0 task (.inl ⟨true, rfl⟩) htask (by
    rw [hid]
    intro hsame
    rw [hsame, hrunning] at hpending
    cases hpending)
  rw [hid, hepoch, htaskEpoch] at hcurrent
  cases hcurrent

end Koupang.Jobs
