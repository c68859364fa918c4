import Koupang.Spec.RecurringSlots

/-!
# Healthy slots

A runner marks an execution of a slot as completed, and then resets the row, in two
statements. In between the row is completed, and no other runner will ever touch it:
the recovery looks at running rows only, and the cleanup deletes it. So the slot
goes on exactly as long as every completed row is reset by its runner.

## Key results

- `healthy_slot_active`: a slot whose executions succeed stays pending or running
- `slot_stays_completed`: a crash in between
-/

namespace Koupang.Jobs

/-- Every execution of the slot that comes to an end succeeds. -/
def Succeeds (slot : Slot) (s : State) : Label → Prop
  | .returns i result => ∀ task ∈ s.tasks[i]?, slot.Has task.job → result = .ok ()
  | _ => True

instance (slot : Slot) (s : State) : ∀ a, Decidable (Succeeds slot s a)
  | .returns .. => inferInstanceAs (Decidable (∀ task ∈ (_ : Option Task), slot.Has task.job → _))
  | .tick _ | .enqueue .. | .seed .. | .claim .. | .spawn _ | .timeOut _ | .panic _ | .mark ..
  | .reset .. | .crash _ | .releaseStaleLocks _ | .cleanupCompleted .. => .isTrue trivial

/-- The task has finished an execution of the slot, which it has not rescheduled yet. -/
def Task.Reschedules (task : Task) (slot : Slot) : Prop :=
  slot.Has task.job ∧ (task.pc = .mark (.ok ()) ∨ task.pc = .reset)

instance (task : Task) (slot : Slot) : Decidable (task.Reschedules slot) :=
  inferInstanceAs (Decidable (_ ∧ (_ ∨ _)))

/-- The task is to reset a completed row of the slot. -/
def Task.Awaits (task : Task) (slot : Slot) (s : State) : Prop :=
  slot.Has task.job ∧ task.pc = .reset ∧
    ∃ job ∈ s.jobs.find? task.job.id, job.status = .completed

instance (task : Task) (slot : Slot) (s : State) : Decidable (task.Awaits slot s) :=
  inferInstanceAs (Decidable (_ ∧ _ ∧ _))

/-- A runner that marks the slot as completed has its definition. While the slot has no pending
    or running row, a runner that is to reset its completed row does not crash, the reset reaches
    the database and meets no one-shot job with the same key, and the row is not cleaned up. -/
def KeepsRescheduling (runners : Nat → JobRunner) (slot : Slot) (s : State) : Label → Prop
  | .mark i true => ∀ task ∈ s.tasks[i]?, slot.Has task.job → task.pc = .mark (.ok ()) →
    ((runners task.runner).schedule task.job).isSome
  | .reset i _ applied => ¬ s.Active slot → ∀ task ∈ s.tasks[i]?, task.Awaits slot s →
    applied = true ∧ ∀ job ∈ s.jobs.rows, job.schedule = none →
      job.dedupEntry ≠ some (slot.jobType, slot.dedupKey)
  | .crash r => ¬ s.Active slot → ∀ task ∈ s.tasks, task.Awaits slot s → task.runner ≠ r
  | .cleanupCompleted r ids => ¬ s.Active slot → ∀ task ∈ s.tasks, task.Awaits slot s →
    ∀ job ∈ s.jobs.find? task.job.id,
      ¬ (job.id ∈ ids ∧ job.isOldCompleted s.now (runners r).config.cleanupMaxAge)
  | _ => True

instance (runners : Nat → JobRunner) (slot : Slot) (s : State) :
    ∀ a, Decidable (KeepsRescheduling runners slot s a)
  | .mark _ true =>
    inferInstanceAs (Decidable (∀ task ∈ (_ : Option Task), slot.Has task.job → _ → _))
  | .reset .. =>
    inferInstanceAs (Decidable (_ → ∀ task ∈ _, Task.Awaits task slot s → _ ∧ ∀ job ∈ _, _ → _))
  | .crash _ => inferInstanceAs (Decidable (_ → ∀ task ∈ _, Task.Awaits task slot s → _))
  | .cleanupCompleted .. =>
    inferInstanceAs (Decidable (_ → ∀ task ∈ _, Task.Awaits task slot s → ∀ job ∈ _, ¬ _))
  | .mark _ false | .tick _ | .enqueue .. | .seed .. | .claim .. | .spawn _ | .returns ..
  | .timeOut _ | .panic _ | .releaseStaleLocks _ => .isTrue trivial

/-! ## Steps -/

variable {runners : Nat → JobRunner} {slot : Slot} {s t : State} {a : Label}

/-- Once the slot has a row, it has a pending or running one, or a task that is to reset it. -/
structure HealthInv (slot : Slot) (s : State) : Prop extends IdInv s where
  results : ∀ task ∈ s.tasks, slot.Has task.job → ∀ result, task.pc = .mark result → result = .ok ()
  kept : (∃ job ∈ s.inserted, slot.Has job) → s.Active slot ∨ ∃ task ∈ s.tasks, task.Awaits slot s

theorem healthInv_init (slot : Slot) : HealthInv slot {} where
  toIdInv := idInv_init
  results := by simp
  kept := by simp

/-- A result is one that has just been returned, or was there before. -/
theorem Stepped.marking (h : Stepped runners s a t) {task' : Task} (htask' : task' ∈ t.tasks)
    {result : Except JobError Unit} (hmark : task'.pc = .mark result) :
    task' ∈ s.tasks ∨ ∃ i task, a = .returns i result ∧ s.tasks[i]? = some task ∧
      task'.job = task.job := by
  -- a step that sets another place
  have hset : ∀ (k : Nat) (task : Task) (pc : Pc), pc ≠ .mark result →
      task' ∈ s.tasks.set k { task with pc } → task' ∈ s.tasks := by
    intro k task pc hpc hmem
    rcases List.mem_or_eq_of_mem_set hmem with hold | rfl
    · exact hold
    · exact absurd hmark hpc
  have hdecided : ∀ {k : Nat} {task : Task} {set : Job → Job} {pc : Pc},
      Deciding runners s k task a set pc → pc ≠ .mark result := by
    intro k task set pc hdeciding
    rcases hdeciding.pc_eq with rfl | rfl <;> simp
  cases h with
  | @claimed r ids answered u _ _ ht =>
    subst ht
    cases answered with
    | false => exact .inl htask'
    | true =>
      rcases List.mem_append.mp htask' with hold | hnew
      · exact .inl hold
      · obtain ⟨-, -, -, hclaimed⟩ := mem_newTasks hnew
        rw [hclaimed] at hmark
        cases hmark
  | spawned => exact .inl (hset _ _ _ (by simp) htask')
  | unhandled => exact .inl (hset _ _ _ (by simp) htask')
  | returned htask _ _ =>
    rcases List.mem_or_eq_of_mem_set htask' with hold | rfl
    · exact .inl hold
    · cases hmark
      exact .inr ⟨_, _, rfl, htask, rfl⟩
  | stopped => exact .inl (hset _ _ _ (by simp) htask')
  | written _ deciding =>
    rw [State.proceed_tasks] at htask'
    exact .inl (hset _ _ _ (hdecided deciding) htask')
  | skipped _ deciding =>
    rw [State.proceed_tasks] at htask'
    exact .inl (hset _ _ _ (hdecided deciding) htask')
  | crashed =>
    obtain ⟨task, hmem, rfl⟩ := List.mem_map.mp htask'
    split at hmark
    · cases hmark
    · rename_i hne
      exact .inl (by rwa [if_neg hne])
  | _ => exact .inl htask'

/-- A row that is inserted is pending. -/
theorem Stepped.active_of_inserted (h : Stepped runners s a t) {job : Job}
    (hjob : job ∈ t.inserted) (hhas : slot.Has job) : job ∈ s.inserted ∨ t.Active slot := by
  cases h with
  | inserted _ hnew ok =>
    rcases List.mem_cons.mp hjob with rfl | hjob
    · refine .inr ⟨job, ?_, hhas, .inl hnew.status⟩
      rw [((Table.insert_eq_some ..).mp ok).2]
      exact List.mem_append_right _ (List.mem_singleton_self job)
    · exact .inl hjob
  | claimed _ _ ht =>
    subst ht
    exact .inl hjob
  | written => exact .inl (by rwa [State.proceed_inserted] at hjob)
  | skipped => exact .inl (by rwa [State.proceed_inserted] at hjob)
  | _ => exact .inl hjob

/-- A task that awaits its reset goes on only by the reset or a crash. -/
theorem Stepped.awaiting (h : Stepped runners s a t) {i : Nat} {task : Task}
    (htask : s.tasks[i]? = some task) (hreset : task.pc = .reset)
    (hmoves : ∀ computedAt applied, a ≠ .reset i computedAt applied)
    (hcrash : a ≠ .crash task.runner) : task ∈ t.tasks := by
  -- a step of another task
  have hset : ∀ (k : Nat) (task' new : Task), s.tasks[k]? = some task' → task'.pc ≠ .reset →
      task ∈ s.tasks.set k new := by
    intro k task' new htask' hpc
    have hne : k ≠ i := by
      rintro rfl
      cases htask.symm.trans htask'
      exact hpc hreset
    exact List.mem_of_getElem? ((List.getElem?_set_ne hne).trans htask)
  have hmem := List.mem_of_getElem? htask
  -- a write of another task, or of a task that is not at its reset
  have hdecided : ∀ {k : Nat} {task' new : Task} {set : Job → Job} {pc : Pc},
      s.tasks[k]? = some task' → Deciding runners s k task' a set pc →
        task ∈ s.tasks.set k new := by
    intro k task' new set pc htask' hdeciding
    cases hdeciding with
    | completed hpc => exact hset _ _ _ htask' (by simp [hpc])
    | retried hpc => exact hset _ _ _ htask' (by simp [hpc])
    | deadLettered hpc => exact hset _ _ _ htask' (by simp [hpc])
    | reset hpc _ =>
      by_cases hki : k = i
      · exact absurd (by rw [hki]) (hmoves _ _)
      · exact List.mem_of_getElem? ((List.getElem?_set_ne hki).trans htask)
  cases h with
  | @claimed r ids answered u _ _ ht =>
    subst ht
    cases answered with
    | false => exact hmem
    | true => exact List.mem_append_left _ hmem
  | spawned htask' hpc => exact hset _ _ _ htask' (by simp [hpc])
  | unhandled htask' hpc => exact hset _ _ _ htask' (by simp [hpc])
  | returned htask' hpc _ => exact hset _ _ _ htask' (by simp [hpc])
  | stopped _ htask' hpc => exact hset _ _ _ htask' (by simp [hpc])
  | written htask' hdeciding =>
    rw [State.proceed_tasks]
    exact hdecided htask' hdeciding
  | skipped htask' hdeciding =>
    rw [State.proceed_tasks]
    exact hdecided htask' hdeciding
  | @crashed r =>
    have hne : task.runner ≠ r := fun hrunner => hcrash (by rw [hrunner])
    exact List.mem_map.mpr ⟨task, hmem, if_neg hne⟩
  | _ => exact hmem

/-- The slot keeps its active row, or the row has just been completed. -/
theorem HealthInv.active_step (hinv : HealthInv slot s) (hcond : KeepsRescheduling runners slot s a)
    (hstep : step runners s a = some t) (hactive : s.Active slot) :
    t.Active slot ∨ ∃ task ∈ t.tasks, task.Awaits slot t := by
  have h := stepped_of_step hstep
  by_cases ha : a.applied = true
  · obtain ⟨job, hjob, hhas, hjobActive⟩ := hactive
    rcases h.row hjob with ⟨job', hfind', hrow⟩ | ⟨-, hcompleted, -⟩
    · have hjob' := ((t.jobs.find?_eq_some_iff ..).mp hfind').1
      have hhas' := hhas.of_same hrow.same
      cases hrow with
      | kept _ => exact .inl ⟨job, hjob', hhas, hjobActive⟩
      | claimed _ _ => exact .inl ⟨_, hjob', hhas', .inr rfl⟩
      | released _ _ => exact .inl ⟨_, hjob', hhas', .inl rfl⟩
      | @written i task set pc htask hid hdeciding _ _ =>
        have hmem := List.mem_of_getElem? htask
        have htaskHas := hhas.to_same (hinv.taskRows task hmem job hjob hid.symm)
        obtain ⟨task₀, set₀, pc₀, htask₀, hdeciding₀, htasks⟩ :=
          h.of_isDecision hdeciding.isDecision
        cases htask.symm.trans htask₀
        cases hdeciding with
        | completed hpc =>
          cases (show _ = true from ha)
          have hschedule := hcond task htask htaskHas hpc
          have hpc₀ : pc₀ = .reset := by
            cases hdeciding₀ with
            | completed _ => simp [JobRunner.afterMark, hschedule]
            | retried hpc' => cases hpc.symm.trans hpc'
            | deadLettered hpc' => cases hpc.symm.trans hpc'
          refine .inr ⟨{ task with pc := .reset }, ?_, htaskHas, rfl,
            job.write Job.markCompleted s.now, ?_, rfl⟩
          · rw [htasks, hpc₀]
            exact List.mem_set (List.getElem?_eq_some_iff.mp htask).1 _
          · rw [← hid] at hfind'
            exact hfind'
        | retried hpc => cases hinv.results task hmem htaskHas _ hpc
        | deadLettered hpc => cases hinv.results task hmem htaskHas _ hpc
        | reset _ _ => exact .inl ⟨_, hjob', hhas', .inl rfl⟩
    · rcases hjobActive with hpending | hrunning
      · cases hpending.symm.trans hcompleted
      · cases hrunning.symm.trans hcompleted
  · have hjobs := jobs_of_not_applied hstep (by simpa using ha)
    refine .inl ?_
    unfold State.Active
    rwa [hjobs]

/-- A reset that reaches the database and meets no other active row. -/
theorem active_of_reset {i computedAt : Nat} {task : Task} {job : Job}
    (hstep : step runners s (.reset i computedAt true) = some t) (htask : s.tasks[i]? = some task)
    (hfind : s.jobs.find? task.job.id = some job) (hhas : slot.Has job)
    (hcompleted : job.status = .completed) (hinactive : ¬ s.Active slot)
    (hone : ∀ job ∈ s.jobs.rows, job.schedule = none →
      job.dedupEntry ≠ some (slot.jobType, slot.dedupKey)) : t.Active slot := by
  simp only [step, htask] at hstep
  split at hstep
  · rename_i schedule _ _
    split at hstep
    · cases hstep
      let set := Job.resetRecurring (computeNextRunAt schedule computedAt)
      have hhas' : slot.Has (job.write set s.now) :=
        hhas.of_same ((unlocks_resetRecurring _).write s.now job)
      have hpending : (job.write set s.now).status = .pending := rfl
      have hunique : dedupConflict s.jobs (job.write set s.now) = false := by
        by_contra hconflict
        have hentry := hhas'.dedupEntry (.inl hpending)
        simp only [dedupConflict, hentry, Option.isSome_some, Bool.true_and, Bool.not_eq_false,
          List.any_eq_true, Bool.and_eq_true, decide_eq_true_eq] at hconflict
        obtain ⟨other, hother, -, hotherEntry⟩ := hconflict
        obtain ⟨hactive, htype, hkey⟩ := dedupEntry_eq_some hotherEntry
        -- what is in the way is another row of the slot, or a one-shot job
        cases hschedule : other.schedule with
        | none => exact hone other hother hschedule hotherEntry
        | some source => exact hinactive ⟨other, hother, ⟨by simp [hschedule], htype, hkey⟩, hactive⟩
      have hok : resetRecurring s.jobs s.now task.job.id (computeNextRunAt schedule computedAt) =
          .ok (s.jobs.set (job.write set s.now)) := by
        have haccepted : enforceJobStatusTransition job.status (job.write set s.now).status
            (job.write set s.now).schedule = .ok () := by
          rw [hcompleted, hpending]
          simp [enforceJobStatusTransition, hhas'.1]
        unfold resetRecurring updateJob
        simp only [hfind]
        change ((enforceJobStatusTransition job.status (job.write set s.now).status
          (job.write set s.now).schedule).mapError AppError.internalServerError >>= fun _ =>
            if dedupConflict s.jobs (job.write set s.now) then throw dedupViolation
            else pure (s.jobs.set (job.write set s.now))) = _
        rw [haccepted, hunique]
        rfl
      refine ⟨job.write set s.now, ?_, hhas', .inl hpending⟩
      simp only [if_true, State.exec, hok]
      exact (Table.mem_set ..).mpr (.inl rfl)
    · cases hstep
  · cases hstep

/-- The task that is to reset the row is still there, or it has done so. -/
theorem HealthInv.awaits_step (hinv : HealthInv slot s) (hcond : KeepsRescheduling runners slot s a)
    (hstep : step runners s a = some t) (hinactive : ¬ s.Active slot)
    (hawaits : ∃ task ∈ s.tasks, task.Awaits slot s) :
    t.Active slot ∨ ∃ task ∈ t.tasks, task.Awaits slot t := by
  have h := stepped_of_step hstep
  obtain ⟨task, hmem, hawaits⟩ := hawaits
  obtain ⟨htaskHas, hpc, job, hfind, hcompleted⟩ := id hawaits
  obtain ⟨hjob, hid⟩ := (s.jobs.find?_eq_some_iff ..).mp hfind
  have hhas := htaskHas.of_same (hinv.taskRows task hmem job hjob hid)
  obtain ⟨i, htask⟩ := List.getElem?_of_mem hmem
  by_cases hreset : ∃ computedAt applied, a = .reset i computedAt applied
  · obtain ⟨computedAt, applied, rfl⟩ := hreset
    obtain ⟨rfl, hone⟩ := hcond hinactive task htask hawaits
    exact .inl (active_of_reset hstep htask hfind hhas hcompleted hinactive hone)
  by_cases hcrash : a = .crash task.runner
  · subst hcrash
    exact absurd rfl (hcond hinactive task hmem hawaits)
  have hmem' := h.awaiting htask hpc (fun c applied ha => hreset ⟨c, applied, ha⟩) hcrash
  rcases h.row hjob with ⟨job', hfind', hrow⟩ | ⟨hnone, -, r, ids, rfl⟩
  · have hjob' := ((t.jobs.find?_eq_some_iff ..).mp hfind').1
    have hhas' := hhas.of_same hrow.same
    rw [hid] at hfind'
    cases hrow with
    | kept _ => exact .inr ⟨task, hmem', htaskHas, hpc, job, hfind', hcompleted⟩
    | claimed _ hclaimable => simp [Job.isClaimable, hcompleted] at hclaimable
    | released _ hstale => simp [Job.isStale, hcompleted] at hstale
    | @written k writer set pc hwriter hwriterId hdeciding _ _ =>
      have hwriterMem := List.mem_of_getElem? hwriter
      have hwriterHas := hhas.to_same (hinv.taskRows writer hwriterMem job hjob hwriterId.symm)
      cases hdeciding with
      | completed _ => exact .inr ⟨task, hmem', htaskHas, hpc, _, hfind', rfl⟩
      | retried hpc' => cases hinv.results writer hwriterMem hwriterHas _ hpc'
      | deadLettered hpc' => cases hinv.results writer hwriterMem hwriterHas _ hpc'
      | reset _ _ => exact .inl ⟨_, hjob', hhas', .inl rfl⟩
  · -- the cleanup leaves the row alone
    have hkept := hcond hinactive task hmem hawaits job hfind
    simp only [step] at hstep
    split at hstep
    · cases hstep
      simp only [cleanupCompleted, Table.find?_filter] at hnone
      rw [hid, hfind] at hnone
      exact absurd (by simpa using hnone) hkept
    · cases hstep

theorem healthInv_step (hinv : HealthInv slot s) (hsucceeds : Succeeds slot s a)
    (hcond : KeepsRescheduling runners slot s a) (hstep : step runners s a = some t) :
    HealthInv slot t where
  toIdInv := idInv_step hinv.toIdInv (stepped_of_step hstep)
  results task' htask' hhas result hmark := by
    rcases (stepped_of_step hstep).marking htask' hmark with hold | ⟨i, task, rfl, htask, heq⟩
    · exact hinv.results task' hold hhas result hmark
    · exact hsucceeds task htask (heq ▸ hhas)
  kept := by
    rintro ⟨job, hjob, hhas⟩
    rcases (stepped_of_step hstep).active_of_inserted hjob hhas with hold | hactive
    · by_cases hactive : s.Active slot
      · exact hinv.active_step hcond hstep hactive
      · rcases hinv.kept ⟨job, hold, hhas⟩ with hactive' | hawaits
        · exact absurd hactive' hactive
        · exact hinv.awaits_step hcond hstep hactive hawaits
    · exact .inl hactive

/-- A recurring slot, once it is there, never silently stops while its executions succeed: in any
    run in which what `KeepsRescheduling` excludes does not happen, the slot has a pending or
    running row whenever no live task is between finishing an execution and rescheduling it. -/
theorem healthy_slot_active (runners : Nat → JobRunner) (slot : Slot) (as : List Label) {s : State}
    (hrun : Run.run (step runners) {} as = some s)
    (hsucceeds : Run.Meets (step runners) (Succeeds slot) {} as)
    (hmeets : Run.Meets (step runners) (KeepsRescheduling runners slot) {} as)
    (hseeded : ∃ job ∈ s.inserted, slot.Has job)
    (hidle : ∀ task ∈ s.tasks, ¬ task.Reschedules slot) : s.Active slot := by
  have hinv : HealthInv slot s :=
    Run.run_invariant_of_meets
      (fun _ _ _ hinv hcond hstep => healthInv_step hinv hcond.1 hcond.2 hstep)
      (healthInv_init slot) (hsucceeds.and hmeets) hrun
  rcases hinv.kept hseeded with hactive | ⟨task, htask, hhas, hpc, -⟩
  · exact hactive
  · exact absurd ⟨hhas, .inr hpc⟩ (hidle task htask)

/-- The slot is executed by runner 0, which has marked the result; runner 1 has started too. -/
def executedOnce : List Label :=
  [.seed 0 0, .seed 1 0, .claim 0 [⟨0, 0⟩] true, .spawn 0, .returns 0 (.ok ()), .mark 0 true]

theorem healthy_slot_active_reconcile :
    ∃ s, Run.run (step reconcilers) {} (executedOnce ++ [.reset 0 0 true, .crash 0]) = some s ∧
      s.Active reconcileSlot := by
  have hrun : (Run.run (step reconcilers) {} (executedOnce ++ [.reset 0 0 true, .crash 0])).map
      (fun s => decide ((∃ job ∈ s.inserted, reconcileSlot.Has job) ∧
        ∀ task ∈ s.tasks, ¬ task.Reschedules reconcileSlot)) = some true := by
    decide +kernel
  obtain ⟨s, hs, hcheck⟩ := Option.map_eq_some_iff.mp hrun
  obtain ⟨hseeded, hidle⟩ := of_decide_eq_true hcheck
  exact ⟨s, hs, healthy_slot_active reconcilers reconcileSlot _ hs (by decide +kernel)
    (by decide +kernel) hseeded hidle⟩

/-- Runner 0 crashes before it has reset the slot: the row stays completed, for nobody else resets
    it, though its only execution has succeeded and runner 1 is alive. -/
theorem slot_stays_completed :
    ∃ s, Run.run (step reconcilers) {} (executedOnce ++ [.crash 0]) = some s ∧
      (∃ job ∈ s.inserted, reconcileSlot.Has job) ∧
      (∀ task ∈ s.tasks, ¬ task.Reschedules reconcileSlot) ∧ ¬ s.Active reconcileSlot := by
  have hrun : (Run.run (step reconcilers) {} (executedOnce ++ [.crash 0])).map (fun s =>
      decide ((∃ job ∈ s.inserted, reconcileSlot.Has job) ∧
        (∀ task ∈ s.tasks, ¬ task.Reschedules reconcileSlot) ∧ ¬ s.Active reconcileSlot)) =
      some true := by
    decide +kernel
  obtain ⟨s, hs, hcheck⟩ := Option.map_eq_some_iff.mp hrun
  exact ⟨s, hs, of_decide_eq_true hcheck⟩

end Koupang.Jobs
