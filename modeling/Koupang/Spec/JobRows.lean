import Koupang.Spec.JobRunner

/-!
# The rows of persistent jobs

None of the statements looks at the status or the lock of the row that it updates.
The trigger and the unique index do: whatever stale runners write, a row is locked
exactly while it is running, no two rows compete for one dedup key, and a row is
completed only by a handler that has returned `Ok`.

## Key results

- `job_row_invariant`: the invariant of the rows, in every run
-/

namespace Koupang.Jobs

/-- The pending and running rows with a given dedup key. -/
def State.active (s : State) (jobType dedupKey : String) : List Job :=
  s.jobs.rows.filter fun job => job.jobType = jobType && job.dedupKey = some dedupKey &&
    (job.status = .pending || job.status = .running)

structure RowInvariant (s : State) : Prop where
  locked : ∀ job ∈ s.jobs.rows, job.lockedBy.isSome ↔ job.status = .running
  deduped : ∀ jobType dedupKey, (s.active jobType dedupKey).length ≤ 1
  completed : ∀ job ∈ s.jobs.rows, job.status = .completed → .succeeded job.id ∈ s.trace

/-- The step `a` leaves completed one-shot jobs completed, or removes them as cleanup does. -/
def KeepsCompleted (s : State) (a : Label) (t : State) : Prop :=
  ∀ job ∈ s.jobs.rows, job.schedule = none → job.status = .completed →
    (∃ job', t.jobs.find? job.id = some job' ∧ job'.status = .completed) ∨
      t.jobs.find? job.id = none ∧ ∃ r ids, a = .cleanupCompleted r ids

/-! ## The invariant -/

variable {runners : Nat → JobRunner} {s t : State} {a : Label}

structure RowInv (s : State) : Prop where
  locked : ∀ job ∈ s.jobs.rows, job.lockedBy.isSome ↔ job.status = .running
  unique : ∀ job ∈ s.jobs.rows, ∀ job' ∈ s.jobs.rows,
    job.dedupEntry.isSome → job'.dedupEntry = job.dedupEntry → job'.id = job.id
  completed : ∀ job ∈ s.jobs.rows, job.status = .completed → .succeeded job.id ∈ s.trace
  marking : ∀ (i : Nat) (task : Task), s.tasks[i]? = some task → task.pc = .mark (.ok ()) →
      .succeeded task.job.id ∈ s.trace

theorem rowInv_init : RowInv {} where
  locked := by simp
  unique := by simp
  completed := by simp
  marking := by simp

theorem dedupConflict_eq_false {jobs : JobTable} {job : Job} (h : dedupConflict jobs job = false)
    {other : Job} (hother : other ∈ jobs.rows) (hid : other.id ≠ job.id)
    (hsome : job.dedupEntry.isSome) : other.dedupEntry ≠ job.dedupEntry := by
  intro heq
  simp only [dedupConflict, hsome, Bool.true_and, List.any_eq_false, Bool.and_eq_true,
    decide_eq_true_eq, not_and] at h
  exact h other hother hid heq

theorem Job.claim_dedupEntry {now : Nat} {job : Job} (h : job.isClaimable now)
    (instanceId : String) : (job.claim instanceId now).dedupEntry = job.dedupEntry := by
  simp only [Job.isClaimable, Bool.and_eq_true, decide_eq_true_eq] at h
  simp [Job.dedupEntry, Job.claim, h.1.1]

theorem Job.release_dedupEntry {now staleTimeout : Nat} {job : Job}
    (h : job.isStale now staleTimeout) : (job.release now).dedupEntry = job.dedupEntry := by
  simp only [Job.isStale, Bool.and_eq_true, decide_eq_true_eq] at h
  simp [Job.dedupEntry, Job.release, h.1]

/-- A row whose entry in the index is new was checked against all the others. -/
theorem Stepped.dedupEntry (h : Stepped runners s a t) {job' : Job} (hjob' : job' ∈ t.jobs.rows) :
    (∃ job ∈ s.jobs.rows, job.id = job'.id ∧ job'.dedupEntry = job.dedupEntry) ∨
      dedupConflict s.jobs job' = false ∧
        ∀ other ∈ t.jobs.rows, other.id ≠ job'.id → other ∈ s.jobs.rows := by
  cases h with
  | @inserted a new jobs _ hnew ok =>
    obtain ⟨-, hrows⟩ := (Table.insert_eq_some ..).mp ok
    simp only [hrows, List.mem_append, List.mem_singleton] at hjob' ⊢
    rcases hjob' with hjob | rfl
    · exact .inl ⟨job', hjob, rfl, rfl⟩
    · refine .inr ⟨hnew.unique, ?_⟩
      rintro other (hother | rfl) hne
      · exact hother
      · exact absurd rfl hne
  | claimed claimable _ ht =>
    subst ht
    obtain ⟨job, hjob, rfl⟩ := List.mem_map.mp hjob'
    split
    · rename_i hmem
      obtain ⟨job₀, hfind, hclaimable⟩ := claimable job.id hmem
      obtain ⟨hjob₀, hid⟩ := (s.jobs.find?_eq_some_iff ..).mp hfind
      cases s.jobs.eq_of_key_eq hjob₀ hjob hid
      exact .inl ⟨job, hjob, rfl, Job.claim_dedupEntry hclaimable _⟩
    · exact .inl ⟨job, hjob, rfl, rfl⟩
  | @written a i task set pc jobs htask deciding ok =>
    simp only [State.proceed_jobs] at hjob' ⊢
    rcases mem_updateJob ok hjob' with ⟨hjob, -⟩ | ⟨job, hfind, -, hunique, rfl⟩
    · exact .inl ⟨job', hjob, rfl, rfl⟩
    · refine .inr ⟨hunique, fun other hother hne => ?_⟩
      rcases mem_updateJob ok hother with ⟨hother, -⟩ | ⟨job₀, hfind₀, -, -, rfl⟩
      · exact hother
      · cases hfind.symm.trans hfind₀
        exact absurd rfl hne
  | skipped => exact .inl ⟨job', by rwa [State.proceed_jobs] at hjob', rfl, rfl⟩
  | released =>
    obtain ⟨job, hjob, rfl⟩ := List.mem_map.mp hjob'
    split
    · rename_i hstale
      exact .inl ⟨job, hjob, rfl, Job.release_dedupEntry hstale⟩
    · exact .inl ⟨job, hjob, rfl, rfl⟩
  | cleaned => exact .inl ⟨job', ((Table.mem_filter ..).mp hjob').1, rfl, rfl⟩
  | _ => exact .inl ⟨job', hjob', rfl, rfl⟩

/-- Only a result `Ok` is marked as completed. -/
theorem Deciding.mark_ok {i : Nat} {task : Task} {set : Job → Job} {pc : Pc}
    (h : Deciding runners s i task a set pc) {job : Job}
    (hcompleted : (set job).status = .completed) : task.pc = .mark (.ok ()) := by
  cases h with
  | completed hpc => exact hpc
  | retried hpc =>
    simp only [Job.markRetryOrFailed] at hcompleted
    split at hcompleted <;> cases hcompleted
  | deadLettered hpc => cases hcompleted
  | reset hpc hschedule => cases hcompleted

theorem rowInv_step (hinv : RowInv s) (h : Stepped runners s a t) : RowInv t where
  locked job' hjob' := by
    rcases h.rows hjob' with ⟨job, hjob, hrow⟩ | ⟨hnew, -⟩
    · cases hrow with
      | kept => exact hinv.locked job' hjob
      | claimed _ _ => simp [Job.claim]
      | released _ _ => simp [Job.release]
      | @written i task set pc _ _ deciding _ _ =>
        -- every write clears the lock, and none of them makes the row running
        have hlocked : (job.write set s.now).lockedBy = none := deciding.unlocks.lockedBy job
        have hstatus := deciding.unlocks.status job
        simp [hlocked, hstatus]
    · simp [hnew.lockedBy, hnew.status]
  unique job₁ hjob₁ job₂ hjob₂ hsome heq := by
    by_contra hne
    rcases h.dedupEntry hjob₁ with ⟨old₁, hold₁, hid₁, hentry₁⟩ | ⟨hconflict, hothers⟩
    · rcases h.dedupEntry hjob₂ with ⟨old₂, hold₂, hid₂, hentry₂⟩ | ⟨hconflict, hothers⟩
      · -- both entries were there before
        rw [hentry₁] at hsome
        have hid := hinv.unique old₁ hold₁ old₂ hold₂ hsome (by rw [← hentry₂, heq, hentry₁])
        exact hne (by rw [← hid₂, hid, hid₁])
      · -- the second row was checked against the first one
        have hmem := hothers job₁ hjob₁ (Ne.symm hne)
        exact dedupConflict_eq_false hconflict hmem (Ne.symm hne) (heq ▸ hsome) heq.symm
    · exact dedupConflict_eq_false hconflict (hothers job₂ hjob₂ hne) hne hsome heq
  completed job' hjob' hcompleted := by
    rcases h.rows hjob' with ⟨job, hjob, hrow⟩ | ⟨hnew, -⟩
    · cases hrow with
      | kept => exact h.trace_subset (hinv.completed job' hjob hcompleted)
      | claimed _ _ => cases hcompleted
      | released _ _ => cases hcompleted
      | @written i task set pc htask hid deciding _ _ =>
        -- the result that is marked was returned by a handler of this job
        have hmark := hinv.marking i task htask (deciding.mark_ok hcompleted)
        rw [Job.write_id, ← hid]
        exact h.trace_subset hmark
    · rw [hnew.status] at hcompleted
      cases hcompleted
  marking i task' htask' hmark := by
    rcases h.tasks htask' with ⟨task, htask, heq, hstep⟩ | ⟨-, hnew⟩
    · rw [heq]
      generalize task'.pc = pc at hmark hstep
      cases hstep with
      | kept => exact h.trace_subset (hinv.marking i task htask hmark)
      | executing _ => cases hmark
      | mark _ hsucceeded => exact hsucceeded (Pc.mark.inj hmark)
      | reset _ => cases hmark
      | ended => cases hmark
    · rw [hnew.pc] at hmark
      cases hmark

/-! ## Runs -/

/-- Without a schedule, a completed job stays completed. -/
theorem enforce_completed {new : JobStatus}
    (h : enforceJobStatusTransition .completed new none = .ok ()) : new = .completed := by
  cases new with
  | completed => rfl
  | _ => cases h

theorem keepsCompleted_of_stepped (h : Stepped runners s a t) : KeepsCompleted s a t := by
  intro job hjob hschedule hcompleted
  rcases h.row hjob with ⟨job', hfind, hrow⟩ | ⟨hnone, -, hcleanup⟩
  · refine .inl ⟨job', hfind, ?_⟩
    cases hrow with
    | kept => exact hcompleted
    | claimed _ claimable => simp [Job.isClaimable, hcompleted] at claimable
    | released _ stale => simp [Job.isStale, hcompleted] at stale
    | written _ _ deciding accepted _ =>
      -- the trigger lets a completed row go on only if it has a schedule
      rw [(deciding.unlocks.same job).schedule, hschedule, hcompleted] at accepted
      exact enforce_completed accepted
  · exact .inr ⟨hnone, hcleanup⟩

theorem rowInvariant_of_rowInv (hinv : RowInv s) : RowInvariant s where
  locked := hinv.locked
  completed := hinv.completed
  deduped jobType dedupKey := by
    have hentry : ∀ job ∈ s.active jobType dedupKey,
        job ∈ s.jobs.rows ∧ job.dedupEntry = some (jobType, dedupKey) := by
      intro job hjob
      simp only [State.active, List.mem_filter, Bool.and_eq_true, Bool.or_eq_true,
        decide_eq_true_eq] at hjob
      obtain ⟨hmem, ⟨htype, hkey⟩, hactive⟩ := hjob
      exact ⟨hmem, by simp [Job.dedupEntry, hactive, htype, hkey]⟩
    have hnodup : ((s.active jobType dedupKey).map (·.id)).Nodup :=
      s.jobs.nodup.sublist (List.filter_sublist.map _)
    -- two rows of the list have the same entry, hence the same id
    match hactive : s.active jobType dedupKey with
    | [] => exact Nat.zero_le _
    | [_] => exact Nat.le_refl _
    | job :: job' :: rest =>
      obtain ⟨hjob, hkey⟩ := hentry job (by simp [hactive])
      obtain ⟨hjob', hkey'⟩ := hentry job' (by simp [hactive])
      have hid := hinv.unique job hjob job' hjob' (by simp [hkey]) (hkey'.trans hkey.symm)
      simp [hactive, hid] at hnodup

/-- In every run of any number of runners, whatever crashes, fails and comes late: a row is
    locked exactly while it is running; for each job type and dedup key at most one row is
    pending or running; a row is completed only if a handler has returned `Ok` for the job; and
    a completed one-shot job stays so, until it is cleaned up. -/
theorem job_row_invariant (runners : Nat → JobRunner) (as : List Label) {s : State}
    (hrun : Run.run (step runners) {} as = some s) :
    RowInvariant s ∧ ∀ a t, step runners s a = some t → KeepsCompleted s a t := by
  have hinv : RowInv s :=
    Run.run_invariant (fun _ _ _ hinv hstep => rowInv_step hinv (stepped_of_step hstep))
      rowInv_init hrun
  exact ⟨rowInvariant_of_rowInv hinv,
    fun _ _ hstep => keepsCompleted_of_stepped (stepped_of_step hstep)⟩

/-- A job that was recovered is completed by its second execution. -/
theorem job_row_invariant_recovered :
    ∃ s, Run.run (step disbursers) {} (recovered none ++ [.returns 1 (.ok ()), .mark 1 true]) =
        some s ∧
      s.jobs.rows.map (·.status) = [.completed] ∧ RowInvariant s := by
  have hrun : (Run.run (step disbursers) {}
      (recovered none ++ [.returns 1 (.ok ()), .mark 1 true])).map
        (·.jobs.rows.map (·.status)) = some [.completed] := by
    decide +kernel
  obtain ⟨s, hs, hstatus⟩ := Option.map_eq_some_iff.mp hrun
  exact ⟨s, hs, hstatus, (job_row_invariant disbursers _ hs).1⟩

end Koupang.Jobs
