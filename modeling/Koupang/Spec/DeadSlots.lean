import Koupang.Spec.JobOwnership
import Koupang.Spec.JobRows
import Koupang.Spec.RecurringSlots

/-!
# Dead slots

A slot that has failed for good under the policy `Die` is dead because nobody resets
its row. But the index knows pending and running rows only, so the next startup seeds
the slot again; and a task that has lost its row to the recovery can still make the
dead row pending. Without these two the slot stays dead.

## Key results

- `slotInv_step`: the slot keeps to one row
- `dead_slot_stays_dead`: nothing of a dead slot is executed
- `dead_slot_revives`: a startup brings it back
-/

namespace Koupang.Jobs

/-- Nobody has claimed or recovered the row since the task's claim. -/
def Task.IsCurrent (task : Task) (s : State) : Prop := task.epoch = s.epoch task.job.id

instance (task : Task) (s : State) : Decidable (task.IsCurrent s) :=
  inferInstanceAs (Decidable (_ = _))

/-- A handler is called for a task of the slot. -/
def Starts (runners : Nat → JobRunner) (slot : Slot) (s : State) : Label → Prop
  | .spawn i => ∃ task ∈ s.tasks[i]?, slot.Has task.job ∧ task.pc = .claimed ∧
    task.job.jobType ∈ (runners task.runner).registry.handlers
  | _ => False

instance (runners : Nat → JobRunner) (slot : Slot) (s : State) :
    ∀ a, Decidable (Starts runners slot s a)
  | .spawn _ => inferInstanceAs (Decidable (∃ task ∈ _, _ ∧ _ ∧ _))
  | .tick _ | .enqueue .. | .seed .. | .claim .. | .returns .. | .timeOut _ | .panic _ | .mark ..
  | .reset .. | .crash _ | .releaseStaleLocks _ | .cleanupCompleted .. => .isFalse id

def Job.IsDead (job : Job) : Prop := job.status = .failed ∨ job.status = .deadLettered

instance (job : Job) : Decidable job.IsDead := inferInstanceAs (Decidable (_ ∨ _))

/-- A task marks its result under the policy `Die`, and the row of the slot is dead. -/
def Dies (runners : Nat → JobRunner) (slot : Slot) (s : State) (t : State) : Label → Prop
  | .mark i true => ∃ task ∈ s.tasks[i]?, slot.Has task.job ∧
    (runners task.runner).failurePolicy task.job = .die ∧
    ∃ job ∈ t.jobs.find? task.job.id, job.IsDead
  | _ => False

/-- The slot is seeded only if it has no row, or one that is pending or running, and a task of
    the slot goes to its handler or to the row only as long as its claim is the last one. -/
def KeepsSlot (runners : Nat → JobRunner) (slot : Slot) (s : State) : Label → Prop
  | .seed r k => ∀ d ∈ (runners r).registry.recurring[k]?, slot.Defines d →
    (∃ job ∈ s.jobs.rows, slot.Has job) → s.Active slot
  | .spawn i | .mark i true | .reset i _ true =>
    ∀ task ∈ s.tasks[i]?, slot.Has task.job → task.IsCurrent s
  | _ => True

instance (runners : Nat → JobRunner) (slot : Slot) (s t : State) :
    ∀ a, Decidable (Dies runners slot s t a)
  | .mark _ true => inferInstanceAs (Decidable (∃ task ∈ _, _ ∧ _ ∧ ∃ job ∈ _, Job.IsDead job))
  | .mark _ false | .tick _ | .enqueue .. | .seed .. | .claim .. | .spawn _ | .returns ..
  | .timeOut _ | .panic _ | .reset .. | .crash _ | .releaseStaleLocks _ | .cleanupCompleted .. =>
    .isFalse id

instance (runners : Nat → JobRunner) (slot : Slot) (s : State) :
    ∀ a, Decidable (KeepsSlot runners slot s a)
  | .seed .. => inferInstanceAs (Decidable (∀ d ∈ _, slot.Defines d → _ → _))
  | .spawn _ | .mark _ true | .reset _ _ true =>
    inferInstanceAs (Decidable (∀ task ∈ (_ : Option Task), slot.Has task.job → _))
  | .mark _ false | .reset _ _ false | .tick _ | .enqueue .. | .claim .. | .returns ..
  | .timeOut _ | .panic _ | .crash _ | .releaseStaleLocks _ | .cleanupCompleted .. => .isTrue trivial

/-! ## Steps -/

variable {runners : Nat → JobRunner} {slot : Slot} {s t : State} {a : Label}

theorem Stepped.isInsert (h : Stepped runners s a t) (hne : t.inserted ≠ s.inserted) :
    a.IsInsert := by
  cases h with
  | inserted label => exact label
  | claimed _ _ ht => exact absurd (by rw [ht]) hne
  | written => exact absurd (State.proceed_inserted ..) hne
  | skipped => exact absurd (State.proceed_inserted ..) hne
  | _ => exact absurd rfl hne

theorem enqueueJob_schedule {jobs jobs' : JobTable} {now : Nat} {id id' : Uuid}
    {jobName : JobName} {config : Option JobConfig} {job : Job}
    (h : enqueueJob jobs now id jobName config = .ok (id', jobs'))
    (hjob : jobs'.find? id' = some job) : job.schedule = none := by
  obtain ⟨dedupKey, -, h⟩ := Except.bind_eq_ok.mp h
  dsimp only at h
  split at h
  · cases h
  · split at h
    · rename_i jobs'' hinsert
      cases h
      rw [Table.find?_of_insert hinsert, if_pos rfl] at hjob
      cases hjob
      rfl
    · cases h

theorem seedRecurringJob_has {jobs jobs' : JobTable} {now : Nat} {id id' : Uuid}
    {definition : RecurringJobDefinition} {job : Job}
    (h : seedRecurringJob jobs now id definition = .ok (some id', jobs'))
    (hjob : jobs'.find? id' = some job) :
    job.jobType = definition.jobName.value ∧
      ∃ dedupKey, varchar 255 definition.dedupKey = .ok dedupKey ∧ job.dedupKey = some dedupKey := by
  obtain ⟨schedule, -, h⟩ := Except.bind_eq_ok.mp h
  obtain ⟨dedupKey, hkey, h⟩ := Except.bind_eq_ok.mp h
  dsimp only at h
  split at h
  · cases h
  · split at h
    · rename_i jobs'' hinsert
      cases h
      rw [Table.find?_of_insert hinsert, if_pos rfl] at hjob
      cases hjob
      exact ⟨rfl, dedupKey, Except.mapError_eq_ok.mp hkey, rfl⟩
    · cases h

/-- A row of the slot is inserted by a startup with its definition. -/
theorem seed_of_inserted (h : step runners s a = some t) {job : Job}
    (hinserted : t.inserted = job :: s.inserted) (hhas : slot.Has job) :
    ∃ r k d, a = .seed r k ∧ (runners r).registry.recurring[k]? = some d ∧ slot.Defines d := by
  have hfind : ∀ {found : Option Job}, found.toList ++ s.inserted = job :: s.inserted →
      found = some job := by
    intro found heq
    cases found with
    | none => exact absurd heq List.ne_cons_self
    | some job' =>
      cases heq
      rfl
  cases a with
  | enqueue jobName config createdAt =>
    simp only [step] at h
    split at h
    · split at h
      · rename_i id jobs hok
        cases h
        have hnone := enqueueJob_schedule hok (hfind hinserted)
        exact absurd hhas.1 (by simp [hnone])
      · cases h
        exact absurd hinserted List.ne_cons_self
    · cases h
  | seed r k =>
    obtain ⟨d, hd, h⟩ := Option.bind_eq_some_iff.mp h
    split at h
    · rename_i id jobs hok
      cases h
      obtain ⟨htype, key, hkey, hjob⟩ := seedRecurringJob_has hok (hfind hinserted)
      cases hjob.symm.trans hhas.2.2
      exact ⟨r, k, d, rfl, hd, htype ▸ hhas.2.1, hkey⟩
    · cases h
      exact absurd hinserted List.ne_cons_self
  | _ =>
    have hne : t.inserted ≠ s.inserted := by simp [hinserted]
    exact ((stepped_of_step h).isInsert hne).elim

theorem Stepped.trace_suffix (h : Stepped runners s a t) : s.trace <:+ t.trace := by
  cases h with
  | claimed _ _ ht =>
    subst ht
    exact List.suffix_append ..
  | spawned => exact List.suffix_cons ..
  | returned _ _ htrace =>
    rcases htrace with ⟨htrace, -⟩ | ⟨htrace, -⟩
    · exact htrace ▸ List.suffix_refl _
    · exact htrace ▸ List.suffix_cons ..
  | written => rw [State.proceed_trace]
  | skipped => rw [State.proceed_trace]
  | released => exact List.suffix_append ..
  | _ => exact List.suffix_refl _

theorem Stepped.epoch_le (h : Stepped runners s a t) (id : Uuid) : s.epoch id ≤ t.epoch id :=
  Nat.add_le_add (h.trace_suffix.sublist.count_le _) (h.trace_suffix.sublist.count_le _)

/-- A claim counts. -/
theorem Stepped.epoch_lt_of_claims (h : Stepped runners s a t) {id : Uuid}
    (hid : a.claims.count id = 1) : s.epoch id < t.epoch id := by
  have hclaimed := h.count_claimed id
  have hrecovered := h.trace_suffix.sublist.count_le (.recovered id)
  unfold State.epoch
  omega

/-- A recovery counts. -/
theorem Stepped.epoch_lt_of_stale (h : Stepped runners s a t) {r : Nat}
    (ha : a = .releaseStaleLocks r) {job : Job} (hjob : job ∈ s.jobs.rows)
    (hstale : job.isStale s.now (runners r).config.staleLockTimeout) :
    s.epoch job.id < t.epoch job.id := by
  subst ha
  have hclaimed := h.trace_suffix.sublist.count_le (.claimed job.id)
  cases h with
  | inserted label => exact label.elim
  | refused label => exact label.elim
  | stopped label => exact label.elim
  | written _ deciding => simpa [Label.IsDecision] using deciding.isDecision
  | skipped _ deciding => simpa [Label.IsDecision] using deciding.isDecision
  | released htimeout =>
    subst htimeout
    have hrecovered : .recovered job.id ∈ (s.jobs.rows.filter
        (·.isStale s.now (runners r).config.staleLockTimeout)).map fun job =>
          Entry.recovered job.id :=
      List.mem_map.mpr ⟨job, List.mem_filter.mpr ⟨hjob, hstale⟩, rfl⟩
    have hpos := List.count_pos_iff.mpr hrecovered
    simp only [State.epoch, List.count_append] at hclaimed ⊢
    omega

/-! ## One row for a slot -/

/-- A task whose claim is the last one of its row, and that has not marked a result, still finds
    the row as it was claimed; and the slot has at most one row. -/
structure SlotInv (slot : Slot) (s : State) : Prop extends IdInv s where
  unique : ∀ job ∈ s.jobs.rows, ∀ job' ∈ s.jobs.rows, slot.Has job → slot.Has job' →
    job'.id = job.id
  running : ∀ task ∈ s.tasks, task.job.status = .running
  epoch_le : ∀ task ∈ s.tasks, task.epoch ≤ s.epoch task.job.id
  distinct : ∀ (i k : Nat) (task task' : Task), s.tasks[i]? = some task →
    s.tasks[k]? = some task' → i ≠ k → task.job.id = task'.job.id → task.epoch ≠ task'.epoch
  row : ∀ task ∈ s.tasks, slot.Has task.job → task.IsCurrent s → task.pc ≠ .reset →
    task.pc ≠ .ended → s.jobs.find? task.job.id = some task.job

theorem slotInv_init (slot : Slot) : SlotInv slot {} where
  toIdInv := idInv_init
  unique := by simp
  running := by simp
  epoch_le := by simp
  distinct := by simp
  row := by simp

/-- A claimed row has got a new epoch. -/
theorem NewTask.epoch_lt {task : Task} (h : Stepped runners s a t)
    (hnew : NewTask runners s t task) : s.epoch task.job.id < t.epoch task.job.id := by
  obtain ⟨r, job, hjob, hclaimable, heq⟩ := hnew.job
  have hid : task.job.id = job.id := by rw [heq]; rfl
  have hrunning : task.job.status = .running := by rw [heq]; rfl
  simp only [Job.isClaimable, Bool.and_eq_true, decide_eq_true_eq] at hclaimable
  have hpending : job.status = .pending := hclaimable.1.1
  have hfind := hnew.row
  rw [hid] at hfind ⊢
  rcases h.row hjob with ⟨job', hfind', hrow⟩ | ⟨hnone, -⟩
  · cases hfind.symm.trans hfind'
    generalize task.job = job' at hrow hrunning
    cases hrow with
    | kept _ => simp [hpending] at hrunning
    | claimed hclaimed _ => exact h.epoch_lt_of_claims hclaimed
    | released _ hstale => simp [Job.isStale, hpending] at hstale
    | written _ _ deciding _ _ => exact absurd hrunning (deciding.unlocks.status job)
  · rw [hfind] at hnone
    cases hnone

/-- The task that writes a row of the slot has not lost it. -/
theorem isCurrent_of_written (hcond : KeepsSlot runners slot s a) (ha : a.applied = true)
    {i : Nat} {task : Task} {set : Job → Job} {pc : Pc} (htask : s.tasks[i]? = some task)
    (hdeciding : Deciding runners s i task a set pc) (hhas : slot.Has task.job) :
    task.IsCurrent s := by
  rcases hdeciding.isDecision with ⟨applied, rfl⟩ | ⟨computedAt, applied, rfl⟩
  · cases (show applied = true from ha)
    exact hcond task htask hhas
  · cases (show applied = true from ha)
    exact hcond task htask hhas

/-- What a step makes of a row of the slot: only a task that has not lost it writes it. -/
inductive SlotRowStep (runners : Nat → JobRunner) (s : State) (a : Label) (t : State) (job : Job) :
    Option Job → Prop where
  | kept : SlotRowStep runners s a t job (some job)
  | moved {job'} (moves : s.epoch job.id < t.epoch job.id)
      (before : job.status = .pending ∨ job.status = .running) :
      SlotRowStep runners s a t job (some job')
  | written {i task set pc} (htask : s.tasks[i]? = some task) (id : task.job.id = job.id)
      (deciding : Deciding runners s i task a set pc) (current : task.IsCurrent s) :
      SlotRowStep runners s a t job (some (job.write set s.now))
  | removed (completed : job.status = .completed) : SlotRowStep runners s a t job none

theorem SlotInv.slotRow (hinv : SlotInv slot s) (hcond : KeepsSlot runners slot s a)
    (hstep : step runners s a = some t) {job : Job} (hjob : job ∈ s.jobs.rows)
    (hhas : slot.Has job) : SlotRowStep runners s a t job (t.jobs.find? job.id) := by
  have h := stepped_of_step hstep
  by_cases ha : a.applied = true
  · rcases h.row hjob with ⟨job', hfind, hrow⟩ | ⟨hnone, hcompleted, -⟩
    · rw [hfind]
      cases hrow with
      | kept _ => exact .kept
      | claimed hclaimed hclaimable =>
        simp only [Job.isClaimable, Bool.and_eq_true, decide_eq_true_eq] at hclaimable
        exact .moved (h.epoch_lt_of_claims hclaimed) (.inl hclaimable.1.1)
      | released ha hstale =>
        have hmoves := h.epoch_lt_of_stale ha hjob hstale
        simp only [Job.isStale, Bool.and_eq_true, decide_eq_true_eq] at hstale
        exact .moved hmoves (.inr hstale.1)
      | written htask hid hdeciding _ _ =>
        have hsame := hinv.taskRows _ (List.mem_of_getElem? htask) job hjob hid.symm
        exact .written htask hid hdeciding
          (isCurrent_of_written hcond ha htask hdeciding (hhas.to_same hsame))
    · rw [hnone]
      exact .removed hcompleted
  · rw [jobs_of_not_applied hstep (by simpa using ha), (s.jobs.find?_eq_some_iff ..).mpr ⟨hjob, rfl⟩]
    exact .kept

/-- A task without a marked result had none before. -/
theorem PcStep.unmarked {i : Nat} {task : Task} {pc : Pc} (h : PcStep runners s a t i task pc)
    (hreset : pc ≠ .reset) (hlive : pc ≠ .ended) : task.pc ≠ .reset ∧ task.pc ≠ .ended := by
  refine ⟨?_, h.live hlive⟩
  cases h with
  | kept => exact hreset
  | executing hpc => simp [hpc]
  | mark hpc _ => simp [hpc]
  | reset _ => exact absurd rfl hreset
  | ended => exact absurd rfl hlive

theorem SlotInv.isCurrent (hinv : SlotInv slot s) (h : Stepped runners s a t) {task : Task}
    (htask : task ∈ s.tasks) (hcurrent : task.IsCurrent t) :
    task.IsCurrent s ∧ s.epoch task.job.id = t.epoch task.job.id := by
  have hle := hinv.epoch_le task htask
  have hmono := h.epoch_le task.job.id
  unfold Task.IsCurrent at hcurrent ⊢
  omega

/-- There is one row for the slot, before and after a step. -/
theorem SlotInv.unique_step (hinv : SlotInv slot s) (hcond : KeepsSlot runners slot s a)
    (hstep : step runners s a = some t) {job job' : Job} (hjob : job ∈ t.jobs.rows)
    (hjob' : job' ∈ t.jobs.rows) (hhas : slot.Has job) (hhas' : slot.Has job') :
    job'.id = job.id := by
  have h := stepped_of_step hstep
  -- a startup that inserts a row has found the slot empty
  have hempty : ∀ new ∈ t.jobs.rows, slot.Has new → NewRow s new →
      t.inserted = new :: s.inserted → ∀ old ∈ s.jobs.rows, ¬ slot.Has old := by
    intro new hnew hnewHas hrow hinserted old hold holdHas
    obtain ⟨r, k, d, rfl, hd, hdefines⟩ := seed_of_inserted hstep hinserted hnewHas
    obtain ⟨other, hother, hotherHas, hactive⟩ := hcond d hd hdefines ⟨old, hold, holdHas⟩
    have hnewEntry := hnewHas.dedupEntry (.inl hrow.status)
    have hne : other.id ≠ new.id := fun hid =>
      hrow.not_drawn (hid ▸ hinv.rows other hother)
    exact dedupConflict_eq_false hrow.unique hother hne (by simp [hnewEntry])
      ((hotherHas.dedupEntry hactive).trans hnewEntry.symm)
  rcases h.rows hjob with ⟨old, hold, hrow⟩ | ⟨hrow, -, hinserted⟩
  · rcases h.rows hjob' with ⟨old', hold', hrow'⟩ | ⟨hrow', -, hinserted'⟩
    · rw [hrow.same.id, hrow'.same.id]
      exact hinv.unique old hold old' hold' (hhas.to_same hrow.same) (hhas'.to_same hrow'.same)
    · exact absurd (hhas.to_same hrow.same) (hempty job' hjob' hhas' hrow' hinserted' old hold)
  · rcases h.rows hjob' with ⟨old', hold', hrow'⟩ | ⟨-, -, hinserted'⟩
    · exact absurd (hhas'.to_same hrow'.same) (hempty job hjob hhas hrow hinserted old' hold')
    · rw [(List.cons.inj (hinserted.symm.trans hinserted')).1]

/-- A task that does not decide in a step, and has not lost its row, keeps it. -/
theorem SlotInv.row_step (hinv : SlotInv slot s) (hcond : KeepsSlot runners slot s a)
    (hstep : step runners s a = some t) {task' : Task} (htask' : task' ∈ t.tasks)
    (hhas : slot.Has task'.job) (hcurrent : task'.IsCurrent t) (hreset : task'.pc ≠ .reset)
    (hlive : task'.pc ≠ .ended) : t.jobs.find? task'.job.id = some task'.job := by
  have h := stepped_of_step hstep
  obtain ⟨i, hi⟩ := List.getElem?_of_mem htask'
  rcases h.tasks hi with ⟨task, htask, heq, hpc⟩ | ⟨-, hnew⟩
  · have hmem := List.mem_of_getElem? htask
    obtain ⟨hreset₀, hlive₀⟩ := hpc.unmarked hreset hlive
    have hjobEq : task'.job = task.job := by rw [heq]
    have hepochEq : task'.epoch = task.epoch := by rw [heq]
    unfold Task.IsCurrent at hcurrent
    rw [hjobEq] at hhas hcurrent ⊢
    rw [hepochEq] at hcurrent
    obtain ⟨hcurrent₀, hsame⟩ := hinv.isCurrent h hmem hcurrent
    have hfind := hinv.row task hmem hhas hcurrent₀ hreset₀ hlive₀
    have hrow := hinv.slotRow hcond hstep ((s.jobs.find?_eq_some_iff ..).mp hfind).1 hhas
    generalize hfound : t.jobs.find? task.job.id = found at hrow
    cases hrow with
    | kept => rfl
    | moved hmoves => omega
    | @written k writer set pc hwriter hid hdeciding hwriterCurrent =>
      by_cases hik : i = k
      · -- the task's own write ends in a reset, or ends it
        subst hik
        obtain ⟨task₀, set₀, pc₀, htask₀, hdeciding₀, htasks⟩ :=
          h.of_isDecision hdeciding.isDecision
        cases htask.symm.trans htask₀
        rw [htasks, List.getElem?_set_self (List.getElem?_eq_some_iff.mp htask).1] at hi
        cases hi
        rcases hdeciding₀.pc_eq with rfl | rfl
        · exact absurd rfl hreset
        · exact absurd rfl hlive
      · refine absurd ?_ (hinv.distinct i k task writer htask hwriter hik hid.symm)
        unfold Task.IsCurrent at hcurrent₀ hwriterCurrent
        rw [hcurrent₀, hwriterCurrent, hid]
    | removed hcompleted =>
      rw [hinv.running task hmem] at hcompleted
      cases hcompleted
  · exact hnew.row

theorem slotInv_step (hinv : SlotInv slot s) (hcond : KeepsSlot runners slot s a)
    (hstep : step runners s a = some t) : SlotInv slot t where
  toIdInv := idInv_step hinv.toIdInv (stepped_of_step hstep)
  unique job hjob job' hjob' hhas hhas' := hinv.unique_step hcond hstep hjob hjob' hhas hhas'
  row task' htask' hhas hcurrent hreset hlive :=
    hinv.row_step hcond hstep htask' hhas hcurrent hreset hlive
  running task' htask' := by
    obtain ⟨i, hi⟩ := List.getElem?_of_mem htask'
    rcases (stepped_of_step hstep).tasks hi with ⟨task, htask, heq, -⟩ | ⟨-, hnew⟩
    · rw [heq]
      exact hinv.running task (List.mem_of_getElem? htask)
    · obtain ⟨r, job, -, -, heq⟩ := hnew.job
      rw [heq]
      rfl
  epoch_le task' htask' := by
    have h := stepped_of_step hstep
    obtain ⟨i, hi⟩ := List.getElem?_of_mem htask'
    rcases h.tasks hi with ⟨task, htask, heq, -⟩ | ⟨-, hnew⟩
    · rw [heq]
      exact Nat.le_trans (hinv.epoch_le task (List.mem_of_getElem? htask)) (h.epoch_le _)
    · exact Nat.le_of_eq hnew.epoch
  distinct i k task₁ task₂ htask₁ htask₂ hne hid := by
    have h := stepped_of_step hstep
    -- a claim gives its task a newer epoch than those of all the earlier ones
    have hnewer : ∀ (old new : Task), old ∈ s.tasks → NewTask runners s t new →
        old.job.id = new.job.id → old.epoch ≠ new.epoch := by
      intro old new hold hnew hid
      have hle := hinv.epoch_le old hold
      have hlt := hnew.epoch_lt h
      have hepoch := hnew.epoch
      rw [hid] at hle
      omega
    rcases h.tasks htask₁ with ⟨old₁, hold₁, heq₁, -⟩ | ⟨hi, hnew₁⟩
    · rcases h.tasks htask₂ with ⟨old₂, hold₂, heq₂, -⟩ | ⟨-, hnew₂⟩
      · rw [heq₁, heq₂] at hid ⊢
        exact hinv.distinct i k old₁ old₂ hold₁ hold₂ hne hid
      · rw [heq₁] at hid ⊢
        exact hnewer old₁ task₂ (List.mem_of_getElem? hold₁) hnew₂ hid
    · rcases h.tasks htask₂ with ⟨old₂, hold₂, heq₂, -⟩ | ⟨hk, -⟩
      · rw [heq₂] at hid ⊢
        exact (hnewer old₂ task₁ (List.mem_of_getElem? hold₂) hnew₁ hid.symm).symm
      · exact absurd hid (h.distinct htask₁ htask₂ hi hk hne)

/-! ## Dead slots -/

/-- The row of the slot is dead, and every task that has not lost it has ended. -/
structure DeadSlot (slot : Slot) (s : State) : Prop extends SlotInv slot s where
  dead : ∃ job ∈ s.jobs.rows, slot.Has job ∧ job.IsDead ∧
    ∀ task ∈ s.tasks, task.job.id = job.id → task.IsCurrent s → task.pc = .ended

theorem IsDead.not_active {job : Job} (h : job.IsDead) : ¬ job.IsActive := by
  rintro (hpending | hrunning)
  · rcases h with h | h <;> simp [h] at hpending
  · rcases h with h | h <;> simp [h] at hrunning

/-- Under the policy `Die` a task that leaves its row dead ends. -/
theorem Deciding.ended_of_isDead {i : Nat} {task : Task} {set : Job → Job} {pc : Pc}
    (h : Deciding runners s i task a set pc)
    (hpolicy : (runners task.runner).failurePolicy task.job = .die) {job : Job}
    (hdead : (set job).status = .failed ∨ (set job).status = .deadLettered) : pc = .ended := by
  cases h with
  | completed _ => simp [Job.markCompleted] at hdead
  | retried _ => simp [JobRunner.afterMark, hpolicy]
  | deadLettered _ => rfl
  | reset _ _ => rfl

theorem deadSlot_of_dies (hinv : SlotInv slot s) (hcond : KeepsSlot runners slot s a)
    (hstep : step runners s a = some t) (hdies : Dies runners slot s t a) : DeadSlot slot t where
  toSlotInv := slotInv_step hinv hcond hstep
  dead := by
    have h := stepped_of_step hstep
    obtain ⟨i, rfl, task, htask, hhas, hpolicy, job, hfind', hdead⟩ :
        ∃ i, a = .mark i true ∧ ∃ task ∈ s.tasks[i]?, slot.Has task.job ∧
          (runners task.runner).failurePolicy task.job = .die ∧
          ∃ job ∈ t.jobs.find? task.job.id, job.IsDead := by
      unfold Dies at hdies
      split at hdies
      · exact ⟨_, rfl, hdies⟩
      · exact hdies.elim
    have hmem := List.mem_of_getElem? htask
    obtain ⟨task₀, set, pc, htask₀, hdeciding, htasks⟩ := h.of_isDecision (.inl ⟨true, rfl⟩)
    cases htask.symm.trans htask₀
    have hcurrent : task.IsCurrent s := hcond task htask hhas
    have hmark : task.pc ≠ .reset := by
      cases hdeciding with
      | completed hpc => simp [hpc]
      | retried hpc => simp [hpc]
      | deadLettered hpc => simp [hpc]
    have hfind := hinv.row task hmem hhas hcurrent hmark hdeciding.live
    obtain ⟨hrow, -⟩ := (s.jobs.find?_eq_some_iff ..).mp hfind
    have hrunning := hinv.running task hmem
    have hepoch : t.epoch task.job.id = s.epoch task.job.id := by
      refine h.epoch ?_
      rintro ⟨row, hrow', hid, hclaimable | ⟨r, ha, -⟩⟩
      · cases s.jobs.eq_of_key_eq hrow' hrow hid
        simp [Job.isClaimable, hrunning] at hclaimable
      · cases ha
    -- the row that has died is the one that the task has written
    have hended : pc = .ended ∧ slot.Has job ∧ job.id = task.job.id := by
      have hstepRow := hinv.slotRow hcond hstep hrow hhas
      rw [show t.jobs.find? task.job.id = some job from hfind'] at hstepRow
      cases hstepRow with
      | kept => exact absurd (.inr hrunning) (IsDead.not_active hdead)
      | moved hmoves => omega
      | written htask' hid hdeciding' _ =>
        cases hdeciding.eq hdeciding'
        cases htask.symm.trans htask'
        cases hdeciding.set_eq hdeciding'
        exact ⟨hdeciding.ended_of_isDead hpolicy hdead,
          hhas.of_same (hdeciding.unlocks.write ..), rfl⟩
    obtain ⟨rfl, hjobHas, hid⟩ := hended
    refine ⟨job, ((t.jobs.find?_eq_some_iff ..).mp hfind').1, hjobHas, hdead, ?_⟩
    intro other hother hotherId hotherCurrent
    obtain ⟨k, hk⟩ := List.getElem?_of_mem hother
    by_cases hki : k = i
    · subst hki
      rw [htasks, List.getElem?_set_self (List.getElem?_eq_some_iff.mp htask).1] at hk
      cases hk
      rfl
    · rw [htasks, List.getElem?_set_ne (Ne.symm hki)] at hk
      refine absurd ?_ (hinv.distinct k i other task hk htask hki (hotherId.trans hid))
      unfold Task.IsCurrent at hcurrent hotherCurrent
      rw [hotherCurrent, hcurrent, hotherId, hid, hepoch]

theorem deadSlot_step (hinv : DeadSlot slot s) (hcond : KeepsSlot runners slot s a)
    (hstep : step runners s a = some t) : DeadSlot slot t where
  toSlotInv := slotInv_step hinv.toSlotInv hcond hstep
  dead := by
    have h := stepped_of_step hstep
    obtain ⟨job, hjob, hhas, hdead, hended⟩ := hinv.dead
    have hkept : t.jobs.find? job.id = some job := by
      have hrow := hinv.slotRow hcond hstep hjob hhas
      generalize t.jobs.find? job.id = found at hrow
      cases hrow with
      | kept => rfl
      | moved _ hbefore => exact absurd hbefore (IsDead.not_active hdead)
      | written htask hid hdeciding hcurrent =>
        -- the tasks that could write it have ended
        exact absurd (hended _ (List.mem_of_getElem? htask) hid hcurrent) hdeciding.live
      | removed hcompleted => rcases hdead with h | h <;> cases h.symm.trans hcompleted
    refine ⟨job, ((t.jobs.find?_eq_some_iff ..).mp hkept).1, hhas, hdead, ?_⟩
    intro task' htask' hid hcurrent
    obtain ⟨i, hi⟩ := List.getElem?_of_mem htask'
    rcases h.tasks hi with ⟨task, htask, heq, hpc⟩ | ⟨-, hnew⟩
    · have hmem := List.mem_of_getElem? htask
      have hcurrent₀ : task.IsCurrent t := by
        have hepochEq : task'.epoch = task.epoch := by rw [heq]
        have hjobEq : task'.job = task.job := by rw [heq]
        unfold Task.IsCurrent at hcurrent ⊢
        rwa [hepochEq, hjobEq] at hcurrent
      have hjobEq : task'.job = task.job := by rw [heq]
      have hended₀ := hended task hmem (hjobEq ▸ hid) (hinv.isCurrent h hmem hcurrent₀).1
      by_contra hlive
      exact hpc.live hlive hended₀
    · -- a dead row is not claimed
      have hrunning := ((slotInv_step hinv.toSlotInv hcond hstep).running task' htask')
      have hfind := hnew.row
      rw [hid, hkept] at hfind
      cases hfind
      exact absurd (.inr hrunning) (IsDead.not_active hdead)

/-- Nothing of a dead slot is executed. -/
theorem DeadSlot.not_starts (hinv : DeadSlot slot s) (hcond : KeepsSlot runners slot s a) :
    ¬ Starts runners slot s a := by
  intro hstarts
  cases a with
  | spawn i =>
    obtain ⟨task, htask, hhas, hpc, -⟩ := hstarts
    have hmem := List.mem_of_getElem? htask
    have hfind := hinv.row task hmem hhas (hcond task htask hhas) (by simp [hpc]) (by simp [hpc])
    obtain ⟨hrow, -⟩ := (s.jobs.find?_eq_some_iff ..).mp hfind
    obtain ⟨job, hjob, hjobHas, hdead, -⟩ := hinv.dead
    -- the row of the task is running, the only row of the slot is dead
    have heq := s.jobs.eq_of_key_eq hrow hjob (hinv.unique job hjob _ hrow hjobHas hhas)
    rw [← heq] at hdead
    exact IsDead.not_active hdead (.inr (hinv.running task hmem))
  | _ => exact hstarts

/-- A slot that has died under the policy `Die` is not executed again: not in any run in which
    the slot is seeded only if it has no row, or one that is pending or running, and its tasks go
    to their handlers and to the row only while nobody has recovered the row from them. -/
theorem dead_slot_stays_dead (runners : Nat → JobRunner) (slot : Slot) (as bs : List Label)
    {s t : State} {a : Label} (hrun : Run.run (step runners) {} as = some s)
    (hstep : step runners s a = some t) (hdies : Dies runners slot s t a)
    (hmeets : Run.Meets (step runners) (KeepsSlot runners slot) {} (as ++ a :: bs)) :
    Run.Meets (step runners) (fun u b => ¬ Starts runners slot u b) t bs := by
  obtain ⟨hbefore, hcond, hafter⟩ := hmeets.append hrun
  have hinv : SlotInv slot s :=
    Run.run_invariant_of_meets (fun _ _ _ hinv hcond hstep => slotInv_step hinv hcond hstep)
      (slotInv_init slot) hbefore hrun
  have hdead := deadSlot_of_dies hinv hcond hstep hdies
  exact (hafter t hstep).of_invariant (fun _ _ _ hinv hcond hstep => deadSlot_step hinv hcond hstep)
    (fun _ _ hinv hcond => hinv.not_starts hcond) hdead

/-- The slot is seeded, and its first execution fails for good. -/
def failedForGood : List Label :=
  [.seed 0 0, .claim 0 [⟨0, 0⟩] true, .spawn 0, .returns 0 (.error (.permanent "no such bank"))]

/-- After a restart the other slot is seeded and executed. -/
def otherSlot : List Label := [.crash 0, .seed 0 1, .claim 0 [⟨0, 1⟩] true, .spawn 1]

theorem dead_slot_stays_dead_reconcile :
    ∃ s t, Run.run (step reconcilers) {} failedForGood = some s ∧
      step reconcilers s (.mark 0 true) = some t ∧ t.jobs.rows.map (·.status) = [.deadLettered] ∧
      (Run.run (step reconcilers) t otherSlot).isSome ∧
      Run.Meets (step reconcilers) (fun u b => ¬ Starts reconcilers reconcileSlot u b) t
        otherSlot := by
  have hrun : (Run.run (step reconcilers) {} failedForGood).bind (fun s =>
      (step reconcilers s (.mark 0 true)).map fun t =>
        decide (Dies reconcilers reconcileSlot s t (.mark 0 true) ∧
          t.jobs.rows.map (·.status) = [.deadLettered] ∧
          (Run.run (step reconcilers) t otherSlot).isSome)) = some true := by
    decide +kernel
  obtain ⟨s, hs, hstep⟩ := Option.bind_eq_some_iff.mp hrun
  obtain ⟨t, ht, hcheck⟩ := Option.map_eq_some_iff.mp hstep
  obtain ⟨hdies, hstatus, henabled⟩ := of_decide_eq_true hcheck
  exact ⟨s, t, hs, ht, hstatus, henabled, dead_slot_stays_dead reconcilers reconcileSlot
    failedForGood otherSlot hs ht hdies (by decide +kernel)⟩

/-- A startup after the slot has died adds a new row, which is claimed and executed. -/
theorem dead_slot_revives :
    ∃ s t u, Run.run (step reconcilers) {} failedForGood = some s ∧
      step reconcilers s (.mark 0 true) = some t ∧
      Dies reconcilers reconcileSlot s t (.mark 0 true) ∧
      Run.run (step reconcilers) t [.crash 0, .seed 0 0, .claim 0 [⟨0, 1⟩] true] = some u ∧
      Starts reconcilers reconcileSlot u (.spawn 1) := by
  have hrun : (Run.run (step reconcilers) {} failedForGood).bind (fun s =>
      (step reconcilers s (.mark 0 true)).bind fun t =>
        (Run.run (step reconcilers) t [.crash 0, .seed 0 0, .claim 0 [⟨0, 1⟩] true]).map fun u =>
          decide (Dies reconcilers reconcileSlot s t (.mark 0 true) ∧
            Starts reconcilers reconcileSlot u (.spawn 1))) = some true := by
    decide +kernel
  obtain ⟨s, hs, hstep⟩ := Option.bind_eq_some_iff.mp hrun
  obtain ⟨t, ht, hlater⟩ := Option.bind_eq_some_iff.mp hstep
  obtain ⟨u, hu, hcheck⟩ := Option.map_eq_some_iff.mp hlater
  obtain ⟨hdies, hstarts⟩ := of_decide_eq_true hcheck
  exact ⟨s, t, u, hs, ht, hdies, hu, hstarts⟩

end Koupang.Jobs
