import Mathlib.Data.List.Basic

/-!
# Runs of a step function

A system is a partial step function `step : σ → α → Option σ`: the label `α`
resolves every choice the environment makes (which message is delivered, what
a gateway answers, who crashes), and `none` means that the label is not enabled.
Because `step` is a function, a concrete run can be evaluated.

## Key results

- `run_invariant`: what one step preserves, every run preserves
- `run_invariant_of_meets`: the same for runs whose steps all meet a condition
- `run_forall_iff`: a property of every visited state, read as a condition on the steps
- `exists_step_of_run`: the step that has brought a property about
- `run_countP_le`: how often a run can take the steps that lower a potential
- `exists_run_stuck`: steps that cannot go on for ever can be taken until none is enabled
- `run_decide`: a concrete run, evaluated
-/

namespace Run

variable {σ α : Type*}

/-- Execute the labels in order, stopping at the first one that is not enabled. -/
def run (step : σ → α → Option σ) (s : σ) : List α → Option σ
  | [] => some s
  | a :: as =>
    match step s a with
    | some t => run step t as
    | none => none

/-- Every step of the run meets the condition `C` on the state before it. -/
def Meets (step : σ → α → Option σ) (C : σ → α → Prop) (s : σ) : List α → Prop
  | [] => True
  | a :: as => C s a ∧ ∀ t, step s a = some t → Meets step C t as

instance Meets.decidable {step : σ → α → Option σ} {C : σ → α → Prop}
    [∀ s a, Decidable (C s a)] : ∀ s as, Decidable (Meets step C s as)
  | _, [] => .isTrue trivial
  | s, a :: as =>
    match h : step s a with
    | none => decidable_of_iff (C s a) ⟨fun hC => ⟨hC, fun t ht => by simp [h] at ht⟩, And.left⟩
    | some t =>
      haveI : Decidable (Meets step C t as) := Meets.decidable t as
      decidable_of_iff (C s a ∧ Meets step C t as)
        ⟨fun ⟨hC, hm⟩ => ⟨hC, fun u hu => by rw [h] at hu; cases hu; exact hm⟩,
          fun hm => ⟨hm.1, hm.2 t h⟩⟩

/-- The run passes through the state `u` (its first and last states included). -/
def Visits (step : σ → α → Option σ) (s : σ) (as : List α) (u : σ) : Prop :=
  ∃ pre post, as = pre ++ post ∧ run step s pre = some u

variable {step : σ → α → Option σ}

@[simp] theorem run_nil (s : σ) : run step s [] = some s := rfl

theorem run_cons_some {s u : σ} {a : α} {as : List α}
    (h : run step s (a :: as) = some u) :
    ∃ t, step s a = some t ∧ run step t as = some u := by
  simp only [run] at h
  split at h
  · rename_i t ht
    exact ⟨t, ht, h⟩
  · exact nomatch h

theorem run_cons {s t : σ} {a : α} {as : List α} (h : step s a = some t) :
    run step s (a :: as) = run step t as := by
  simp only [run, h]

/-- Running `as ++ bs` is running `as` and then `bs`. -/
theorem run_append (s : σ) (as bs : List α) :
    run step s (as ++ bs) = (run step s as).bind (run step · bs) := by
  induction as generalizing s with
  | nil => rfl
  | cons a as ih =>
    simp only [List.cons_append, run]
    cases step s a with
    | none => rfl
    | some t => exact ih t

/-- What one step preserves, every run preserves. -/
theorem run_invariant {Inv : σ → Prop}
    (hstep : ∀ s a t, Inv s → step s a = some t → Inv t)
    {s t : σ} {as : List α} (hs : Inv s) (h : run step s as = some t) : Inv t := by
  induction as generalizing s with
  | nil =>
    cases h
    exact hs
  | cons a as ih =>
    obtain ⟨u, hu, hrun⟩ := run_cons_some h
    exact ih (hstep s a u hs hu) hrun

/-- What every step under the condition `C` preserves, every run meeting `C` preserves. -/
theorem run_invariant_of_meets {Inv : σ → Prop} {C : σ → α → Prop}
    (hstep : ∀ s a t, Inv s → C s a → step s a = some t → Inv t)
    {s t : σ} {as : List α} (hs : Inv s) (hmeets : Meets step C s as)
    (h : run step s as = some t) : Inv t := by
  induction as generalizing s with
  | nil =>
    cases h
    exact hs
  | cons a as ih =>
    obtain ⟨u, hu, hrun⟩ := run_cons_some h
    exact ih (hstep s a u hs hmeets.1 hu) (hmeets.2 u hu) hrun

/-- A condition that the labels of a run meet in every state. -/
theorem Meets.of_label {C : σ → α → Prop} {s : σ} {as : List α} (h : ∀ a ∈ as, ∀ s, C s a) :
    Meets step C s as := by
  induction as generalizing s with
  | nil => trivial
  | cons a as ih =>
    exact ⟨h a (List.mem_cons_self ..) s, fun _ _ => ih fun b hb => h b (List.mem_cons_of_mem _ hb)⟩

theorem Meets.and {C C' : σ → α → Prop} {s : σ} {as : List α} (h : Meets step C s as)
    (h' : Meets step C' s as) : Meets step (fun s a => C s a ∧ C' s a) s as := by
  induction as generalizing s with
  | nil => trivial
  | cons a as ih => exact ⟨⟨h.1, h'.1⟩, fun t ht => ih (h.2 t ht) (h'.2 t ht)⟩

/-- A condition on the labels alone can be added to the condition on the steps. -/
theorem Meets.and_label {C : σ → α → Prop} {P : α → Prop} {s : σ} {as : List α}
    (h : Meets step C s as) (hP : ∀ a ∈ as, P a) : Meets step (fun s a => C s a ∧ P a) s as := by
  induction as generalizing s with
  | nil => trivial
  | cons a as ih =>
    exact ⟨⟨h.1, hP a (List.mem_cons_self ..)⟩,
      fun t ht => ih (h.2 t ht) fun b hb => hP b (List.mem_cons_of_mem _ hb)⟩

theorem Meets.append {C : σ → α → Prop} {s t : σ} {as bs : List α}
    (h : Meets step C s (as ++ bs)) (hrun : run step s as = some t) :
    Meets step C s as ∧ Meets step C t bs := by
  induction as generalizing s with
  | nil =>
    cases hrun
    exact ⟨trivial, h⟩
  | cons a as ih =>
    obtain ⟨u, hu, hrun⟩ := run_cons_some hrun
    obtain ⟨has, hbs⟩ := ih (h.2 u hu) hrun
    refine ⟨⟨h.1, fun v hv => ?_⟩, hbs⟩
    cases hu.symm.trans hv
    exact has

theorem Meets.concat {C : σ → α → Prop} {s t : σ} {as bs : List α} (h : Meets step C s as)
    (hrun : run step s as = some t) (h' : Meets step C t bs) : Meets step C s (as ++ bs) := by
  induction as generalizing s with
  | nil =>
    cases hrun
    exact h'
  | cons a as ih =>
    obtain ⟨u, hu, hrun⟩ := run_cons_some hrun
    refine ⟨h.1, fun v hv => ?_⟩
    cases hu.symm.trans hv
    exact ih (h.2 u hu) hrun

/-- What the steps under the condition `C` preserve excludes what contradicts it. -/
theorem Meets.of_invariant {Inv : σ → Prop} {C D : σ → α → Prop}
    (hstep : ∀ s a t, Inv s → C s a → step s a = some t → Inv t)
    (hD : ∀ s a, Inv s → C s a → D s a) {s : σ} {as : List α} (hs : Inv s)
    (h : Meets step C s as) : Meets step D s as := by
  induction as generalizing s with
  | nil => trivial
  | cons a as ih => exact ⟨hD s a hs h.1, fun t ht => ih (hstep s a t hs h.1 ht) (h.2 t ht)⟩

/-- The steps of a run meet a condition that follows from what holds in the states after them. -/
theorem meets_of_visits {Inv P : σ → Prop} {C : σ → α → Prop}
    (hstep : ∀ s a t, Inv s → step s a = some t → Inv t)
    (hC : ∀ s a, Inv s → ∃ t, step s a = some t ∧ (P t → C s a)) {s : σ} {as : List α}
    (hs : Inv s) (h : ∀ u, Visits step s as u → P u) : Meets step C s as := by
  induction as generalizing s with
  | nil => trivial
  | cons a as ih =>
    obtain ⟨t, ht, hPC⟩ := hC s a hs
    have hvisits : ∀ u, Visits step t as u → P u := by
      intro u hu
      obtain ⟨pre, post, rfl, hpre⟩ := hu
      exact h u ⟨a :: pre, post, rfl, by rwa [run_cons ht]⟩
    refine ⟨hPC (hvisits t ⟨[], as, rfl, rfl⟩), fun v hv => ?_⟩
    cases ht.symm.trans hv
    exact ih (hstep s a t hs ht) hvisits

/-- What holds at the end of a run and not at its beginning, some step has brought about. -/
theorem exists_step_of_run {P : σ → Prop} {s t : σ} {as : List α} (h : run step s as = some t)
    (hs : ¬ P s) (ht : P t) : ∃ pre a post u v, as = pre ++ a :: post ∧
      run step s pre = some u ∧ step u a = some v ∧ ¬ P u ∧ P v := by
  induction as generalizing s with
  | nil =>
    cases h
    exact absurd ht hs
  | cons a as ih =>
    obtain ⟨v, hv, hrun⟩ := run_cons_some h
    by_cases hP : P v
    · exact ⟨[], a, as, s, v, rfl, rfl, hv, hs, hP⟩
    · obtain ⟨pre, b, post, u, w, rfl, hpre, hstep, hu, hw⟩ := ih hrun hP
      exact ⟨a :: pre, b, post, u, w, rfl, by rwa [run_cons hv], hstep, hu, hw⟩

/-- If the steps with a label in `p` lower the potential and those with a label in `q` raise it
    by `k` at most, a run can take the former as often as the potential and the latter pay for. -/
theorem run_countP_le {Inv : σ → Prop} {potential : σ → Nat} {L : α → Prop} {p q : α → Bool}
    {k : Nat}
    (hstep : ∀ s a t, L a → Inv s → step s a = some t → Inv t ∧
      potential t + (if p a then 1 else 0) ≤ potential s + (if q a then k else 0))
    {s t : σ} {as : List α} (hL : ∀ a ∈ as, L a) (hs : Inv s) (h : run step s as = some t) :
    potential t + as.countP p ≤ potential s + k * as.countP q := by
  induction as generalizing s with
  | nil =>
    cases h
    simp
  | cons a as ih =>
    obtain ⟨u, hu, hrun⟩ := run_cons_some h
    obtain ⟨hinv, hle⟩ := hstep s a u (hL a (List.mem_cons_self ..)) hs hu
    have hrest := ih (fun b hb => hL b (List.mem_cons_of_mem _ hb)) hinv hrun
    have hk : k * (as.countP q + if q a then 1 else 0) =
        k * as.countP q + if q a then k else 0 := by
      rw [Nat.mul_add]
      split <;> simp
    rw [List.countP_cons, List.countP_cons, hk]
    omega

/-- If the runs of steps with a label in `L` have at most `n` steps, one of them ends where no
    such step is enabled. -/
theorem exists_run_stuck {L : α → Prop} {n : Nat} {s : σ}
    (hbound : ∀ as t, (∀ a ∈ as, L a) → run step s as = some t → as.length ≤ n) :
    ∃ as t, (∀ a ∈ as, L a) ∧ run step s as = some t ∧ ∀ a, L a → step t a = none := by
  induction n generalizing s with
  | zero =>
    refine ⟨[], s, by simp, rfl, fun a ha => ?_⟩
    by_contra hne
    obtain ⟨t, ht⟩ := Option.ne_none_iff_exists'.mp hne
    have := hbound [a] t (by simpa using ha) (by rw [run_cons ht, run_nil])
    simp at this
  | succ n ih =>
    by_cases hstuck : ∀ a, L a → step s a = none
    · exact ⟨[], s, by simp, rfl, hstuck⟩
    · -- take an enabled step; what follows it is shorter by one
      push Not at hstuck
      obtain ⟨a, ha, hne⟩ := hstuck
      obtain ⟨u, hu⟩ := Option.ne_none_iff_exists'.mp hne
      obtain ⟨as, t, has, hrun, hnone⟩ := ih (s := u) fun as t has hrun => by
        have := hbound (a :: as) t (by simpa using ⟨ha, has⟩) (by rw [run_cons hu, hrun])
        simpa using this
      exact ⟨a :: as, t, by simpa using ⟨ha, has⟩, by rw [run_cons hu, hrun], hnone⟩

/-- A run that can be evaluated, and a property of its last state that can be decided. -/
theorem run_decide {P : σ → Prop} [DecidablePred P] {s : σ} {as : List α}
    (h : (run step s as).map (fun t => decide (P t)) = some true) :
    ∃ t, run step s as = some t ∧ P t := by
  obtain ⟨t, ht, hP⟩ := Option.map_eq_some_iff.mp h
  exact ⟨t, ht, of_decide_eq_true hP⟩

/-- If a step with a label in `L` keeps the property `P` exactly when it meets `C`, then `P`
    holds in every state of a run exactly when every step of it meets `C`. -/
theorem run_forall_iff_of_label {Inv P : σ → Prop} {C : σ → α → Prop} {L : α → Prop}
    (hstep : ∀ s a t, L a → Inv s → P s → step s a = some t → Inv t ∧ (P t ↔ C s a))
    {s t : σ} {as : List α} (hL : ∀ a ∈ as, L a) (hs : Inv s) (hP : P s)
    (h : run step s as = some t) :
    (∀ u, Visits step s as u → P u) ↔ Meets step C s as := by
  induction as generalizing s with
  | nil =>
    refine ⟨fun _ => trivial, ?_⟩
    rintro - u ⟨pre, post, heq, hu⟩
    obtain ⟨rfl, -⟩ := List.append_eq_nil_iff.mp heq.symm
    cases hu
    exact hP
  | cons a as ih =>
    obtain ⟨v, hv, hrun⟩ := run_cons_some h
    obtain ⟨hinv, hiff⟩ := hstep s a v (hL a (List.mem_cons_self ..)) hs hP hv
    have hL' : ∀ b ∈ as, L b := fun b hb => hL b (List.mem_cons_of_mem _ hb)
    constructor
    · intro hall
      have hPv : P v := hall v ⟨[a], as, rfl, by rw [run_cons hv, run_nil]⟩
      refine ⟨hiff.mp hPv, fun w hw => ?_⟩
      cases hv.symm.trans hw
      refine (ih hL' hinv hPv hrun).mp fun u hu => hall u ?_
      obtain ⟨pre, post, rfl, hpre⟩ := hu
      exact ⟨a :: pre, post, rfl, by rwa [run_cons hv]⟩
    · rintro ⟨hC, hmeets⟩ u ⟨pre, post, heq, hu⟩
      have hPv := hiff.mpr hC
      cases pre with
      | nil =>
        cases hu
        exact hP
      | cons b pre =>
        obtain ⟨rfl, rfl⟩ := List.cons.inj heq
        rw [run_cons hv] at hu
        exact (ih hL' hinv hPv hrun).mpr (hmeets v hv) u ⟨pre, post, rfl, hu⟩

/-- If a step keeps the property `P` exactly when it meets `C`, then `P` holds in every
    state of a run exactly when every step of it meets `C`. -/
theorem run_forall_iff {Inv P : σ → Prop} {C : σ → α → Prop}
    (hstep : ∀ s a t, Inv s → P s → step s a = some t → Inv t ∧ (P t ↔ C s a))
    {s t : σ} {as : List α} (hs : Inv s) (hP : P s) (h : run step s as = some t) :
    (∀ u, Visits step s as u → P u) ↔ Meets step C s as :=
  run_forall_iff_of_label (L := fun _ => True) (fun s a t _ => hstep s a t)
    (fun _ _ => trivial) hs hP h

/-- A run's last step: the state before it, reached by all the earlier ones. -/
theorem run_concat_some {s u : σ} {as : List α} {a : α}
    (h : run step s (as ++ [a]) = some u) :
    ∃ t, run step s as = some t ∧ step t a = some u := by
  rw [run_append] at h
  obtain ⟨t, ht, hrun⟩ := Option.bind_eq_some_iff.mp h
  obtain ⟨u', hu', hnil⟩ := run_cons_some hrun
  cases hnil
  exact ⟨t, ht, hu'⟩

end Run
