import Mathlib.Data.List.Forall2
import Koupang.ForStd.Call

/-!
# Two programs side by side

Two programs that work on states of two types, related by `R`: started in related
states they return related values, or fail with the same error, and leave related
states. What a caller sees of a program that simulates another one, and is
simulated by it, is what it sees of the other one.

`Agree` compares two results, `Sim` two programs, and there is one rule for each
way to build a program.

## Key results

- `Sim.bind`: programs one after the other
- `Sim.query`, `Sim.write`: the steps of a call
- `Sim.statement`, `Sim.attempt`: statements, and the transactions made of them
- `Sim.result_eq`: what is returned, if related values are equal ones
-/

namespace Except

variable {ε α β : Type}

/-- Related values, or the same error. -/
def Agree (Q : α → β → Prop) : Except ε α → Except ε β → Prop
  | .ok a, .ok b => Q a b
  | .error e, .error e' => e = e'
  | _, _ => False

variable {Q : α → β → Prop}

theorem agree_rfl {Q : α → α → Prop} (h : ∀ a, Q a a) (x : Except ε α) : Agree Q x x := by
  cases x with
  | ok a => exact h a
  | error e => rfl

theorem Agree.bind {α' β' : Type} {Q' : α' → β' → Prop} {x : Except ε α} {y : Except ε β}
    {f : α → Except ε α'} {g : β → Except ε β'} (h : Agree Q x y)
    (hf : ∀ a b, Q a b → Agree Q' (f a) (g b)) : Agree Q' (x >>= f) (y >>= g) := by
  cases x <;> cases y
  · exact h
  · exact h.elim
  · exact h.elim
  · exact hf _ _ h

/-- The same check on both sides, whose failure ends the computations. -/
theorem agree_guard {γ : Type} {c : Prop} [Decidable c] {e : ε} {f : γ → Except ε α}
    {g : γ → Except ε β} {x : Except ε α} {y : Except ε β} (h : ¬ c → Agree Q x y) :
    Agree Q (if c then (throw e >>= f) else x) (if c then (throw e >>= g) else y) := by
  by_cases hc : c
  · rw [if_pos hc, if_pos hc]
    exact rfl
  · rw [if_neg hc, if_neg hc]
    exact h hc

theorem Agree.toOption {x : Except ε α} {y : Except ε β} (h : Agree Q x y) :
    Option.Rel Q x.toOption y.toOption := by
  cases x <;> cases y
  · exact .none
  · exact h.elim
  · exact h.elim
  · exact .some h

end Except

/-- Related results: related values, or the same error, and related states. -/
def Agree {ε σ τ α β : Type} (R : σ → τ → Prop) (Q : α → β → Prop) :
    EStateM.Result ε σ α → EStateM.Result ε τ β → Prop
  | .ok a s, .ok b t => Q a b ∧ R s t
  | .error e s, .error e' t => e = e' ∧ R s t
  | _, _ => False

/-- The programs have related results when they are started in related states. -/
structure Sim {ε σ τ α β : Type} (R : σ → τ → Prop) (Q : α → β → Prop) (x : EStateM ε σ α)
    (y : EStateM ε τ β) : Prop where
  agree : ∀ s t, R s t → Agree R Q (x s) (y t)

namespace Sim

variable {ε σ τ α β α' β' : Type} {R : σ → τ → Prop} {Q : α → β → Prop} {Q' : α' → β' → Prop}

theorem pure {a : α} {b : β} (h : Q a b) :
    Sim R Q (Pure.pure a : EStateM ε σ α) (Pure.pure b : EStateM ε τ β) :=
  ⟨fun _ _ hR => ⟨h, hR⟩⟩

theorem throw (e : ε) : Sim R Q (throw e : EStateM ε σ α) (throw e : EStateM ε τ β) :=
  ⟨fun _ _ hR => ⟨rfl, hR⟩⟩

theorem bind {x : EStateM ε σ α} {y : EStateM ε τ β} {f : α → EStateM ε σ α'}
    {g : β → EStateM ε τ β'} (h : Sim R Q x y) (hf : ∀ a b, Q a b → Sim R Q' (f a) (g b)) :
    Sim R Q' (x >>= f) (y >>= g) := by
  refine ⟨fun s t hR => ?_⟩
  have hx := h.agree s t hR
  change Agree R Q' (EStateM.bind x f s) (EStateM.bind y g t)
  unfold EStateM.bind
  cases hs : x s with
  | ok a s' =>
    cases ht : y t with
    | ok b t' =>
      rw [hs, ht] at hx
      exact (hf a b hx.1).agree s' t' hx.2
    | error e t' =>
      rw [hs, ht] at hx
      exact hx.elim
  | error e s' =>
    cases ht : y t with
    | ok b t' =>
      rw [hs, ht] at hx
      exact hx.elim
    | error e' t' =>
      rw [hs, ht] at hx
      exact hx

/-- The first programs return the same. -/
theorem bind_eq {x : EStateM ε σ α} {y : EStateM ε τ α} {f : α → EStateM ε σ α'}
    {g : α → EStateM ε τ β'} (h : Sim R Eq x y) (hf : ∀ a, Sim R Q' (f a) (g a)) :
    Sim R Q' (x >>= f) (y >>= g) :=
  h.bind fun a _ hab => hab ▸ hf a

/-! ### Calls -/

theorem query {f : σ → Except ε α} {g : τ → Except ε β}
    (h : ∀ s t, R s t → Except.Agree Q (f s) (g t)) :
    Sim R Q (Call.query f) (Call.query g) := by
  refine ⟨fun s t hR => ?_⟩
  have hst := h s t hR
  unfold Call.query
  cases hs : f s <;> cases ht : g t <;> rw [hs, ht] at hst
  · exact ⟨hst, hR⟩
  · exact hst.elim
  · exact hst.elim
  · exact ⟨hst, hR⟩

theorem write {f : σ → Except ε (α × σ)} {g : τ → Except ε (β × τ)}
    (h : ∀ s t, R s t → Except.Agree (fun p q => Q p.1 q.1 ∧ R p.2 q.2) (f s) (g t)) :
    Sim R Q (Call.write f) (Call.write g) := by
  refine ⟨fun s t hR => ?_⟩
  have hst := h s t hR
  unfold Call.write
  cases hs : f s <;> cases ht : g t <;> rw [hs, ht] at hst
  · exact ⟨hst, hR⟩
  · exact hst.elim
  · exact hst.elim
  · exact hst

theorem mapErr {ε' : Type} {f : ε → ε'} {x : Call ε σ α} {y : Call ε τ β} (h : Sim R Q x y) :
    Sim R Q (Call.mapErr f x) (Call.mapErr f y) := by
  refine ⟨fun s t hR => ?_⟩
  have hst := h.agree s t hR
  unfold Call.mapErr
  cases hs : x s <;> cases ht : y t <;> rw [hs, ht] at hst
  · exact hst
  · exact hst.elim
  · exact hst.elim
  · exact ⟨congrArg f hst.1, hst.2⟩

theorem final {x : Call ε σ α} {y : Call ε τ β} (h : Sim R Q x y) {s : σ} {t : τ} (hR : R s t) :
    R (x.final s) (y.final t) := by
  have hst := h.agree s t hR
  unfold Call.final
  cases hs : x s <;> cases ht : y t <;> rw [hs, ht] at hst
  · exact hst.2
  · exact hst.elim
  · exact hst.elim
  · exact hst.2

/-- Calls that return the same, and leave related states. -/
theorem agree_of_result {x : Call ε σ α} {y : Call ε τ α} {s : σ} {t : τ}
    (h : x.result s = y.result t) (hR : R (x.final s) (y.final t)) : Agree R Eq (x s) (y t) := by
  unfold Call.result at h
  unfold Call.final at hR
  cases hs : x s <;> cases ht : y t <;> rw [hs, ht] at h hR
  · exact ⟨Except.ok.inj h, hR⟩
  · exact nomatch h
  · exact nomatch h
  · exact ⟨Except.error.inj h, hR⟩

/-- An invariant of one of the programs, beside the relation. -/
theorem strengthen {P : σ → Prop} {x : Call ε σ α} {y : Call ε τ β} (h : Sim R Q x y)
    (hP : ∀ s, P s → P (x.final s)) : Sim (fun s t => R s t ∧ P s) Q x y := by
  refine ⟨fun s t hR => ?_⟩
  have hst := h.agree s t hR.1
  have hfinal := hP s hR.2
  unfold Call.final at hfinal
  cases hs : x s <;> cases ht : y t <;> rw [hs, ht] at hst <;> rw [hs] at hfinal
  · exact ⟨hst.1, hst.2, hfinal⟩
  · exact hst.elim
  · exact hst.elim
  · exact ⟨hst.1, hst.2, hfinal⟩

/-- What is returned, if related values are equal ones. -/
theorem result_eq {x : Call ε σ α} {y : Call ε τ α} (h : Sim R Eq x y) {s : σ} {t : τ}
    (hR : R s t) : x.result s = y.result t := by
  have hst := h.agree s t hR
  unfold Call.result
  cases hs : x s <;> cases ht : y t <;> rw [hs, ht] at hst
  · exact congrArg _ hst.1
  · exact hst.elim
  · exact hst.elim
  · exact congrArg _ hst.1

/-! ### Transactions -/

/-- Transactions on related tables. -/
structure OnTables (R : σ → τ → Prop) (s : TxState σ) (t : TxState τ) : Prop where
  db : R s.db t.db
  pool : R s.pool t.pool
  aborted : s.aborted = t.aborted

theorem statement {onError : String → ε} {f : σ → Except String (α × σ)}
    {g : τ → Except String (β × τ)}
    (h : ∀ s t, R s t → Except.Agree (fun p q => Q p.1 q.1 ∧ R p.2 q.2) (f s) (g t)) :
    Sim (OnTables R) Q (Tx.statement onError f) (Tx.statement onError g) := by
  refine ⟨fun s t hR => ?_⟩
  have hst := h s.db t.db hR.db
  unfold Tx.statement
  rw [hR.aborted]
  by_cases hab : t.aborted = true
  · rw [if_pos hab, if_pos hab]
    exact ⟨rfl, hR⟩
  · rw [if_neg hab, if_neg hab]
    cases hs : f s.db <;> cases ht : g t.db <;> rw [hs, ht] at hst
    · exact ⟨congrArg onError hst, hR.db, hR.pool, rfl⟩
    · exact hst.elim
    · exact hst.elim
    · exact ⟨hst.1, hst.2, hR.pool, rfl⟩

/-- Transactions that end alike, with related tables committed. -/
def AttemptsAgree (R : σ → τ → Prop) (Q : α → β → Prop) :
    Tx.Attempt ε σ α → Tx.Attempt ε τ β → Prop
  | .committed a s, .committed b t => Q a b ∧ R s t
  | .aborted a s, .aborted b t => Q a b ∧ R s t
  | .failed e s, .failed e' t => e = e' ∧ R s t
  | _, _ => False

theorem attempt {x : Tx ε σ α} {y : Tx ε τ β} (h : Sim (OnTables R) Q x y) {s : σ} {t : τ}
    (hR : R s t) : AttemptsAgree R Q (Tx.attempt x s) (Tx.attempt y t) := by
  have hst := h.agree (Tx.begin s) (Tx.begin t) ⟨hR, hR, rfl⟩
  unfold Tx.attempt
  cases hs : x (Tx.begin s) with
  | ok a s' =>
    cases ht : y (Tx.begin t) with
    | ok b t' =>
      rw [hs, ht] at hst
      obtain ⟨hQ, hdb, hpool, hab⟩ := hst
      dsimp only
      rw [hab]
      cases t'.aborted with
      | true => exact ⟨hQ, hpool⟩
      | false => exact ⟨hQ, hdb⟩
    | error e t' =>
      rw [hs, ht] at hst
      exact hst.elim
  | error e s' =>
    cases ht : y (Tx.begin t) with
    | ok b t' =>
      rw [hs, ht] at hst
      exact hst.elim
    | error e' t' =>
      rw [hs, ht] at hst
      exact ⟨hst.1, hst.2.pool⟩

end Sim
