import Mathlib.Data.List.Basic

/-!
# Programs of atomic commands

Threads share a store and send it one command after the other. Each command is
executed at once; between two commands of one thread any number of commands of
the others may be executed. A program is also a function, which runs it alone.

## Key results

- `run_bind`: running a sequence is running its parts
- `serial_append`: running programs one after the other
- `step_eq_some`: one command of one thread
- `kept_step`: what every program keeps, whoever else writes, an interleaving keeps
-/

namespace Atomic

/-- A store and its commands. -/
structure Store (σ : Type) where
  Cmd : Type
  Result : Cmd → Type
  exec : (c : Cmd) → σ → Result c × σ

variable {σ ε α β : Type} {S : Store σ}

/-- A program returns, or it sends a command and goes on with the answer. -/
inductive Prog (S : Store σ) (ε α : Type) where
  | done (result : Except ε α)
  | cmd (c : S.Cmd) (next : S.Result c → Prog S ε α)

namespace Prog

def bind (x : Prog S ε α) (f : α → Prog S ε β) : Prog S ε β :=
  match x with
  | .done (.ok a) => f a
  | .done (.error e) => .done (.error e)
  | .cmd c next => .cmd c fun a => (next a).bind f

instance : Monad (Prog S ε) where
  pure a := .done (.ok a)
  bind := bind

def fail (e : ε) : Prog S ε α := .done (.error e)

def ofExcept (r : Except ε α) : Prog S ε α := .done r

def send (c : S.Cmd) : Prog S ε (S.Result c) := .cmd c fun a => .done (.ok a)

@[simp] theorem ok_bind (a : α) (f : α → Prog S ε β) : (.done (.ok a) : Prog S ε α) >>= f = f a :=
  rfl

@[simp] theorem error_bind (e : ε) (f : α → Prog S ε β) :
    (.done (.error e) : Prog S ε α) >>= f = .done (.error e) := rfl

@[simp] theorem cmd_bind (c : S.Cmd) (next : S.Result c → Prog S ε α) (f : α → Prog S ε β) :
    (.cmd c next : Prog S ε α) >>= f = .cmd c fun a => next a >>= f := rfl

/-- Run a program alone. -/
def run : Prog S ε α → σ → Except ε α × σ
  | .done r, s => (r, s)
  | .cmd c next, s => (next (S.exec c s).1).run (S.exec c s).2

@[simp] theorem run_done (r : Except ε α) (s : σ) : (.done r : Prog S ε α).run s = (r, s) := rfl

@[simp] theorem run_command (c : S.Cmd) (next : S.Result c → Prog S ε α) (s : σ) :
    (.cmd c next : Prog S ε α).run s = (next (S.exec c s).1).run (S.exec c s).2 := rfl

theorem run_bind (x : Prog S ε α) (f : α → Prog S ε β) (s : σ) :
    (x >>= f).run s =
      match x.run s with
      | (.ok a, s') => (f a).run s'
      | (.error e, s') => (.error e, s') := by
  induction x generalizing s with
  | done r =>
    cases r with
    | ok a => rfl
    | error e => rfl
  | cmd c next ih => exact ih _ _

/-- The program only reads. -/
def Quiet : Prog S ε α → Prop
  | .done _ => True
  | .cmd c next => (∀ s, (S.exec c s).2 = s) ∧ ∀ a, (next a).Quiet

theorem quiet_ofExcept (r : Except ε α) : (ofExcept r : Prog S ε α).Quiet := trivial

theorem Quiet.bind {x : Prog S ε α} {f : α → Prog S ε β} (hx : x.Quiet) (hf : ∀ a, (f a).Quiet) :
    (x >>= f).Quiet := by
  induction x with
  | done r =>
    cases r with
    | ok a => exact hf a
    | error e => exact trivial
  | cmd c next ih => exact ⟨hx.1, fun a => ih a (hx.2 a)⟩

theorem quiet_send {c : S.Cmd} (h : ∀ s, (S.exec c s).2 = s) : (send c : Prog S ε _).Quiet :=
  ⟨h, fun _ => trivial⟩

theorem Quiet.run {p : Prog S ε α} (h : p.Quiet) (s : σ) : (p.run s).2 = s := by
  induction p generalizing s with
  | done r => rfl
  | cmd c next ih =>
    rw [run_command, ih _ (h.2 _), h.1]

/-- Every command of the program keeps the invariant, whatever the others have done in between, as
    long as they keep it, too. -/
def Keeps (I : σ → Prop) : Prog S ε α → Prop
  | .done _ => True
  | .cmd c next => ∀ s, I s → I (S.exec c s).2 ∧ (next (S.exec c s).1).Keeps I

theorem Quiet.keeps {p : Prog S ε α} (h : p.Quiet) (I : σ → Prop) : p.Keeps I := by
  induction p with
  | done r => exact trivial
  | cmd c next ih =>
    intro s hs
    rw [h.1]
    exact ⟨hs, ih _ (h.2 _)⟩

end Prog

/-! ## Serial runs -/

/-- Run the programs of the calls one after the other. -/
def serial {ι : Type} (code : ι → Prog S ε α) (calls : List ι) (s : σ) : σ :=
  calls.foldl (fun s i => ((code i).run s).2) s

variable {ι : Type} {code : ι → Prog S ε α}

@[simp] theorem serial_nil (s : σ) : serial code [] s = s := rfl

@[simp] theorem serial_cons (i : ι) (calls : List ι) (s : σ) :
    serial code (i :: calls) s = serial code calls ((code i).run s).2 := rfl

theorem serial_append (calls calls' : List ι) (s : σ) :
    serial code (calls ++ calls') s = serial code calls' (serial code calls s) :=
  List.foldl_append ..

/-! ## Threads -/

structure State (S : Store σ) (ε α : Type) where
  store : σ
  threads : List (Prog S ε α)

def State.Finished (s : State S ε α) : Prop := ∀ p ∈ s.threads, ∃ r, p = .done r

instance (p : Prog S ε α) : Decidable (∃ r, p = .done r) :=
  match p with
  | .done r => .isTrue ⟨r, rfl⟩
  | .cmd .. => .isFalse (by simp)

instance (s : State S ε α) : Decidable s.Finished :=
  inferInstanceAs (Decidable (∀ p ∈ s.threads, ∃ r, p = .done r))

/-- Thread `i` sends its next command. -/
def step (s : State S ε α) (i : Nat) : Option (State S ε α) :=
  match s.threads[i]? with
  | some (.cmd c next) =>
    some { store := (S.exec c s.store).2, threads := s.threads.set i (next (S.exec c s.store).1) }
  | _ => none

theorem step_eq_some {s t : State S ε α} {i : Nat} (h : step s i = some t) :
    ∃ c next, s.threads[i]? = some (.cmd c next) ∧ t.store = (S.exec c s.store).2 ∧
      t.threads = s.threads.set i (next (S.exec c s.store).1) := by
  unfold step at h
  split at h
  · rename_i c next hthread
    cases h
    exact ⟨c, next, hthread, rfl, rfl⟩
  · cases h

/-- The threads after a step: thread `i` has gone on. -/
theorem getElem?_set_thread {threads : List (Prog S ε α)} {i k : Nat} {p q : Prog S ε α}
    (h : (threads.set i p)[k]? = some q) : (k = i ∧ q = p) ∨ (k ≠ i ∧ threads[k]? = some q) := by
  rw [List.getElem?_set] at h
  split at h
  · rename_i hik
    split at h
    · cases h
      exact .inl ⟨hik.symm, rfl⟩
    · cases h
  · rename_i hik
    exact .inr ⟨Ne.symm hik, h⟩

/-! ## Invariants -/

/-- The invariant holds of the store, and every thread keeps it. -/
structure Kept (I : σ → Prop) (s : State S ε α) : Prop where
  store : I s.store
  threads : ∀ p ∈ s.threads, p.Keeps I

theorem kept_step {I : σ → Prop} {s t : State S ε α} {i : Nat} (hs : Kept I s)
    (h : step s i = some t) : Kept I t := by
  obtain ⟨c, next, hthread, hstore, hthreads⟩ := step_eq_some h
  have hkeeps := hs.threads _ (List.mem_of_getElem? hthread) s.store hs.store
  constructor
  · rw [hstore]
    exact hkeeps.1
  · intro p hp
    rw [hthreads] at hp
    cases List.mem_or_eq_of_mem_set hp with
    | inl hold => exact hs.threads p hold
    | inr hnew => exact hnew ▸ hkeeps.2

end Atomic
