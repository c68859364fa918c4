import Koupang.ForStd.Tx

/-!
# Calls of a service

A call works on a state `σ` that outlives it, in steps: queries, writes that are
committed one by one, and updates that cannot fail. A step that fails ends the
call with its error, and what the earlier steps have written stays.

## Key results

- `final_query`, `final_write`, `final_update`: what holds when a call has ended, step by step
- `run_query`, `run_write`: a call after a step
- `result_query_bind_eq`: what a call returns that begins with a query
- `query_bind_ok`, `throw_ok`: the steps of a call that returns
- `FailsClean`: a call whose last step is its only write changes nothing when it fails
- `EndsClean`: the same, with what holds when the call returns
-/

/-- Calls on the state `σ`, failing with `ε`. -/
abbrev Call (ε σ : Type) := EStateM ε σ

namespace Call

variable {ε σ α β : Type}

/-- Read the state. -/
def query (f : σ → Except ε α) : Call ε σ α := fun s =>
  match f s with
  | .ok a => .ok a s
  | .error e => .error e s

/-- Write the state, or fail and leave it as it is. -/
def write (f : σ → Except ε (α × σ)) : Call ε σ α := fun s =>
  match f s with
  | .ok (a, t) => .ok a t
  | .error e => .error e s

/-- Write the state. -/
def update (f : σ → σ) : Call ε σ Unit := fun s => .ok () (f s)

/-- Rust's `map_err`. -/
def mapErr {ε' : Type} (f : ε → ε') (x : Call ε σ α) : Call ε' σ α := fun s =>
  match x s with
  | .ok a t => .ok a t
  | .error e t => .error (f e) t

/-- The state when the call has ended. -/
def final (x : Call ε σ α) (s : σ) : σ :=
  match x s with
  | .ok _ t => t
  | .error _ t => t

/-- What the call returns. -/
def result (x : Call ε σ α) (s : σ) : Except ε α :=
  match x s with
  | .ok a _ => .ok a
  | .error e _ => .error e

theorem run_query {f : σ → Except ε α} {g : α → Call ε σ β} {s : σ} :
    (query f >>= g) s = match f s with
      | .ok a => g a s
      | .error e => .error e s := by
  change EStateM.bind (query f) g s = _
  unfold EStateM.bind query
  cases f s <;> rfl

theorem run_write {f : σ → Except ε (α × σ)} {g : α → Call ε σ β} {s : σ} :
    (write f >>= g) s = match f s with
      | .ok (a, t) => g a t
      | .error e => .error e s := by
  change EStateM.bind (write f) g s = _
  unfold EStateM.bind write
  cases f s <;> rfl

theorem run_bind_pure (x : Call ε σ α) (g : α → β) (s : σ) :
    (x >>= fun a => pure (g a)) s = match x s with
      | .ok a t => .ok (g a) t
      | .error e t => .error e t := by
  change EStateM.bind x (fun a => pure (g a)) s = _
  unfold EStateM.bind
  cases x s <;> rfl

theorem result_query (f : σ → Except ε α) (s : σ) : (query f).result s = f s := by
  unfold result query
  cases f s <;> rfl

/-- What a call returns after a query that has succeeded. -/
theorem result_query_bind {f : σ → Except ε α} {g : α → Call ε σ β} {s : σ} {a : α}
    (h : f s = .ok a) : (query f >>= g).result s = (g a).result s := by
  unfold result
  rw [run_query, h]

/-- A call that begins with a query returns what the query and the rest come to. -/
theorem result_query_bind_eq (f : σ → Except ε α) (g : α → Call ε σ β) (s : σ) :
    (query f >>= g).result s = (f s >>= fun a => (g a).result s) := by
  unfold result
  rw [run_query]
  cases f s <;> rfl

/-- The end of a call after a query that has succeeded. -/
theorem final_query_of_ok {f : σ → Except ε α} {g : α → Call ε σ β} {s : σ} {a : α}
    (h : f s = .ok a) : (query f >>= g).final s = (g a).final s := by
  unfold final
  rw [run_query, h]

/-- The end of a call after a write that has succeeded. -/
theorem final_write_of_ok {f : σ → Except ε (α × σ)} {g : α → Call ε σ β} {s t : σ} {a : α}
    (h : f s = .ok (a, t)) : (write f >>= g).final s = (g a).final t := by
  unfold final
  rw [run_write, h]

theorem final_write_end_of_ok {f : σ → Except ε (α × σ)} {s t : σ} {a : α}
    (h : f s = .ok (a, t)) : (write f).final s = t := by
  unfold final write
  rw [h]

section Result

variable {s t : σ} {a : α}

/-- A call that begins with a query, and returns. -/
theorem query_bind_ok {f : σ → Except ε α} {g : α → Call ε σ β} {b : β} :
    (query f >>= g) s = .ok b t ↔ ∃ a, f s = .ok a ∧ g a s = .ok b t := by
  rw [run_query]
  cases f s with
  | ok a => simp
  | error e => simp

theorem throw_ok {e : ε} : ¬ (throw e : Call ε σ α) s = .ok a t := by
  change ¬ EStateM.Result.error e s = .ok a t
  simp

theorem pure_ok {b : α} : (pure a : Call ε σ α) s = .ok b t ↔ b = a ∧ t = s := by
  change EStateM.pure a s = .ok b t ↔ _
  simp [EStateM.pure, eq_comm]

theorem mapErr_ok {ε' : Type} {f : ε → ε'} {x : Call ε σ α} :
    mapErr f x s = .ok a t ↔ x s = .ok a t := by
  unfold mapErr
  cases x s with
  | ok b u => simp
  | error e u => simp

theorem final_mapErr {ε' : Type} (f : ε → ε') (x : Call ε σ α) (s : σ) :
    (mapErr f x).final s = x.final s := by
  unfold final mapErr
  cases x s <;> rfl

/-- A call that goes on without touching the state. -/
theorem final_bind_pure (x : Call ε σ α) (g : α → β) (s : σ) :
    (x >>= fun a => pure (g a)).final s = x.final s := by
  change (match EStateM.bind x (fun a => pure (g a)) s with
    | .ok _ t => t
    | .error _ t => t) = _
  unfold EStateM.bind final
  cases x s <;> rfl

theorem result_eq_ok {x : Call ε σ α} : x.result s = .ok a ↔ ∃ t, x s = .ok a t := by
  unfold result
  cases x s with
  | ok b u => simp
  | error e u => simp

theorem write_ok {f : σ → Except ε (α × σ)} : write f s = .ok a t ↔ f s = .ok (a, t) := by
  unfold write
  cases f s with
  | ok p => simp [Prod.ext_iff]
  | error e => simp

/-- A call that returns ends in the state that it returns with. -/
theorem final_of_ok {x : Call ε σ α} (h : x s = .ok a t) : x.final s = t := by
  unfold final
  rw [h]

end Result

section Final

variable {P : σ → Prop}

theorem final_query {f : σ → Except ε α} {g : α → Call ε σ β} {s : σ} (hs : P s)
    (hok : ∀ a, f s = .ok a → P ((g a).final s)) : P ((query f >>= g).final s) := by
  rw [final, run_query]
  cases hf : f s with
  | ok a => exact hok a hf
  | error e => exact hs

theorem final_write {f : σ → Except ε (α × σ)} {g : α → Call ε σ β} {s : σ} (hs : P s)
    (hok : ∀ a t, f s = .ok (a, t) → P ((g a).final t)) : P ((write f >>= g).final s) := by
  rw [final, run_write]
  cases hf : f s with
  | ok p => exact hok p.1 p.2 hf
  | error e => exact hs

/-- Whatever a call begins with: it fails, or the call goes on where that has ended. -/
theorem final_bind {x : Call ε σ α} {g : α → Call ε σ β} {s : σ}
    (herror : ∀ e t, x s = .error e t → P t) (hok : ∀ a t, x s = .ok a t → P ((g a).final t)) :
    P ((x >>= g).final s) := by
  have hbind : (x >>= g).final s = match x s with
      | .ok a t => (g a).final t
      | .error _ t => t := by
    change (match EStateM.bind x g s with
      | .ok _ t => t
      | .error _ t => t) = _
    unfold EStateM.bind final
    cases x s <;> rfl
  rw [hbind]
  cases hx : x s with
  | ok a t => exact hok a t hx
  | error e t => exact herror e t hx

theorem final_query_end {f : σ → Except ε α} {s : σ} (hs : P s) : P ((query f).final s) := by
  unfold final query
  cases f s <;> exact hs

theorem final_write_end {f : σ → Except ε (α × σ)} {s : σ} (hs : P s)
    (hok : ∀ a t, f s = .ok (a, t) → P t) : P ((write f).final s) := by
  unfold final write
  cases hf : f s with
  | ok p => exact hok p.1 p.2 hf
  | error e => exact hs

theorem final_update {f : σ → σ} {g : Unit → Call ε σ β} {s : σ} (h : P ((g ()).final (f s))) :
    P ((update f >>= g).final s) := h

end Final

/-! ## Calls that fail as a whole -/

/-- When the call fails, it has left the state as it was. -/
def FailsClean (x : Call ε σ α) (s : σ) : Prop := ∀ e, x.result s = .error e → x.final s = s

section FailsClean

variable {s : σ}

theorem failsClean_query {f : σ → Except ε α} {g : α → Call ε σ β}
    (h : ∀ a, f s = .ok a → FailsClean (g a) s) : FailsClean (query f >>= g) s := by
  intro e
  unfold result final
  rw [run_query]
  cases hf : f s with
  | ok a => exact h a hf e
  | error e => exact fun _ => rfl

theorem failsClean_write (f : σ → Except ε (α × σ)) : FailsClean (write f) s := by
  intro e
  unfold result final write
  cases f s with
  | ok p => exact fun h => absurd h (by simp)
  | error e => exact fun _ => rfl

end FailsClean

/-- The call that began in the state `s` has returned with `Q`, or it has failed and left the
    state as it was. -/
def EndsClean (s : σ) (Q : α → σ → Prop) : EStateM.Result ε σ α → Prop
  | .ok a t => Q a t
  | .error _ t => t = s

section EndsClean

variable {s : σ}

theorem endsClean_query {f : σ → Except ε α} {g : α → Call ε σ β} {Q : β → σ → Prop}
    (h : ∀ a, f s = .ok a → EndsClean s Q (g a s)) : EndsClean s Q ((query f >>= g) s) := by
  rw [run_query]
  cases hf : f s with
  | ok a => exact h a hf
  | error e => rfl

theorem endsClean_write {f : σ → Except ε (α × σ)} {g : α → Call ε σ β} {Q : β → σ → Prop}
    (h : ∀ a t, f s = .ok (a, t) → EndsClean s Q (g a t)) :
    EndsClean s Q ((write f >>= g) s) := by
  rw [run_write]
  cases hf : f s with
  | ok p => exact h p.1 p.2 hf
  | error e => rfl

theorem endsClean_write_end {f : σ → Except ε (α × σ)} {Q : α → σ → Prop}
    (h : ∀ a t, f s = .ok (a, t) → Q a t) : EndsClean s Q (write f s) := by
  unfold write
  cases hf : f s with
  | ok p => exact h p.1 p.2 hf
  | error e => rfl

theorem EndsClean.final {x : Call ε σ α} {Q : α → σ → Prop} (h : EndsClean s Q (x s)) :
    x.final s = s ∨ ∃ a, Q a (x.final s) := by
  unfold Call.final
  cases hx : x s with
  | ok a t =>
    rw [hx] at h
    exact .inr ⟨a, h⟩
  | error e t =>
    rw [hx] at h
    exact .inl h

end EndsClean

end Call
