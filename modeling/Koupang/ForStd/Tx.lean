import Mathlib.Data.List.Forall2

/-!
# Database transactions

A transaction over tables `σ` works on its own view `db` of the tables while
the committed state `pool` stays visible to every other connection. A statement
that fails aborts the transaction: every later statement of it fails too, and
committing it is a rollback. An error that the program catches therefore does
not undo the abort, which is why the transaction's state survives `throw`
(`EStateM`, not `StateT σ (Except ε)`).

## Key results

- `bind_ok`: a sequence of computations that succeeds, taken apart
- `statement_ok`: a statement succeeds only in a transaction that is not aborted
- `attempt_db_eq`: a transaction commits, or leaves the committed tables as they are
- `attempt_keeps`: a property that the statements keep is kept by the transaction
-/

namespace Except

variable {ε α β : Type}

theorem ok_bind (a : α) (f : α → Except ε β) : (.ok a >>= f) = f a := rfl

theorem bind_eq_ok {x : Except ε α} {f : α → Except ε β} {b : β} :
    (x >>= f) = .ok b ↔ ∃ a, x = .ok a ∧ f a = .ok b := by
  cases x with
  | error e =>
    change Except.error e = .ok b ↔ _
    simp
  | ok a =>
    change f a = .ok b ↔ _
    simp

theorem map_eq_ok {x : Except ε α} {f : α → β} {b : β} :
    x.map f = .ok b ↔ ∃ a, x = .ok a ∧ f a = b := by
  cases x with
  | error e => simp [Except.map]
  | ok a => simp [Except.map]

theorem mapError_eq_ok {ε' : Type} {x : Except ε α} {f : ε → ε'} {a : α} :
    x.mapError f = .ok a ↔ x = .ok a := by
  cases x with
  | error e => simp [Except.mapError]
  | ok b => simp [Except.mapError]

theorem bind_eq_error {x : Except ε α} {f : α → Except ε β} {e : ε} :
    (x >>= f) = .error e ↔ x = .error e ∨ ∃ a, x = .ok a ∧ f a = .error e := by
  cases x with
  | error e' => simp [bind, Except.bind]
  | ok a => simp [bind, Except.bind]

theorem throw_ne_ok {e : ε} {a : α} : (throw e : Except ε α) ≠ .ok a := nofun

/-- A check whose failure ends the computation. -/
theorem guard_eq_ok {c : Prop} [Decidable c] {e : ε} {f : β → Except ε α} {x : Except ε α} {a : α} :
    (if c then (throw e >>= f) else x) = .ok a ↔ ¬ c ∧ x = .ok a := by
  by_cases hc : c
  · rw [if_pos hc]
    exact ⟨fun h => absurd h throw_ne_ok, fun h => absurd hc h.1⟩
  · rw [if_neg hc]
    exact ⟨fun h => ⟨hc, h⟩, And.right⟩

/-- A check at the end of a computation. -/
theorem guard_end_eq_ok {c : Prop} [Decidable c] {e : ε} {u : Unit} :
    (if c then throw e else pure () : Except ε Unit) = .ok u ↔ ¬ c := by
  by_cases hc : c
  · rw [if_pos hc]
    exact ⟨fun h => absurd h throw_ne_ok, fun h => absurd hc h⟩
  · rw [if_neg hc]
    exact ⟨fun _ => hc, fun _ => rfl⟩

theorem toOption_eq_some {x : Except ε α} {a : α} : x.toOption = some a ↔ x = .ok a := by
  cases x with
  | error e => simp [Except.toOption]
  | ok b => simp [Except.toOption]

theorem mapM_eq_ok {f : α → Except ε β} {as : List α} {bs : List β} :
    as.mapM f = .ok bs ↔ List.Forall₂ (fun a b => f a = .ok b) as bs := by
  induction as generalizing bs with
  | nil =>
    rw [List.forall₂_nil_left_iff]
    exact ⟨fun h => (Except.ok.inj h).symm, fun h => h ▸ rfl⟩
  | cons a as ih =>
    rw [List.mapM_cons, bind_eq_ok, List.forall₂_cons_left_iff]
    refine exists_congr fun b => ?_
    rw [bind_eq_ok]
    constructor
    · rintro ⟨hb, rest, hrest, h⟩
      cases h
      exact ⟨rest, hb, ih.mp hrest, rfl⟩
    · rintro ⟨rest, hb, hrest, rfl⟩
      exact ⟨hb, rest, ih.mpr hrest, rfl⟩

/-- What holds of every result holds of the results of a list. -/
theorem forall_of_mapM_ok {f : α → Except ε β} {P : β → Prop} (hf : ∀ a b, f a = .ok b → P b)
    {as : List α} {bs : List β} (h : as.mapM f = .ok bs) : ∀ b ∈ bs, P b := by
  have hbs := mapM_eq_ok.mp h
  clear h
  induction hbs with
  | nil => exact List.forall_mem_nil _
  | cons hb _ ih => exact List.forall_mem_cons.mpr ⟨hf _ _ hb, ih⟩

/-- Where every element has a result, so has the list. -/
theorem exists_mapM_ok {γ : Type} {f : α → Except ε β} {g : β → γ} {k : α → γ} {as : List α}
    (h : ∀ a ∈ as, ∃ b, f a = .ok b ∧ g b = k a) :
    ∃ bs, as.mapM f = .ok bs ∧ bs.map g = as.map k := by
  induction as with
  | nil => exact ⟨[], rfl, rfl⟩
  | cons a as ih =>
    obtain ⟨b, hb, hgb⟩ := h a List.mem_cons_self
    obtain ⟨bs, hbs, hmap⟩ := ih fun a' ha' => h a' (List.mem_cons_of_mem _ ha')
    refine ⟨b :: bs, ?_, ?_⟩
    · rw [List.mapM_cons, hb, hbs]
      rfl
    · rw [List.map_cons, List.map_cons, hgb, hmap]

end Except

/-- A sequence of stateful computations that succeeds, taken apart. -/
theorem EStateM.bind_eq_ok {ε σ α β : Type} {x : EStateM ε σ α} {f : α → EStateM ε σ β}
    {s u : σ} {b : β} : (x >>= f) s = .ok b u ↔ ∃ a t, x s = .ok a t ∧ f a t = .ok b u := by
  change EStateM.bind x f s = .ok b u ↔ _
  unfold EStateM.bind
  constructor
  · intro h
    split at h
    · rename_i a t hx
      exact ⟨a, t, hx, h⟩
    · exact nomatch h
  · rintro ⟨a, t, hx, hf⟩
    simp only [hx, hf]

/-- The state of a transaction opened on the committed tables `pool`. -/
structure TxState (σ : Type) where
  /-- the tables as this transaction sees them -/
  db : σ
  /-- the tables as committed, read and written by the other connections -/
  pool : σ
  /-- a statement of this transaction has failed -/
  aborted : Bool := false

/-- Computations inside a transaction over `σ`, failing with `ε`. -/
abbrev Tx (ε σ : Type) := EStateM ε (TxState σ)

namespace Tx

variable {ε ε' σ α β : Type}

/-- Open a transaction on the committed state. -/
def begin (db : σ) : TxState σ := { db, pool := db }

@[simp] theorem begin_db (db : σ) : (begin db).db = db := rfl
@[simp] theorem begin_pool (db : σ) : (begin db).pool = db := rfl
@[simp] theorem begin_aborted (db : σ) : (begin db).aborted = false := rfl

/-- What the server answers to a statement in an aborted transaction. -/
def abortedMessage : String :=
  "current transaction is aborted, commands ignored until end of transaction block"

/-- Execute one statement. `onError` says what error the caller reports. -/
def statement (onError : String → ε) (f : σ → Except String (α × σ)) : Tx ε σ α := fun s =>
  if s.aborted then
    .error (onError abortedMessage) s
  else
    match f s.db with
    | .ok (a, db) => .ok a { s with db }
    | .error e => .error (onError e) { s with aborted := true }

/-- Execute a query for one row. Finding none is an error of the client library
    (`notFound`), not of the statement: the transaction goes on. -/
def fetchOne (onError : String → ε) (notFound : String) (f : σ → Option α) : Tx ε σ α := fun s =>
  if s.aborted then
    .error (onError abortedMessage) s
  else
    match f s.db with
    | some a => .ok a s
    | none => .error (onError notFound) s

/-- Change the client's own state (a generator, say), without a statement. -/
def client (f : σ → α × σ) : Tx ε σ α := fun s =>
  let (a, db) := f s.db
  .ok a { s with db }

/-- Rust's `?` on a `Result` that does not touch the database. -/
def ofExcept : Except ε α → Tx ε σ α
  | .ok a => pure a
  | .error e => throw e

/-- Rust's `map_err`. -/
def mapErr (f : ε → ε') (x : Tx ε σ α) : Tx ε' σ α := fun s =>
  match x s with
  | .ok a s => .ok a s
  | .error e s => .error (f e) s

/-- The committed state, as a read through another connection sees it. -/
def readPool : Tx ε σ σ := fun s => .ok s.pool s

/-- Run a statement in a transaction of its own, committed at once. It survives
    a rollback of the surrounding transaction. -/
def onPool (onError : String → ε) (f : σ → Except String (α × σ)) : Tx ε σ α := fun s =>
  match f s.pool with
  | .ok (a, pool) => .ok a { s with pool }
  | .error e => .error (onError e) s

/-- Catch an error and carry on; what the transaction has done so far stays. -/
def catching (x : Tx ε σ Unit) : Tx ε σ Unit := fun s =>
  match x s with
  | .ok a t => .ok a t
  | .error _ t => .ok () t

/-- A transaction on a part `τ` of the tables, run on all of them. -/
def zoom {τ : Type} (get : σ → τ) (set : σ → τ → σ) (x : Tx ε τ α) : Tx ε σ α := fun s =>
  match x { db := get s.db, pool := get s.pool, aborted := s.aborted } with
  | .ok a t => .ok a { db := set s.db t.db, pool := set s.pool t.pool, aborted := t.aborted }
  | .error e t => .error e { db := set s.db t.db, pool := set s.pool t.pool, aborted := t.aborted }

/-- How a transaction ended, with the tables committed after it. -/
inductive Attempt (ε σ α : Type) where
  /-- the computation succeeded and its transaction was committed -/
  | committed (a : α) (db : σ)
  /-- the computation failed and its transaction was rolled back -/
  | failed (e : ε) (db : σ)
  /-- the computation succeeded but its transaction was aborted, so the commit failed -/
  | aborted (a : α) (db : σ)

/-- The tables committed after a transaction. -/
def Attempt.db : Attempt ε σ α → σ
  | .committed _ db => db
  | .failed _ db => db
  | .aborted _ db => db

/-- Run `x` as one transaction on the committed tables `db`. -/
def attempt (x : Tx ε σ α) (db : σ) : Attempt ε σ α :=
  match x (begin db) with
  | .ok a s => if s.aborted then .aborted a s.pool else .committed a s.db
  | .error e s => .failed e s.pool

theorem run_bind (x : Tx ε σ α) (f : α → Tx ε σ β) (s : TxState σ) :
    (x >>= f) s = match x s with
      | .ok a t => f a t
      | .error e t => .error e t := by
  change EStateM.bind x f s = _
  unfold EStateM.bind
  cases x s <;> rfl

theorem bind_ok {x : Tx ε σ α} {f : α → Tx ε σ β} {s u : TxState σ} {b : β} :
    (x >>= f) s = .ok b u ↔ ∃ a t, x s = .ok a t ∧ f a t = .ok b u :=
  EStateM.bind_eq_ok

theorem bind_error {x : Tx ε σ α} {f : α → Tx ε σ β} {s u : TxState σ} {e : ε} :
    (x >>= f) s = .error e u ↔
      x s = .error e u ∨ ∃ a t, x s = .ok a t ∧ f a t = .error e u := by
  rw [run_bind]
  cases x s with
  | ok a t => simp
  | error e' t => simp

/-- A loop that fails has failed at one of its elements. -/
theorem forM_error {f : α → Tx ε σ Unit} {as : List α} {s t : TxState σ} {e : ε}
    (h : as.forM f s = .error e t) : ∃ a ∈ as, ∃ u, f a u = .error e t := by
  induction as generalizing s with
  | nil => cases h
  | cons a as ih =>
    cases bind_error.mp h with
    | inl hfirst => exact ⟨a, List.mem_cons_self .., s, hfirst⟩
    | inr hrest =>
      obtain ⟨_, s', -, hrest⟩ := hrest
      obtain ⟨b, hb, u, hu⟩ := ih hrest
      exact ⟨b, List.mem_cons_of_mem a hb, u, hu⟩

theorem pure_ok {a b : α} {s t : TxState σ} :
    (pure a : Tx ε σ α) s = .ok b t ↔ a = b ∧ s = t := by
  change EStateM.pure a s = .ok b t ↔ _
  simp [EStateM.pure]

theorem statement_ok {onError : String → ε} {f : σ → Except String (α × σ)}
    {s t : TxState σ} {a : α} :
    statement onError f s = .ok a t ↔
      s.aborted = false ∧ ∃ db, f s.db = .ok (a, db) ∧ t = { s with db } := by
  unfold statement
  cases hs : s.aborted with
  | true => simp
  | false =>
    -- an error of the statement aborts the transaction
    cases hf : f s.db with
    | error e => simp
    | ok p =>
      obtain ⟨b, db⟩ := p
      simp only [Bool.false_eq_true, if_false, EStateM.Result.ok.injEq, true_and,
        Except.ok.injEq, Prod.mk.injEq]
      constructor
      · rintro ⟨rfl, rfl⟩
        exact ⟨db, ⟨rfl, rfl⟩, rfl⟩
      · rintro ⟨db', ⟨rfl, rfl⟩, rfl⟩
        exact ⟨rfl, rfl⟩

theorem statement_error {onError : String → ε} {f : σ → Except String (α × σ)} {s t : TxState σ}
    {e : ε} (h : statement onError f s = .error e t) :
    ∃ m, e = onError m ∧ (m = abortedMessage ∨ f s.db = .error m) := by
  unfold statement at h
  by_cases hab : s.aborted = true
  · rw [if_pos hab] at h
    cases h
    exact ⟨abortedMessage, rfl, .inl rfl⟩
  · rw [if_neg hab] at h
    cases hf : f s.db with
    | ok p =>
      rw [hf] at h
      cases h
    | error m =>
      rw [hf] at h
      cases h
      exact ⟨m, rfl, .inr rfl⟩

theorem fetchOne_ok {onError : String → ε} {notFound : String} {f : σ → Option α}
    {s t : TxState σ} {a : α} :
    fetchOne onError notFound f s = .ok a t ↔
      s.aborted = false ∧ f s.db = some a ∧ t = s := by
  unfold fetchOne
  cases hs : s.aborted with
  | true => simp
  | false =>
    cases hf : f s.db with
    | none => simp
    | some b =>
      simp only [Bool.false_eq_true, if_false, EStateM.Result.ok.injEq, true_and,
        Option.some.injEq]
      exact and_congr_right fun _ => eq_comm

theorem client_ok {f : σ → α × σ} {s t : TxState σ} {a : α} :
    (client f : Tx ε σ α) s = .ok a t ↔
      (f s.db).1 = a ∧ t = { s with db := (f s.db).2 } := by
  simp only [client, EStateM.Result.ok.injEq]
  exact and_congr_right fun _ => eq_comm

theorem throw_ok {e : ε} {s t : TxState σ} {a : α} :
    ¬ (throw e : Tx ε σ α) s = .ok a t := by
  change ¬ EStateM.Result.error e s = .ok a t
  simp

theorem ofExcept_ok {r : Except ε α} {s t : TxState σ} {a : α} :
    ofExcept r s = .ok a t ↔ r = .ok a ∧ s = t := by
  cases r with
  | error e =>
    change EStateM.Result.error e s = _ ↔ _
    simp
  | ok b =>
    rw [ofExcept, pure_ok]
    simp

theorem mapErr_ok {f : ε → ε'} {x : Tx ε σ α} {s t : TxState σ} {a : α} :
    mapErr f x s = .ok a t ↔ x s = .ok a t := by
  unfold mapErr
  cases x s with
  | ok b u => simp
  | error e u => simp

theorem mapErr_error {f : ε → ε'} {x : Tx ε σ α} {s t : TxState σ} {e : ε'}
    (h : mapErr f x s = .error e t) : ∃ e', e = f e' := by
  unfold mapErr at h
  split at h
  · exact nomatch h
  · cases h
    exact ⟨_, rfl⟩

theorem readPool_ok {s t : TxState σ} {db : σ} :
    (readPool : Tx ε σ σ) s = .ok db t ↔ s.pool = db ∧ s = t := by
  simp [readPool]

/-! ## Computations that leave the committed tables alone -/

/-- The committed tables after `x` are those before it, whether it failed or not. -/
def KeepsPool (x : Tx ε σ α) : Prop :=
  ∀ s, match x s with
    | .ok _ t => t.pool = s.pool
    | .error _ t => t.pool = s.pool

@[simp] theorem keepsPool_pure (a : α) : KeepsPool (pure a : Tx ε σ α) := fun _ => rfl

@[simp] theorem keepsPool_ofExcept (r : Except ε α) : KeepsPool (ofExcept r : Tx ε σ α) := by
  intro s
  cases r <;> rfl

@[simp] theorem keepsPool_throw (e : ε) : KeepsPool (throw e : Tx ε σ α) := fun _ => rfl

@[simp] theorem keepsPool_client (f : σ → α × σ) : KeepsPool (client f : Tx ε σ α) := fun _ => rfl

@[simp] theorem keepsPool_fetchOne (onError : String → ε) (notFound : String) (f : σ → Option α) :
    KeepsPool (fetchOne onError notFound f) := by
  intro s
  unfold fetchOne
  cases s.aborted <;> cases f s.db <;> rfl

@[simp] theorem keepsPool_readPool : KeepsPool (readPool : Tx ε σ σ) := fun _ => rfl

@[simp] theorem keepsPool_statement (onError : String → ε) (f : σ → Except String (α × σ)) :
    KeepsPool (statement onError f) := by
  intro s
  unfold statement
  cases s.aborted <;> cases f s.db <;> rfl

@[simp] theorem keepsPool_bind {x : Tx ε σ α} {f : α → Tx ε σ β}
    (hx : KeepsPool x) (hf : ∀ a, KeepsPool (f a)) : KeepsPool (x >>= f) := by
  intro s
  have hxs := hx s
  change (match EStateM.bind x f s with
    | .ok _ t => t.pool = s.pool
    | .error _ t => t.pool = s.pool)
  unfold EStateM.bind
  cases h : x s with
  | error e t => simpa only [h] using hxs
  | ok a t =>
    simp only [h] at hxs
    -- `f a` starts from the pool that `x` has left alone
    have hfa := hf a t
    simp only [hxs] at hfa
    exact hfa

@[simp] theorem keepsPool_mapErr {g : ε → ε'} {x : Tx ε σ α} (hx : KeepsPool x) :
    KeepsPool (mapErr g x) := by
  intro s
  have hxs := hx s
  unfold mapErr
  cases h : x s <;> simpa only [h] using hxs

theorem keepsPool_forM {f : α → Tx ε σ Unit} (hf : ∀ a, KeepsPool (f a)) (as : List α) :
    KeepsPool (as.forM f) := by
  induction as with
  | nil => exact keepsPool_pure _
  | cons a as ih => exact keepsPool_bind (hf a) fun _ => ih

/-! ## Computations that keep a property of the tables -/

/-- Where `x` succeeds, its view of the tables still has the property. -/
def Keeps (P : σ → Prop) (x : Tx ε σ α) : Prop :=
  ∀ s t a, x s = .ok a t → P s.db → P t.db

section Keeps

variable {P : σ → Prop}

theorem keeps_of_same {x : Tx ε σ α} (hx : ∀ s t a, x s = .ok a t → t.db = s.db) :
    Keeps P x := by
  intro s t a h hs
  rw [hx s t a h]
  exact hs

theorem keeps_pure (a : α) : Keeps P (pure a : Tx ε σ α) :=
  keeps_of_same fun _ _ _ h => by rw [(pure_ok.mp h).2]

theorem keeps_ofExcept (r : Except ε α) : Keeps P (ofExcept r : Tx ε σ α) :=
  keeps_of_same fun _ _ _ h => by rw [(ofExcept_ok.mp h).2]

theorem keeps_fetchOne (onError : String → ε) (notFound : String) (f : σ → Option α) :
    Keeps P (fetchOne onError notFound f) :=
  keeps_of_same fun _ _ _ h => by rw [(fetchOne_ok.mp h).2.2]

theorem keeps_statement {onError : String → ε} {f : σ → Except String (α × σ)}
    (hf : ∀ db a db', f db = .ok (a, db') → P db → P db') : Keeps P (statement onError f) := by
  intro s t a h hs
  obtain ⟨-, db, hdb, rfl⟩ := statement_ok.mp h
  exact hf s.db a db hdb hs

theorem keeps_bind {x : Tx ε σ α} {f : α → Tx ε σ β} (hx : Keeps P x) (hf : ∀ a, Keeps P (f a)) :
    Keeps P (x >>= f) := by
  intro s u b h hs
  obtain ⟨a, t, hxs, hft⟩ := bind_ok.mp h
  exact hf a t u b hft (hx s t a hxs hs)

theorem keeps_mapErr {g : ε → ε'} {x : Tx ε σ α} (hx : Keeps P x) : Keeps P (mapErr g x) := by
  intro s t a h hs
  exact hx s t a (mapErr_ok.mp h) hs

theorem keeps_forM {f : α → Tx ε σ Unit} (hf : ∀ a, Keeps P (f a)) (as : List α) :
    Keeps P (as.forM f) := by
  induction as with
  | nil => exact keeps_pure _
  | cons a as ih => exact keeps_bind (hf a) fun _ => ih

end Keeps

theorem attempt_eq_committed {x : Tx ε σ α} {db db' : σ} {a : α} :
    attempt x db = .committed a db' ↔
      ∃ s, x (begin db) = .ok a s ∧ s.aborted = false ∧ s.db = db' := by
  unfold attempt
  cases hr : x (begin db) with
  | error e s => simp
  | ok b s =>
    simp only [EStateM.Result.ok.injEq]
    split
    -- committing an aborted transaction is a rollback
    · rename_i hab
      simp only [reduceCtorEq, false_iff]
      rintro ⟨t, ⟨-, rfl⟩, hab', -⟩
      exact absurd (hab.symm.trans hab') (by simp)
    · rename_i hab
      simp only [Attempt.committed.injEq]
      constructor
      · rintro ⟨rfl, rfl⟩
        exact ⟨s, ⟨rfl, rfl⟩, by simpa using hab, rfl⟩
      · rintro ⟨t, ⟨rfl, rfl⟩, -, rfl⟩
        exact ⟨rfl, rfl⟩

theorem attempt_eq_failed {x : Tx ε σ α} {db db' : σ} {e : ε}
    (h : attempt x db = .failed e db') : ∃ s, x (begin db) = .error e s := by
  unfold attempt at h
  split at h
  · split at h
    · exact nomatch h
    · exact nomatch h
  · rename_i hx
    cases h
    exact ⟨_, hx⟩

/-- What a transaction on a part of the tables leaves is put back into all of them. -/
theorem attempt_zoom {τ : Type} (get : σ → τ) (set : σ → τ → σ) (x : Tx ε τ α) (db : σ) :
    (attempt (zoom get set x) db).db = set db (attempt x (get db)).db := by
  have hbegin : zoom get set x (begin db) = match x (begin (get db)) with
    | .ok a t => .ok a { db := set db t.db, pool := set db t.pool, aborted := t.aborted }
    | .error e t => .error e { db := set db t.db, pool := set db t.pool, aborted := t.aborted } :=
    rfl
  unfold attempt
  rw [hbegin]
  cases x (begin (get db)) with
  | error e t => rfl
  | ok a t =>
    cases hab : t.aborted with
    | true => simp [hab, Attempt.db]
    | false => simp [hab, Attempt.db]

/-- A transaction that leaves the committed tables alone either commits or changes nothing. -/
theorem attempt_db_eq {x : Tx ε σ α} (hx : KeepsPool x) (db : σ) :
    (∃ a, attempt x db = .committed a (attempt x db).db) ∨ (attempt x db).db = db := by
  have hpool := hx (begin db)
  unfold attempt
  cases hr : x (begin db) with
  | error e s =>
    rw [hr] at hpool
    exact .inr hpool
  | ok a s =>
    rw [hr] at hpool
    dsimp only
    split
    · exact .inr hpool
    · exact .inl ⟨a, rfl⟩

/-- A property that a transaction keeps is kept by the committed tables, however it ends. -/
theorem attempt_keeps {P : σ → Prop} {x : Tx ε σ α} (hpool : KeepsPool x) (hx : Keeps P x) {db : σ}
    (h : P db) : P (attempt x db).db := by
  rcases attempt_db_eq hpool db with ⟨a, hcommitted⟩ | hsame
  · obtain ⟨s, hs, -, hdb⟩ := attempt_eq_committed.mp hcommitted
    rw [← hdb]
    exact hx _ _ _ hs h
  · rw [hsame]
    exact h

end Tx
