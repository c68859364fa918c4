import Koupang.ForStd.Run
import Koupang.ForStd.Table
import Koupang.ForStd.Tx

/-!
# Transactions under READ COMMITTED, statement by statement

A program is a tree of the statements it sends, each with a continuation for
every answer. Any number of programs run concurrently, each in a transaction:

- a statement sees the rows committed by now and the transaction's own writes;
- a write locks its row, or the unique key it inserts, until the transaction
  ends, and a statement that would write a locked row waits;
- a statement that fails aborts its transaction;
- a statement on another connection (`Conn.pool`) is committed at once.

`Prog.toTx` runs the same program alone, as one transaction of `Tx`.

## Key results

- `toTx_bind`: running alone is compatible with sequencing
- `wp_bind`, `wp_forEach`: rules for what a program's statements do, in order
- `wp_of_sends`: a program whose statements leave the ghost state alone
- `count_le`: at most so many statements of a kind
- `step_cases`: what a step of the concurrent programs can do
- `exclusive_step`: no two transactions have written the same row
- `Inv`: invariants of the state and of every session, along the protocol
-/

namespace ReadCommitted

/-! ## Programs -/

/-- The statements on the tables `σ`, with their answers and what they write. -/
structure Database (σ : Type) where
  Stmt : Type
  Result : Stmt → Type
  /-- what the outside world answers while a statement is executed -/
  Input : Type
  Write : Type
  Key : Type
  [decEqKey : DecidableEq Key]
  exec : (s : Stmt) → Input → σ → Except String (Result s × List Write)
  apply : σ → Write → σ
  /-- what a write locks; a write that locks nothing (drawing from a generator) takes
      effect at once and is not rolled back -/
  key : Write → Option Key

attribute [instance] Database.decEqKey

/-- Where a statement is sent. -/
inductive Conn where
  /-- the program's transaction -/
  | tx
  /-- a connection of its own -/
  | pool
  /-- nowhere: the client answers itself -/
  | client
deriving DecidableEq, Repr

variable {σ ε ε' α β γ ι : Type} {D : Database σ}

/-- A program: it has ended, or it sends a statement and goes on with the answer. -/
inductive Prog (D : Database σ) (ε α : Type) where
  | done (r : Except ε α)
  | stmt (c : Conn) (s : D.Stmt) (k : Except String (D.Result s) → Prog D ε α)

namespace Prog

def bind (x : Prog D ε α) (f : α → Prog D ε β) : Prog D ε β :=
  match x with
  | .done (.ok a) => f a
  | .done (.error e) => .done (.error e)
  | .stmt c s k => .stmt c s fun r => (k r).bind f

instance : Monad (Prog D ε) where
  pure a := .done (.ok a)
  bind := bind

/-- Rust's `return Err(e)`. -/
def fail (e : ε) : Prog D ε α := .done (.error e)

/-- Rust's `?` on a `Result` that does not touch the database. -/
def ofExcept (r : Except ε α) : Prog D ε α := .done r

/-- The `Result` of a program, for the caller to match on. -/
def attempt (x : Prog D ε α) : Prog D ε' (Except ε α) :=
  match x with
  | .done r => .done (.ok r)
  | .stmt c s k => .stmt c s fun r => (k r).attempt

/-- Send a statement; `onError` says what error the caller reports. -/
def send (c : Conn) (onError : String → ε) (s : D.Stmt) : Prog D ε (D.Result s) :=
  .stmt c s fun
    | .ok a => .done (.ok a)
    | .error e => .done (.error (onError e))

/-- Rust's `map_err`. -/
def mapErr (f : ε → ε') (x : Prog D ε α) : Prog D ε' α :=
  match x with
  | .done r => .done (r.mapError f)
  | .stmt c s k => .stmt c s fun r => (k r).mapErr f

/-- Query one row. Finding none is an error of the client library (`notFound`). -/
def fetchOne (onError : String → ε) (notFound : String) (s : D.Stmt)
    (row : D.Result s → Option β) : Prog D ε β :=
  (send .tx onError s).bind fun a =>
    match row a with
    | some b => .done (.ok b)
    | none => .done (.error (onError notFound))

/-- For each element of a list, in order, until one fails. -/
def forEach (f : β → Prog D ε Unit) : List β → Prog D ε Unit
  | [] => .done (.ok ())
  | b :: bs => (f b).bind fun _ => forEach f bs

end Prog

/-- The tables after some writes. -/
def view (D : Database σ) (writes : List D.Write) (db : σ) : σ := writes.foldl D.apply db

@[simp] theorem view_nil (db : σ) : view D [] db = db := rfl

/-! ## A program alone -/

namespace Prog

/-- The program as a transaction of its own, with no other one running. -/
def toTx (input : D.Input) (x : Prog D ε α) : Tx ε σ α := fun s =>
  match x with
  | .done (.ok a) => .ok a s
  | .done (.error e) => .error e s
  | .stmt .tx st k =>
    if s.aborted then (k (.error Tx.abortedMessage)).toTx input s
    else match D.exec st input s.db with
      | .ok (a, ws) => (k (.ok a)).toTx input { s with db := view D ws s.db }
      | .error e => (k (.error e)).toTx input { s with aborted := true }
  | .stmt .pool st k =>
    match D.exec st input s.pool with
    | .ok (a, ws) => (k (.ok a)).toTx input { s with pool := view D ws s.pool }
    | .error e => (k (.error e)).toTx input s
  | .stmt .client st k =>
    match D.exec st input s.db with
    | .ok (a, ws) => (k (.ok a)).toTx input { s with db := view D ws s.db }
    | .error e => (k (.error e)).toTx input s

theorem toTx_bind (input : D.Input) (x : Prog D ε α) (f : α → Prog D ε β) :
    (x >>= f).toTx input = x.toTx input >>= fun a => (f a).toTx input := by
  change (x.bind f).toTx input = EStateM.bind (x.toTx input) fun a => (f a).toTx input
  induction x with
  | done r => cases r <;> rfl
  | stmt c s k ih =>
    funext t
    -- both sides send the statement, and go on with the same answer
    cases c with
    | tx =>
      simp only [bind, toTx, EStateM.bind]
      split
      · rw [ih]
        rfl
      · split <;> rw [ih] <;> rfl
    | pool =>
      simp only [bind, toTx, EStateM.bind]
      split <;> rw [ih] <;> rfl
    | client =>
      simp only [bind, toTx, EStateM.bind]
      split <;> rw [ih] <;> rfl

/-- A statement alone, as `Tx.statement` executes it. -/
theorem toTx_send (input : D.Input) (onError : String → ε) (s : D.Stmt) :
    (send .tx onError s).toTx input =
      Tx.statement onError fun db => (D.exec s input db).map fun p => (p.1, view D p.2 db) := by
  funext t
  simp only [send, toTx, Tx.statement]
  split
  · rfl
  · cases D.exec s input t.db <;> rfl

theorem toTx_send_pool (input : D.Input) (onError : String → ε) (s : D.Stmt) :
    (send .pool onError s).toTx input =
      Tx.onPool onError fun db => (D.exec s input db).map fun p => (p.1, view D p.2 db) := by
  funext t
  simp only [send, toTx, Tx.onPool]
  cases D.exec s input t.pool <;> rfl

theorem toTx_fetchOne (input : D.Input) (onError : String → ε) (notFound : String) (s : D.Stmt)
    (row : D.Result s → Option β) (f : σ → D.Result s)
    (hexec : ∀ db, D.exec s input db = .ok (f db, [])) :
    (fetchOne onError notFound s row).toTx input =
      Tx.fetchOne onError notFound fun db => row (f db) := by
  change (send .tx onError s >>= _).toTx input = _
  rw [toTx_bind, toTx_send]
  funext ⟨db, pool, aborted⟩
  simp only [Bind.bind, EStateM.bind, Tx.statement, Tx.fetchOne, hexec, Except.map]
  cases aborted with
  | true => rfl
  | false =>
    simp only [Bool.false_eq_true, if_false]
    cases row (f db) <;> rfl

theorem toTx_mapErr (input : D.Input) (f : ε → ε') (x : Prog D ε α) :
    (x.mapErr f).toTx input = Tx.mapErr f (x.toTx input) := by
  induction x with
  | done r => cases r <;> rfl
  | stmt c s k ih =>
    funext t
    cases c with
    | tx =>
      simp only [mapErr, toTx, Tx.mapErr]
      split
      · rw [ih]
        rfl
      · split <;> rw [ih] <;> rfl
    | pool =>
      simp only [mapErr, toTx, Tx.mapErr]
      split <;> rw [ih] <;> rfl
    | client =>
      simp only [mapErr, toTx, Tx.mapErr]
      split <;> rw [ih] <;> rfl

/-- Matching on the result of a program that runs alone. -/
theorem toTx_attempt (input : D.Input) (x : Prog D ε α) (t : TxState σ) :
    (x.attempt : Prog D ε' (Except ε α)).toTx input t =
      match x.toTx input t with
      | .ok a t => .ok (.ok a) t
      | .error e t => .ok (.error e) t := by
  induction x generalizing t with
  | done r => cases r <;> rfl
  | stmt c s k ih =>
    cases c with
    | tx =>
      simp only [attempt, toTx]
      split
      · rw [ih]
      · split <;> rw [ih]
    | pool =>
      simp only [attempt, toTx]
      split <;> rw [ih]
    | client =>
      simp only [attempt, toTx]
      split <;> rw [ih]

theorem toTx_forEach (input : D.Input) (f : β → Prog D ε Unit) (bs : List β) :
    (forEach f bs).toTx input = bs.forM fun b => (f b).toTx input := by
  induction bs with
  | nil => rfl
  | cons b bs ih =>
    change ((f b) >>= fun _ => forEach f bs).toTx input = _
    rw [toTx_bind, ih]
    rfl

end Prog

/-! ## What a program's statements do, in order -/

/-- A discipline on the statements of a program: in the ghost state `g`, a statement is sent
    only if `pre` allows it, and its answer leads to a ghost state that `next` relates. -/
structure Protocol (D : Database σ) (γ : Type) where
  pre : γ → Conn → D.Stmt → Prop
  next : γ → Conn → (s : D.Stmt) → Except String (D.Result s) → γ → Prop

namespace Prog

variable {A : Protocol D γ}

/-- From the ghost state `g`, the program keeps to the protocol, and `Q` holds when it ends. -/
def wp (A : Protocol D γ) (x : Prog D ε α) (Q : γ → Except ε α → Prop) (g : γ) : Prop :=
  match x with
  | .done r => Q g r
  | .stmt c s k => A.pre g c s ∧ ∀ r g', A.next g c s r g' → (k r).wp A Q g'

theorem wp_mono {x : Prog D ε α} {Q Q' : γ → Except ε α → Prop} {g : γ} (h : x.wp A Q g)
    (hQ : ∀ g r, Q g r → Q' g r) : x.wp A Q' g := by
  induction x generalizing g with
  | done r => exact hQ g r h
  | stmt c s k ih => exact ⟨h.1, fun r g' hnext => ih r (h.2 r g' hnext)⟩

theorem wp_bind {x : Prog D ε α} {f : α → Prog D ε β} {Q : γ → Except ε β → Prop} {g : γ}
    (h : x.wp A (fun g' r => match r with
      | .ok a => (f a).wp A Q g'
      | .error e => Q g' (.error e)) g) : (x >>= f).wp A Q g := by
  change (x.bind f).wp A Q g
  induction x generalizing g with
  | done r => cases r <;> exact h
  | stmt c s k ih => exact ⟨h.1, fun r g' hnext => ih r (h.2 r g' hnext)⟩

/-- The result of a program that has ended, handed on. -/
theorem wp_bind_done {r : Except ε α} {f : α → Prog D ε β} {Q : γ → Except ε β → Prop} {g : γ}
    (hok : ∀ a, r = .ok a → (f a).wp A Q g) (herror : ∀ e, r = .error e → Q g (.error e)) :
    ((.done r : Prog D ε α) >>= f).wp A Q g := by
  cases r with
  | ok a => exact hok a rfl
  | error e => exact herror e rfl

theorem wp_attempt {x : Prog D ε α} {Q : γ → Except ε' (Except ε α) → Prop} {g : γ}
    (h : x.wp A (fun g' r => Q g' (.ok r)) g) : x.attempt.wp A Q g := by
  induction x generalizing g with
  | done r => exact h
  | stmt c s k ih => exact ⟨h.1, fun r g' hnext => ih r (h.2 r g' hnext)⟩

theorem wp_mapErr {f : ε → ε'} {x : Prog D ε α} {Q : γ → Except ε' α → Prop} {g : γ}
    (h : x.wp A (fun g' r => Q g' (r.mapError f)) g) : (x.mapErr f).wp A Q g := by
  induction x generalizing g with
  | done r => exact h
  | stmt c s k ih => exact ⟨h.1, fun r g' hnext => ih r (h.2 r g' hnext)⟩

theorem wp_send {c : Conn} {onError : String → ε} {s : D.Stmt}
    {Q : γ → Except ε (D.Result s) → Prop} {g : γ} (hpre : A.pre g c s)
    (hok : ∀ a g', A.next g c s (.ok a) g' → Q g' (.ok a))
    (herror : ∀ e g', A.next g c s (.error e) g' → Q g' (.error (onError e))) :
    (send c onError s).wp A Q g := by
  refine ⟨hpre, fun r g' hnext => ?_⟩
  cases r with
  | ok a => exact hok a g' hnext
  | error e => exact herror e g' hnext

theorem wp_fetchOne {onError : String → ε} {notFound : String} {s : D.Stmt}
    {row : D.Result s → Option β} {Q : γ → Except ε β → Prop} {g : γ} (hpre : A.pre g .tx s)
    (hsome : ∀ a b g', A.next g .tx s (.ok a) g' → row a = some b → Q g' (.ok b))
    (hnone : ∀ a g', A.next g .tx s (.ok a) g' → row a = none → Q g' (.error (onError notFound)))
    (herror : ∀ e g', A.next g .tx s (.error e) g' → Q g' (.error (onError e))) :
    (fetchOne onError notFound s row).wp A Q g := by
  refine wp_bind (wp_send hpre (fun a g' hnext => ?_) herror)
  dsimp only
  split
  · rename_i b hrow
    exact hsome a b g' hnext hrow
  · rename_i hrow
    exact hnone a g' hnext hrow

/-- A loop whose body leads from `g` back to `g`, or fails. -/
theorem wp_forEach {f : β → Prog D ε Unit} {bs : List β} {Q : γ → Except ε Unit → Prop} {g : γ}
    (hbody : ∀ b ∈ bs, (f b).wp A (fun g' r => match r with
      | .ok _ => g' = g
      | .error e => Q g' (.error e)) g)
    (hQ : Q g (.ok ())) : (forEach f bs).wp A Q g := by
  induction bs with
  | nil => exact hQ
  | cons b bs ih =>
    refine wp_bind (wp_mono (hbody b (List.mem_cons_self ..)) fun g' r h => ?_)
    cases r with
    | error e => exact h
    | ok u =>
      subst h
      exact ih fun b' hb' => hbody b' (List.mem_cons_of_mem _ hb')

/-! ## What a program may send -/

/-- Every statement that the program may send satisfies `P`. -/
def Sends (P : Conn → D.Stmt → Prop) : Prog D ε α → Prop
  | .done _ => True
  | .stmt c s k => P c s ∧ ∀ r, (k r).Sends P

variable {P P' : Conn → D.Stmt → Prop}

theorem Sends.mono {x : Prog D ε α} (h : x.Sends P) (hP : ∀ c s, P c s → P' c s) :
    x.Sends P' := by
  induction x with
  | done r => trivial
  | stmt c s k ih => exact ⟨hP c s h.1, fun r => ih r (h.2 r)⟩

theorem sends_bind {x : Prog D ε α} {f : α → Prog D ε β} (hx : x.Sends P)
    (hf : ∀ a, (f a).Sends P) : (x >>= f).Sends P := by
  change (x.bind f).Sends P
  induction x with
  | done r =>
    cases r with
    | ok a => exact hf a
    | error e => trivial
  | stmt c s k ih => exact ⟨hx.1, fun r => ih r (hx.2 r)⟩

/-- The result of a program that has ended, handed on. -/
theorem sends_bind_done {r : Except ε α} {f : α → Prog D ε β}
    (h : ∀ a, r = .ok a → (f a).Sends P) : ((.done r : Prog D ε α) >>= f).Sends P := by
  cases r with
  | ok a => exact h a rfl
  | error e => trivial

theorem sends_attempt {x : Prog D ε α} (h : x.Sends P) :
    (x.attempt : Prog D ε' (Except ε α)).Sends P := by
  induction x with
  | done r => trivial
  | stmt c s k ih => exact ⟨h.1, fun r => ih r (h.2 r)⟩

theorem sends_mapErr {f : ε → ε'} {x : Prog D ε α} (h : x.Sends P) : (x.mapErr f).Sends P := by
  induction x with
  | done r => trivial
  | stmt c s k ih => exact ⟨h.1, fun r => ih r (h.2 r)⟩

theorem sends_send {c : Conn} {onError : String → ε} {s : D.Stmt} (h : P c s) :
    (send c onError s).Sends P := by
  refine ⟨h, fun r => ?_⟩
  cases r <;> trivial

theorem sends_fetchOne {onError : String → ε} {notFound : String} {s : D.Stmt}
    {row : D.Result s → Option β} (h : P .tx s) : (fetchOne onError notFound s row).Sends P := by
  refine sends_bind (sends_send h) fun a => ?_
  split <;> trivial

theorem sends_forEach {f : β → Prog D ε Unit} {bs : List β} (h : ∀ b ∈ bs, (f b).Sends P) :
    (forEach f bs).Sends P := by
  induction bs with
  | nil => trivial
  | cons b bs ih =>
    exact sends_bind (h b (List.mem_cons_self ..)) fun _ =>
      ih fun b' hb' => h b' (List.mem_cons_of_mem _ hb')

/-- A program that sends only statements which leave the ghost state `g` as it is. -/
theorem wp_of_sends {x : Prog D ε α} {g : γ} (h : x.Sends P)
    (hP : ∀ c s, P c s → A.pre g c s ∧ ∀ r g', A.next g c s r g' → g' = g) :
    x.wp A (fun g' _ => g' = g) g := by
  induction x with
  | done r => rfl
  | stmt c s k ih =>
    refine ⟨(hP c s h.1).1, fun r g' hnext => ?_⟩
    cases (hP c s h.1).2 r g' hnext
    exact ih r (h.2 r)

/-! ### How many statements a program sends -/

/-- How many statements of the kind `p` the program sends, when it runs alone. -/
def count (p : D.Stmt → Bool) (input : D.Input) (x : Prog D ε α) : TxState σ → Nat := fun t =>
  match x with
  | .done _ => 0
  | .stmt .tx s k =>
    (p s).toNat +
      if t.aborted then (k (.error Tx.abortedMessage)).count p input t
      else match D.exec s input t.db with
        | .ok (a, ws) => (k (.ok a)).count p input { t with db := view D ws t.db }
        | .error e => (k (.error e)).count p input { t with aborted := true }
  | .stmt .pool s k =>
    (p s).toNat +
      match D.exec s input t.pool with
      | .ok (a, ws) => (k (.ok a)).count p input { t with pool := view D ws t.pool }
      | .error e => (k (.error e)).count p input t
  | .stmt .client s k =>
    (p s).toNat +
      match D.exec s input t.db with
      | .ok (a, ws) => (k (.ok a)).count p input { t with db := view D ws t.db }
      | .error e => (k (.error e)).count p input t

/-- At most as many statements of the kind `p` as the ghost state says. -/
def limit (p : D.Stmt → Bool) : Protocol D Nat where
  pre n _ s := p s = true → 0 < n
  next n _ s _ n' := n' = n - (p s).toNat

theorem count_le {p : D.Stmt → Bool} {input : D.Input} {x : Prog D ε α}
    {Q : Nat → Except ε α → Prop} {n : Nat} (h : x.wp (limit p) Q n) (t : TxState σ) :
    x.count p input t ≤ n := by
  induction x generalizing n t with
  | done r => exact Nat.zero_le n
  | stmt c s k ih =>
    obtain ⟨hpre, hnext⟩ := h
    have hrest (r : Except String (D.Result s)) (t : TxState σ) :
        (p s).toNat + (k r).count p input t ≤ n := by
      have hle := ih r (hnext r _ rfl) t
      cases hp : p s with
      | false => simpa [hp] using hle
      | true =>
        have hpos : 0 < n := hpre hp
        simp only [hp, Bool.toNat_true] at hle ⊢
        omega
    cases c with
    | tx =>
      simp only [count]
      split
      · exact hrest _ _
      · split <;> exact hrest _ _
    | pool =>
      simp only [count]
      split <;> exact hrest _ _
    | client =>
      simp only [count]
      split <;> exact hrest _ _

end Prog

/-! ## Concurrent programs -/

/-- A program in its transaction. -/
structure Session (D : Database σ) (ι ε α : Type) where
  id : Nat
  request : ι
  prog : Prog D ε α
  /-- what the transaction has written and not yet committed -/
  writes : List D.Write := []
  aborted : Bool := false

/-- A committed transaction. -/
structure Commit (D : Database σ) (ι α : Type) where
  request : ι
  result : α
  writes : List D.Write

structure State (D : Database σ) (ι ε α : Type) where
  committed : σ
  sessions : Table (fun se : Session D ι ε α => se.id) := .empty
  history : List (Commit D ι α) := []

inductive Label (D : Database σ) (ι : Type) where
  /-- session `i` begins a transaction -/
  | start (i : Nat) (request : ι)
  /-- session `i` executes its next statement -/
  | exec (i : Nat) (input : D.Input)
  /-- the next statement of session `i` fails on its way -/
  | fault (i : Nat) (error : String)
  | commit (i : Nat)
  /-- session `i` rolls back, or its process dies -/
  | rollback (i : Nat)

namespace State

/-- Another transaction than that of session `i` has written a row of these writes. -/
def locked (s : State D ι ε α) (i : Option Nat) (writes : List D.Write) : Bool :=
  s.sessions.rows.any fun se => some se.id ≠ i && writes.any fun w =>
    (D.key w).isSome && se.writes.any fun w' => D.key w' = D.key w

def put (s : State D ι ε α) (se : Session D ι ε α) : State D ι ε α :=
  { s with sessions := s.sessions.set se }

def drop (s : State D ι ε α) (i : Nat) : State D ι ε α :=
  { s with sessions := s.sessions.filter (·.id ≠ i) }

end State

/-- The writes that take effect at once. -/
def immediate (D : Database σ) (writes : List D.Write) : List D.Write :=
  writes.filter fun w => (D.key w).isNone

/-- The writes that are committed or rolled back with their transaction. -/
def transactional (D : Database σ) (writes : List D.Write) : List D.Write :=
  writes.filter fun w => (D.key w).isSome

/-- The next statement of a session, executed. A statement that has to wait is not enabled. -/
def execStmt (s : State D ι ε α) (se : Session D ι ε α) (c : Conn) (st : D.Stmt)
    (k : Except String (D.Result st) → Prog D ε α) (input : D.Input) :
    Option (State D ι ε α) :=
  match c with
  | .tx =>
    if se.aborted then
      some (s.put { se with prog := k (.error Tx.abortedMessage) })
    else match D.exec st input (view D se.writes s.committed) with
      | .error e => some (s.put { se with prog := k (.error e), aborted := true })
      | .ok (a, ws) =>
        if s.locked (some se.id) ws then none
        else
          let committed := view D (immediate D ws) s.committed
          let writes := se.writes ++ transactional D ws
          some ({ s with committed }.put { se with prog := k (.ok a), writes })
  | .pool | .client =>
    match D.exec st input s.committed with
    | .error e => some (s.put { se with prog := k (.error e) })
    | .ok (a, ws) =>
      if s.locked none ws then none
      else some ({ s with committed := view D ws s.committed }.put { se with prog := k (.ok a) })

/-- One step of the programs `code`. -/
def step (code : ι → Prog D ε α) (s : State D ι ε α) : Label D ι → Option (State D ι ε α)
  | .start i request =>
    match s.sessions.find? i with
    | some _ => none
    | none => some (s.put { id := i, request, prog := code request })
  | .exec i input =>
    match s.sessions.find? i with
    | some se =>
      match se.prog with
      | .stmt c st k => execStmt s se c st k input
      | .done _ => none
    | none => none
  | .fault i e =>
    match s.sessions.find? i with
    | some se =>
      match se.prog with
      | .stmt c _ k =>
        some (s.put { se with prog := k (.error e), aborted := se.aborted || c = .tx })
      | .done _ => none
    | none => none
  | .commit i =>
    match s.sessions.find? i with
    | some se =>
      match se.prog with
      | .done (.ok result) =>
        -- committing an aborted transaction is a rollback
        if se.aborted then some (s.drop i)
        else
          let commit : Commit D ι α := { request := se.request, result, writes := se.writes }
          some ({ s with committed := view D se.writes s.committed
                         history := s.history ++ [commit] }.drop i)
      | _ => none
    | none => none
  | .rollback i =>
    match s.sessions.find? i with
    | some _ => some (s.drop i)
    | none => none

section Step

variable {code : ι → Prog D ε α} {s t : State D ι ε α}

/-- What holds of every session after one of them went on. -/
theorem State.forall_put {P : Session D ι ε α → Prop} {se : Session D ι ε α} :
    (∀ x ∈ (s.put se).sessions.rows, P x) ↔
      P se ∧ ∀ x ∈ s.sessions.rows, x.id ≠ se.id → P x := by
  simp only [State.put, Table.mem_set]
  constructor
  · exact fun h => ⟨h se (.inl rfl), fun x hx hne => h x (.inr ⟨hx, hne⟩)⟩
  · rintro ⟨hse, h⟩ x (rfl | ⟨hx, hne⟩)
    · exact hse
    · exact h x hx hne

theorem State.forall_drop {P : Session D ι ε α → Prop} {i : Nat} :
    (∀ x ∈ (s.drop i).sessions.rows, P x) ↔ ∀ x ∈ s.sessions.rows, x.id ≠ i → P x := by
  simp only [State.drop, Table.mem_filter, decide_eq_true_eq]
  exact ⟨fun h x hx hne => h x ⟨hx, hne⟩, fun h x hx => h x hx.1 hx.2⟩

/-- The label has session `i` send its next statement. -/
def Label.Sends (label : Label D ι) (i : Nat) : Prop :=
  (∃ input, label = .exec i input) ∨ ∃ e, label = .fault i e

/-- What a step can do. -/
inductive Step (code : ι → Prog D ε α) (s : State D ι ε α) :
    Label D ι → State D ι ε α → Prop
  | start {i : Nat} {request : ι} (hfree : s.sessions.find? i = none) :
    Step code s (.start i request) (s.put { id := i, request, prog := code request })
  /-- a statement of a transaction is executed -/
  | exec {se : Session D ι ε α} {st : D.Stmt} {k : Except String (D.Result st) → Prog D ε α}
    {input : D.Input} {a : D.Result st} {ws : List D.Write} (hse : se ∈ s.sessions.rows)
    (hprog : se.prog = .stmt .tx st k) (hab : se.aborted = false)
    (hexec : D.exec st input (view D se.writes s.committed) = .ok (a, ws))
    (hfree : s.locked (some se.id) ws = false) :
    Step code s (.exec se.id input) ({ s with committed := view D (immediate D ws) s.committed }.put
      { se with prog := k (.ok a), writes := se.writes ++ transactional D ws })
  /-- a statement of a transaction fails, and the transaction is aborted -/
  | abort {se : Session D ι ε α} {st : D.Stmt} {k : Except String (D.Result st) → Prog D ε α}
    {e : String} {label : Label D ι} (hlabel : label.Sends se.id) (hse : se ∈ s.sessions.rows)
    (hprog : se.prog = .stmt .tx st k) :
    Step code s label (s.put { se with prog := k (.error e), aborted := true })
  /-- a statement on another connection is executed and committed -/
  | pool {se : Session D ι ε α} {c : Conn} {st : D.Stmt}
    {k : Except String (D.Result st) → Prog D ε α} {input : D.Input} {a : D.Result st}
    {ws : List D.Write} (hse : se ∈ s.sessions.rows) (hprog : se.prog = .stmt c st k)
    (hc : c ≠ .tx) (hexec : D.exec st input s.committed = .ok (a, ws))
    (hfree : s.locked none ws = false) :
    Step code s (.exec se.id input)
      ({ s with committed := view D ws s.committed }.put { se with prog := k (.ok a) })
  /-- a statement on another connection fails -/
  | poolError {se : Session D ι ε α} {c : Conn} {st : D.Stmt}
    {k : Except String (D.Result st) → Prog D ε α} {e : String} {label : Label D ι}
    (hlabel : label.Sends se.id) (hse : se ∈ s.sessions.rows) (hprog : se.prog = .stmt c st k)
    (hc : c ≠ .tx)
    (hexec : ∀ input, label = .exec se.id input → D.exec st input s.committed = .error e) :
    Step code s label (s.put { se with prog := k (.error e) })
  | commit {se : Session D ι ε α} {result : α} (hse : se ∈ s.sessions.rows)
    (hprog : se.prog = .done (.ok result)) (hab : se.aborted = false) :
    Step code s (.commit se.id)
      ({ s with committed := view D se.writes s.committed
                history := s.history ++
                  [({ request := se.request, result, writes := se.writes } : Commit D ι α)] }.drop
        se.id)
  /-- a transaction is rolled back, also when an aborted one is to be committed -/
  | drop {se : Session D ι ε α} {label : Label D ι} (hse : se ∈ s.sessions.rows)
    (hlabel : label = .rollback se.id ∨ label = .commit se.id ∧ se.aborted = true) :
    Step code s label (s.drop se.id)

theorem execStmt_cases {se : Session D ι ε α} (hse : se ∈ s.sessions.rows) {c : Conn}
    {st : D.Stmt} {k : Except String (D.Result st) → Prog D ε α} (hprog : se.prog = .stmt c st k)
    {input : D.Input} (h : execStmt s se c st k input = some t) :
    Step code s (.exec se.id input) t := by
  unfold execStmt at h
  split at h
  · split at h
    · -- a statement after an error
      rename_i hab
      cases h
      have hstep : Step code s (.exec se.id input)
          (s.put { se with prog := k (.error Tx.abortedMessage), aborted := true }) :=
        .abort (.inl ⟨input, rfl⟩) hse hprog
      rwa [← hab] at hstep
    · rename_i hab
      split at h
      · cases h
        exact .abort (.inl ⟨input, rfl⟩) hse hprog
      · rename_i hexec
        split at h
        · exact nomatch h
        · rename_i hlocked
          cases h
          exact .exec hse hprog (by simpa using hab) hexec (by simpa using hlocked)
  all_goals
    split at h
    · rename_i hexec
      cases h
      refine .poolError (.inl ⟨input, rfl⟩) hse hprog nofun fun input' heq => ?_
      cases heq
      exact hexec
    · rename_i hexec
      split at h
      · exact nomatch h
      · rename_i hlocked
        cases h
        exact .pool hse hprog nofun hexec (by simpa using hlocked)

theorem step_cases {label : Label D ι} (h : step code s label = some t) :
    Step code s label t := by
  cases label with
  | start i request =>
    simp only [step] at h
    split at h
    · cases h
    · rename_i hfree
      cases h
      exact .start hfree
  | exec i input =>
    simp only [step] at h
    split at h
    · rename_i se hfind
      obtain ⟨hse, rfl⟩ := (Table.find?_eq_some_iff ..).mp hfind
      split at h
      · rename_i hprog
        exact execStmt_cases hse hprog h
      · cases h
    · cases h
  | fault i e =>
    simp only [step] at h
    split at h
    · rename_i se hfind
      obtain ⟨hse, rfl⟩ := (Table.find?_eq_some_iff ..).mp hfind
      split at h
      · rename_i c st k hprog
        cases h
        cases c with
        | tx =>
          simp only [decide_true, Bool.or_true]
          exact .abort (.inr ⟨e, rfl⟩) hse hprog
        | pool =>
          simp only [reduceCtorEq, decide_false, Bool.or_false]
          exact .poolError (.inr ⟨e, rfl⟩) hse hprog (by decide) fun _ heq => by cases heq
        | client =>
          simp only [reduceCtorEq, decide_false, Bool.or_false]
          exact .poolError (.inr ⟨e, rfl⟩) hse hprog (by decide) fun _ heq => by cases heq
      · cases h
    · cases h
  | commit i =>
    simp only [step] at h
    split at h
    · rename_i se hfind
      obtain ⟨hse, rfl⟩ := (Table.find?_eq_some_iff ..).mp hfind
      split at h
      · rename_i hprog
        split at h
        · rename_i hab
          cases h
          exact .drop hse (.inr ⟨rfl, hab⟩)
        · rename_i hab
          cases h
          exact .commit hse hprog (by simpa using hab)
      · cases h
    · cases h
  | rollback i =>
    simp only [step] at h
    split at h
    · rename_i se hfind
      obtain ⟨hse, rfl⟩ := (Table.find?_eq_some_iff ..).mp hfind
      cases h
      exact .drop hse (.inl rfl)
    · cases h

/-- The statement that an `exec` step executes. -/
theorem step_exec {i : Nat} {input : D.Input} (h : step code s (.exec i input) = some t) :
    ∃ se ∈ s.sessions.rows, se.id = i ∧ ∃ c st k, se.prog = .stmt c st k ∧
      execStmt s se c st k input = some t := by
  simp only [step] at h
  split at h
  · rename_i se hfind
    obtain ⟨hse, hid⟩ := (Table.find?_eq_some_iff ..).mp hfind
    split at h
    · rename_i c st k hprog
      exact ⟨se, hse, hid, c, st, k, hprog, h⟩
    · cases h
  · cases h

/-- A statement of a transaction, when its answer is known to be no error. -/
theorem execStmt_tx_ok {se : Session D ι ε α} {st : D.Stmt}
    {k : Except String (D.Result st) → Prog D ε α} {input : D.Input} {a : D.Result st}
    {ws : List D.Write} (h : execStmt s se .tx st k input = some t) (hab : se.aborted = false)
    (hexec : D.exec st input (view D se.writes s.committed) = .ok (a, ws)) :
    s.locked (some se.id) ws = false ∧
      t = { s with committed := view D (immediate D ws) s.committed }.put
        { se with prog := k (.ok a), writes := se.writes ++ transactional D ws } := by
  unfold execStmt at h
  dsimp only at h
  rw [if_neg (by simp [hab]), hexec] at h
  dsimp only at h
  split at h
  · cases h
  · rename_i hlocked
    cases h
    exact ⟨by simpa using hlocked, rfl⟩

/-- A statement outside of the transaction, when its answer is known to be no error. -/
theorem execStmt_pool_ok {se : Session D ι ε α} {c : Conn} {st : D.Stmt}
    {k : Except String (D.Result st) → Prog D ε α} {input : D.Input} {a : D.Result st}
    {ws : List D.Write} (h : execStmt s se c st k input = some t) (hc : c ≠ .tx)
    (hexec : D.exec st input s.committed = .ok (a, ws)) :
    s.locked none ws = false ∧
      t = { s with committed := view D ws s.committed }.put { se with prog := k (.ok a) } := by
  cases c with
  | tx => exact absurd rfl hc
  | _ =>
    simp only [execStmt, hexec] at h
    split at h
    · cases h
    · rename_i hlocked
      cases h
      exact ⟨by simpa using hlocked, rfl⟩

/-! ## Locks -/

/-- No two transactions have written the same row. -/
def Exclusive (s : State D ι ε α) : Prop :=
  ∀ se ∈ s.sessions.rows, ∀ se' ∈ s.sessions.rows, se.id ≠ se'.id →
    ∀ w ∈ se.writes, ∀ w' ∈ se'.writes, (D.key w).isSome → D.key w ≠ D.key w'

theorem locked_eq_false {i : Option Nat} {ws : List D.Write} :
    s.locked i ws = false ↔ ∀ se ∈ s.sessions.rows, some se.id ≠ i →
      ∀ w ∈ ws, (D.key w).isSome → ∀ w' ∈ se.writes, D.key w' ≠ D.key w := by
  simp [State.locked]

theorem mem_transactional {w : D.Write} {ws : List D.Write} :
    w ∈ transactional D ws ↔ w ∈ ws ∧ (D.key w).isSome := by
  simp [transactional]

/-- Locks stay exclusive when a session goes on with more writes, of rows nobody else wrote. -/
theorem Exclusive.put (h : Exclusive s) {se se' : Session D ι ε α} (hse : se ∈ s.sessions.rows)
    (hid : se'.id = se.id) {ws : List D.Write} (hwrites : se'.writes = se.writes ++ ws)
    (hfree : ∀ x ∈ s.sessions.rows, x.id ≠ se.id → ∀ w ∈ ws, (D.key w).isSome →
      ∀ w' ∈ x.writes, D.key w' ≠ D.key w)
    (hsessions : t.sessions = s.sessions) : Exclusive (t.put se') := by
  have hnew : ∀ x ∈ s.sessions.rows, x.id ≠ se'.id → ∀ w ∈ se'.writes, ∀ w' ∈ x.writes,
      (D.key w).isSome → D.key w ≠ D.key w' := by
    intro x hx hne w hw w' hw' hsome
    rw [hid] at hne
    rw [hwrites, List.mem_append] at hw
    rcases hw with hw | hw
    · exact h se hse x hx (Ne.symm hne) w hw w' hw' hsome
    · exact (hfree x hx hne w hw hsome w' hw').symm
  refine State.forall_put.mpr ⟨State.forall_put.mpr ⟨fun hne => absurd rfl hne, ?_⟩, ?_⟩
  · rw [hsessions]
    exact fun x hx hne _ => hnew x hx hne
  · rw [hsessions]
    refine fun x hx hne => State.forall_put.mpr ⟨fun _ w hw w' hw' hsome heq => ?_, ?_⟩
    · exact hnew x hx hne w' hw' w hw (heq ▸ hsome) heq.symm
    · rw [hsessions]
      exact fun y hy _ => h x hx y hy

theorem Exclusive.drop (h : Exclusive s) {i : Nat} (hsessions : t.sessions = s.sessions) :
    Exclusive (t.drop i) := by
  refine State.forall_drop.mpr ?_
  rw [hsessions]
  refine fun x hx _ => State.forall_drop.mpr ?_
  rw [hsessions]
  exact fun y hy _ => h x hx y hy

theorem exclusive_step {label : Label D ι} (h : Exclusive s) (hstep : Step code s label t) :
    Exclusive t := by
  have hsame {se : Session D ι ε α} (hse : se ∈ s.sessions.rows) {u : State D ι ε α}
      (hu : u.sessions = s.sessions) {se' : Session D ι ε α} (hid : se'.id = se.id)
      (hwrites : se'.writes = se.writes) : Exclusive (u.put se') :=
    h.put hse hid (hwrites.trans (List.append_nil _).symm) (by simp) hu
  cases hstep with
  | @start i request hfree =>
    have hne := (Table.find?_eq_none_iff ..).mp hfree
    refine State.forall_put.mpr ⟨State.forall_put.mpr ⟨fun h => absurd rfl h, nofun⟩, ?_⟩
    intro x hx _
    refine State.forall_put.mpr ⟨nofun, fun y hy _ => h x hx y hy⟩
  | exec hse hprog hab hexec hfree =>
    refine h.put hse rfl rfl (fun x hx hne w hw hsome => ?_) rfl
    exact locked_eq_false.mp hfree x hx (by simpa using hne) w (mem_transactional.mp hw).1 hsome
  | abort _ hse hprog => exact hsame hse rfl rfl rfl
  | pool hse hprog hc hexec hfree => exact hsame hse rfl rfl rfl
  | poolError _ hse hprog hc => exact hsame hse rfl rfl rfl
  | commit hse hprog hab => exact h.drop rfl
  | drop hse _ => exact h.drop rfl

/-! ## Invariants -/

/-- An invariant of the concurrent programs: `I` holds of the state, and every session is in a
    ghost state `g` from which its program keeps to the protocol, with `K` known of it. -/
structure Inv (A : Protocol D γ) (Q : γ → Except ε α → Prop) (I : State D ι ε α → Prop)
    (K : State D ι ε α → γ → Session D ι ε α → Prop) (s : State D ι ε α) : Prop where
  exclusive : Exclusive s
  state : I s
  sessions : ∀ se ∈ s.sessions.rows, ∃ g, K s g se ∧ se.prog.wp A Q g

variable {A : Protocol D γ} {Q : γ → Except ε α → Prop} {I : State D ι ε α → Prop}
  {K : State D ι ε α → γ → Session D ι ε α → Prop} {se : Session D ι ε α}

theorem Inv.init {db : σ} (h : I { committed := db }) : Inv A Q I K { committed := db } :=
  ⟨fun _ hse => absurd hse List.not_mem_nil, h, fun _ hse => absurd hse List.not_mem_nil⟩

/-- The statement that a session sends next is allowed, and any answer leads on. -/
theorem Inv.stmt (h : Inv A Q I K s) (hse : se ∈ s.sessions.rows) {c : Conn} {st : D.Stmt}
    {k : Except String (D.Result st) → Prog D ε α} (hprog : se.prog = .stmt c st k) :
    ∃ g, K s g se ∧ A.pre g c st ∧ ∀ r g', A.next g c st r g' → (k r).wp A Q g' := by
  obtain ⟨g, hK, hwp⟩ := h.sessions se hse
  rw [hprog] at hwp
  exact ⟨g, hK, hwp.1, hwp.2⟩

/-- What is known of a session whose program has ended. -/
theorem Inv.done (h : Inv A Q I K s) (hse : se ∈ s.sessions.rows) {r : Except ε α}
    (hprog : se.prog = .done r) : ∃ g, K s g se ∧ Q g r := by
  obtain ⟨g, hK, hwp⟩ := h.sessions se hse
  rw [hprog] at hwp
  exact ⟨g, hK, hwp⟩

/-- One session begins or goes on. -/
theorem Inv.put (h : Inv A Q I K s) {u : State D ι ε α} (hexcl : Exclusive (u.put se))
    (hsessions : u.sessions = s.sessions) (hstate : I (u.put se))
    (hse : ∃ g, K (u.put se) g se ∧ se.prog.wp A Q g)
    (hothers : ∀ x ∈ s.sessions.rows, x.id ≠ se.id → ∀ g, K s g x → K (u.put se) g x) :
    Inv A Q I K (u.put se) := by
  refine ⟨hexcl, hstate, State.forall_put.mpr ⟨hse, ?_⟩⟩
  rw [hsessions]
  intro x hx hne
  obtain ⟨g, hK, hwp⟩ := h.sessions x hx
  exact ⟨g, hothers x hx hne g hK, hwp⟩

/-- One session ends. -/
theorem Inv.drop (h : Inv A Q I K s) {u : State D ι ε α} {i : Nat} (hexcl : Exclusive (u.drop i))
    (hsessions : u.sessions = s.sessions) (hstate : I (u.drop i))
    (hothers : ∀ x ∈ s.sessions.rows, x.id ≠ i → ∀ g, K s g x → K (u.drop i) g x) :
    Inv A Q I K (u.drop i) := by
  refine ⟨hexcl, hstate, State.forall_drop.mpr ?_⟩
  rw [hsessions]
  intro x hx hne
  obtain ⟨g, hK, hwp⟩ := h.sessions x hx
  exact ⟨g, hothers x hx hne g hK, hwp⟩

end Step

end ReadCommitted
