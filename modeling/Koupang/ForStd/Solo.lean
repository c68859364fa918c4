import Koupang.ForStd.ReadCommitted

/-!
# A transaction while nobody else works

A program in its transaction, executed from its first statement to its last one
on tables that nobody else changes meanwhile. The environment answers for the
outside world, and may let any statement fail on its way.

What the program writes in its transaction is kept apart from what is committed
at once, so that the caller can commit or roll back.

## Key results

- `run_solo`: the steps of a session that is alone
-/

namespace ReadCommitted

variable {σ ε ε' α β ι : Type} {D : Database σ}

/-- The environment, statement by statement. -/
structure Env (D : Database σ) where
  input : Nat → D.Input
  fault : Nat → Option String := fun _ => none

/-- How far a program has come. -/
structure Solo (D : Database σ) where
  /-- what was committed at once -/
  outside : List D.Write := []
  /-- what the transaction has written and not yet committed -/
  writes : List D.Write := []
  aborted : Bool := false
  /-- how many statements were sent -/
  sent : Nat := 0

namespace Prog

/-- Execute the program on the tables `db`. -/
def solo (env : Env D) (db : σ) (x : Prog D ε α) (s : Solo D) : Except ε α × Solo D :=
  match x with
  | .done r => (r, s)
  | .stmt c st k =>
    let next := { s with sent := s.sent + 1 }
    match env.fault s.sent with
    | some e => (k (.error e)).solo env db { next with aborted := s.aborted || c = .tx }
    | none =>
      if c = .tx then
        if s.aborted then (k (.error Tx.abortedMessage)).solo env db next
        else match D.exec st (env.input s.sent) (view D s.writes (view D s.outside db)) with
          | .error e => (k (.error e)).solo env db { next with aborted := true }
          | .ok (a, ws) => (k (.ok a)).solo env db
            { next with outside := s.outside ++ immediate D ws
                        writes := s.writes ++ transactional D ws }
      else match D.exec st (env.input s.sent) (view D s.outside db) with
        | .error e => (k (.error e)).solo env db next
        | .ok (a, ws) => (k (.ok a)).solo env db { next with outside := s.outside ++ ws }

variable {env : Env D} {db : σ}

/-! ### What a statement does -/

section Stmt

variable {c : Conn} {st : D.Stmt} {k : Except String (D.Result st) → Prog D ε α} {s : Solo D}

theorem solo_fault {e : String} (hfault : env.fault s.sent = some e) :
    (Prog.stmt c st k).solo env db s = (k (.error e)).solo env db
      { s with sent := s.sent + 1, aborted := s.aborted || c = .tx } := by
  rw [solo]
  simp only [hfault]

theorem solo_aborted (hfault : env.fault s.sent = none) (hab : s.aborted = true) :
    (Prog.stmt .tx st k).solo env db s =
      (k (.error Tx.abortedMessage)).solo env db { s with sent := s.sent + 1 } := by
  rw [solo]
  simp only [hfault, hab, if_true]

theorem solo_error {e : String} (hfault : env.fault s.sent = none) (hab : s.aborted = false)
    (hexec : D.exec st (env.input s.sent) (view D s.writes (view D s.outside db)) = .error e) :
    (Prog.stmt .tx st k).solo env db s =
      (k (.error e)).solo env db { s with sent := s.sent + 1, aborted := true } := by
  rw [solo]
  simp only [hfault, hab, hexec, if_true, Bool.false_eq_true, if_false]

theorem solo_ok {a : D.Result st} {ws : List D.Write} (hfault : env.fault s.sent = none)
    (hab : s.aborted = false)
    (hexec : D.exec st (env.input s.sent) (view D s.writes (view D s.outside db)) =
      .ok (a, ws)) :
    (Prog.stmt .tx st k).solo env db s = (k (.ok a)).solo env db
      { s with sent := s.sent + 1, outside := s.outside ++ immediate D ws
               writes := s.writes ++ transactional D ws } := by
  rw [solo]
  simp only [hfault, hab, hexec, if_true, Bool.false_eq_true, if_false]

theorem solo_pool_error {e : String} (hfault : env.fault s.sent = none) (hc : c ≠ .tx)
    (hexec : D.exec st (env.input s.sent) (view D s.outside db) = .error e) :
    (Prog.stmt c st k).solo env db s =
      (k (.error e)).solo env db { s with sent := s.sent + 1 } := by
  rw [solo]
  simp only [hfault, hc, hexec, if_false]

theorem solo_pool_ok {a : D.Result st} {ws : List D.Write} (hfault : env.fault s.sent = none)
    (hc : c ≠ .tx) (hexec : D.exec st (env.input s.sent) (view D s.outside db) = .ok (a, ws)) :
    (Prog.stmt c st k).solo env db s = (k (.ok a)).solo env db
      { s with sent := s.sent + 1, outside := s.outside ++ ws } := by
  rw [solo]
  simp only [hfault, hc, hexec, if_false]

/-- A statement that could be executed either fails on its way, or is executed. -/
theorem solo_send (onError : String → ε) (s : Solo D) {a : D.Result st} {ws : List D.Write}
    (hexec : D.exec st (env.input s.sent) (view D s.writes (view D s.outside db)) =
      .ok (a, ws)) :
    (∃ e t, (send .tx onError st).solo env db s = (.error e, t) ∧ t.outside = s.outside) ∨
      s.aborted = false ∧ (send .tx onError st).solo env db s =
        (.ok a, { s with sent := s.sent + 1, outside := s.outside ++ immediate D ws
                         writes := s.writes ++ transactional D ws }) := by
  unfold send
  cases hfault : env.fault s.sent with
  | some e =>
    rw [solo_fault hfault]
    exact .inl ⟨_, _, rfl, rfl⟩
  | none =>
    cases hab : s.aborted with
    | true =>
      rw [solo_aborted hfault hab]
      exact .inl ⟨_, _, rfl, rfl⟩
    | false =>
      rw [solo_ok hfault hab hexec]
      exact .inr ⟨rfl, by simp only [solo, hab]⟩

end Stmt

end Prog

/-! ## A session that is alone -/

/-- The state in which session `i` has come so far, and no other one is there. -/
def alone (db : σ) (i : Nat) (request : ι) (x : Prog D ε α) (s : Solo D) : State D ι ε α where
  committed := view D s.outside db
  sessions := Table.empty.set
    { id := i, request, prog := x, writes := s.writes, aborted := s.aborted }

theorem find?_alone (db : σ) (i : Nat) (request : ι) (x : Prog D ε α) (s : Solo D) :
    (alone db i request x s).sessions.find? i =
      some { id := i, request, prog := x, writes := s.writes, aborted := s.aborted } := by
  unfold alone
  rw [Table.find?_set, if_pos rfl]

/-- The session goes on. -/
theorem put_alone (db : σ) (i : Nat) (request : ι) (x y : Prog D ε α) (s t : Solo D) :
    { alone db i request x s with committed := view D t.outside db }.put
        { id := i, request, prog := y, writes := t.writes, aborted := t.aborted } =
      alone db i request y t := by
  unfold State.put alone
  simp only [Table.set_set]

/-- Alone, a session waits for no lock. -/
theorem locked_alone (db : σ) (i : Nat) (request : ι) (x : Prog D ε α) (s : Solo D)
    (ws : List D.Write) : (alone db i request x s).locked (some i) ws = false := by
  rw [locked_eq_false]
  intro se hse hne
  rcases (Table.mem_set ..).mp hse with rfl | ⟨hmem, -⟩
  · exact absurd rfl hne
  · cases hmem

section Run

variable {code : ι → Prog D ε α} {env : Env D} {db : σ} {i : Nat} {request : ι} {st : D.Stmt}
  {k : Except String (D.Result st) → Prog D ε α} {s : Solo D}

/-- The next statement fails on its way. -/
theorem step_fault_alone (e : String) :
    step code (alone db i request (.stmt .tx st k) s) (.fault i e) =
      some (alone db i request (k (.error e))
        { s with sent := s.sent + 1, aborted := true }) := by
  simp only [step, find?_alone, decide_true, Bool.or_true]
  exact congrArg some (put_alone db i request (.stmt .tx st k) (k (.error e)) s
    { s with sent := s.sent + 1, aborted := true })

/-- The next statement is executed. -/
theorem step_exec_alone (input : D.Input) :
    step code (alone db i request (.stmt .tx st k) s) (.exec i input) =
      if s.aborted then
        some (alone db i request (k (.error Tx.abortedMessage)) { s with sent := s.sent + 1 })
      else match D.exec st input (view D s.writes (view D s.outside db)) with
        | .error e => some (alone db i request (k (.error e))
          { s with sent := s.sent + 1, aborted := true })
        | .ok (a, ws) => some (alone db i request (k (.ok a))
          { s with sent := s.sent + 1, outside := s.outside ++ immediate D ws
                   writes := s.writes ++ transactional D ws }) := by
  have hput (r : Except String (D.Result st)) (t : Solo D) :=
    congrArg some (put_alone db i request (.stmt .tx st k) (k r) s t)
  simp only [step, find?_alone, execStmt]
  split
  · exact hput (.error Tx.abortedMessage) { s with sent := s.sent + 1 }
  · rename_i hab
    change (match D.exec st input (view D s.writes (view D s.outside db)) with
      | .error e => _
      | .ok (a, ws) => _) = _
    cases D.exec st input (view D s.writes (view D s.outside db)) with
    | error e => exact hput (.error e) { s with sent := s.sent + 1, aborted := true }
    | ok p =>
      obtain ⟨a, ws⟩ := p
      have h := hput (.ok a) { s with
        sent := s.sent + 1, outside := s.outside ++ immediate D ws
        writes := s.writes ++ transactional D ws }
      simp only [locked_alone, Bool.false_eq_true, if_false]
      rw [← h]
      have hview : view D (s.outside ++ immediate D ws) db =
          view D (immediate D ws) (view D s.outside db) := List.foldl_append ..
      simp only [hview]
      rfl

/-- A session that is alone takes the steps of `solo`, and is where `solo` ends. -/
theorem run_solo {x : Prog D ε α} (hx : x.Sends fun c _ => c = .tx) (s : Solo D) :
    ∃ labels, Run.run (step code) (alone db i request x s) labels =
      some (alone db i request (.done (x.solo env db s).1) (x.solo env db s).2) := by
  induction x generalizing s with
  | done r => exact ⟨[], rfl⟩
  | stmt c st k ih =>
    obtain ⟨rfl, hk⟩ := hx
    -- after the step for the next statement, the rest of the program follows
    have hnext {label : Label D ι} {r : Except String (D.Result st)} {t : Solo D}
        (hstep : step code (alone db i request (.stmt .tx st k) s) label =
          some (alone db i request (k r) t)) :
        ∃ labels, Run.run (step code) (alone db i request (.stmt .tx st k) s) labels =
          some (alone db i request (.done ((k r).solo env db t).1) ((k r).solo env db t).2) := by
      obtain ⟨labels, hrun⟩ := ih r (hk r) t
      exact ⟨label :: labels, by rw [Run.run_cons hstep, hrun]⟩
    have hexec : step code (alone db i request (.stmt .tx st k) s)
      (.exec i (env.input s.sent)) = _ := step_exec_alone (env.input s.sent)
    simp only [Prog.solo, if_true]
    split
    · rename_i e hfault
      simp only [decide_true, Bool.or_true]
      exact hnext (step_fault_alone e)
    · split
      · rename_i hab
        rw [if_pos hab] at hexec
        exact hnext hexec
      · rename_i hab
        rw [if_neg hab] at hexec
        split <;> rename_i hresult <;> rw [hresult] at hexec <;> exact hnext hexec

end Run

end ReadCommitted
