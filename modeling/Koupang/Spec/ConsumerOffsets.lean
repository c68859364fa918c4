import Koupang.ForStd.Run
import Koupang.Model.Consumer

/-!
# At-least-once consumption

`process_message` does not commit the offset of a message that ended in
`DbError` or `DlqFailed`, but the session goes on to the next message, whose
commit moves the offset past the failed one. So no message is lost exactly as
long as no offset is committed after a failed message of the session, unless that
message is settled all the same.

## Key results

- `processMessage_processes`: a message whose offset is to be committed is settled
- `committed_settled_iff`: when everything below the committed offset is settled
- `committed_not_settled`: a message is lost after a database error
-/

namespace Koupang.Consumer

/-- The message at `offset` was processed and committed, recognised as already processed,
    or published to the DLQ. -/
def State.Settled (s : State) (offset : Nat) : Prop :=
  offset ∈ s.handled ∨ offset ∈ s.skipped ∨ offset ∈ s.dlq

instance (s : State) (offset : Nat) : Decidable (s.Settled offset) :=
  inferInstanceAs (Decidable (_ ∨ _))

/-- Every message below the committed offset is settled. -/
def State.NothingLost (s : State) : Prop := ∀ offset < s.committedOffset, s.Settled offset

instance (s : State) : Decidable s.NothingLost :=
  inferInstanceAs (Decidable (∀ offset < s.committedOffset, s.Settled offset))

/-- No offset is committed after a message of the session ended in DlqFailed or DbError,
    unless that message is settled all the same: its transaction was committed although the
    answer was lost, or an earlier session had settled it. -/
def CommitsInOrder (s : State) : Label → Prop
  | .commitOffset => ∀ offset ∈ s.uncommitted, s.Settled offset
  | _ => True

instance (s : State) : ∀ a, Decidable (CommitsInOrder s a)
  | .commitOffset => inferInstanceAs (Decidable (∀ offset ∈ s.uncommitted, s.Settled offset))
  | .receive _ | .commitOffsetFails | .restart | .cleanup _ => .isTrue trivial

/-! ## One message -/

theorem tryProcessOnce_committed {processedEvents : List Uuid} {eventId : Uuid}
    {input : AttemptInput} {done : Bool}
    (h : tryProcessOnce processedEvents eventId input = (.committed, done)) : done = true := by
  unfold tryProcessOnce at h
  repeat' split at h
  all_goals cases h
  rfl

theorem publishEnvelopeToDlq_ne_success (input : ProcessInput) :
    publishEnvelopeToDlq input ≠ .success := by
  unfold publishEnvelopeToDlq
  split <;> decide

/-- A successful retry loop has committed the handler's transaction. -/
theorem retryLoop_success {processedEvents : List Uuid} {eventId : Uuid} {input : ProcessInput}
    {attempt remaining : Nat} {done : Bool}
    (h : retryLoop processedEvents eventId input attempt remaining = (.success, done)) :
    done = true := by
  have hdlq := publishEnvelopeToDlq_ne_success input
  fun_induction retryLoop processedEvents eventId input attempt remaining with
  | case1 attempt remaining done' htry =>
    cases h
    exact tryProcessOnce_committed htry
  | case2 => cases h
  | case3 => cases h
  -- a permanent error, the retries used up, a shutdown: the message goes to the DLQ
  | case4 => exact absurd (congrArg Prod.fst h) hdlq
  | case5 => exact absurd (congrArg Prod.fst h) hdlq
  | case6 => exact absurd (congrArg Prod.fst h) hdlq
  | case7 _ _ _ _ _ ih => exact ih h

/-- What processing message number `offset` in `s` does to the offsets: the message ends among
    the uncommitted ones, or it is settled and its offset is to be committed. -/
structure Processes (s t : State) (offset : Nat) : Prop where
  committedOffset : t.committedOffset = s.committedOffset
  position : t.position = s.position
  settled : ∀ k, s.Settled k → t.Settled k
  outcome : (t.uncommitted = offset :: s.uncommitted ∧ t.toCommit = s.toCommit) ∨
    (t.uncommitted = s.uncommitted ∧ t.toCommit = some offset ∧ t.Settled offset)

/-- Recording a result settles the message whose offset is to be committed. -/
theorem record_processes (s : State) (offset : Nat) (result : ProcessResult)
    (hsuccess : result = .success → offset ∈ s.handled) :
    Processes s (s.record offset result) offset := by
  cases result with
  | success => exact ⟨rfl, rfl, fun _ => id, .inr ⟨rfl, rfl, .inl (hsuccess rfl)⟩⟩
  | skipped =>
    refine ⟨rfl, rfl, fun k hk => ?_, .inr ⟨rfl, rfl, .inr (.inl (List.mem_cons_self ..))⟩⟩
    exact hk.imp_right (.imp_left (List.mem_cons_of_mem _))
  | sentToDlq =>
    refine ⟨rfl, rfl, fun k hk => ?_, .inr ⟨rfl, rfl, .inr (.inr (List.mem_cons_self ..))⟩⟩
    exact hk.imp_right (.imp_right (List.mem_cons_of_mem _))
  -- the loop goes on without a commit
  | dlqFailed => exact ⟨rfl, rfl, fun _ => id, .inl ⟨rfl, rfl⟩⟩
  | dbError => exact ⟨rfl, rfl, fun _ => id, .inl ⟨rfl, rfl⟩⟩

/-- The message at the session's position is settled, or it ends among the uncommitted ones. -/
theorem processMessage_processes (maxRetries : Nat) (s : State) (msg : Message)
    (input : ProcessInput) :
    Processes { s with position := s.position + 1 } (processMessage maxRetries s msg input)
      s.position := by
  cases msg with
  | none =>
    exact record_processes _ _ _ fun h => absurd h (publishEnvelopeToDlq_ne_success input)
  | some eventId =>
    simp only [processMessage]
    cases hresult : processWithRetry maxRetries s.processedEvents eventId input with
    | mk result done =>
      have hsuccess : result = .success → done = true := by
        rintro rfl
        exact retryLoop_success hresult
      cases done with
      | true =>
        -- the handler's transaction is committed, whatever the result
        have hrecord := record_processes
          { s with position := s.position + 1
                   processedEvents := eventId :: s.processedEvents
                   handled := s.position :: s.handled }
          s.position result fun _ => List.mem_cons_self ..
        refine ⟨hrecord.committedOffset, hrecord.position, fun k hk => ?_, hrecord.outcome⟩
        exact hrecord.settled k (hk.imp_left (List.mem_cons_of_mem _))
      | false =>
        refine record_processes _ _ _ fun h => ?_
        cases hsuccess h

/-! ## Runs -/

/-- The session has received the messages from the committed offset to its position, and
    every one of them is settled or among the uncommitted ones. -/
structure Inv (s : State) : Prop where
  le : s.committedOffset ≤ s.position
  received : ∀ k, s.committedOffset ≤ k → k < s.position → k ∈ s.uncommitted ∨ s.Settled k
  uncommitted : ∀ k ∈ s.uncommitted, k < s.position
  toCommit : ∀ m ∈ s.toCommit, m + 1 = s.position ∧ s.Settled m

theorem inv_init : Inv {} :=
  ⟨Nat.le_refl _, fun _ _ hk => absurd hk (Nat.not_lt_zero _), by simp, by simp⟩

theorem inv_processes {s t : State} (hinv : Inv s) (hnone : s.toCommit = none)
    (h : Processes { s with position := s.position + 1 } t s.position) : Inv t := by
  obtain ⟨hoffset, hposition, hsettled, houtcome⟩ := h
  dsimp only at hoffset hposition houtcome
  have hle := hinv.le
  have hold (k : Nat) (hk : k ∈ s.uncommitted) : k < s.position + 1 :=
    Nat.lt_succ_of_lt (hinv.uncommitted k hk)
  refine ⟨by omega, fun k hge hlt => ?_, fun k hk => ?_, fun m hm => ?_⟩
  · rw [hoffset] at hge
    rw [hposition] at hlt
    rcases Nat.lt_succ_iff_lt_or_eq.mp hlt with hlt | rfl
    · -- a message received before
      rcases hinv.received k hge hlt with hk | hk
      · rcases houtcome with ⟨hun, -⟩ | ⟨hun, -⟩ <;> simp [hun, hk]
      · exact .inr (hsettled k hk)
    · rcases houtcome with ⟨hun, -⟩ | ⟨-, -, hdone⟩
      · exact .inl (hun ▸ List.mem_cons_self ..)
      · exact .inr hdone
  · rw [hposition]
    rcases houtcome with ⟨hun, -⟩ | ⟨hun, -⟩
    · rw [hun, List.mem_cons] at hk
      rcases hk with rfl | hk
      · exact Nat.lt_succ_self _
      · exact hold k hk
    · exact hold k (hun ▸ hk)
  · rcases houtcome with ⟨-, hto⟩ | ⟨-, hto, hdone⟩
    · rw [hto, hnone] at hm
      cases hm
    · rw [hto] at hm
      cases hm
      exact ⟨hposition.symm, hdone⟩

/-- A step loses nothing exactly when it commits in order. -/
theorem inv_step {maxRetries : Nat} {msgs : List Message} {s t : State} {a : Label}
    (hinv : Inv s) (hP : s.NothingLost) (h : step maxRetries msgs s a = some t) :
    Inv t ∧ (t.NothingLost ↔ CommitsInOrder s a) := by
  cases a with
  | receive input =>
    simp only [step] at h
    split at h
    · cases h
    rename_i hnone
    split at h
    · rename_i msg hmsg
      cases h
      have hprocesses := processMessage_processes maxRetries s msg input
      refine ⟨inv_processes hinv (by simpa using hnone) hprocesses, iff_of_true ?_ trivial⟩
      intro k hk
      rw [hprocesses.committedOffset] at hk
      exact hprocesses.settled k (hP k hk)
    · cases h
  | commitOffset =>
    simp only [step] at h
    split at h
    · rename_i m hm
      cases h
      obtain ⟨hposition, hsettled⟩ := hinv.toCommit m hm
      refine ⟨⟨Nat.le_of_eq hposition, ?_, hinv.uncommitted, by simp⟩, ?_⟩
      · -- nothing was received after the message that is committed
        intro k hge hlt
        dsimp only at hge hlt
        omega
      constructor
      · intro hlost k hk
        exact hlost k (by have := hinv.uncommitted k hk; dsimp only; omega)
      · intro horder k hk
        by_cases hc : s.committedOffset ≤ k
        · -- the commit moves the offset past every message of the session
          rcases hinv.received k hc (hposition ▸ hk) with hun | hk
          · exact horder k hun
          · exact hk
        · exact hP k (Nat.lt_of_not_le hc)
    · cases h
  | commitOffsetFails =>
    cases h
    exact ⟨⟨hinv.le, hinv.received, hinv.uncommitted, by simp⟩, iff_of_true hP trivial⟩
  | restart =>
    cases h
    refine ⟨⟨Nat.le_refl _, fun k hge hlt => ?_, by simp, by simp⟩, iff_of_true hP trivial⟩
    -- the new session has not received anything yet
    exact absurd hlt (Nat.not_lt_of_le hge)
  | cleanup keep =>
    cases h
    exact ⟨⟨hinv.le, hinv.received, hinv.uncommitted, hinv.toCommit⟩, iff_of_true hP trivial⟩

/-- For every partition and every run of the consumer on it: every message below the
    committed offset is settled all along exactly when offsets are committed in order. -/
theorem committed_settled_iff (maxRetries : Nat) (msgs : List Message) (as : List Label)
    {s : State} (h : Run.run (step maxRetries msgs) {} as = some s) :
    (∀ u, Run.Visits (step maxRetries msgs) {} as u → u.NothingLost) ↔
      Run.Meets (step maxRetries msgs) CommitsInOrder {} as :=
  Run.run_forall_iff (fun _ _ _ hinv hP hstep => inv_step hinv hP hstep) inv_init
    (fun _ hk => absurd hk (Nat.not_lt_zero _)) h

/-- The processing of a message without faults. -/
def smooth : ProcessInput where
  attempts _ := ⟨.ok, .none⟩
  shutdown _ := false
  dlqOk := true

/-- The database cannot begin a transaction. -/
def dbDown : ProcessInput where
  attempts _ := ⟨.ok, .begin⟩
  shutdown _ := false
  dlqOk := true

/-- Two messages. -/
def twoMessages : List Message := [some ⟨0, 0⟩, some ⟨0, 1⟩]

/-- After the database error the consumer restarts before it goes on. -/
theorem committed_settled_restart :
    ∃ s, Run.run (step 3 twoMessages) {} [.receive dbDown, .restart, .receive smooth,
        .commitOffset, .receive smooth, .commitOffset] = some s ∧
      s.committedOffset = 2 ∧ s.NothingLost := by
  have hrun : (Run.run (step 3 twoMessages) {} [.receive dbDown, .restart, .receive smooth,
      .commitOffset, .receive smooth, .commitOffset]).map (·.committedOffset) = some 2 := by
    decide
  obtain ⟨s, hs, hoffset⟩ := Option.map_eq_some_iff.mp hrun
  exact ⟨s, hs, hoffset,
    (committed_settled_iff 3 twoMessages _ hs).mpr (by decide) s ⟨_, [], by simp, hs⟩⟩

/-- The first message ends in a database error, the second one is processed, and its commit
    moves the offset past both: after a restart the first one is never received again. -/
theorem committed_not_settled :
    ∃ s, Run.run (step 3 twoMessages) {} [.receive dbDown, .receive smooth, .commitOffset,
        .restart] = some s ∧
      s.committedOffset = 2 ∧ ¬ s.Settled 0 ∧ ¬ s.NothingLost := by
  have hrun : (Run.run (step 3 twoMessages) {} [.receive dbDown, .receive smooth, .commitOffset,
      .restart]).map (fun s => (s.committedOffset, decide (s.Settled 0))) = some (2, false) := by
    decide
  obtain ⟨s, hs, heq⟩ := Option.map_eq_some_iff.mp hrun
  obtain ⟨hoffset, hsettled⟩ := Prod.mk.inj heq
  have hlost : ¬ s.Settled 0 := by simpa using hsettled
  exact ⟨s, hs, hoffset, hlost, fun h => hlost (h 0 (by omega))⟩

end Koupang.Consumer
