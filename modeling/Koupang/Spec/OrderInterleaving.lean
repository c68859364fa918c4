import Koupang.ForStd.Run
import Koupang.Model.OrderInterleaving
import Koupang.Spec.OrderHistory

/-!
# Order status under interleaving

The transition is checked on the status that was read, and the `UPDATE` has no
status guard. So the committed history is a path of `transition_to` exactly as
long as no operation commits over a status that its check would have refused.

## Key results

- `interleaves_step`: the operations one after the other are among the interleavings
- `history_isStatusPath_iff`: when the history of an interleaving is a path
- `history_not_isStatusPath`: a cancellation is overwritten
-/

namespace Koupang.Order.Interleaving

/-- The operation cancels the order. -/
def Operation.IsCancellation (op : Operation) : Prop := op.target = .cancelled

instance (op : Operation) : Decidable op.IsCancellation :=
  inferInstanceAs (Decidable (_ = _))

/-- What an operation commits over is still the status it has read, or the operation is a
    cancellation and the order can still be cancelled. -/
def UpToDate (s : State) : Label → Prop
  | .commit i => ∀ r ∈ s.running i,
    s.status = r.readStatus ∨ (r.op.IsCancellation ∧ s.status.canCancel = true)
  | _ => True

instance (s : State) : ∀ a, Decidable (UpToDate s a)
  | .commit i => inferInstanceAs (Decidable (∀ r ∈ s.running i, _))
  | .read _ _ | .update _ | .rollback _ => .isTrue trivial

/-! ## Checks and writes -/

theorem passed_cancellationRules (status : OrderStatus) :
    (cancellationRules.evaluateDetailed (evalCancellation { currentStatus := status })).passed =
      status.canCancel := by
  rw [cancellationRules, Rule.passed_all_check]
  simp [evalCancellation]

/-- Every operation checks the transition to its target. -/
theorem check_iff (op : Operation) (status : OrderStatus) :
    op.check status = true ↔ Follows status op.target := by
  have hcheck (target : OrderStatus) :
      (checkTransition status target).isOk = true ↔ Follows status target := by
    rw [Follows, ← checkTransition_ok (u := ())]
    cases checkTransition status target <;> simp [Except.isOk, Except.toBool]
  cases op with
  | cancelOrder =>
    rw [Operation.check, passed_cancellationRules]
    cases status <;> decide
  | _ => exact hcheck _

/-- After its check on `status`, an operation may be committed over `status'` in two cases. -/
theorem follows_iff {op : Operation} {status status' : OrderStatus}
    (h : Follows status op.target) :
    Follows status' op.target ↔
      status' = status ∨ (op.IsCancellation ∧ status'.canCancel = true) := by
  -- a target other than Cancelled can be reached from one status only
  cases op <;> revert h <;> cases status <;> cases status' <;> decide

theorem writes_eq (op : Operation) : ∃ ws, op.writes = op.target :: ws := by
  cases op <;> exact ⟨_, rfl⟩

theorem writes_isChain (op : Operation) : op.writes.IsChain Follows := by
  cases op <;> first | exact .singleton _ | exact List.isChain_pair.mpr rfl

/-! ## The operations one after the other -/

/-- The state between two operations. -/
def State.quiet (status : OrderStatus) (history : List OrderStatus) : State :=
  { status, history }

/-- An operation that runs alone. -/
def Operation.alone (op : Operation) : List Label :=
  .read 0 op :: op.writes.map (fun _ => .update 0) ++ [.commit 0]

theorem run_alone {op : Operation} {status : OrderStatus} (h : Follows status op.target)
    (history : List OrderStatus) :
    Run.run step (.quiet status history) op.alone =
      some (.quiet (op.writes.getLastD status) (history ++ op.writes)) := by
  have hcheck := (check_iff op status).mpr h
  cases op <;>
    simp [Run.run, Operation.alone, Operation.writes, Operation.target, step, State.quiet,
      State.setRunning, State.unlock, hcheck]

section Service

variable [SerdeJson]

omit [SerdeJson] in
/-- The operation of the interleaving that an effect belongs to. -/
theorem opEffect_operation {op : Op} {status : OrderStatus} {ws : List OrderStatus}
    {evs : List EventType} (h : OpEffect op status ws evs) :
    ∃ op' : Operation, Follows status op'.target ∧ op'.writes = ws := by
  cases h with
  | cancelOrder h => exact ⟨.cancelOrder, transitionTo_cancelled.mpr h, rfl⟩
  | @handle env _ _ _ h =>
    generalize env.eventType = t at h
    cases h with
    | inventoryReserved => exact ⟨.handleInventoryReserved, rfl, rfl⟩
    | inventoryReservationFailed h =>
      exact ⟨.handleInventoryReservationFailed, transitionTo_cancelled.mpr h, rfl⟩
    | paymentAuthorized => exact ⟨.handlePaymentAuthorized, rfl, rfl⟩
    | paymentFailed h => exact ⟨.handlePaymentFailed, transitionTo_cancelled.mpr h, rfl⟩
    | paymentTimedOut h => exact ⟨.handlePaymentTimedOut, transitionTo_cancelled.mpr h, rfl⟩

/-- The service's operations, executed one after the other, are among the interleavings:
    what one of them does to an order is a run of its reads, updates and commit. -/
theorem interleaves_step {db db' : OrderDb} {op : Op} (h : Order.step db op = some db')
    {o : Uuid} {status : OrderStatus} (hstatus : db.statusOf o = some status) :
    ∃ as status', db'.statusOf o = some status' ∧
      Run.run step (.quiet status (db.history o)) as =
        some (.quiet status' (db'.history o)) := by
  rcases step_cases h with rfl | ⟨o', hcreated⟩ | ⟨o', order, ws, new, hfind, hw, -, heffect⟩
  · exact ⟨[], status, hstatus, rfl⟩
  · obtain ⟨ins, rows, items, hw, -⟩ := hcreated.wrote
    have ho : o ≠ o' := by
      rintro rfl
      simp [OrderDb.statusOf, hcreated.fresh] at hstatus
    exact ⟨[], status, (hw.statusOf_other ho).trans hstatus, by rw [hw.history_other ho]; rfl⟩
  · by_cases ho : o = o'
    · subst ho
      -- the operation runs alone, from its read to its commit
      have heq : order.status = status := by
        simpa [OrderDb.statusOf, hfind] using hstatus
      obtain ⟨op', hfollows, rfl⟩ := opEffect_operation heffect
      rw [heq] at hfollows
      refine ⟨op'.alone, _, ?_, (run_alone hfollows _).trans (by rw [hw.history])⟩
      rw [hw.statusOf, hstatus, List.getLastD_eq_getLast?]
      cases op'.writes.getLast? <;> rfl
    · exact ⟨[], status, (hw.statusOf_other ho).trans hstatus, by rw [hw.history_other ho]; rfl⟩

end Service

/-! ## Runs -/

structure Inv (s : State) : Prop where
  last : s.history.getLast? = some s.status
  running : ∀ i r, s.running i = some r →
    r.written ++ r.remaining = r.op.writes ∧ Follows r.readStatus r.op.target

theorem inv_init : Inv {} := ⟨rfl, nofun⟩

/-- Changing operation `i` keeps the invariant of the others. -/
theorem Inv.setRunning {s t : State} {i : Nat} {r : Option Running} (h : Inv s)
    (hlast : t.history.getLast? = some t.status) (hrunning : t.running = s.running)
    (hr : ∀ r', r = some r' →
      r'.written ++ r'.remaining = r'.op.writes ∧ Follows r'.readStatus r'.op.target) :
    Inv (t.setRunning i r) := by
  refine ⟨hlast, fun j r' hj => ?_⟩
  simp only [State.setRunning, hrunning, Function.update_apply] at hj
  split at hj
  · exact hr r' hj
  · exact h.running j r' hj

/-- A path is continued by the writes of an operation exactly when the transition that
    the operation checks is allowed from the path's last status. -/
theorem isStatusPath_append_writes {history : List OrderStatus} {status : OrderStatus}
    (hlast : history.getLast? = some status) (hpath : IsStatusPath history) (op : Operation) :
    IsStatusPath (history ++ op.writes) ↔ Follows status op.target := by
  obtain ⟨ws, hws⟩ := writes_eq op
  constructor
  · rintro ⟨-, hchain⟩
    exact (List.isChain_append.mp hchain).2.2 status hlast op.target (by rw [hws]; rfl)
  · intro hfollows
    have hchain := writes_isChain op
    rw [hws] at hchain ⊢
    exact hpath.append hlast (.cons_cons hfollows hchain)

/-- A step keeps the history a path exactly when it is up to date. -/
theorem inv_step {s t : State} {a : Label} (hinv : Inv s) (hpath : IsStatusPath s.history)
    (h : step s a = some t) : Inv t ∧ (IsStatusPath t.history ↔ UpToDate s a) := by
  cases a with
  | read i op =>
    simp only [step] at h
    split at h
    · exact nomatch h
    -- the check is made on the status that is read
    split at h
    · rename_i hcheck
      cases h
      refine ⟨hinv.setRunning hinv.last rfl ?_, iff_of_true hpath trivial⟩
      rintro r' ⟨⟩
      exact ⟨rfl, (check_iff op s.status).mp hcheck⟩
    · -- refused: the operation ends here
      cases h
      exact ⟨hinv, iff_of_true hpath trivial⟩
  | update i =>
    simp only [step] at h
    split at h
    · rename_i op readStatus written w remaining hr
      split at h
      · cases h
        refine ⟨hinv.setRunning hinv.last rfl ?_, iff_of_true hpath trivial⟩
        rintro r' ⟨⟩
        simpa using hinv.running i _ hr
      · exact nomatch h
    · exact nomatch h
  | commit i =>
    simp only [step] at h
    split at h
    · rename_i op readStatus written hr
      cases h
      obtain ⟨hwrites, hfollows⟩ := hinv.running i _ hr
      simp only [List.append_nil] at hwrites
      -- nothing has looked at the committed status since the read
      have hiff := isStatusPath_append_writes hinv.last hpath op
      rw [follows_iff hfollows, ← hwrites] at hiff
      refine ⟨hinv.setRunning ?_ rfl nofun, hiff.trans ?_⟩
      · simp only [State.unlock, List.getLastD_eq_getLast?, List.getLast?_append, hinv.last]
        cases written.getLast? <;> rfl
      · simp [UpToDate, hr]
    · exact nomatch h
  | rollback i =>
    simp only [step] at h
    split at h
    · cases h
      exact ⟨hinv.setRunning hinv.last rfl nofun, iff_of_true hpath trivial⟩
    · exact nomatch h

/-- In an interleaving of any number of operations, the committed status writes are a path
    of `transition_to` all along exactly when every commit is up to date. -/
theorem history_isStatusPath_iff (as : List Label) {s : State}
    (h : Run.run step {} as = some s) :
    (∀ u, Run.Visits step {} as u → IsStatusPath u.history) ↔ Run.Meets step UpToDate {} as :=
  Run.run_forall_iff (fun _ _ _ hinv hpath hstep => inv_step hinv hpath hstep) inv_init
    ⟨by decide, .singleton _⟩ h

/-- Two cancellations race with the handling of InventoryReserved; all three are committed
    up to date. -/
def racingCancellations : List Label :=
  [.read 0 .handleInventoryReserved, .read 1 .cancelOrder, .update 0, .commit 0,
   .read 2 .handlePaymentFailed, .update 1, .commit 1, .rollback 2]

theorem history_isStatusPath_racing :
    ∃ s, Run.run step {} racingCancellations = some s ∧ IsStatusPath s.history := by
  have hsome : (Run.run step {} racingCancellations).isSome := by decide
  obtain ⟨s, hs⟩ := Option.isSome_iff_exists.mp hsome
  have hpaths := (history_isStatusPath_iff racingCancellations hs).mpr (by decide)
  exact ⟨s, hs, hpaths s ⟨racingCancellations, [], by simp, hs⟩⟩

/-- The handling of PaymentAuthorized reads the status, the buyer cancels, and the handler
    commits over the cancellation. -/
def lostCancellation : List Label :=
  [.read 0 .handleInventoryReserved, .update 0, .commit 0,
   .read 1 .handlePaymentAuthorized, .read 2 .cancelOrder, .update 2, .commit 2,
   .update 1, .update 1, .commit 1]

theorem history_not_isStatusPath : ∃ s, Run.run step {} lostCancellation = some s ∧
    s.history = [.pending, .inventoryReserved, .cancelled, .paymentAuthorized, .confirmed] ∧
    s.status = .confirmed ∧ ¬ IsStatusPath s.history := by
  have hhist : (Run.run step {} lostCancellation).map (fun s => (s.history, s.status)) =
      some ([.pending, .inventoryReserved, .cancelled, .paymentAuthorized, .confirmed],
        .confirmed) := by decide
  obtain ⟨s, hs, heq⟩ := Option.map_eq_some_iff.mp hhist
  obtain ⟨hh, hst⟩ := Prod.mk.inj heq
  refine ⟨s, hs, hh, hst, ?_⟩
  rw [hh]
  rintro ⟨-, hchain⟩
  revert hchain
  decide

end Koupang.Order.Interleaving
