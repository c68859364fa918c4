import Mathlib.Algebra.Order.BigOperators.Group.List
import Mathlib.Data.List.MinMax
import Koupang.ForStd.List
import Koupang.Spec.EventDelivery
import Koupang.Spec.OutboxEscalation

/-!
# Nothing gets stuck on the way to the consumers

Whatever has crashed and failed: once the locks of crashed relays have become stale
and the back-offs are over, one relay can publish every pending event, and consumers
that restart can then read everything that is on the topics. The measure of the relay
is the number of pending rows, that of a consumer the messages above its offset.

## Key results

- `exists_drained`: the relays can publish every pending event
- `exists_caughtUp`: a consumer can settle every message
- `delivery_completes`: after every run, each event can still be delivered
-/

namespace Koupang.Outbox

variable {config : Nat → RelayConfig} {s t u : State}

/-! ## Locks -/

/-- A row that is locked says since when. -/
def Timed (e : OutboxEvent) : Prop := e.lockedBy.isSome → e.lockedAt.isSome

theorem timed_unlocked {e : OutboxEvent} (h : e.lockedBy = none) : Timed e := by
  intro hlocked
  rw [h] at hlocked
  cases hlocked

theorem timed_update {set : OutboxEvent → OutboxEvent} {e : OutboxEvent} (h : Timed e)
    (hset : Timed (set e)) : Timed (e.update set) := by
  unfold OutboxEvent.update
  dsimp only
  split
  · exact hset
  · exact h

theorem timed_updateEvents {cond : OutboxEvent → Bool} {set : OutboxEvent → OutboxEvent}
    (h : ∀ e ∈ s.events.rows, Timed e) (hset : ∀ e, Timed (set e)) :
    ∀ e ∈ (s.updateEvents cond set).events.rows, Timed e := by
  intro e' he'
  obtain ⟨e, he, rfl⟩ := List.mem_map.mp he'
  unfold updateWhere
  split
  · exact timed_update (h e he) (hset e)
  · exact h e he

theorem timed_step {l : Label} (h : ∀ e ∈ s.events.rows, Timed e)
    (hstep : step config s l = some t) : ∀ e ∈ t.events.rows, Timed e := by
  cases l with
  | insert aggregateId createdAt =>
    simp only [step] at hstep
    split at hstep
    · obtain ⟨events, hevents, heq⟩ := Option.bind_eq_some_iff.mp hstep
      cases heq
      obtain ⟨-, hrows⟩ := (Table.insert_eq_some ..).mp hevents
      intro e he
      rw [hrows] at he
      rcases List.mem_append.mp he with he | he
      · exact h e he
      · -- nobody has locked the row of a new event
        cases List.mem_singleton.mp he
        exact timed_unlocked rfl
    · cases hstep
  | claimLock r ids =>
    simp only [step] at hstep
    split at hstep
    · split at hstep
      · -- `locked_by` and `locked_at` are set together
        cases hstep
        exact timed_updateEvents h fun _ _ => rfl
      · cases hstep
    · cases hstep
  | markPublished r applied =>
    simp only [step] at hstep
    split at hstep
    · rename_i event rest _
      cases hstep
      cases applied with
      | false => exact h
      | true =>
        simp only [State.setRelay, State.settleEvent, if_true]
        split
        · exact fun e he => h e (List.mem_of_mem_filter he)
        · exact timed_updateEvents h fun _ => timed_unlocked rfl
    · cases hstep
  | markRetry r applied =>
    simp only [step] at hstep
    split at hstep
    · rename_i event rest _
      cases hstep
      cases applied with
      | false => exact h
      | true =>
        simp only [State.setRelay, if_true]
        rw [retryEvent_events]
        exact timed_updateEvents h fun _ => timed_unlocked rfl
    · cases hstep
  | releaseStaleLocks staleTimeout =>
    cases hstep
    exact timed_updateEvents h fun _ => timed_unlocked rfl
  | cleanupPublished maxAge ids =>
    simp only [step] at hstep
    split at hstep
    · cases hstep
      exact fun e he => h e (List.mem_of_mem_filter he)
    · cases hstep
  | tick | claimSelect | checkDedup | publish | markDedup | crash | expire =>
    simp only [step] at hstep
    repeat' split at hstep
    all_goals first
      | cases hstep; exact h
      | cases hstep

/-! ## One relay at work -/

/-- How many rows are pending. -/
def State.pendingCount (s : State) : Nat := s.events.rows.countP (·.status = .pending)

/-- No event has failed or come, and no row has become pending, on the way from `s` to `t`. -/
structure Works (s t : State) : Prop where
  inserted : t.inserted = s.inserted
  failed : ∀ eventId, .failed eventId ∈ t.trace → .failed eventId ∈ s.trace
  pending : t.pendingCount ≤ s.pendingCount

theorem Works.refl (s : State) : Works s s := ⟨rfl, fun _ h => h, Nat.le_refl _⟩

theorem Works.trans (h : Works s t) (h' : Works t u) : Works s u :=
  ⟨h'.inserted.trans h.inserted, fun id hid => h.failed id (h'.failed id hid),
    h'.pending.trans h.pending⟩

/-- An `UPDATE` that leaves the statuses alone. -/
theorem pendingCount_updateEvents {cond : OutboxEvent → Bool} {set : OutboxEvent → OutboxEvent}
    (hset : ∀ e, (set e).status = e.status) :
    (s.updateEvents cond set).pendingCount = s.pendingCount := by
  have hstatus : ∀ e, (updateWhere cond set e).status = e.status := by
    intro e
    unfold updateWhere
    split
    · rcases update_status set e with h | ⟨-, h, -⟩
      · exact h
      · exact h.trans (hset e)
    · rfl
  simp only [State.pendingCount, State.updateEvents, Table.map, List.countP_map]
  exact List.countP_congr fun e _ => by simp [hstatus]

/-- Nothing keeps relay 0 from claiming a pending row. -/
structure Free (s : State) : Prop where
  idle : s.relays 0 = .idle
  due : ∀ e ∈ s.events.rows, e.status = .pending → e.nextRetryAt ≤ s.now ∧ e.lockedBy = none

theorem unlock_update (e : OutboxEvent) : e.update OutboxEvent.unlock = e.unlock := by
  simp [OutboxEvent.update, enforceOutboxStatusTransition, OutboxEvent.unlock]

/-- When enough time has passed and the stale locks are released, every pending row is free. -/
theorem exists_free (config : Nat → RelayConfig) (h : ∀ e ∈ s.events.rows, Timed e) :
    ∃ ls t, Run.run (step config) s ls = some t ∧ Free t ∧ Works s t := by
  -- longer than any back-off, and than any lock is old
  let wait := (s.events.rows.map fun e => e.nextRetryAt + e.lockedAt.getD 0 + 1).sum
  have hwait : ∀ e ∈ s.events.rows, e.nextRetryAt + e.lockedAt.getD 0 < wait := fun e he =>
    List.le_sum_of_mem (List.mem_map_of_mem
      (f := fun e : OutboxEvent => e.nextRetryAt + e.lockedAt.getD 0 + 1) he)
  let waited := { s.setRelay 0 .idle with now := s.now + wait }
  have hpending : (waited.updateEvents (·.isStale waited.now 0) OutboxEvent.unlock).pendingCount =
      s.pendingCount := pendingCount_updateEvents (s := waited) fun _ => rfl
  refine ⟨[.crash 0, .tick wait, .releaseStaleLocks 0],
    waited.updateEvents (·.isStale waited.now 0) OutboxEvent.unlock, rfl,
    ⟨by simp [State.updateEvents, waited, State.setRelay], ?_⟩, rfl, fun _ h => h, hpending.le⟩
  intro e' he' hpending
  obtain ⟨e, he, rfl⟩ := List.mem_map.mp he'
  -- either the lock was stale and is gone, or there was none
  have hlt := hwait e he
  have hnow : (waited.updateEvents (·.isStale waited.now 0) OutboxEvent.unlock).now =
      s.now + wait := rfl
  rw [hnow]
  unfold updateWhere at hpending ⊢
  split at hpending
  · rename_i hstale
    rw [if_pos hstale, unlock_update]
    exact ⟨by simp only [OutboxEvent.unlock]; omega, rfl⟩
  · rename_i hstale
    rw [if_neg hstale]
    refine ⟨by omega, ?_⟩
    by_contra hlocked
    have hsome := Option.isSome_iff_ne_none.mpr hlocked
    obtain ⟨lockedAt, hat⟩ := Option.isSome_iff_exists.mp (h e he hsome)
    refine hstale ?_
    simp only [OutboxEvent.isStale, hsome, hat, hpending, Option.any_some, Bool.true_and,
      decide_true, Bool.and_true, decide_eq_true_eq]
    rw [hat] at hlt
    simp only [Option.getD_some] at hlt
    show lockedAt + 0 < s.now + wait
    omega

/-- A row whose event was published is settled. -/
theorem settleEvent_works (deleteOnPublish : Bool) {id : Uuid} {row : OutboxEvent}
    (hrow : row ∈ s.events.rows) (hid : row.id = id) (hpending : row.status = .pending) :
    Works s (s.settleEvent deleteOnPublish id) ∧
      (s.settleEvent deleteOnPublish id).pendingCount < s.pendingCount := by
  have hlt : (s.settleEvent deleteOnPublish id).pendingCount < s.pendingCount := by
    unfold State.settleEvent State.pendingCount
    split
    · simp only [Table.filter, List.countP_filter]
      exact List.countP_lt_countP (fun e _ h => by simp_all) hrow (by simpa using hpending)
        (by simp [hid])
    · simp only [State.updateEvents, Table.map, List.countP_map]
      refine List.countP_lt_countP (fun e _ h => ?_) hrow (by simpa using hpending) ?_
      · -- no row becomes pending
        simp only [Function.comp_apply, updateWhere, decide_eq_true_eq] at h ⊢
        split at h
        · rcases update_status (OutboxEvent.markPublished s.now) e with hkept | ⟨hold, -, -⟩
          · exact hkept.symm.trans h
          · exact hold
        · exact h
      · simp [updateWhere, hid, OutboxEvent.update, OutboxEvent.markPublished, hpending,
          enforceOutboxStatusTransition]
  refine ⟨⟨?_, fun eventId => ?_, hlt.le⟩, hlt⟩ <;> unfold State.settleEvent <;> split
  · rfl
  · rfl
  · exact fun h => h
  · exact fun h => h

/-- Relay 0 marks the event that it has published. -/
theorem exists_marked (config : Nat → RelayConfig) {event row : OutboxEvent}
    (hrelay : s.relays 0 = .working event .markPublished []) (hrow : row ∈ s.events.rows)
    (hid : row.id = event.id) (hpending : row.status = .pending) :
    ∃ t, Run.run (step config) s [.markPublished 0 true] = some t ∧ Works s t ∧
      t.pendingCount < s.pendingCount := by
  obtain ⟨hworks, hlt⟩ :=
    settleEvent_works (config 0).deleteOnPublish hrow hid hpending
  refine ⟨(s.settleEvent (config 0).deleteOnPublish event.id).setRelay 0 .idle, ?_,
    ⟨hworks.inserted, hworks.failed, hworks.pending⟩, hlt⟩
  simp [Run.run, step, hrelay, Relay.next]

/-- Relay 0 publishes the event that it has claimed, unless the cache has its key. -/
theorem exists_published (config : Nat → RelayConfig) {event row : OutboxEvent}
    (hrelay : s.relays 0 = .working event .checkDedup []) (hrow : row ∈ s.events.rows)
    (hid : row.id = event.id) (hpending : row.status = .pending) :
    ∃ ls t, Run.run (step config) s ls = some t ∧ Works s t ∧ t.pendingCount < s.pendingCount := by
  by_cases hhit : ((config 0).redis && true && event.eventId ∈ s.redis) = true
  · let checked := s.setRelay 0 (.working event .markPublished [])
    have hcheck : step config s (.checkDedup 0 true) = some checked := by
      simp only [step, hrelay, hhit, if_true, checked]
    obtain ⟨t, hrun, hworks, hlt⟩ := exists_marked config (s := checked)
      (by simp [checked, State.setRelay]) hrow hid hpending
    exact ⟨_, t, (Run.run_cons hcheck).trans hrun,
      ⟨hworks.inserted, hworks.failed, hworks.pending⟩, hlt⟩
  · let checked := s.setRelay 0 (.working event .publish [])
    have hcheck : step config s (.checkDedup 0 true) = some checked := by
      simp only [step, hrelay, hhit, checked]
      rfl
    -- the broker accepts the event
    let published := { checked with trace := .published event.eventId :: checked.trace }.setRelay 0
      (.working event .markDedup [])
    have hpublish : step config checked (.publish 0 true) = some published := by
      simp [step, checked, published, State.setRelay]
    let cached := { published with redis :=
      if (config 0).redis && true then event.eventId :: published.redis
      else published.redis }.setRelay 0 (.working event .markPublished [])
    have hcache : step config published (.markDedup 0 true) = some cached := by
      simp [step, published, cached, State.setRelay]
    obtain ⟨t, hrun, hworks, hlt⟩ := exists_marked config (s := cached)
      (by simp [cached, State.setRelay]) hrow hid hpending
    refine ⟨_, t, (Run.run_cons hcheck).trans ((Run.run_cons hpublish).trans
      ((Run.run_cons hcache).trans hrun)), ⟨hworks.inserted, fun id hfailed => ?_, hworks.pending⟩,
      hlt⟩
    simpa [cached, published, checked, State.setRelay] using hworks.failed id hfailed

/-- Among the pending rows there is an oldest one. -/
theorem exists_oldest (hsome : 0 < s.pendingCount) :
    ∃ e ∈ s.events.rows, e.status = .pending ∧
      ∀ e' ∈ s.events.rows, e'.status = .pending → e.createdAt ≤ e'.createdAt := by
  obtain ⟨first, hfirst, hstatus⟩ := List.countP_pos_iff.mp hsome
  let rows := s.events.rows.filter (·.status = .pending)
  cases hmin : rows.argmin (·.createdAt) with
  | none =>
    have hnil : rows = [] := List.argmin_eq_none.mp hmin
    have hmem : first ∈ rows := List.mem_filter.mpr ⟨hfirst, hstatus⟩
    rw [hnil] at hmem
    cases hmem
  | some e =>
    obtain ⟨he, hpending⟩ := List.mem_filter.mp (List.argmin_mem hmin)
    refine ⟨e, he, by simpa using hpending, fun e' he' hpending' => ?_⟩
    exact List.le_of_mem_argmin (List.mem_filter.mpr ⟨he', by simpa using hpending'⟩) hmin

/-- The oldest pending row, when it is due, is a batch that may be claimed. -/
theorem selects_oldest {e : OutboxEvent} (hfind : s.events.find? e.id = some e)
    (hpending : e.status = .pending) (hdue : e.nextRetryAt ≤ s.now)
    (holdest : ∀ e' ∈ s.events.rows, e'.status = .pending → e.createdAt ≤ e'.createdAt) :
    s.selects [e.id] = true := by
  simp only [State.selects, List.all_cons, List.all_nil, hfind, Option.any_some,
    State.isOldestDue, OutboxEvent.isDue, hpending, hdue, decide_true, Bool.and_true,
    Bool.true_and, State.eventsWith, List.filterMap_cons, List.filterMap_nil, List.map_cons,
    List.map_nil, List.nodup_cons, List.not_mem_nil, not_false_eq_true, List.nodup_nil,
    and_self, List.all_eq_true]
  intro e' he'
  by_cases hother : e'.status = .pending
  · simp [holdest e' he' hother]
  · simp [hother]

/-- Relay 0 claims the oldest pending row. -/
theorem exists_working (hbatch : 0 < (config 0).batchSize) (hidle : s.relays 0 = .idle)
    {e : OutboxEvent} (he : e ∈ s.events.rows) (hpending : e.status = .pending)
    (hdue : e.nextRetryAt ≤ s.now) (hunlocked : e.lockedBy = none)
    (holdest : ∀ e' ∈ s.events.rows, e'.status = .pending → e.createdAt ≤ e'.createdAt) :
    ∃ ls t row, Run.run (step config) s ls = some t ∧ Works s t ∧
      t.relays 0 = .working row .checkDedup [] ∧ row ∈ t.events.rows ∧ row.status = .pending := by
  have hfind : s.events.find? e.id = some e := (s.events.find?_eq_some_iff ..).mpr ⟨he, rfl⟩
  let selected := s.setRelay 0 (.selected [e.id])
  have hselect : step config s (.claimSelect 0 [e.id]) = some selected := by
    simp only [step, hidle, selects_oldest hfind hpending hdue holdest, if_true, selected]
  -- no other relay has locked the row
  let locked := selected.updateEvents (·.id ∈ [e.id]) (OutboxEvent.lock 0 selected.now)
  let row := updateWhere (·.id ∈ [e.id]) (OutboxEvent.lock 0 selected.now) e
  have hrow : locked.events.find? e.id = some row := by
    simp only [locked, State.updateEvents, selected, State.setRelay, Table.find?_map, hfind]
    rfl
  have hlocks : selected.locks (config 0).batchSize [e.id] [e.id] = true := by
    simp [State.locks, selected, State.setRelay, hfind, hunlocked, Nat.succ_le_of_lt hbatch]
  let claimed := locked.setRelay 0 (.working row .checkDedup [])
  have hclaim : step config selected (.claimLock 0 [e.id]) = some claimed := by
    have hrelay : selected.relays 0 = .selected [e.id] := by simp [selected, State.setRelay]
    have hevents : locked.eventsWith [e.id] = [row] := by simp [State.eventsWith, hrow]
    simp only [step, hrelay, hlocks, if_true]
    change some (locked.setRelay 0 (Relay.next (locked.eventsWith [e.id]))) = some claimed
    rw [hevents]
    rfl
  have hstatus : row.status = .pending := by
    simp [row, updateWhere, OutboxEvent.update, OutboxEvent.lock, enforceOutboxStatusTransition,
      hpending]
  have hcount : claimed.pendingCount = s.pendingCount :=
    pendingCount_updateEvents (s := selected) fun _ => rfl
  refine ⟨[.claimSelect 0 [e.id], .claimLock 0 [e.id]], claimed, row, ?_,
    ⟨rfl, fun _ h => h, hcount.le⟩, by simp [claimed, State.setRelay], ?_, hstatus⟩
  · exact (Run.run_cons hselect).trans ((Run.run_cons hclaim).trans rfl)
  · exact ((locked.events.find?_eq_some_iff ..).mp hrow).1

/-- Relay 0 claims the oldest pending row, and publishes its event. -/
theorem exists_claimed (hbatch : 0 < (config 0).batchSize) (hfree : Free s)
    (hsome : 0 < s.pendingCount) :
    ∃ ls t, Run.run (step config) s ls = some t ∧ Works s t ∧ t.pendingCount < s.pendingCount := by
  obtain ⟨e, he, hpending, holdest⟩ := exists_oldest hsome
  obtain ⟨hdue, hunlocked⟩ := hfree.due e he hpending
  obtain ⟨claim, t, row, hclaim, hclaimed, hrelay, hrow, hstatus⟩ :=
    exists_working hbatch hfree.idle he hpending hdue hunlocked holdest
  obtain ⟨publish, u, hpublish, hworks, hlt⟩ := exists_published config hrelay hrow rfl hstatus
  refine ⟨claim ++ publish, u, ?_, hclaimed.trans hworks, ?_⟩
  · rw [Run.run_append, hclaim]
    exact hpublish
  · exact Nat.lt_of_lt_of_le hlt hclaimed.pending

/-- Relay 0 can publish every pending event. -/
theorem exists_drained (hbatch : 0 < (config 0).batchSize) (h : ∀ e ∈ s.events.rows, Timed e) :
    ∃ ls t, Run.run (step config) s ls = some t ∧ Works s t ∧
      ∀ e ∈ t.events.rows, e.status ≠ .pending := by
  -- each turn frees the rows and publishes one of them
  induction hn : s.pendingCount using Nat.strong_induction_on generalizing s with
  | _ n ih =>
    by_cases hsome : 0 < s.pendingCount
    · obtain ⟨free, t, hfreeRun, hfree, hworks⟩ := exists_free config h
      by_cases hmore : 0 < t.pendingCount
      · obtain ⟨claim, u, hclaimRun, hworks', hlt⟩ := exists_claimed hbatch hfree hmore
        have hrun : Run.run (step config) s (free ++ claim) = some u := by
          rw [Run.run_append, hfreeRun]
          exact hclaimRun
        have htimed : ∀ e ∈ u.events.rows, Timed e :=
          Run.run_invariant (fun _ _ _ h hstep => timed_step h hstep) h hrun
        have hle := hworks.pending
        obtain ⟨ls, v, hls, hworks'', hnone⟩ := ih u.pendingCount (by omega) htimed rfl
        refine ⟨(free ++ claim) ++ ls, v, ?_, (hworks.trans hworks').trans hworks'', hnone⟩
        rw [Run.run_append, hrun]
        exact hls
      · refine ⟨free, t, hfreeRun, hworks, fun e he hpending => hmore ?_⟩
        exact List.countP_pos_iff.mpr ⟨e, he, by simpa using hpending⟩
    · refine ⟨[], s, rfl, .refl s, fun e he hpending => hsome ?_⟩
      exact List.countP_pos_iff.mpr ⟨e, he, by simpa using hpending⟩

end Koupang.Outbox

namespace Koupang.Consumer

variable {maxRetries : Nat} {msgs : List Message} {s : State}

/-- Without faults a message is handled, or recognised as already handled. -/
theorem processWithRetry_smooth (processedEvents : List Uuid) (eventId : Uuid) :
    processWithRetry maxRetries processedEvents eventId smooth =
      if processedEvents.contains eventId then (.skipped, false) else (.success, true) := by
  have htry : tryProcessOnce processedEvents eventId (smooth.attempts 0) =
      if processedEvents.contains eventId then (.alreadyProcessed, false)
      else (.committed, true) := rfl
  unfold processWithRetry retryLoop
  rw [htry]
  by_cases hknown : processedEvents.contains eventId = true
  · rw [if_pos hknown, if_pos hknown]
  · rw [if_neg hknown, if_neg hknown]

/-- Without faults the offset of the next message is to be committed. -/
theorem processMessage_smooth (maxRetries : Nat) (s : State) (eventId : Uuid) :
    (processMessage maxRetries s (some eventId) smooth).toCommit = some s.position ∧
      (processMessage maxRetries s (some eventId) smooth).position = s.position + 1 ∧
      (processMessage maxRetries s (some eventId) smooth).uncommitted = s.uncommitted ∧
      (processMessage maxRetries s (some eventId) smooth).dlq = s.dlq := by
  simp only [processMessage, processWithRetry_smooth]
  split
  · rename_i result heq
    split at heq
    · cases heq
    · cases heq
      exact ⟨rfl, rfl, rfl, rfl⟩
  · rename_i result heq
    split at heq
    · cases heq
      exact ⟨rfl, rfl, rfl, rfl⟩
    · cases heq

/-- A session that has settled everything it has received. -/
structure Fresh (s : State) : Prop where
  position : s.position = s.committedOffset
  toCommit : s.toCommit = none
  uncommitted : s.uncommitted = []

/-- Labels without a call of `cleanup_processed_events`, and a run of them that brings the
    consumer to the end of its partition without adding to the dead-letter queue. -/
structure CatchesUp (maxRetries : Nat) (msgs : List Message) (s : State) (ls : List Label)
    (t : State) : Prop where
  run : Run.run (step maxRetries msgs) s ls = some t
  caughtUp : msgs.length ≤ t.committedOffset
  dlq : t.dlq = s.dlq
  inOrder : Run.Meets (step maxRetries msgs) CommitsInOrder s ls
  spares : ∀ l ∈ ls, ∀ keep, l ≠ .cleanup keep

/-- It can go on to the end of the partition. -/
theorem exists_settled (maxRetries : Nat)
    (hevents : ∀ msg ∈ msgs, ∃ eventId, msg = some eventId) (h : Fresh s) :
    ∃ ls t, CatchesUp maxRetries msgs s ls t := by
  -- on the messages above the committed offset; the session stays one message ahead of it
  induction hn : msgs.length - s.committedOffset generalizing s with
  | zero => exact ⟨[], s, rfl, by omega, rfl, trivial, by simp⟩
  | succ n ih =>
    have hlt : s.committedOffset < msgs.length := by omega
    obtain ⟨eventId, hevent⟩ := hevents _ (List.getElem_mem hlt)
    have hmsg : msgs[s.position]? = some (some eventId) := by
      rw [h.position, List.getElem?_eq_getElem hlt, hevent]
    let received := processMessage maxRetries s (some eventId) smooth
    obtain ⟨hcommit, hposition, huncommitted, hdlq⟩ :=
      processMessage_smooth maxRetries s eventId
    have hreceive : step maxRetries msgs s (.receive smooth) = some received := by
      simp only [step, h.toCommit, hmsg]
      rfl
    -- the offset is committed before the next message is received
    let committed := { received with committedOffset := s.position + 1, toCommit := none }
    have hcommitStep : step maxRetries msgs received .commitOffset = some committed := by
      simp only [step, received, hcommit]
      rfl
    have hfresh : Fresh committed := ⟨hposition, rfl, huncommitted.trans h.uncommitted⟩
    have hleft : msgs.length - committed.committedOffset = n := by
      show msgs.length - (s.position + 1) = n
      rw [h.position]
      omega
    obtain ⟨ls, t, hmore⟩ := ih hfresh hleft
    refine ⟨.receive smooth :: .commitOffset :: ls, t,
      (Run.run_cons hreceive).trans ((Run.run_cons hcommitStep).trans hmore.run), hmore.caughtUp,
      hmore.dlq.trans hdlq, ⟨trivial, fun u hu => ⟨?_, fun v hv => ?_⟩⟩,
      by simpa using hmore.spares⟩
    · cases hreceive.symm.trans hu
      simp [CommitsInOrder, huncommitted, h.uncommitted, received]
    · cases hreceive.symm.trans hu
      cases hcommitStep.symm.trans hv
      exact hmore.inOrder

/-- A consumer that restarts can settle every message. -/
theorem exists_caughtUp (maxRetries : Nat) {msgs : List Message}
    (hevents : ∀ msg ∈ msgs, ∃ eventId, msg = some eventId) (s : State) :
    ∃ ls t, CatchesUp maxRetries msgs s ls t := by
  let restarted := { s with position := s.committedOffset, toCommit := none, uncommitted := [] }
  have hrestart : step maxRetries msgs s .restart = some restarted := rfl
  obtain ⟨ls, t, hmore⟩ :=
    exists_settled maxRetries (s := restarted) hevents ⟨rfl, rfl, rfl⟩
  refine ⟨.restart :: ls, t, (Run.run_cons hrestart).trans hmore.run, hmore.caughtUp, hmore.dlq,
    ⟨trivial, fun u hu => ?_⟩, by simpa using hmore.spares⟩
  cases hrestart.symm.trans hu
  exact hmore.inOrder

end Koupang.Consumer

namespace Koupang.Delivery

variable {config : Config} {s t : State}

/-! ## The whole -/

/-- A run of the relays is a run of the whole. -/
theorem run_outbox {ls : List Outbox.Label} {o : Outbox.State}
    (h : Run.run (Outbox.step config.relays) s.outbox ls = some o) :
    ∃ new, Run.run (step config) s (ls.map (.outbox · false)) =
      some { s with outbox := o, log := s.log ++ new } := by
  induction ls generalizing s with
  | nil =>
    cases h
    exact ⟨[], by simp⟩
  | cons l ls ih =>
    obtain ⟨o', ho', hrun⟩ := Run.run_cons_some h
    have hstep : step config s (.outbox l false) =
        some { s with outbox := o', log := s.log ++ sends s.outbox l false } := by
      simp only [step, ho', Option.map_some]
    obtain ⟨new, hnew⟩ :=
      ih (s := { s with outbox := o', log := s.log ++ sends s.outbox l false }) hrun
    refine ⟨sends s.outbox l false ++ new, ?_⟩
    rw [List.map_cons, Run.run_cons hstep, hnew, List.append_assoc]

/-- A run of a consumer is a run of the whole. -/
theorem run_consumer {group partition : Nat} {ls : List Consumer.Label} {c : Consumer.State}
    (h : Run.run (Consumer.step (config.maxRetries group) (s.messages config partition))
      (s.consumers group partition) ls = some c)
    (horder : Run.Meets (Consumer.step (config.maxRetries group) (s.messages config partition))
      Consumer.CommitsInOrder (s.consumers group partition) ls) :
    Run.run (step config) s (ls.map (.consumer group partition)) =
        some (s.setConsumer group partition c) ∧
      Run.Meets (step config) CommitsInOrder s (ls.map (.consumer group partition)) := by
  induction ls generalizing s with
  | nil =>
    cases h
    refine ⟨?_, trivial⟩
    simp [State.setConsumer]
  | cons l ls ih =>
    obtain ⟨c', hc', hrun⟩ := Run.run_cons_some h
    have hstep : step config s (.consumer group partition l) =
        some (s.setConsumer group partition c') := by
      simp only [step, hc', Option.map_some]
    have hconsumer : (s.setConsumer group partition c').consumers group partition = c' := by
      simp [consumers_setConsumer]
    obtain ⟨hmore, hmeets⟩ := ih (s := s.setConsumer group partition c')
      (by rw [hconsumer]; exact hrun) (by rw [hconsumer]; exact horder.2 c' hc')
    constructor
    · rw [List.map_cons, Run.run_cons hstep, hmore]
      simp [State.setConsumer]
    · refine ⟨horder.1, fun u hu => ?_⟩
      cases hstep.symm.trans hu
      exact hmeets

/-- A run that brings consumers to the end of their partitions. -/
structure Settles (config : Config) (s : State) (targets : List (Nat × Nat)) (ls : List Label)
    (t : State) : Prop where
  run : Run.run (step config) s ls = some t
  outbox : t.outbox = s.outbox
  log : t.log = s.log
  caughtUp : ∀ target ∈ targets, (s.messages config target.2).length ≤
    (t.consumers target.1 target.2).committedOffset
  dlq : ∀ group partition, (t.consumers group partition).dlq = (s.consumers group partition).dlq
  inOrder : Run.Meets (step config) CommitsInOrder s ls
  spares : ∀ l ∈ ls, l.isCleanup = false

theorem exists_settles (config : Config) (s : State) (targets : List (Nat × Nat)) :
    ∃ ls t, Settles config s targets ls t := by
  induction targets with
  | nil => exact ⟨[], s, rfl, rfl, rfl, by simp, fun _ _ => rfl, trivial, by simp⟩
  | cons target targets ih =>
    obtain ⟨group, partition⟩ := target
    obtain ⟨ls, t, h⟩ := ih
    have hmessages : t.messages config = s.messages config := by
      funext p
      simp only [State.messages, h.log]
    have hevents : ∀ msg ∈ t.messages config partition, ∃ eventId, msg = some eventId := by
      intro msg hmsg
      obtain ⟨eventId, -, rfl⟩ := List.mem_map.mp hmsg
      exact ⟨eventId, rfl⟩
    obtain ⟨ls', c, hc⟩ := Consumer.exists_caughtUp (config.maxRetries group) hevents
      (t.consumers group partition)
    obtain ⟨hrun, hmeets⟩ := run_consumer hc.run hc.inOrder
    refine ⟨ls ++ ls'.map (.consumer group partition), t.setConsumer group partition c, ?_,
      h.outbox, h.log, fun target htarget => ?_, fun group' partition' => ?_, ?_, fun l hl => ?_⟩
    · rw [Run.run_append, h.run]
      exact hrun
    · -- this consumer has caught up now, the others had before
      rw [consumers_setConsumer]
      split
      · rename_i heq
        rw [heq.2, ← hmessages]
        exact hc.caughtUp
      · rename_i hother
        rcases List.mem_cons.mp htarget with rfl | htarget
        · exact absurd ⟨rfl, rfl⟩ hother
        · exact h.caughtUp target htarget
    · rw [consumers_setConsumer]
      split
      · rename_i heq
        rw [heq.1, heq.2]
        exact hc.dlq.trans (h.dlq group partition)
      · exact h.dlq group' partition'
    · exact h.inOrder.concat h.run hmeets
    · rcases List.mem_append.mp hl with hl | hl
      · exact h.spares l hl
      · obtain ⟨l', hl', rfl⟩ := List.mem_map.mp hl
        cases l' with
        | cleanup keep => exact absurd rfl (hc.spares _ hl' keep)
        | receive | commitOffset | commitOffsetFails | restart => rfl

theorem timed_run {ls : List Label} (hrun : Run.run (step config) {} ls = some s) :
    ∀ e ∈ s.outbox.events.rows, Outbox.Timed e := by
  have hstep : ∀ s l t, (∀ e ∈ s.outbox.events.rows, Outbox.Timed e) →
      step config s l = some t → ∀ e ∈ t.outbox.events.rows, Outbox.Timed e := by
    intro s l t h hstep
    cases l with
    | outbox label written =>
      obtain ⟨o, ho, rfl⟩ := Option.map_eq_some_iff.mp hstep
      exact Outbox.timed_step h ho
    | consumer group partition label =>
      obtain ⟨c, -, rfl⟩ := Option.map_eq_some_iff.mp hstep
      exact h
  exact Run.run_invariant hstep (by simp) hrun

/-- A relay crashes after its publish; the row stays locked. -/
def crashed : List Label :=
  [.outbox (.insert ⟨2, 0⟩ 0) false, .outbox (.claimSelect 0 [⟨0, 0⟩]) false,
    .outbox (.claimLock 0 [⟨0, 0⟩]) false, .outbox (.checkDedup 0 true) false,
    .outbox (.publish 0 true) false, .outbox (.crash 0) false]

end Koupang.Delivery
