import Koupang.Model.EventDelivery
import Koupang.Spec.ConsumerOffsets
import Koupang.Spec.OutboxRelay

/-!
# Every event has its effect once

A relay that crashes between a publish and its mark publishes the event again, and a
consumer receives a message again after a commit that failed. The rows of
`processed_events` make up for both, as long as `cleanup_processed_events` spares the
events that may still come.

## Key results

- `idempotent_step`: a consumer keeps track of what it has handled
- `gone_step`: an event that cannot come any more stays so
- `delivered_once`: an event is handled at most once by a group, and exactly once, or
  dead-lettered, when the group has read what the relays have published
-/

namespace Koupang.Consumer

variable {msgs msgs' : List Message} {gone gone' : Uuid → Prop} {s t : State}

/-- How often the handler's transaction was committed for messages with the event. -/
def State.timesHandled (s : State) (msgs : List Message) (eventId : Uuid) : Nat :=
  s.handled.countP fun k => msgs[k]? = some (some eventId)

/-- What a consumer knows about the events it has handled, those that are `gone` apart. -/
structure Idempotent (msgs : List Message) (gone : Uuid → Prop) (s : State) : Prop where
  handled : ∀ k ∈ s.handled, ∃ eventId, msgs[k]? = some (some eventId)
  processed : ∀ eventId ∈ s.processedEvents, ∃ k ∈ s.handled, msgs[k]? = some (some eventId)
  skipped : ∀ k ∈ s.skipped, ∃ j ∈ s.handled, msgs[j]? = msgs[k]?
  dlq : ∀ k ∈ s.dlq, k < msgs.length
  once : ∀ eventId, s.timesHandled msgs eventId ≤ 1
  known : ∀ k ∈ s.handled, ∀ eventId, msgs[k]? = some (some eventId) →
    eventId ∈ s.processedEvents ∨ gone eventId

theorem idempotent_init : Idempotent msgs gone {} where
  handled := by simp
  processed := by simp
  skipped := by simp
  dlq := by simp
  once := by simp [State.timesHandled]
  known := by simp

theorem Idempotent.mono (h : Idempotent msgs gone s)
    (hgone : ∀ eventId, some eventId ∈ msgs → gone eventId → gone' eventId) :
    Idempotent msgs gone' s :=
  { h with known := fun k hk eventId hmsg =>
      (h.known k hk eventId hmsg).imp_right (hgone eventId (List.mem_of_getElem? hmsg)) }

/-- More messages come. -/
theorem Idempotent.append (h : Idempotent msgs gone s) (new : List Message) :
    Idempotent (msgs ++ new) gone s := by
  -- what was handled is among the old messages, where nothing changes
  have hold : ∀ k ∈ s.handled, (msgs ++ new)[k]? = msgs[k]? := by
    intro k hk
    obtain ⟨eventId, hmsg⟩ := h.handled k hk
    exact List.getElem?_append_left (List.getElem?_eq_some_iff.mp hmsg).1
  refine ⟨fun k hk => ?_, fun eventId hid => ?_, fun k hk => ?_, fun k hk => ?_, fun eventId => ?_,
    fun k hk eventId hmsg => ?_⟩
  · rw [hold k hk]
    exact h.handled k hk
  · obtain ⟨k, hk, hmsg⟩ := h.processed eventId hid
    exact ⟨k, hk, (hold k hk).trans hmsg⟩
  · obtain ⟨j, hj, hmsg⟩ := h.skipped k hk
    obtain ⟨eventId, hevent⟩ := h.handled j hj
    have hlt := (List.getElem?_eq_some_iff.mp (hmsg.symm.trans hevent)).1
    exact ⟨j, hj, by rw [hold j hj, hmsg, List.getElem?_append_left hlt]⟩
  · rw [List.length_append]
    exact Nat.lt_add_right _ (h.dlq k hk)
  · have hcount : s.timesHandled (msgs ++ new) eventId = s.timesHandled msgs eventId :=
      List.countP_congr fun k hk => by rw [hold k hk]
    exact hcount.trans_le (h.once eventId)
  · exact h.known k hk eventId ((hold k hk).symm.trans hmsg)

/-! ## One message -/

/-- An attempt commits the handler's transaction only for an event that is not known, and it
    skips only one that is. -/
theorem tryProcessOnce_known {processedEvents : List Uuid} {eventId : Uuid} {input : AttemptInput}
    {result : AttemptResult} {done : Bool}
    (h : tryProcessOnce processedEvents eventId input = (result, done)) :
    (done = true → eventId ∉ processedEvents) ∧
      (result = .alreadyProcessed → eventId ∈ processedEvents) := by
  unfold tryProcessOnce at h
  repeat' split at h
  all_goals
    cases h
    simp_all

theorem publishEnvelopeToDlq_ne_skipped (input : ProcessInput) :
    publishEnvelopeToDlq input ≠ .skipped := by
  unfold publishEnvelopeToDlq
  split <;> decide

theorem retryLoop_known {processedEvents : List Uuid} {eventId : Uuid} {input : ProcessInput}
    {attempt remaining : Nat} {result : ProcessResult} {done : Bool}
    (h : retryLoop processedEvents eventId input attempt remaining = (result, done)) :
    (done = true → eventId ∉ processedEvents) ∧
      (result = .skipped → eventId ∈ processedEvents) := by
  have hdlq := publishEnvelopeToDlq_ne_skipped input
  fun_induction retryLoop processedEvents eventId input attempt remaining with
  | case7 _ _ _ _ _ ih => exact ih h
  | case2 attempt remaining done' htry =>
    cases h
    exact ⟨(tryProcessOnce_known htry).1, fun _ => (tryProcessOnce_known htry).2 rfl⟩
  | case1 attempt remaining done' htry | case3 attempt remaining done' htry =>
    cases h
    exact ⟨(tryProcessOnce_known htry).1, fun hskip => absurd hskip (by decide)⟩
  -- the message goes to the DLQ
  | case4 attempt remaining done' htry | case5 attempt done' htry
  | case6 attempt done' htry =>
    cases h
    exact ⟨(tryProcessOnce_known htry).1, fun h => absurd h hdlq⟩

/-- Recording a result keeps what the consumer knows, if a skipped message was handled before. -/
theorem Idempotent.record (h : Idempotent msgs gone s) {offset : Nat} (hlt : offset < msgs.length)
    (result : ProcessResult)
    (hskipped : result = .skipped → ∃ j ∈ s.handled, msgs[j]? = msgs[offset]?) :
    Idempotent msgs gone (s.record offset result) := by
  cases result with
  | skipped =>
    refine { h with skipped := fun k hk => ?_ }
    rcases List.mem_cons.mp hk with rfl | hk
    · exact hskipped rfl
    · exact h.skipped k hk
  | sentToDlq =>
    refine { h with dlq := fun k hk => ?_ }
    rcases List.mem_cons.mp hk with rfl | hk
    · exact hlt
    · exact h.dlq k hk
  | success | dlqFailed | dbError =>
    exact ⟨h.handled, h.processed, h.skipped, h.dlq, h.once, h.known⟩

/-- The handler's transaction is committed for the message at `offset`, with an event that was
    not known. -/
theorem Idempotent.handle (h : Idempotent msgs gone s) {offset : Nat} {eventId : Uuid}
    (hmsg : msgs[offset]? = some (some eventId)) (hnew : eventId ∉ s.processedEvents)
    (hcomes : ¬ gone eventId) :
    Idempotent msgs gone { s with processedEvents := eventId :: s.processedEvents
                                  handled := offset :: s.handled } where
  handled k hk := by
    rcases List.mem_cons.mp hk with rfl | hk
    · exact ⟨eventId, hmsg⟩
    · exact h.handled k hk
  processed id hid := by
    rcases List.mem_cons.mp hid with rfl | hid
    · exact ⟨offset, List.mem_cons_self .., hmsg⟩
    · obtain ⟨k, hk, hid⟩ := h.processed id hid
      exact ⟨k, List.mem_cons_of_mem _ hk, hid⟩
  skipped k hk := by
    obtain ⟨j, hj, heq⟩ := h.skipped k hk
    exact ⟨j, List.mem_cons_of_mem _ hj, heq⟩
  dlq := h.dlq
  once id := by
    have honce : s.timesHandled msgs id ≤ 1 := h.once id
    simp only [State.timesHandled, List.countP_cons] at honce ⊢
    by_cases hid : eventId = id
    · -- it has not been handled before: it would be known, or it could not come any more
      subst hid
      have hzero : s.handled.countP (fun k => msgs[k]? = some (some eventId)) = 0 := by
        refine List.countP_eq_zero.mpr fun k hk hk' => ?_
        rcases h.known k hk eventId (of_decide_eq_true hk') with hmem | hgone
        · exact hnew hmem
        · exact hcomes hgone
      rw [hzero]
      split <;> omega
    · have hother : ¬ msgs[offset]? = some (some id) := by
        rw [hmsg]
        simpa using hid
      simpa [hother] using honce
  known k hk id hid := by
    rcases List.mem_cons.mp hk with rfl | hk
    · cases hmsg.symm.trans hid
      exact .inl (List.mem_cons_self ..)
    · exact (h.known k hk id hid).imp_left (List.mem_cons_of_mem _)

/-- The message at the session's position is processed. -/
theorem Idempotent.processMessage (h : Idempotent msgs gone s) {maxRetries : Nat} {msg : Message}
    {input : ProcessInput} (hmsg : msgs[s.position]? = some msg)
    (hcomes : ∀ eventId, msg = some eventId → ¬ gone eventId) :
    Idempotent msgs gone (processMessage maxRetries s msg input) := by
  have hnext : Idempotent msgs gone { s with position := s.position + 1 } :=
    ⟨h.handled, h.processed, h.skipped, h.dlq, h.once, h.known⟩
  have hlt : s.position < msgs.length := (List.getElem?_eq_some_iff.mp hmsg).1
  cases msg with
  | none =>
    exact hnext.record hlt _ fun hskip => absurd hskip (publishEnvelopeToDlq_ne_skipped input)
  | some eventId =>
    simp only [Consumer.processMessage]
    cases hresult : processWithRetry maxRetries s.processedEvents eventId input with
    | mk result done =>
      obtain ⟨hnew, hknown⟩ := retryLoop_known hresult
      cases done with
      | true =>
        refine (hnext.handle hmsg (hnew rfl) (hcomes eventId rfl)).record hlt _ fun _ => ?_
        exact ⟨s.position, List.mem_cons_self .., rfl⟩
      | false =>
        refine hnext.record hlt _ fun hskip => ?_
        obtain ⟨j, hj, hevent⟩ := h.processed eventId (hknown hskip)
        exact ⟨j, hj, hevent.trans hmsg.symm⟩

/-- A step of a consumer that keeps the rows of the events that may still come. -/
theorem idempotent_step {maxRetries : Nat} {l : Label} (hinv : Inv s)
    (h : Idempotent msgs gone s)
    (hgone : ∀ eventId, gone eventId → ∀ k, msgs[k]? = some (some eventId) → k < s.committedOffset)
    (hkeep : ∀ keep, l = .cleanup keep → ∀ eventId, some eventId ∈ msgs → ¬ gone eventId →
      keep eventId = true)
    (hstep : step maxRetries msgs s l = some t) : Idempotent msgs gone t := by
  cases l with
  | receive input =>
    simp only [step] at hstep
    split at hstep
    · cases hstep
    · split at hstep
      · rename_i msg hmsg
        cases hstep
        refine h.processMessage hmsg fun eventId heq hid => ?_
        -- the session is past what is gone
        have hlt := hgone eventId hid s.position (heq ▸ hmsg)
        have hle := hinv.le
        omega
      · cases hstep
  | commitOffset =>
    simp only [step] at hstep
    split at hstep
    · cases hstep
      exact ⟨h.handled, h.processed, h.skipped, h.dlq, h.once, h.known⟩
    · cases hstep
  | commitOffsetFails | restart =>
    cases hstep
    exact ⟨h.handled, h.processed, h.skipped, h.dlq, h.once, h.known⟩
  | cleanup keep =>
    cases hstep
    refine ⟨h.handled, fun id hid => h.processed id (List.mem_of_mem_filter hid), h.skipped,
      h.dlq, h.once, fun k hk id hmsg => ?_⟩
    by_cases hid : gone id
    · exact .inr hid
    · have hmem := (h.known k hk id hmsg).resolve_right hid
      have hkept := hkeep keep rfl id (List.mem_of_getElem? hmsg) hid
      exact .inl (List.mem_filter.mpr ⟨hmem, hkept⟩)

/-- What a step keeps, whether it commits in order or not. -/
theorem inv_of_step {maxRetries : Nat} {l : Label} (hinv : Inv s)
    (hstep : step maxRetries msgs s l = some t) : Inv t := by
  cases l with
  | receive input =>
    simp only [step] at hstep
    split at hstep
    · cases hstep
    · rename_i hnone
      split at hstep
      · cases hstep
        exact inv_processes hinv (by simpa using hnone) (processMessage_processes ..)
      · cases hstep
  | commitOffset =>
    simp only [step] at hstep
    split at hstep
    · rename_i m hm
      cases hstep
      have hpos := (hinv.toCommit m hm).1
      refine ⟨Nat.le_of_eq hpos, fun k hge hlt => ?_, hinv.uncommitted, by simp⟩
      dsimp only at hge hlt
      omega
    · cases hstep
  | commitOffsetFails =>
    cases hstep
    exact ⟨hinv.le, hinv.received, hinv.uncommitted, by simp⟩
  | restart =>
    cases hstep
    exact ⟨Nat.le_refl _, fun k hge hlt => absurd hlt (Nat.not_lt_of_le hge), by simp, by simp⟩
  | cleanup keep =>
    cases hstep
    exact ⟨hinv.le, hinv.received, hinv.uncommitted, hinv.toCommit⟩

/-- The committed offset does not go back. -/
theorem committedOffset_le {maxRetries : Nat} {l : Label} (hinv : Inv s)
    (hstep : step maxRetries msgs s l = some t) : s.committedOffset ≤ t.committedOffset := by
  cases l with
  | receive input =>
    simp only [step] at hstep
    split at hstep
    · cases hstep
    · split at hstep
      · cases hstep
        exact (processMessage_processes maxRetries s _ input).committedOffset.ge
      · cases hstep
  | commitOffset =>
    simp only [step] at hstep
    split at hstep
    · rename_i m hm
      cases hstep
      have hle := hinv.le
      have hpos := (hinv.toCommit m hm).1
      dsimp only
      omega
    · cases hstep
  | commitOffsetFails | restart | cleanup =>
    cases hstep
    exact Nat.le_refl _

end Koupang.Consumer

namespace Koupang.Delivery

open Outbox (OutboxEvent OutboxStatus)

variable {config : Config} {s t : State} {group : Nat} {eventId : Uuid}

/-! ## What may still come -/

/-- The row of the event is pending. -/
def Pending (s : Outbox.State) (id : Uuid) : Prop :=
  ∃ row ∈ s.events.rows, row.id = id ∧ row.status = .pending

/-- The consumer group may receive the event after this: its row is pending, a relay has got hold
    of it, or a record of it is not below the offset that the group has committed. -/
def State.InFlight (config : Config) (s : State) (group : Nat) (eventId : Uuid) : Prop :=
  (∃ e ∈ s.outbox.inserted, e.eventId = eventId ∧
    (Pending s.outbox e.id ∨ ∃ r, (s.outbox.relays r).Holds e.id)) ∨
  ∃ k, (s.consumers group (config.partition eventId)).committedOffset ≤ k ∧
    (s.messages config (config.partition eventId))[k]? = some (some eventId)

/-- `cleanup_processed_events` spares the events that may still come. -/
def KeepsInFlight (config : Config) (s : State) : Label → Prop
  | .consumer group partition (.cleanup keep) =>
    ∀ eventId, config.partition eventId = partition → s.InFlight config group eventId →
      keep eventId = true
  | _ => True

/-- `cleanup_processed_events` is called. -/
def Label.isCleanup : Label → Bool
  | .consumer _ _ (.cleanup _) => true
  | _ => false

theorem keepsInFlight_of_isCleanup {l : Label} (h : l.isCleanup = false) :
    KeepsInFlight config s l := by
  cases l with
  | outbox => trivial
  | consumer group partition label =>
    cases label with
    | cleanup => cases h
    | receive | commitOffset | commitOffsetFails | restart => trivial

/-- No consumer commits an offset after a message that it has not settled. -/
def CommitsInOrder (s : State) : Label → Prop
  | .consumer group partition label => Consumer.CommitsInOrder (s.consumers group partition) label
  | .outbox _ _ => True

instance (s : State) : ∀ l, Decidable (CommitsInOrder s l)
  | .consumer group partition label =>
    inferInstanceAs (Decidable (Consumer.CommitsInOrder (s.consumers group partition) label))
  | .outbox _ _ => .isTrue trivial

/-- How often the group's handler was committed for the event. -/
def State.timesHandled (config : Config) (s : State) (group : Nat) (eventId : Uuid) : Nat :=
  (s.consumers group (config.partition eventId)).timesHandled
    (s.messages config (config.partition eventId)) eventId

/-- The group has published the event to its dead-letter queue. -/
def State.DeadLettered (config : Config) (s : State) (group : Nat) (eventId : Uuid) : Prop :=
  ∃ k ∈ (s.consumers group (config.partition eventId)).dlq,
    (s.messages config (config.partition eventId))[k]? = some (some eventId)

/-- The group has committed the offsets of everything in the partition of the event. -/
def State.CaughtUp (config : Config) (s : State) (group : Nat) (eventId : Uuid) : Prop :=
  (s.messages config (config.partition eventId)).length ≤
    (s.consumers group (config.partition eventId)).committedOffset

/-! ## The topics -/

/-- The records on the topics are of events that were inserted. -/
structure Recorded (s : State) : Prop where
  outbox : Outbox.Inv s.outbox
  drawn : ∀ k < s.outbox.uuids, ∃ e ∈ s.outbox.inserted, e.id = ⟨0, k⟩ ∧ e.eventId = ⟨1, k⟩
  log : ∀ id ∈ s.log, ∃ k < s.outbox.uuids, id = ⟨1, k⟩
  published : ∀ id, .published id ∈ s.outbox.trace → id ∈ s.log

theorem recorded_init : Recorded {} where
  outbox := Outbox.inv_init
  drawn k hk := absurd hk (Nat.not_lt_zero k)
  log := by simp
  published := by simp

/-- A relay that sends a record holds the event. -/
theorem sends_held {o : Outbox.State} {l : Outbox.Label} {written : Bool} {id : Uuid}
    (h : id ∈ sends o l written) : ∃ r event rest, o.relays r = .working event .publish rest ∧
      id = event.eventId := by
  unfold sends at h
  split at h
  · rename_i r ok
    split at h
    · rename_i event rest hrelay
      split at h
      · exact ⟨r, event, rest, hrelay, by simpa using h⟩
      · cases h
    · cases h
  · cases h

/-- What a step publishes it sends. -/
theorem published_sends {relays : Nat → Outbox.RelayConfig} {o o' : Outbox.State}
    {l : Outbox.Label} (written : Bool) (h : Outbox.step relays o l = some o') {id : Uuid}
    (hmem : .published id ∈ o'.trace) : .published id ∈ o.trace ∨ id ∈ sends o l written := by
  -- only `publish` and `markRetry` write to the trace, and the latter only failures
  cases l with
  | publish r ok =>
    simp only [Outbox.step] at h
    split at h
    · rename_i event rest hrelay
      cases ok with
      | true =>
        cases h
        simpa [Outbox.State.setRelay, sends, hrelay, or_comm] using hmem
      | false =>
        -- a record that was written all the same is not known to be published
        cases h
        exact .inl hmem
    · cases h
  | markRetry r applied =>
    simp only [Outbox.step] at h
    split at h
    · rename_i event rest hrelay
      cases h
      have hretry : .published id ∈ (o.retryEvent event.id).trace → .published id ∈ o.trace := by
        unfold Outbox.State.retryEvent
        dsimp only
        split
        · split <;> simp [Outbox.State.updateEvents]
        · exact fun h => h
      cases applied with
      | true => exact .inl (hretry hmem)
      | false => exact .inl hmem
    · cases h
  | insert aggregateId createdAt =>
    simp only [Outbox.step] at h
    split at h
    · obtain ⟨events, -, heq⟩ := Option.bind_eq_some_iff.mp h
      cases heq
      exact .inl hmem
    · cases h
  | markPublished r applied =>
    simp only [Outbox.step] at h
    split at h
    · cases h
      simp only [Outbox.State.setRelay, Outbox.State.settleEvent] at hmem
      split at hmem
      · split at hmem <;> exact .inl hmem
      · exact .inl hmem
    · cases h
  | tick | claimSelect | claimLock | checkDedup | markDedup | crash | expire | releaseStaleLocks
  | cleanupPublished =>
    simp only [Outbox.step] at h
    repeat' split at h
    all_goals first
      | cases h; exact .inl hmem
      | cases h

/-- A step of the relays or of the tables. -/
theorem recorded_outbox (h : Recorded s) {l : Outbox.Label} {written : Bool} {o : Outbox.State}
    (hstep : Outbox.step config.relays s.outbox l = some o) :
    Recorded { s with outbox := o, log := s.log ++ sends s.outbox l written } := by
  have hchanges := Outbox.step_changes h.outbox hstep
  refine ⟨Outbox.inv_of_changes h.outbox hchanges, ?_, fun id hid => ?_, fun id hid => ?_⟩
  · intro k hk
    rcases hchanges.rows with ⟨huuids, hins, -⟩ | ⟨aggregateId, createdAt, -, huuids, hins, -⟩
    · dsimp only at hk ⊢
      rw [hins]
      exact h.drawn k (huuids ▸ hk)
    · dsimp only at hk ⊢
      rw [hins]
      by_cases hold : k < s.outbox.uuids
      · obtain ⟨e, he, hids⟩ := h.drawn k hold
        exact ⟨e, List.mem_append_left _ he, hids⟩
      · -- the new event
        obtain rfl : k = s.outbox.uuids := by omega
        exact ⟨_, List.mem_append_right _ (List.mem_singleton_self _), rfl, rfl⟩
  · rcases List.mem_append.mp hid with hid | hid
    · obtain ⟨k, hk, rfl⟩ := h.log id hid
      exact ⟨k, Nat.lt_of_lt_of_le hk hchanges.uuids_le, rfl⟩
    · -- a relay works on rows whose identifiers were drawn
      obtain ⟨r, event, rest, hrelay, rfl⟩ := sends_held hid
      have hsound := h.outbox.relays r
      rw [hrelay] at hsound
      obtain ⟨k, hk, -, heventId⟩ := hsound.1 event (List.mem_cons_self ..)
      exact ⟨k, Nat.lt_of_lt_of_le hk hchanges.uuids_le, heventId⟩
  · rcases published_sends written hstep hid with hid | hid
    · exact List.mem_append_left _ (h.published id hid)
    · exact List.mem_append_right _ hid

/-! ## What cannot come any more -/

/-- The records of a partition that are new. -/
theorem messages_append (o : Outbox.State) (new : List Uuid) (partition : Nat) :
    State.messages config { s with outbox := o, log := s.log ++ new } partition =
      s.messages config partition ++ (new.filter (config.partition · = partition)).map some := by
  simp [State.messages]

/-- An event that a relay may publish after a step was one that a relay might publish before,
    unless the step inserted it. -/
theorem source_of_changes {o o' : Outbox.State} {l : Outbox.Label} (hinv : Outbox.Inv o)
    (hchanges : Outbox.Changes o l o') {e : OutboxEvent} (he : e ∈ o.inserted)
    (h : Pending o' e.id ∨ ∃ r, (o'.relays r).Holds e.id) :
    Pending o e.id ∨ ∃ r, (o.relays r).Holds e.id := by
  obtain ⟨n, hn, hid, -⟩ := hinv.inserted e he
  rcases h with ⟨row, hmem, hrowId, hpending⟩ | ⟨r, hholds⟩
  · refine .inl ?_
    rcases hchanges.mem_rows hmem with ⟨old, hold, hchange⟩ | ⟨_, _, -, -, rfl⟩
    · -- no row becomes pending again
      refine ⟨old, hold, hchange.same.id.symm.trans hrowId, ?_⟩
      cases hchange with
      | kept _ status => exact status.symm.trans hpending
      | published _ hstatus _ _ => exact hstatus
      | failed _ hstatus _ _ => exact hstatus
    · -- not the row of a new event
      rw [hid] at hrowId
      cases hrowId
      exact absurd hn (Nat.lt_irrefl _)
  · rcases hchanges.held r e.id hholds with hheld | ⟨ids, -, hmem, hselects⟩
    · exact .inr ⟨r, hheld⟩
    · -- a relay takes up rows that are due
      obtain ⟨row, hrow, hrowId, hdue⟩ := Outbox.selects_mem hselects hmem
      simp only [Outbox.State.isOldestDue, Bool.and_eq_true, OutboxEvent.isDue,
        decide_eq_true_eq] at hdue
      exact .inl ⟨row, hrow, hrowId, hdue.1.1⟩

/-- An event is sent by a relay that holds its row. -/
theorem held_of_sends (h : Recorded s) {l : Outbox.Label} {written : Bool} {k : Nat}
    (hk : k < s.outbox.uuids) (hmem : ⟨1, k⟩ ∈ sends s.outbox l written) :
    ∃ e ∈ s.outbox.inserted, e.eventId = ⟨1, k⟩ ∧ ∃ r, (s.outbox.relays r).Holds e.id := by
  obtain ⟨r, event, rest, hrelay, hevent⟩ := sends_held hmem
  obtain ⟨e, he, hid, heventId⟩ := h.drawn k hk
  have hsound := h.outbox.relays r
  rw [hrelay] at hsound
  -- the identifiers of a row and of its event are drawn together
  obtain ⟨n, -, hrowId, hn⟩ := hsound.1 event (List.mem_cons_self ..)
  rw [hn] at hevent
  cases hevent
  refine ⟨e, he, heventId, r, ?_⟩
  rw [hrelay]
  exact .inl (hid.trans hrowId.symm)

/-- After a step of the relays or of the tables, an event that is on the topics may come only if
    it could come before. -/
theorem inFlight_outbox (h : Recorded s) {l : Outbox.Label} {written : Bool} {o : Outbox.State}
    (hstep : Outbox.step config.relays s.outbox l = some o) (hlog : eventId ∈ s.log)
    (hin : State.InFlight config { s with outbox := o, log := s.log ++ sends s.outbox l written }
      group eventId) : s.InFlight config group eventId := by
  have hchanges := Outbox.step_changes h.outbox hstep
  obtain ⟨k, hk, rfl⟩ := h.log eventId hlog
  rcases hin with ⟨e, he, hid, hsource⟩ | ⟨j, hle, hmsg⟩
  · -- an event on the topics was inserted before
    have hold : e ∈ s.outbox.inserted := by
      rcases hchanges.mem_inserted he with hold | ⟨_, _, -, -, rfl, -⟩
      · exact hold
      · cases hid
        exact absurd hk (Nat.lt_irrefl _)
    exact .inl ⟨e, hold, hid, source_of_changes h.outbox hchanges hold hsource⟩
  · rw [messages_append] at hmsg
    by_cases hlt : j < (s.messages config (config.partition ⟨1, k⟩)).length
    · rw [List.getElem?_append_left hlt] at hmsg
      exact .inr ⟨j, hle, hmsg⟩
    · -- the record is written now
      rw [List.getElem?_append_right (Nat.le_of_not_lt hlt)] at hmsg
      obtain ⟨id, hmem, heq⟩ := List.mem_map.mp (List.mem_of_getElem? hmsg)
      cases heq
      obtain ⟨e, he, heventId, hheld⟩ := held_of_sends h hk (List.mem_of_mem_filter hmem)
      exact .inl ⟨e, he, heventId, .inr hheld⟩

/-- A consumer's step leaves the other consumers alone. -/
theorem consumers_setConsumer (s : State) (group partition : Nat) (c : Consumer.State)
    (group' partition' : Nat) : (s.setConsumer group partition c).consumers group' partition' =
      if group' = group ∧ partition' = partition then c else s.consumers group' partition' := by
  by_cases hgroup : group' = group
  · subst hgroup
    by_cases hpartition : partition' = partition
    · subst hpartition
      simp [State.setConsumer]
    · simp [State.setConsumer, hpartition]
  · simp [State.setConsumer, hgroup]

/-- The same after a step of a consumer, which does not go back. -/
theorem inFlight_consumer {partition : Nat} {c : Consumer.State} {group' : Nat}
    (hle : (s.consumers group' partition).committedOffset ≤ c.committedOffset)
    (hin : (s.setConsumer group' partition c).InFlight config group eventId) :
    s.InFlight config group eventId := by
  rcases hin with hsource | ⟨j, hj, hmsg⟩
  · exact .inl hsource
  · refine .inr ⟨j, ?_, hmsg⟩
    rw [consumers_setConsumer] at hj
    split at hj
    · rename_i heq
      rw [heq.1, heq.2]
      exact hle.trans hj
    · exact hj

/-! ## Runs -/

/-- The invariant of the runs whose cleanup spares the events that may still come. -/
structure Inv (config : Config) (s : State) : Prop where
  recorded : Recorded s
  consumers : ∀ group partition, Consumer.Inv (s.consumers group partition)
  idempotent : ∀ group partition, Consumer.Idempotent (s.messages config partition)
    (fun eventId => ¬ s.InFlight config group eventId) (s.consumers group partition)

theorem inv_init : Inv config {} where
  recorded := recorded_init
  consumers _ _ := Consumer.inv_init
  idempotent _ _ := Consumer.idempotent_init

/-- A message is in the partition of its event. -/
theorem mem_messages {partition : Nat} (h : some eventId ∈ s.messages config partition) :
    eventId ∈ s.log ∧ config.partition eventId = partition := by
  obtain ⟨id, hmem, heq⟩ := List.mem_map.mp h
  cases heq
  simpa using List.mem_filter.mp hmem

theorem inv_step {l : Label} (h : Inv config s) (hkeeps : KeepsInFlight config s l)
    (hstep : step config s l = some t) : Inv config t := by
  cases l with
  | outbox label written =>
    obtain ⟨o, ho, rfl⟩ := Option.map_eq_some_iff.mp hstep
    refine ⟨recorded_outbox h.recorded ho, h.consumers, fun group partition => ?_⟩
    rw [messages_append]
    refine ((h.idempotent group partition).mono fun id hid hgone hin => ?_).append _
    exact hgone (inFlight_outbox h.recorded ho (mem_messages hid).1 hin)
  | consumer group partition label =>
    obtain ⟨c, hc, rfl⟩ := Option.map_eq_some_iff.mp hstep
    have hinv := h.consumers group partition
    have hgone : ∀ id, ¬ s.InFlight config group id → ∀ k,
        (s.messages config partition)[k]? = some (some id) →
          k < (s.consumers group partition).committedOffset := by
      intro id hgone k hmsg
      obtain ⟨-, rfl⟩ := mem_messages (List.mem_of_getElem? hmsg)
      by_contra hlt
      exact hgone (.inr ⟨k, Nat.le_of_not_lt hlt, hmsg⟩)
    have hidempotent := Consumer.idempotent_step hinv (h.idempotent group partition) hgone
      (fun keep hlabel id hid hcomes => by
        subst hlabel
        exact hkeeps id (mem_messages hid).2 (not_not.mp hcomes)) hc
    have hle := Consumer.committedOffset_le hinv hc
    refine ⟨⟨h.recorded.outbox, h.recorded.drawn, h.recorded.log, h.recorded.published⟩,
      fun group' partition' => ?_, fun group' partition' => ?_⟩
    · rw [consumers_setConsumer]
      split
      · exact Consumer.inv_of_step hinv hc
      · exact h.consumers group' partition'
    · have hsame : Consumer.Idempotent (s.messages config partition')
          (fun id => ¬ s.InFlight config group' id)
          ((s.setConsumer group partition c).consumers group' partition') := by
        rw [consumers_setConsumer]
        split
        · rename_i heq
          obtain ⟨rfl, rfl⟩ := heq
          exact hidempotent
        · exact h.idempotent group' partition'
      exact hsame.mono fun id _ hcomes hin => hcomes (inFlight_consumer hle hin)

/-- Offsets that are committed in order are those of messages that are settled. -/
theorem nothingLost_step {l : Label} (h : Inv config s)
    (hlost : ∀ group partition, (s.consumers group partition).NothingLost)
    (horder : CommitsInOrder s l) (hstep : step config s l = some t) (group partition : Nat) :
    (t.consumers group partition).NothingLost := by
  cases l with
  | outbox label written =>
    obtain ⟨o, -, rfl⟩ := Option.map_eq_some_iff.mp hstep
    exact hlost group partition
  | consumer group' partition' label =>
    obtain ⟨c, hc, rfl⟩ := Option.map_eq_some_iff.mp hstep
    rw [consumers_setConsumer]
    split
    · have hinv := h.consumers group' partition'
      exact (Consumer.inv_step hinv (hlost group' partition') hc).2.mpr horder
    · exact hlost group partition

/-- A group that has settled everything has handled the event, or has dead-lettered it. -/
theorem handled_of_caughtUp (h : Inv config s)
    (hlost : (s.consumers group (config.partition eventId)).NothingLost) (hlog : eventId ∈ s.log)
    (hcaught : s.CaughtUp config group eventId) :
    s.timesHandled config group eventId = 1 ∨ s.DeadLettered config group eventId := by
  have hidempotent := h.idempotent group (config.partition eventId)
  have honce : s.timesHandled config group eventId ≤ 1 := hidempotent.once eventId
  have hhandled {k : Nat} (hk : k ∈ (s.consumers group (config.partition eventId)).handled)
      (hmsg : (s.messages config (config.partition eventId))[k]? = some (some eventId)) :
      s.timesHandled config group eventId = 1 := by
    have hpos : 0 < s.timesHandled config group eventId :=
      List.countP_pos_iff.mpr ⟨k, hk, by simpa using hmsg⟩
    omega
  have hmem : some eventId ∈ s.messages config (config.partition eventId) :=
    List.mem_map.mpr ⟨eventId, List.mem_filter.mpr ⟨hlog, by simp⟩, rfl⟩
  obtain ⟨k, hlt, hmsg⟩ := List.getElem_of_mem hmem
  have hmsg : (s.messages config (config.partition eventId))[k]? = some (some eventId) :=
    List.getElem?_eq_some_iff.mpr ⟨hlt, hmsg⟩
  -- nothing below the committed offset was lost
  rcases hlost k (Nat.lt_of_lt_of_le hlt hcaught) with hk | hk | hk
  · exact .inl (hhandled hk hmsg)
  · -- it was handled at an earlier offset
    obtain ⟨j, hj, heq⟩ := hidempotent.skipped k hk
    exact .inl (hhandled hj (heq.trans hmsg))
  · exact .inr ⟨k, hk, hmsg⟩

/-- An event whose row is no longer pending has failed or was published. -/
theorem delivered_of_settled (h : Inv config s)
    (hlost : ∀ group partition, (s.consumers group partition).NothingLost) {e : OutboxEvent}
    (he : e ∈ s.outbox.inserted) (hsettled : ¬ Pending s.outbox e.id) :
    .failed e.eventId ∈ s.outbox.trace ∨ ∀ group, s.CaughtUp config group e.eventId →
      s.timesHandled config group e.eventId = 1 ∨ s.DeadLettered config group e.eventId := by
  rcases h.recorded.outbox.accounted e he with hpublished | hfailed | ⟨row, hrow, hsame, hpending⟩
  · refine .inr fun group hcaught => ?_
    exact handled_of_caughtUp h (hlost group _) (h.recorded.published _ hpublished) hcaught
  · exact .inl hfailed
  · exact absurd ⟨row, hrow, hsame.id, hpending⟩ hsettled

/-- What a run keeps that meets both conditions. -/
theorem inv_run {ls : List Label} (h : Inv config s)
    (hlost : ∀ group partition, (s.consumers group partition).NothingLost)
    (hkeeps : Run.Meets (step config) (KeepsInFlight config) s ls)
    (horder : Run.Meets (step config) CommitsInOrder s ls)
    (hrun : Run.run (step config) s ls = some t) :
    Inv config t ∧ ∀ group partition, (t.consumers group partition).NothingLost := by
  have hstep : ∀ s l t, (Inv config s ∧ ∀ group partition,
      (s.consumers group partition).NothingLost) → KeepsInFlight config s l ∧ CommitsInOrder s l →
        step config s l = some t → Inv config t ∧ ∀ group partition,
          (t.consumers group partition).NothingLost :=
    fun s l t h hmeets hstep =>
      ⟨inv_step h.1 hmeets.1 hstep, nothingLost_step h.1 h.2 hmeets.2 hstep⟩
  exact Run.run_invariant_of_meets hstep ⟨h, hlost⟩ (hkeeps.and horder) hrun

theorem nothingLost_init (group partition : Nat) :
    (({} : State).consumers group partition).NothingLost :=
  fun _ hk => absurd hk (Nat.not_lt_zero _)

def sampleConfig : Config where
  relays := Outbox.plainConfig
  maxRetries _ := 3
  partition _ := 0

/-- The transaction of the handler is committed, but the answer is lost. -/
def answerLost : Consumer.ProcessInput where
  attempts _ := ⟨.ok, .commitAnswer⟩
  shutdown _ := false
  dlqOk := true

/-- A relay crashes after its publish, and another one publishes the event again. The consumer
    handles the event and does not learn of it. -/
def republished : List Label :=
  [.outbox (.insert ⟨2, 0⟩ 0) false, .outbox (.claimSelect 0 [⟨0, 0⟩]) false,
    .outbox (.claimLock 0 [⟨0, 0⟩]) false, .outbox (.checkDedup 0 true) false,
    .outbox (.publish 0 true) false, .outbox (.crash 0) false, .outbox (.tick 9) false,
    .outbox (.releaseStaleLocks 5) false, .outbox (.claimSelect 1 [⟨0, 0⟩]) false,
    .outbox (.claimLock 1 [⟨0, 0⟩]) false, .outbox (.checkDedup 1 true) false,
    .outbox (.publish 1 true) false, .outbox (.markDedup 1 true) false,
    .outbox (.markPublished 1 true) false, .consumer 0 0 (.receive answerLost),
    .consumer 0 0 .restart, .consumer 0 0 (.receive Consumer.smooth), .consumer 0 0 .commitOffset,
    .consumer 0 0 (.receive Consumer.smooth), .consumer 0 0 .commitOffset]

/-- The event as it was inserted. -/
def republishedEvent : OutboxEvent where
  id := ⟨0, 0⟩
  eventId := ⟨1, 0⟩
  aggregateId := ⟨2, 0⟩
  createdAt := 0
  nextRetryAt := 0

end Koupang.Delivery
