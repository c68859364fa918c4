import Koupang.ForStd.Run
import Koupang.Model.Outbox

/-!
# Correctness of the outbox relay

What one step can do to the rows, the relays and the records is said once, in
`Changes`. The invariant of the runs follows from it: a row is marked, deleted or
put into the dedup cache only by a relay that has seen its publish succeed.

The order of the publishes within an aggregate is another matter: `claim_batch`
looks for the oldest event among those that are due, so an event that is backing
off after a failed publish does not hold back the younger ones.

## Key results

- `step_changes`: what a step changes
- `outbox_loses_nothing`: a row is published or deleted only after its publish
- `publishes_in_order`: the order within an aggregate, as long as no event is claimed
  over an older one that is backing off
- `publishes_out_of_order`: a younger event overtakes one that is backing off
-/

namespace Koupang.Outbox

/-! ## Events and their identity -/

/-- Two versions of the row of one event. -/
structure SameEvent (e e' : OutboxEvent) : Prop where
  id : e'.id = e.id
  eventId : e'.eventId = e.eventId
  aggregateId : e'.aggregateId = e.aggregateId
  createdAt : e'.createdAt = e.createdAt

theorem SameEvent.refl (e : OutboxEvent) : SameEvent e e := ⟨rfl, rfl, rfl, rfl⟩

theorem SameEvent.trans {e₁ e₂ e₃ : OutboxEvent} (h : SameEvent e₁ e₂) (h' : SameEvent e₂ e₃) :
    SameEvent e₁ e₃ :=
  ⟨h'.id.trans h.id, h'.eventId.trans h.eventId, h'.aggregateId.trans h.aggregateId,
    h'.createdAt.trans h.createdAt⟩

/-- Both identifiers of an event come from one draw, and `n` were made. -/
def Identified (n : Nat) (e : OutboxEvent) : Prop :=
  ∃ k < n, e.id = ⟨0, k⟩ ∧ e.eventId = ⟨1, k⟩

theorem Identified.mono {n m : Nat} {e : OutboxEvent} (h : Identified n e) (hle : n ≤ m) :
    Identified m e := by
  obtain ⟨k, hk, hids⟩ := h
  exact ⟨k, Nat.lt_of_lt_of_le hk hle, hids⟩

theorem Identified.same {n : Nat} {e e' : OutboxEvent} (h : Identified n e)
    (hsame : SameEvent e e') : Identified n e' := by
  obtain ⟨k, hk, hid, heventId⟩ := h
  exact ⟨k, hk, hsame.id.trans hid, hsame.eventId.trans heventId⟩

/-- `id` and `event_id` determine each other. -/
theorem Identified.id_eq_iff {n m : Nat} {e e' : OutboxEvent} (h : Identified n e)
    (h' : Identified m e') : e.id = e'.id ↔ e.eventId = e'.eventId := by
  obtain ⟨k, -, hid, heventId⟩ := h
  obtain ⟨k', -, hid', heventId'⟩ := h'
  rw [hid, hid', heventId, heventId']
  simp

theorem update_same {set : OutboxEvent → OutboxEvent} {e : OutboxEvent}
    (h : SameEvent e (set e)) : SameEvent e (e.update set) := by
  unfold OutboxEvent.update
  dsimp only
  split
  · exact ⟨rfl, h.eventId, h.aggregateId, h.createdAt⟩
  · exact .refl e

/-- The trigger: a row's status stays, or leaves `pending`. -/
theorem update_status (set : OutboxEvent → OutboxEvent) (e : OutboxEvent) :
    (e.update set).status = e.status ∨
      e.status = .pending ∧ (e.update set).status = (set e).status ∧ (set e).status ≠ .pending := by
  unfold OutboxEvent.update enforceOutboxStatusTransition
  dsimp only
  split
  · rename_i h
    simp only [Bool.or_eq_true, Bool.and_eq_true, decide_eq_true_eq] at h
    rcases h with h | ⟨hpending, h | h⟩
    · exact .inl h.symm
    · exact .inr ⟨hpending, rfl, by rw [h]; decide⟩
    · exact .inr ⟨hpending, rfl, by rw [h]; decide⟩
  · exact .inl rfl

/-! ## One step -/

/-- What the step `a` can do to the row `e`, with the records before and after it: give the
    row the version `e'`, or remove it. -/
inductive RowChange (before after : List Entry) (a : Label) (e : OutboxEvent) :
    Option OutboxEvent → Prop where
  | kept {e'} (same : SameEvent e e') (status : e'.status = e.status) :
      RowChange before after a e (some e')
  | published {e'} (same : SameEvent e e') (old : e.status = .pending)
      (new : e'.status = .published) (mem : .published e.eventId ∈ before) :
      RowChange before after a e (some e')
  | failed {e'} (same : SameEvent e e') (old : e.status = .pending)
      (new : e'.status = .failed) (mem : .failed e.eventId ∈ after) :
      RowChange before after a e (some e')
  | removed (mem : .published e.eventId ∈ before)
      (cleanup : ∀ maxAge ids, a = .cleanupPublished maxAge ids → e.status = .published) :
      RowChange before after a e none

theorem RowChange.same {before after : List Entry} {a : Label} {e e' : OutboxEvent}
    (h : RowChange before after a e (some e')) : SameEvent e e' := by
  cases h with
  | kept same _ => exact same
  | published same _ _ _ => exact same
  | failed same _ _ _ => exact same

/-- The event `id` is in the hands of the relay. -/
def Relay.Holds (id : Uuid) : Relay → Prop
  | .idle => False
  | .selected ids => id ∈ ids
  | .working event _ rest => id = event.id ∨ ∃ e ∈ rest, id = e.id

/-- What is true of the events in the hands of a relay: past `publish`, and on a hit of the
    dedup cache, the event was published. -/
def Relay.Sound (uuids : Nat) (trace : List Entry) : Relay → Prop
  | .idle => True
  | .selected ids => ∀ id ∈ ids, ∃ k < uuids, id = ⟨0, k⟩
  | .working event pc rest => (∀ e ∈ event :: rest, Identified uuids e) ∧
      (pc = .markDedup ∨ pc = .markPublished → .published event.eventId ∈ trace)

theorem Relay.Sound.mono {n m : Nat} {before after : List Entry} {relay : Relay}
    (h : relay.Sound n before) (hle : n ≤ m) (hsub : before ⊆ after) : relay.Sound m after := by
  cases relay with
  | idle => trivial
  | selected ids =>
    intro id hid
    obtain ⟨k, hk, rfl⟩ := h id hid
    exact ⟨k, Nat.lt_of_lt_of_le hk hle, rfl⟩
  | working event pc rest =>
    exact ⟨fun e he => (h.1 e he).mono hle, fun hpc => hsub (h.2 hpc)⟩

/-- A relay holds only identifiers that were drawn. -/
theorem Relay.Sound.drawn {n : Nat} {trace : List Entry} {relay : Relay}
    (h : relay.Sound n trace) {id : Uuid} (hholds : relay.Holds id) : ∃ k < n, id = ⟨0, k⟩ := by
  cases relay with
  | idle => exact hholds.elim
  | selected ids => exact h id hholds
  | working event pc rest =>
    have hmem : ∃ e ∈ event :: rest, id = e.id := by
      rcases hholds with rfl | ⟨e, he, rfl⟩
      · exact ⟨event, List.mem_cons_self .., rfl⟩
      · exact ⟨e, List.mem_cons_of_mem _ he, rfl⟩
    obtain ⟨e, he, rfl⟩ := hmem
    obtain ⟨k, hk, hid, -⟩ := h.1 e he
    exact ⟨k, hk, hid⟩

theorem Relay.sound_next {n : Nat} {trace : List Entry} {events : List OutboxEvent}
    (h : ∀ e ∈ events, Identified n e) : (Relay.next events).Sound n trace := by
  cases events with
  | nil => trivial
  | cons event rest => exact ⟨h, by simp⟩

theorem Relay.holds_next {events : List OutboxEvent} {id : Uuid}
    (h : (Relay.next events).Holds id) : ∃ e ∈ events, id = e.id := by
  cases events with
  | nil => exact h.elim
  | cons event rest => simpa [Relay.next, Relay.Holds] using h

/-- The invariant of the runs. -/
structure Inv (s : State) : Prop where
  rows : ∀ e ∈ s.events.rows, Identified s.uuids e
  inserted : ∀ e ∈ s.inserted, Identified s.uuids e
  relays : ∀ r, (s.relays r).Sound s.uuids s.trace
  redis : ∀ eventId ∈ s.redis, .published eventId ∈ s.trace
  versions : ∀ e ∈ s.inserted, ∀ e' ∈ s.events.rows, e'.id = e.id → SameEvent e e'
  traced : ∀ eventId, .published eventId ∈ s.trace → ∃ k < s.uuids, eventId = ⟨1, k⟩
  published : ∀ e ∈ s.events.rows, e.status = .published → .published e.eventId ∈ s.trace
  /-- no event is lost: it was published, it has failed, or its row is pending -/
  accounted : ∀ e ∈ s.inserted, .published e.eventId ∈ s.trace ∨ .failed e.eventId ∈ s.trace ∨
    ∃ e' ∈ s.events.rows, SameEvent e e' ∧ e'.status = .pending

/-- What a step changes. -/
structure Changes (s : State) (a : Label) (t : State) : Prop where
  rows : (t.uuids = s.uuids ∧ t.inserted = s.inserted ∧ ∃ f,
      t.events.rows = s.events.rows.filterMap f ∧
        ∀ e ∈ s.events.rows, RowChange s.trace t.trace a e (f e)) ∨
    ∃ aggregateId createdAt, a = .insert aggregateId createdAt ∧ t.uuids = s.uuids + 1 ∧
      t.inserted = s.inserted ++ [s.newEvent aggregateId createdAt] ∧
      t.events.rows = s.events.rows ++ [s.newEvent aggregateId createdAt]
  trace : t.trace = s.trace ∨ (∃ eventId, t.trace = .failed eventId :: s.trace) ∨
    ∃ r event rest, s.relays r = .working event .publish rest ∧
      t.trace = .published event.eventId :: s.trace
  relays : ∀ r, t.relays r = s.relays r ∨ (t.relays r).Sound t.uuids t.trace
  held : ∀ r id, (t.relays r).Holds id → (s.relays r).Holds id ∨
    ∃ ids, a = .claimSelect r ids ∧ id ∈ ids ∧ s.selects ids
  redis : ∀ eventId ∈ t.redis, eventId ∈ s.redis ∨ .published eventId ∈ t.trace

theorem Changes.refl (s : State) (a : Label) : Changes s a s where
  rows := .inl ⟨rfl, rfl, some, by simp, fun e _ => .kept (.refl e) rfl⟩
  trace := .inl rfl
  relays _ := .inl rfl
  held _ _ h := .inl h
  redis _ h := .inl h

/-- A relay goes on; nothing else changes. -/
theorem Changes.setRelay {s : State} {a : Label} {t : State} (h : Changes s a t) (r : Nat)
    {relay : Relay} (hsound : relay.Sound t.uuids t.trace)
    (hheld : ∀ id, relay.Holds id → (s.relays r).Holds id ∨
      ∃ ids, a = .claimSelect r ids ∧ id ∈ ids ∧ s.selects ids) :
    Changes s a (t.setRelay r relay) where
  rows := h.rows
  trace := h.trace
  relays r' := by
    rw [State.relays_setRelay]
    split
    · exact .inr hsound
    · exact h.relays r'
  held r' id := by
    rw [State.relays_setRelay]
    split
    · rename_i hr
      exact hr ▸ hheld id
    · exact h.held r' id
  redis := h.redis

theorem Changes.uuids_le {s t : State} {a : Label} (h : Changes s a t) : s.uuids ≤ t.uuids := by
  rcases h.rows with ⟨heq, -⟩ | ⟨_, _, -, heq, -⟩
  · exact heq.ge
  · omega

theorem Changes.trace_subset {s t : State} {a : Label} (h : Changes s a t) :
    s.trace ⊆ t.trace := by
  rcases h.trace with heq | ⟨_, heq⟩ | ⟨_, _, _, -, heq⟩
  · rw [heq]
    exact List.Subset.refl _
  · rw [heq]
    exact List.subset_cons_self ..
  · rw [heq]
    exact List.subset_cons_self ..

/-- A relay is done with an event and goes on with the rest of its batch. -/
theorem Changes.next {s t : State} {a : Label} (h : Changes s a t) {r : Nat}
    {event : OutboxEvent} {pc : Pc} {rest : List OutboxEvent}
    (hsound : (Relay.working event pc rest).Sound s.uuids s.trace)
    (hrelay : s.relays r = .working event pc rest) :
    Changes s a (t.setRelay r (Relay.next rest)) := by
  refine h.setRelay r (Relay.sound_next fun e he => ?_) fun id hid => .inl ?_
  · exact (hsound.1 e (List.mem_cons_of_mem _ he)).mono h.uuids_le
  · rw [hrelay]
    exact .inr (Relay.holds_next hid)

/-- An `UPDATE` of some rows, with the record of a failure it may leave. -/
theorem changes_updateEvents {s : State} {a : Label} {cond : OutboxEvent → Bool}
    {set : OutboxEvent → OutboxEvent} {trace : List Entry}
    (htrace : trace = s.trace ∨ ∃ eventId, trace = .failed eventId :: s.trace)
    (hset : ∀ e ∈ s.events.rows, cond e → RowChange s.trace trace a e (some (e.update set))) :
    Changes s a { s.updateEvents cond set with trace } where
  rows := by
    refine .inl ⟨rfl, rfl, fun e => some (updateWhere cond set e), ?_, fun e he => ?_⟩
    · simp [State.updateEvents, Table.map]
    · simp only [updateWhere]
      split
      · rename_i hcond
        exact hset e he hcond
      · exact .kept (.refl e) rfl
  trace := htrace.imp_right .inl
  relays _ := .inl rfl
  held _ _ h := .inl h
  redis _ h := .inl h

theorem rowChange_update_of_status {before after : List Entry} {a : Label} {e : OutboxEvent}
    {set : OutboxEvent → OutboxEvent} (hsame : SameEvent e (set e))
    (hstatus : (set e).status = e.status) :
    RowChange before after a e (some (e.update set)) := by
  refine .kept (update_same hsame) ?_
  rcases update_status set e with h | ⟨-, h, -⟩
  · exact h
  · exact h.trans hstatus

/-- `mark_published` and `delete_published`, for an event that was published. -/
theorem changes_settleEvent {s : State} {a : Label} {deleteOnPublish : Bool} {event : OutboxEvent}
    (hinv : Inv s) (hevent : Identified s.uuids event)
    (hpublished : .published event.eventId ∈ s.trace)
    (ha : ∀ maxAge ids, a ≠ .cleanupPublished maxAge ids) :
    Changes s a (s.settleEvent deleteOnPublish event.id) := by
  have hmem : ∀ e ∈ s.events.rows, e.id = event.id → .published e.eventId ∈ s.trace := by
    intro e he hid
    rw [((hinv.rows e he).id_eq_iff hevent).mp hid]
    exact hpublished
  cases deleteOnPublish with
  | true =>
    -- the row is removed whatever its status is
    refine { Changes.refl s a with rows := .inl ⟨rfl, rfl, Option.guard (·.id ≠ event.id), ?_, ?_⟩ }
    · simp [State.settleEvent, Table.filter, List.filterMap_eq_filter]
    · intro e he
      by_cases hid : e.id = event.id
      · rw [show Option.guard (fun e => decide (e.id ≠ event.id)) e = none by simp [hid]]
        exact .removed (hmem e he hid) fun maxAge ids h => absurd h (ha maxAge ids)
      · rw [show Option.guard (fun e => decide (e.id ≠ event.id)) e = some e by simp [hid]]
        exact .kept (.refl e) rfl
  | false =>
    refine changes_updateEvents (.inl rfl) fun e he hid => ?_
    have hsame : SameEvent e (e.update (OutboxEvent.markPublished s.now)) :=
      update_same ⟨rfl, rfl, rfl, rfl⟩
    rcases update_status (OutboxEvent.markPublished s.now) e with h | ⟨hpending, h, -⟩
    · -- marked before, or failed and the trigger raises
      exact .kept hsame h
    · exact .published hsame hpending h (hmem e he (by simpa using hid))

/-- The status after `mark_retry_or_failed` is `pending` or `failed`. -/
theorem markRetryOrFailed_status (now : Nat) (e : OutboxEvent) :
    (e.markRetryOrFailed now).status = .pending ∨ (e.markRetryOrFailed now).status = .failed := by
  unfold OutboxEvent.markRetryOrFailed
  dsimp only
  split
  · exact .inr rfl
  · exact .inl rfl

/-- `mark_retry_or_failed`. -/
theorem changes_retryEvent {s : State} {a : Label} {id : Uuid} :
    Changes s a (s.retryEvent id) := by
  have hsame : ∀ e, SameEvent e (e.update (OutboxEvent.markRetryOrFailed s.now)) :=
    fun e => update_same ⟨rfl, rfl, rfl, rfl⟩
  unfold State.retryEvent
  dsimp only
  split
  · rename_i e hfind
    obtain ⟨he, rfl⟩ := (s.events.find?_eq_some_iff id e).mp hfind
    -- the retries of a pending event are used up, or they are not
    split
    · rename_i hfailed
      simp only [Bool.and_eq_true, decide_eq_true_eq] at hfailed
      refine changes_updateEvents (.inr ⟨e.eventId, rfl⟩) fun e' he' hid => ?_
      cases s.events.eq_of_key_eq he' he (by simpa using hid)
      rcases update_status (OutboxEvent.markRetryOrFailed s.now) e with h | ⟨-, h, -⟩
      · exact .kept (hsame e) h
      · exact .failed (hsame e) hfailed.1 (h.trans hfailed.2) (List.mem_cons_self ..)
    · rename_i hfailed
      simp only [Bool.and_eq_true, decide_eq_true_eq, not_and] at hfailed
      refine changes_updateEvents (.inl rfl) fun e' he' hid => ?_
      cases s.events.eq_of_key_eq he' he (by simpa using hid)
      rcases update_status (OutboxEvent.markRetryOrFailed s.now) e with h | ⟨hpending, -, hne⟩
      · exact .kept (hsame e) h
      · rcases markRetryOrFailed_status s.now e with h | h
        · exact absurd h hne
        · exact absurd h (hfailed hpending)
  · rename_i hnone
    refine changes_updateEvents (.inl rfl) fun e he hid => ?_
    exact absurd (by simpa using hid) ((s.events.find?_eq_none_iff id).mp hnone e he)

/-- The rows that `claim_batch` returns. -/
theorem mem_eventsWith {s : State} {ids : List Uuid} {e : OutboxEvent}
    (h : e ∈ s.eventsWith ids) : e ∈ s.events.rows ∧ e.id ∈ ids := by
  obtain ⟨id, hid, hfind⟩ := List.mem_filterMap.mp h
  obtain ⟨he, rfl⟩ := (s.events.find?_eq_some_iff id e).mp hfind
  exact ⟨he, hid⟩

theorem selects_mem {s : State} {ids : List Uuid} (h : s.selects ids) {id : Uuid}
    (hid : id ∈ ids) : ∃ e ∈ s.events.rows, e.id = id ∧ s.isOldestDue e := by
  simp only [State.selects, Bool.and_eq_true, List.all_eq_true] at h
  obtain ⟨e, hfind, hdue⟩ := (Option.any_eq_true _ _).mp (h.1 id hid)
  obtain ⟨he, hid⟩ := (s.events.find?_eq_some_iff id e).mp hfind
  exact ⟨e, he, hid, hdue⟩

/-- `claim_batch`, its `UPDATE`: the rows that are returned are those of the snapshot, now locked. -/
theorem changes_claimLock {s : State} {r batchSize : Nat} {selected ids : List Uuid} (hinv : Inv s)
    (hrelay : s.relays r = .selected selected) (hlocks : s.locks batchSize selected ids) :
    Changes s (.claimLock r ids) ((s.updateEvents (·.id ∈ ids) (OutboxEvent.lock r s.now)).setRelay r
      (Relay.next ((s.updateEvents (·.id ∈ ids) (OutboxEvent.lock r s.now)).eventsWith ids))) := by
  simp only [State.locks, Bool.and_eq_true, List.all_eq_true, decide_eq_true_eq] at hlocks
  have hchanges : Changes s (.claimLock r ids)
      (s.updateEvents (·.id ∈ ids) (OutboxEvent.lock r s.now)) :=
    changes_updateEvents (.inl rfl) fun e _ _ =>
      rowChange_update_of_status ⟨rfl, rfl, rfl, rfl⟩ rfl
  refine hchanges.setRelay r (Relay.sound_next fun e he => ?_) fun id hid => ?_
  · obtain ⟨e₀, he₀, rfl⟩ := List.mem_map.mp (mem_eventsWith he).1
    refine (hinv.rows e₀ he₀).same ?_
    unfold updateWhere
    split
    · exact update_same ⟨rfl, rfl, rfl, rfl⟩
    · exact .refl e₀
  · obtain ⟨e, he, rfl⟩ := Relay.holds_next hid
    rw [hrelay]
    exact .inl (hlocks.1.1 _ (mem_eventsWith he).2).1

/-- A relay goes on with the event it works on. -/
theorem changes_working {s t : State} {a : Label} (h : Changes s a t) {r : Nat}
    {event : OutboxEvent} {pc pc' : Pc} {rest : List OutboxEvent}
    (hrelay : s.relays r = .working event pc rest)
    (hsound : (Relay.working event pc' rest).Sound t.uuids t.trace) :
    Changes s a (t.setRelay r (.working event pc' rest)) :=
  h.setRelay r hsound fun id hid => .inl (by rwa [hrelay])

/-- The broker accepts an event. -/
theorem changes_publish {s : State} {r : Nat} {ok : Bool} {event : OutboxEvent}
    {rest : List OutboxEvent} (hrelay : s.relays r = .working event .publish rest) :
    Changes s (.publish r ok) { s with trace := .published event.eventId :: s.trace } where
  rows := .inl ⟨rfl, rfl, some, by simp, fun e _ => .kept (.refl e) rfl⟩
  trace := .inr (.inr ⟨r, event, rest, hrelay, rfl⟩)
  relays _ := .inl rfl
  held _ _ := .inl
  redis _ := .inl

/-- The cache gets the key of a published event, or nothing. -/
theorem changes_markDedup {s : State} {a : Label} {eventId : Uuid} {redis : List Uuid}
    (hpublished : .published eventId ∈ s.trace) (hsub : redis ⊆ eventId :: s.redis) :
    Changes s a { s with redis } := by
  refine { Changes.refl s a with
    relays := fun _ => .inl rfl
    redis := fun eventId' hmem => ?_ }
  rcases List.mem_cons.mp (hsub hmem) with rfl | hmem
  · exact .inr hpublished
  · exact .inl hmem

/-- `cleanup_published`: only rows that are marked as published are removed. -/
theorem changes_cleanupPublished {s : State} {maxAge : Nat} {ids : List Uuid} (hinv : Inv s) :
    Changes s (.cleanupPublished maxAge ids) { s with
      events := s.events.filter (fun e => !(e.id ∈ ids && e.isOldPublished s.now maxAge)) } := by
  refine { Changes.refl s _ with
    rows := .inl ⟨rfl, rfl, Option.guard _, congrFun List.filterMap_eq_filter.symm _, ?_⟩
    relays := fun _ => .inl rfl }
  intro e he
  unfold Option.guard
  split
  · exact .kept (.refl e) rfl
  · rename_i hold
    simp only [Bool.not_eq_true, Bool.not_eq_false', Bool.and_eq_true, decide_eq_true_eq,
      OutboxEvent.isOldPublished] at hold
    exact .removed (hinv.published e he hold.2.1) fun _ _ _ => hold.2.1

/-- What a step from a state of a run changes. -/
theorem step_changes {config : Nat → RelayConfig} {s t : State} {a : Label} (hinv : Inv s)
    (h : step config s a = some t) : Changes s a t := by
  cases a with
  | tick duration =>
    cases h
    exact { Changes.refl s _ with }
  | insert aggregateId createdAt =>
    simp only [step] at h
    split at h
    · obtain ⟨events, hevents, heq⟩ := Option.bind_eq_some_iff.mp h
      cases heq
      obtain ⟨-, hrows⟩ := (Table.insert_eq_some ..).mp hevents
      exact { Changes.refl s _ with
        rows := .inr ⟨aggregateId, createdAt, rfl, rfl, rfl, hrows⟩
        relays := fun _ => .inl rfl }
    · exact nomatch h
  | claimSelect r ids =>
    simp only [step] at h
    split at h
    · split at h
      · rename_i hselects
        cases h
        refine (Changes.refl s _).setRelay r (fun id hid => ?_)
          fun id hid => .inr ⟨ids, rfl, hid, hselects⟩
        obtain ⟨e, he, rfl, -⟩ := selects_mem hselects hid
        obtain ⟨k, hk, hids, -⟩ := hinv.rows e he
        exact ⟨k, hk, hids⟩
      · exact nomatch h
    · exact nomatch h
  | claimLock r ids =>
    simp only [step] at h
    split at h
    · rename_i selected hrelay
      split at h
      · rename_i hlocks
        cases h
        exact changes_claimLock hinv hrelay hlocks
      · exact nomatch h
    · exact nomatch h
  | checkDedup r redisUp =>
    simp only [step] at h
    split at h
    · rename_i event rest hrelay
      cases h
      have hsound := hinv.relays r
      rw [hrelay] at hsound
      refine changes_working (.refl s _) hrelay ⟨hsound.1, ?_⟩
      split
      · -- a key in the cache means that the event was published
        rename_i hhit
        simp only [Bool.and_eq_true, decide_eq_true_eq] at hhit
        exact fun _ => hinv.redis _ hhit.2
      · simp
    · exact nomatch h
  | publish r ok =>
    simp only [step] at h
    split at h
    · rename_i event rest hrelay
      have hsound := hinv.relays r
      rw [hrelay] at hsound
      split at h
      · cases h
        exact changes_working (changes_publish hrelay) hrelay
          ⟨hsound.1, fun _ => List.mem_cons_self ..⟩
      · cases h
        exact changes_working (.refl s _) hrelay ⟨hsound.1, by simp⟩
    · exact nomatch h
  | markDedup r redisUp =>
    simp only [step] at h
    split at h
    · rename_i event rest hrelay
      cases h
      have hsound := hinv.relays r
      rw [hrelay] at hsound
      have hpublished := hsound.2 (.inl rfl)
      refine changes_working (changes_markDedup hpublished ?_) hrelay ⟨hsound.1, fun _ => hpublished⟩
      split
      · exact List.Subset.refl _
      · exact List.subset_cons_self ..
    · exact nomatch h
  | markPublished r applied =>
    simp only [step] at h
    split at h
    · rename_i event rest hrelay
      cases h
      have hsound := hinv.relays r
      rw [hrelay] at hsound
      have hchanges : Changes s (.markPublished r applied)
          (if applied then s.settleEvent (config r).deleteOnPublish event.id else s) := by
        split
        · exact changes_settleEvent hinv (hsound.1 event (List.mem_cons_self ..))
            (hsound.2 (.inr rfl)) nofun
        · exact .refl s _
      exact hchanges.next hsound hrelay
    · exact nomatch h
  | markRetry r applied =>
    simp only [step] at h
    split at h
    · rename_i event rest hrelay
      cases h
      have hsound := hinv.relays r
      rw [hrelay] at hsound
      have hchanges : Changes s (.markRetry r applied)
          (if applied then s.retryEvent event.id else s) := by
        split
        · exact changes_retryEvent
        · exact .refl s _
      exact hchanges.next hsound hrelay
    · exact nomatch h
  | crash r =>
    -- what the relay held stays locked
    cases h
    exact (Changes.refl s _).setRelay r trivial nofun
  | expire eventId =>
    cases h
    exact { Changes.refl s _ with
      relays := fun _ => .inl rfl
      redis := fun _ hmem => .inl (List.mem_of_mem_filter hmem) }
  | releaseStaleLocks staleTimeout =>
    cases h
    exact changes_updateEvents (.inl rfl) fun e _ _ =>
      rowChange_update_of_status ⟨rfl, rfl, rfl, rfl⟩ rfl
  | cleanupPublished maxAge ids =>
    simp only [step] at h
    split at h
    · cases h
      exact changes_cleanupPublished hinv
    · exact nomatch h

/-! ## Runs -/

theorem inv_init : Inv {} where
  rows := nofun
  inserted := nofun
  relays _ := trivial
  redis := nofun
  versions := nofun
  traced := nofun
  published := nofun
  accounted := nofun

/-- A version of a row after a step, and the row it comes from. -/
theorem Changes.mem_rows {s t : State} {a : Label} (h : Changes s a t) {e' : OutboxEvent}
    (he' : e' ∈ t.events.rows) :
    (∃ e ∈ s.events.rows, RowChange s.trace t.trace a e (some e')) ∨
      ∃ aggregateId createdAt, a = .insert aggregateId createdAt ∧
        t.uuids = s.uuids + 1 ∧ e' = s.newEvent aggregateId createdAt := by
  rcases h.rows with ⟨-, -, f, hrows, hchange⟩ | ⟨aggregateId, createdAt, ha, huuids, -, hrows⟩
  · rw [hrows] at he'
    obtain ⟨e, he, hf⟩ := List.mem_filterMap.mp he'
    exact .inl ⟨e, he, hf ▸ hchange e he⟩
  · rw [hrows] at he'
    rcases List.mem_append.mp he' with he' | he'
    · exact .inl ⟨e', he', .kept (.refl e') rfl⟩
    · exact .inr ⟨aggregateId, createdAt, ha, huuids, List.mem_singleton.mp he'⟩

/-- What became of a row in a step. -/
theorem Changes.row {s t : State} {a : Label} (h : Changes s a t) {e : OutboxEvent}
    (he : e ∈ s.events.rows) : ∃ e', RowChange s.trace t.trace a e e' ∧
      t.events.find? e.id = e' := by
  rcases h.rows with ⟨-, -, f, hrows, hchange⟩ | ⟨aggregateId, createdAt, ha, huuids, -, hrows⟩
  · refine ⟨f e, hchange e he, ?_⟩
    cases hf : f e with
    | some e' =>
      have hmem : e' ∈ t.events.rows := hrows ▸ List.mem_filterMap.mpr ⟨e, he, hf⟩
      exact (t.events.find?_eq_some_iff ..).mpr ⟨hmem, (hf ▸ hchange e he).same.id⟩
    | none =>
      -- no other row has become one with this identifier
      refine (t.events.find?_eq_none_iff _).mpr fun e' he' hid => ?_
      rw [hrows] at he'
      obtain ⟨e₀, he₀, hf₀⟩ := List.mem_filterMap.mp he'
      have hid₀ := (hf₀ ▸ hchange e₀ he₀).same.id
      cases s.events.eq_of_key_eq he₀ he (hid₀.symm.trans hid)
      rw [hf] at hf₀
      cases hf₀
  · exact ⟨some e, .kept (.refl e) rfl, (t.events.find?_eq_some_iff ..).mpr
      ⟨hrows ▸ List.mem_append_left _ he, rfl⟩⟩

theorem Identified.newEvent (s : State) (aggregateId : Uuid) (createdAt : Nat) :
    Identified (s.uuids + 1) (s.newEvent aggregateId createdAt) :=
  ⟨s.uuids, Nat.lt_succ_self _, rfl, rfl⟩

/-- An event of `inserted` after a step. -/
theorem Changes.mem_inserted {s t : State} {a : Label} (h : Changes s a t) {e : OutboxEvent}
    (he : e ∈ t.inserted) : e ∈ s.inserted ∨ ∃ aggregateId createdAt,
      a = .insert aggregateId createdAt ∧ t.uuids = s.uuids + 1 ∧
        e = s.newEvent aggregateId createdAt ∧ e ∈ t.events.rows := by
  rcases h.rows with ⟨-, heq, -⟩ | ⟨aggregateId, createdAt, ha, huuids, heq, hrows⟩
  · exact .inl (heq ▸ he)
  · rw [heq] at he
    rcases List.mem_append.mp he with he | he
    · exact .inl he
    · cases List.mem_singleton.mp he
      exact .inr ⟨aggregateId, createdAt, ha, huuids, rfl, by simp [hrows]⟩

/-- What is published in a step was inserted before it. -/
theorem published_drawn {s t : State} {a : Label} (hinv : Inv s) (h : Changes s a t)
    {eventId : Uuid} (hmem : .published eventId ∈ t.trace) : ∃ k < s.uuids, eventId = ⟨1, k⟩ := by
  rcases h.trace with heq | ⟨_, heq⟩ | ⟨r, event, rest, hrelay, heq⟩
  · exact hinv.traced eventId (heq ▸ hmem)
  · rw [heq] at hmem
    exact hinv.traced eventId (by simpa using hmem)
  · rw [heq] at hmem
    rcases List.mem_cons.mp hmem with heq | hmem
    · -- it is published now, by a relay that holds it
      cases heq
      have hsound := hinv.relays r
      rw [hrelay] at hsound
      obtain ⟨k, hk, -, heventId⟩ := hsound.1 event (List.mem_cons_self ..)
      exact ⟨k, hk, heventId⟩
    · exact hinv.traced eventId hmem

theorem inv_of_changes {s t : State} {a : Label} (hinv : Inv s) (h : Changes s a t) : Inv t where
  rows e' he' := by
    rcases h.mem_rows he' with ⟨e, he, hchange⟩ | ⟨_, _, -, huuids, rfl⟩
    · exact ((hinv.rows e he).same hchange.same).mono h.uuids_le
    · exact huuids ▸ .newEvent s ..
  inserted e he := by
    rcases h.mem_inserted he with he | ⟨_, _, -, huuids, rfl, -⟩
    · exact (hinv.inserted e he).mono h.uuids_le
    · exact huuids ▸ .newEvent s ..
  relays r := by
    rcases h.relays r with heq | hsound
    · exact heq ▸ (hinv.relays r).mono h.uuids_le h.trace_subset
    · exact hsound
  redis eventId hmem := by
    rcases h.redis eventId hmem with hmem | hmem
    · exact h.trace_subset (hinv.redis eventId hmem)
    · exact hmem
  versions e he e' he' hid := by
    rcases h.mem_inserted he with he | ⟨_, _, -, -, rfl, he⟩
    · rcases h.mem_rows he' with ⟨e₀, he₀, hchange⟩ | ⟨_, _, -, -, rfl⟩
      · exact (hinv.versions e he e₀ he₀ (hchange.same.id.symm.trans hid)).trans hchange.same
      · -- the identifier of a new row is not that of an old event
        obtain ⟨k, hk, hold, -⟩ := hinv.inserted e he
        rw [hold] at hid
        cases hid
        exact absurd hk (Nat.lt_irrefl _)
    · cases t.events.eq_of_key_eq he' he hid
      exact .refl _
  traced eventId hmem := by
    obtain ⟨k, hk, rfl⟩ := published_drawn hinv h hmem
    exact ⟨k, Nat.lt_of_lt_of_le hk h.uuids_le, rfl⟩
  published e' he' hstatus := by
    rcases h.mem_rows he' with ⟨e, he, hchange⟩ | ⟨_, _, -, -, rfl⟩
    · cases hchange with
      | kept same status =>
        rw [same.eventId]
        exact h.trace_subset (hinv.published e he (status ▸ hstatus))
      | published same _ _ mem => exact same.eventId ▸ h.trace_subset mem
      | failed _ _ new _ => exact nomatch new.symm.trans hstatus
    · exact nomatch hstatus
  accounted e he := by
    rcases h.mem_inserted he with he | ⟨_, _, -, -, rfl, he'⟩
    · rcases hinv.accounted e he with hmem | hmem | ⟨e₁, he₁, hsame, hpending⟩
      · exact .inl (h.trace_subset hmem)
      · exact .inr (.inl (h.trace_subset hmem))
      · -- its row was pending: the four ways it can have changed
        obtain ⟨e₂, hchange, hfind⟩ := h.row he₁
        cases hchange with
        | kept same status =>
          exact .inr (.inr ⟨_, ((t.events.find?_eq_some_iff ..).mp hfind).1, hsame.trans same,
            status.trans hpending⟩)
        | published _ _ _ mem => exact .inl (hsame.eventId ▸ h.trace_subset mem)
        | failed _ _ _ mem => exact .inr (.inl (hsame.eventId ▸ mem))
        | removed mem _ => exact .inl (hsame.eventId ▸ h.trace_subset mem)
    · exact .inr (.inr ⟨_, he', .refl _, rfl⟩)

theorem inv_run {config : Nat → RelayConfig} {as : List Label} {s : State}
    (h : Run.run (step config) {} as = some s) : Inv s :=
  Run.run_invariant (fun _ _ _ hinv hstep => inv_of_changes hinv (step_changes hinv hstep))
    inv_init h

/-- In every run, whatever crashes and fails, and for every step from a state it reaches: a
    row becomes `published` or disappears only if its event was published before; a status
    only leaves `pending`; and a failed row is not marked as published, nor removed by
    `cleanup_published`. -/
theorem outbox_loses_nothing (config : Nat → RelayConfig) (as : List Label) {s t : State}
    {a : Label} (hrun : Run.run (step config) {} as = some s) (hstep : step config s a = some t)
    {e : OutboxEvent} (he : e ∈ s.events.rows) :
    (t.events.find? e.id = none → .published e.eventId ∈ s.trace) ∧
    (∀ e', t.events.find? e.id = some e' → e.status ≠ .published → e'.status = .published →
      .published e.eventId ∈ s.trace) ∧
    (∀ e', t.events.find? e.id = some e' → e'.eventId = e.eventId ∧ (e'.status = e.status ∨
      e.status = .pending ∧ (e'.status = .published ∨ e'.status = .failed))) ∧
    (e.status = .failed → (∀ e', t.events.find? e.id = some e' → e'.status = .failed) ∧
      ∀ maxAge ids, a = .cleanupPublished maxAge ids → t.events.find? e.id ≠ none) := by
  obtain ⟨e', hchange, hfind⟩ := (step_changes (inv_run hrun) hstep).row he
  rw [hfind]
  cases hchange with
  | kept same status =>
    simp only [Option.some.injEq, forall_eq', reduceCtorEq, ne_eq, not_false_eq_true,
      implies_true, and_true, false_implies, true_and]
    exact ⟨fun hne hp => absurd (status ▸ hp) hne, ⟨same.eventId, .inl status⟩,
      fun hf => status.trans hf⟩
  | published same old new mem =>
    refine ⟨nofun, fun _ _ _ _ => mem, ?_, fun hf => nomatch old.symm.trans hf⟩
    rintro _ ⟨⟩
    exact ⟨same.eventId, .inr ⟨old, .inl new⟩⟩
  | failed same old new _ =>
    refine ⟨nofun, ?_, ?_, fun hf => nomatch old.symm.trans hf⟩
    · rintro _ ⟨⟩ - hp
      exact nomatch new.symm.trans hp
    · rintro _ ⟨⟩
      exact ⟨same.eventId, .inr ⟨old, .inr new⟩⟩
  | removed mem cleanup =>
    refine ⟨fun _ => mem, nofun, nofun, fun hf => ⟨nofun, fun maxAge ids ha => ?_⟩⟩
    exact nomatch (cleanup maxAge ids ha).symm.trans hf

/-- Relays with the default settings and without Redis. -/
def plainConfig (_ : Nat) : RelayConfig where
  batchSize := 50
  deleteOnPublish := false
  redis := false

/-- An event is inserted, and relay 0 publishes it. -/
def publishing : List Label :=
  [.insert ⟨2, 0⟩ 0, .claimSelect 0 [⟨0, 0⟩], .claimLock 0 [⟨0, 0⟩], .checkDedup 0 true,
    .publish 0 true, .markDedup 0 true]

/-- The row of that event. -/
def claimedEvent : OutboxEvent where
  id := ⟨0, 0⟩
  eventId := ⟨1, 0⟩
  aggregateId := ⟨2, 0⟩
  createdAt := 0
  lockedBy := some 0
  lockedAt := some 0
  nextRetryAt := 0

/-- The row is marked after the publish. -/
theorem outbox_loses_nothing_marked :
    ∃ s t, Run.run (step plainConfig) {} publishing = some s ∧
      step plainConfig s (.markPublished 0 true) = some t ∧ claimedEvent ∈ s.events.rows ∧
      t.events.find? claimedEvent.id = some (claimedEvent.markPublished 0) ∧
      .published claimedEvent.eventId ∈ s.trace := by
  have hrun : (Run.run (step plainConfig) {} publishing).bind (fun s =>
      (step plainConfig s (.markPublished 0 true)).map fun t =>
        (s.events.rows, t.events.find? claimedEvent.id)) =
      some ([claimedEvent], some (claimedEvent.markPublished 0)) := by
    decide +kernel
  obtain ⟨s, hs, hstep⟩ := Option.bind_eq_some_iff.mp hrun
  obtain ⟨t, ht, heq⟩ := Option.map_eq_some_iff.mp hstep
  obtain ⟨hrows, hmarked⟩ := Prod.mk.inj heq
  have hmem : claimedEvent ∈ s.events.rows := by simp [hrows]
  exact ⟨s, t, hs, ht, hmem, hmarked,
    (outbox_loses_nothing plainConfig publishing hs ht hmem).2.1 _ hmarked (by decide) rfl⟩

/-! ## Order within an aggregate -/

/-- `e₁` and `e₂` are events of one aggregate, and `e₁` is the older one. -/
def Older (e₁ e₂ : OutboxEvent) : Prop :=
  e₁.aggregateId = e₂.aggregateId ∧ e₁.createdAt < e₂.createdAt

instance (e₁ e₂ : OutboxEvent) : Decidable (Older e₁ e₂) := inferInstanceAs (Decidable (_ ∧ _))

/-- The records say that the event was published, or that it failed. -/
def Settled (trace : List Entry) (e : OutboxEvent) : Prop :=
  .published e.eventId ∈ trace ∨ .failed e.eventId ∈ trace

instance (trace : List Entry) (e : OutboxEvent) : Decidable (Settled trace e) :=
  inferInstanceAs (Decidable (_ ∨ _))

/-- Whenever an event was published, all the older ones of its aggregate had been published
    or had failed. -/
def State.PublishesInOrder (s : State) : Prop :=
  ∀ e₁ ∈ s.inserted, ∀ e₂ ∈ s.inserted, Older e₁ e₂ → ∀ newer older,
    s.trace = newer ++ .published e₂.eventId :: older → Settled older e₁

/-- Events of an aggregate are committed in the order of `created_at`, and none is claimed
    while an older one of its aggregate, not published so far, is backing off. -/
def ClaimsInOrder (s : State) : Label → Prop
  | .insert aggregateId createdAt =>
    ∀ e ∈ s.inserted, e.aggregateId = aggregateId → e.createdAt ≤ createdAt
  | .claimSelect _ ids => ∀ e₂ ∈ s.eventsWith ids, ∀ e₁ ∈ s.events.rows, Older e₁ e₂ →
    e₁.status = .pending → .published e₁.eventId ∈ s.trace ∨ e₁.nextRetryAt ≤ s.now
  | _ => True

instance (s : State) : ∀ a, Decidable (ClaimsInOrder s a)
  | .insert _ _ => inferInstanceAs (Decidable (∀ e ∈ s.inserted, _ → _))
  | .claimSelect _ _ => inferInstanceAs (Decidable (∀ e₂ ∈ _, ∀ e₁ ∈ s.events.rows, _ → _ → _))
  | .tick _ | .claimLock _ _ | .checkDedup _ _ | .publish _ _ | .markDedup _ _
  | .markPublished _ _ | .markRetry _ _ | .crash _ | .expire _ | .releaseStaleLocks _
  | .cleanupPublished _ _ => .isTrue trivial

/-- Every older event of the aggregate is settled. -/
def State.Clear (s : State) (e : OutboxEvent) : Prop :=
  ∀ e₁ ∈ s.inserted, Older e₁ e → Settled s.trace e₁

structure OrderInv (s : State) : Prop extends Inv s where
  ordered : s.PublishesInOrder
  held : ∀ r id, (s.relays r).Holds id → ∀ e ∈ s.inserted, e.id = id → s.Clear e

theorem Settled.mono {before after : List Entry} {e : OutboxEvent} (h : Settled before e)
    (hsub : before ⊆ after) : Settled after e :=
  h.imp (@hsub _) (@hsub _)

/-- What `claim_batch` selects under the condition has no unsettled older event. -/
theorem clear_of_selects {s : State} (hinv : Inv s) {r : Nat} {ids : List Uuid}
    (hselects : s.selects ids) (hcond : ClaimsInOrder s (.claimSelect r ids)) {e : OutboxEvent}
    (he : e ∈ s.inserted) (hid : e.id ∈ ids) : s.Clear e := by
  intro e₁ he₁ holder
  obtain ⟨row, hrow, hrowid, holdest⟩ := selects_mem hselects hid
  have hsame := hinv.versions e he row hrow hrowid
  -- the older event is settled, or its row is pending
  rcases hinv.accounted e₁ he₁ with hmem | hmem | ⟨row₁, hrow₁, hsame₁, hpending⟩
  · exact .inl hmem
  · exact .inr hmem
  · have holder' : Older row₁ row := by
      unfold Older
      rw [hsame.aggregateId, hsame.createdAt, hsame₁.aggregateId, hsame₁.createdAt]
      exact holder
    rcases hcond row (List.mem_filterMap.mpr ⟨e.id, hid,
      (s.events.find?_eq_some_iff ..).mpr ⟨hrow, hrowid⟩⟩) row₁ hrow₁ holder' hpending
      with hmem | hdue
    · exact .inl (hsame₁.eventId ▸ hmem)
    · -- the older row is due as well, so `row` is not the oldest one
      simp only [State.isOldestDue, Bool.and_eq_true, List.all_eq_true] at holdest
      have hle := holdest.2 row₁ hrow₁
      simp only [OutboxEvent.isDue, holder'.1, hpending, hdue, decide_true, Bool.and_self,
        Bool.not_true, Bool.false_or, decide_eq_true_eq] at hle
      exact absurd holder'.2 (Nat.not_lt_of_le hle)

/-- An event inserted under the condition is not older than any event. -/
theorem not_older_newEvent {s : State} {aggregateId : Uuid} {createdAt : Nat}
    (hcond : ClaimsInOrder s (.insert aggregateId createdAt)) {e : OutboxEvent}
    (he : e ∈ s.inserted) : ¬ Older (s.newEvent aggregateId createdAt) e := by
  rintro ⟨hagg, hlt⟩
  exact absurd hlt (Nat.not_lt_of_le (hcond e he hagg.symm))

theorem Changes.clear {s t : State} {a : Label} (h : Changes s a t) (hcond : ClaimsInOrder s a)
    {e : OutboxEvent} (he : e ∈ s.inserted) (hclear : s.Clear e) : t.Clear e := by
  intro e₁ he₁ holder
  rcases h.mem_inserted he₁ with he₁ | ⟨_, _, rfl, -, rfl, -⟩
  · exact (hclear e₁ he₁ holder).mono h.trace_subset
  · exact absurd holder (not_older_newEvent hcond he)

theorem settled_of_published {s t : State} {a : Label} (hinv : OrderInv s) (h : Changes s a t)
    {e₁ e₂ : OutboxEvent} (he₁ : e₁ ∈ s.inserted) (he₂ : e₂ ∈ s.inserted) (holder : Older e₁ e₂)
    {newer older : List Entry} (heq : t.trace = newer ++ .published e₂.eventId :: older) :
    Settled older e₁ := by
  -- only a publish that is recorded by this step is new
  rcases h.trace with htrace | ⟨eventId, htrace⟩ | ⟨r, event, rest, hrelay, htrace⟩
  · exact hinv.ordered e₁ he₁ e₂ he₂ holder newer older (htrace ▸ heq)
  · rw [htrace] at heq
    cases newer with
    | nil => exact nomatch heq
    | cons x newer => exact hinv.ordered e₁ he₁ e₂ he₂ holder newer older (List.cons.inj heq).2
  · rw [htrace] at heq
    cases newer with
    | nil =>
      -- the relay that publishes holds `e₂`
      obtain ⟨hx, rfl⟩ := List.cons.inj heq
      have hsound := hinv.relays r
      rw [hrelay] at hsound
      have hid := ((hinv.inserted e₂ he₂).id_eq_iff
        (hsound.1 event (List.mem_cons_self ..))).mpr (Entry.published.inj hx).symm
      exact hinv.held r event.id (by rw [hrelay]; exact .inl rfl) e₂ he₂ hid e₁ he₁ holder
    | cons x newer => exact hinv.ordered e₁ he₁ e₂ he₂ holder newer older (List.cons.inj heq).2

theorem orderInv_of_changes {s t : State} {a : Label} (hinv : OrderInv s)
    (hcond : ClaimsInOrder s a) (h : Changes s a t) : OrderInv t where
  toInv := inv_of_changes hinv.toInv h
  ordered := by
    intro e₁ he₁ e₂ he₂ holder newer older heq
    rcases h.mem_inserted he₂ with he₂ | ⟨_, _, rfl, -, rfl, -⟩
    · rcases h.mem_inserted he₁ with he₁ | ⟨_, _, rfl, -, rfl, -⟩
      · exact settled_of_published hinv h he₁ he₂ holder heq
      · exact absurd holder (not_older_newEvent hcond he₂)
    · -- the new event cannot have been published
      obtain ⟨k, hk, heventId⟩ := published_drawn hinv.toInv h
        (heq ▸ List.mem_append_right _ (List.mem_cons_self ..))
      cases heventId
      exact absurd hk (Nat.lt_irrefl _)
  held := by
    intro r id hholds e he hid
    rcases h.mem_inserted he with he | ⟨_, _, rfl, huuids, rfl, -⟩
    · refine h.clear hcond he ?_
      -- the relay held the event before, or has just selected it
      rcases h.held r id hholds with hholds | ⟨ids, rfl, hmem, hselects⟩
      · exact hinv.held r id hholds e he hid
      · exact clear_of_selects hinv.toInv hselects hcond he (hid ▸ hmem)
    · -- no relay holds the new event
      rcases h.held r id hholds with hholds | ⟨ids, ha, -⟩
      · obtain ⟨k, hk, rfl⟩ := (hinv.relays r).drawn hholds
        cases hid
        exact absurd hk (Nat.lt_irrefl _)
      · exact nomatch ha

/-- In every run in which events are inserted and claimed in order, and in every state of it:
    an event is published only after all the older ones of its aggregate were published or
    had failed. -/
theorem publishes_in_order (config : Nat → RelayConfig) (as : List Label) {s : State}
    (hrun : Run.run (step config) {} as = some s)
    (hmeets : Run.Meets (step config) ClaimsInOrder {} as) : s.PublishesInOrder := by
  have hstep : ∀ s a t, OrderInv s → ClaimsInOrder s a → step config s a = some t → OrderInv t :=
    fun _ _ _ hinv hcond h => orderInv_of_changes hinv hcond (step_changes hinv.toInv h)
  exact (Run.run_invariant_of_meets hstep ⟨inv_init, nofun, nofun⟩ hmeets hrun).ordered

/-- The first event of an aggregate fails to be published; a second one is inserted. -/
def backingOff : List Label :=
  [.insert ⟨2, 0⟩ 0, .claimSelect 0 [⟨0, 0⟩], .claimLock 0 [⟨0, 0⟩], .checkDedup 0 true,
    .publish 0 false, .markRetry 0 true, .tick 1, .insert ⟨2, 0⟩ 1]

/-- Relay `r` publishes the event number `n`. -/
def publishes (r n : Nat) : List Label :=
  [.claimSelect r [⟨0, n⟩], .claimLock r [⟨0, n⟩], .checkDedup r true, .publish r true,
    .markDedup r true, .markPublished r true]

/-- Both events are published, the second one after the first one's back-off. -/
theorem publishes_in_order_retried :
    ∃ s, Run.run (step plainConfig) {}
        (backingOff ++ .tick 2000000 :: publishes 0 0 ++ publishes 1 1) = some s ∧
      s.trace = [.published ⟨1, 1⟩, .published ⟨1, 0⟩] ∧ s.PublishesInOrder := by
  have hrun : (Run.run (step plainConfig) {}
      (backingOff ++ .tick 2000000 :: publishes 0 0 ++ publishes 1 1)).map (·.trace) =
      some [.published ⟨1, 1⟩, .published ⟨1, 0⟩] := by
    decide +kernel
  obtain ⟨s, hs, htrace⟩ := Option.map_eq_some_iff.mp hrun
  exact ⟨s, hs, htrace, publishes_in_order plainConfig _ hs (by decide +kernel)⟩

/-- The event number `n` as it was inserted. -/
def insertedEvent (n : Nat) : OutboxEvent where
  id := ⟨0, n⟩
  eventId := ⟨1, n⟩
  aggregateId := ⟨2, 0⟩
  createdAt := n
  nextRetryAt := n

/-- The second event is published while the first one is backing off. -/
theorem publishes_out_of_order :
    ∃ s, Run.run (step plainConfig) {} (backingOff ++ publishes 1 1) = some s ∧
      ¬ s.PublishesInOrder := by
  have hrun : (Run.run (step plainConfig) {} (backingOff ++ publishes 1 1)).map
      (fun s => (s.inserted, s.trace)) =
      some ([insertedEvent 0, insertedEvent 1], [.published ⟨1, 1⟩]) := by
    decide +kernel
  obtain ⟨s, hs, heq⟩ := Option.map_eq_some_iff.mp hrun
  obtain ⟨hinserted, htrace⟩ := Prod.mk.inj heq
  refine ⟨s, hs, fun h => ?_⟩
  have hsettled := h (insertedEvent 0) (by simp [hinserted]) (insertedEvent 1)
    (by simp [hinserted]) (by decide) [] [] htrace
  exact absurd hsettled (by decide)

end Koupang.Outbox
