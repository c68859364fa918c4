import Koupang.Spec.OutboxRelay

/-!
# Escalation of failed events

`process_batch` decides whether to escalate an event by the row that it has
claimed, and the database decides whether the row fails by the row that is stored.
The two agree as long as no other relay has worked on the event since the claim.

## Key results

- `escalation_exact_iff`: escalation is exact in a run if and only if each failed
  publish is marked on a row that agrees with the claimed one
- `escalation_missed`: two relays hold an event in the last but one round, and it
  fails without being escalated
-/

namespace Koupang.Outbox

/-- Every event that has failed was escalated exactly once, and no other event was; no row has
    been retried more often than its `max_retries` allows. -/
structure Escalating.Exact (s : Escalating) : Prop where
  failed : ∀ eventId, .failed eventId ∈ s.trace → s.escalated.count eventId = 1
  others : ∀ eventId, .failed eventId ∉ s.trace → eventId ∉ s.escalated
  bounded : ∀ e ∈ s.events.rows, e.retryCount ≤ max 1 e.maxRetries

/-- The stored row agrees with the claimed one: it is published, so that the trigger refuses to
    mark it; or it is pending, and its retries are used up if those of the claimed one are; or
    it is gone, and the claimed one has retries left. -/
def State.AgreesWith (s : State) (event : OutboxEvent) : Prop :=
  match s.events.find? event.id with
  | some e => e.status = .published ∨ e.status = .pending ∧ e.exhausted = event.exhausted
  | none => event.exhausted = false

/-- The event, as it was claimed, whose failed publish relay `r` marks next. -/
def State.marking (s : State) (r : Nat) : Option OutboxEvent :=
  match s.relays r with
  | .working event .markRetry _ => some event
  | _ => none

/-- A failed publish is marked on a row that agrees with the claimed one. -/
def RetryAgrees (s : Escalating) : Label → Prop
  | .markRetry r _ => ∀ event ∈ s.marking r, s.AgreesWith event
  | _ => True

instance (s : State) (event : OutboxEvent) : Decidable (s.AgreesWith event) :=
  match h : s.events.find? event.id with
  | some e =>
    decidable_of_iff (e.status = .published ∨ e.status = .pending ∧ e.exhausted = event.exhausted)
      (by rw [State.AgreesWith, h])
  | none => decidable_of_iff (event.exhausted = false) (by rw [State.AgreesWith, h])

instance (s : Escalating) : ∀ a, Decidable (RetryAgrees s a)
  | .markRetry r _ => inferInstanceAs (Decidable (∀ event ∈ s.marking r, s.AgreesWith event))
  | .tick _ | .insert _ _ | .claimSelect _ _ | .claimLock _ _ | .checkDedup _ _ | .publish _ _
  | .markDedup _ _ | .markPublished _ _ | .crash _ | .expire _ | .releaseStaleLocks _
  | .cleanupPublished _ _ => .isTrue trivial

/-- Not a crash, and not a statement that fails. -/
def Label.Undisturbed : Label → Bool
  | .crash _ => false
  | .markPublished _ applied => applied
  | .markRetry _ applied => applied
  | _ => true

/-- No relay has started yet. The rows are as they were inserted, with any `max_retries`. -/
structure State.Fresh (s : State) : Prop where
  rows : ∀ e ∈ s.events.rows, Identified s.uuids e ∧ e.status = .pending ∧ e.retryCount = 0
  inserted : s.inserted = s.events.rows
  relays : ∀ r, s.relays r = .idle
  redis : s.redis = []
  trace : s.trace = []

/-! ## Rows and their retries -/

/-- Two versions of a row that agree on its retries and on whether it has failed. -/
structure SameRetries (e e' : OutboxEvent) : Prop where
  eventId : e'.eventId = e.eventId
  retryCount : e'.retryCount = e.retryCount
  maxRetries : e'.maxRetries = e.maxRetries
  failed : e'.status = .failed ↔ e.status = .failed

theorem SameRetries.refl (e : OutboxEvent) : SameRetries e e := ⟨rfl, rfl, rfl, .rfl⟩

/-- An `UPDATE` that leaves the retries alone and marks no row as failed. -/
theorem update_sameRetries {set : OutboxEvent → OutboxEvent} {e : OutboxEvent}
    (heventId : (set e).eventId = e.eventId) (hretry : (set e).retryCount = e.retryCount)
    (hmax : (set e).maxRetries = e.maxRetries)
    (hstatus : (set e).status = e.status ∨ (set e).status = .published) :
    SameRetries e (e.update set) := by
  have hfailed : (e.update set).status = .failed ↔ e.status = .failed := by
    rcases update_status set e with h | ⟨hpending, h, hne⟩
    · rw [h]
    · rw [h]
      rcases hstatus with h' | h'
      · exact absurd (h'.trans hpending) hne
      · simp [h', hpending]
  unfold OutboxEvent.update at hfailed ⊢
  dsimp only at hfailed ⊢
  split
  · rename_i haccepted
    rw [if_pos haccepted] at hfailed
    exact ⟨heventId, hretry, hmax, hfailed⟩
  · exact .refl e

theorem markRetryOrFailed_status_eq (now : Nat) (e : OutboxEvent) :
    (e.markRetryOrFailed now).status = if e.exhausted then .failed else .pending := by
  simp [OutboxEvent.markRetryOrFailed, OutboxEvent.exhausted]

/-- The trigger raises: no row goes from `published` to `pending` or `failed`. -/
theorem markRetryOrFailed_refused (now : Nat) {e : OutboxEvent} (h : e.status = .published) :
    enforceOutboxStatusTransition e.status (e.markRetryOrFailed now).status = false := by
  rw [markRetryOrFailed_status_eq, h]
  cases e.exhausted <;> decide

/-- The trigger accepts `mark_retry_or_failed` for a pending row, and for a failed one whose
    retries are used up. -/
theorem markRetryOrFailed_accepted (now : Nat) {e : OutboxEvent}
    (h : e.status = .pending ∨ e.status = .failed ∧ e.exhausted) :
    enforceOutboxStatusTransition e.status (e.markRetryOrFailed now).status = true := by
  rw [markRetryOrFailed_status_eq]
  rcases h with h | ⟨h, hexhausted⟩
  · rw [h]
    cases e.exhausted <;> decide
  · rw [h, hexhausted]
    decide

/-- The rows after an `UPDATE` by primary key. -/
theorem mem_updateEvents_id {s : State} {set : OutboxEvent → OutboxEvent} {e e' : OutboxEvent}
    (hfind : s.events.find? e.id = some e)
    (he' : e' ∈ (s.updateEvents (·.id = e.id) set).events.rows) :
    e' ∈ s.events.rows ∧ e'.id ≠ e.id ∨ e' = e.update set := by
  obtain ⟨he, -⟩ := (s.events.find?_eq_some_iff ..).mp hfind
  obtain ⟨e₀, he₀, rfl⟩ := List.mem_map.mp he'
  unfold updateWhere
  by_cases hid : e₀.id = e.id
  · cases s.events.eq_of_key_eq he₀ he hid
    simp
  · simp [hid, he₀]

/-! ## One step -/

/-- A step in which no failed publish is marked. -/
structure Untried (s t : State) : Prop where
  rows : ∀ e' ∈ t.events.rows, (∃ e ∈ s.events.rows, SameRetries e e') ∨
    e'.status = .pending ∧ e'.retryCount = 0 ∧ e'.eventId = ⟨1, s.uuids⟩
  trace : ∀ eventId, .failed eventId ∈ t.trace ↔ .failed eventId ∈ s.trace

theorem Untried.refl (s : State) : Untried s s where
  rows e he := .inl ⟨e, he, .refl e⟩
  trace _ := .rfl

theorem Untried.of_rows {s t : State} (hrows : t.events.rows ⊆ s.events.rows)
    (htrace : t.trace = s.trace) : Untried s t where
  rows e he := .inl ⟨e, hrows he, .refl e⟩
  trace _ := by rw [htrace]

theorem untried_updateEvents {s : State} {cond : OutboxEvent → Bool}
    {set : OutboxEvent → OutboxEvent} (hset : ∀ e, SameRetries e (e.update set)) :
    Untried s (s.updateEvents cond set) where
  rows e' he' := by
    obtain ⟨e, he, rfl⟩ := List.mem_map.mp he'
    refine .inl ⟨e, he, ?_⟩
    unfold updateWhere
    split
    · exact hset e
    · exact .refl e
  trace _ := .rfl

theorem Untried.setRelay {s t : State} (h : Untried s t) (r : Nat) (relay : Relay) :
    Untried s (t.setRelay r relay) := ⟨h.rows, h.trace⟩

/-- Every step but `mark_retry_or_failed`. -/
theorem untried_step {config : Nat → RelayConfig} {s t : State} {a : Label}
    (ha : ∀ r applied, a ≠ .markRetry r applied) (h : step config s a = some t) :
    Untried s t := by
  cases a with
  | tick duration =>
    cases h
    exact .of_rows (List.Subset.refl _) rfl
  | insert aggregateId createdAt =>
    simp only [step] at h
    split at h
    · obtain ⟨events, hevents, heq⟩ := Option.bind_eq_some_iff.mp h
      cases heq
      obtain ⟨-, hrows⟩ := (Table.insert_eq_some ..).mp hevents
      refine ⟨fun e' he' => ?_, fun _ => .rfl⟩
      rcases List.mem_append.mp (hrows ▸ he') with he | he
      · exact .inl ⟨e', he, .refl e'⟩
      · -- the new row has never been tried
        cases List.mem_singleton.mp he
        exact .inr ⟨rfl, rfl, rfl⟩
    · cases h
  | claimSelect r ids =>
    simp only [step] at h
    split at h
    · split at h
      · cases h
        exact (Untried.refl s).setRelay ..
      · cases h
    · cases h
  | claimLock r ids =>
    simp only [step] at h
    split at h
    · split at h
      · cases h
        refine Untried.setRelay (untried_updateEvents fun e => ?_) ..
        exact update_sameRetries rfl rfl rfl (.inl rfl)
      · cases h
    · cases h
  | checkDedup r redisUp =>
    simp only [step] at h
    split at h
    · cases h
      exact (Untried.refl s).setRelay ..
    · cases h
  | publish r ok =>
    simp only [step] at h
    split at h
    · split at h
      · cases h
        exact ⟨(Untried.refl s).rows, fun _ => by simp [State.setRelay]⟩
      · cases h
        exact (Untried.refl s).setRelay ..
    · cases h
  | markDedup r redisUp =>
    simp only [step] at h
    split at h
    · cases h
      exact .of_rows (List.Subset.refl _) rfl
    · cases h
  | markPublished r applied =>
    simp only [step] at h
    split at h
    · cases h
      refine Untried.setRelay ?_ ..
      split
      · -- the row is deleted, or marked as published
        unfold State.settleEvent
        split
        · exact .of_rows List.filter_sublist.subset rfl
        · exact untried_updateEvents fun e => update_sameRetries rfl rfl rfl (.inr rfl)
      · exact .refl s
    · cases h
  | markRetry r applied => exact absurd rfl (ha r applied)
  | crash r =>
    cases h
    exact (Untried.refl s).setRelay ..
  | expire eventId =>
    cases h
    exact .of_rows (List.Subset.refl _) rfl
  | releaseStaleLocks staleTimeout =>
    cases h
    exact untried_updateEvents fun e => update_sameRetries rfl rfl rfl (.inl rfl)
  | cleanupPublished maxAge ids =>
    simp only [step] at h
    split at h
    · cases h
      exact .of_rows List.filter_sublist.subset rfl
    · cases h

/-- A step in which the failed publish of the row `e` is marked. -/
structure Marked (s t : State) (e : OutboxEvent) : Prop where
  row : e ∈ s.events.rows
  status : e.status = .pending ∨ e.status = .failed ∧ e.exhausted
  mem : e.markRetryOrFailed s.now ∈ t.events.rows
  rows : ∀ e' ∈ t.events.rows,
    e' ∈ s.events.rows ∧ e'.id ≠ e.id ∨ e' = e.markRetryOrFailed s.now
  trace : t.trace =
    if e.status = .pending ∧ e.exhausted then .failed e.eventId :: s.trace else s.trace

theorem retryEvent_events (s : State) (id : Uuid) : (s.retryEvent id).events =
    (s.updateEvents (·.id = id) (OutboxEvent.markRetryOrFailed s.now)).events := by
  unfold State.retryEvent
  dsimp only
  split
  · split <;> rfl
  · rfl

theorem retryEvent_trace {s : State} {e : OutboxEvent} (hfind : s.events.find? e.id = some e) :
    (s.retryEvent e.id).trace =
      if e.status = .pending ∧ e.exhausted then .failed e.eventId :: s.trace else s.trace := by
  unfold State.retryEvent
  rw [hfind]
  dsimp only
  rw [markRetryOrFailed_status_eq]
  cases hexhausted : e.exhausted
  · simp [State.updateEvents]
  · by_cases hpending : e.status = .pending
    · simp [hpending]
    · simp [hpending, State.updateEvents]

/-- Nothing is marked when the row is gone. -/
theorem untried_retryEvent_gone {s : State} {id : Uuid} (hfind : s.events.find? id = none) :
    Untried s (s.retryEvent id) := by
  refine .of_rows ?_ ?_
  · rw [retryEvent_events]
    intro e' he'
    obtain ⟨e, he, rfl⟩ := List.mem_map.mp he'
    have hne : e.id ≠ id := (s.events.find?_eq_none_iff id).mp hfind e he
    simpa [updateWhere, hne] using he
  · unfold State.retryEvent
    rw [hfind]
    rfl

/-- Nothing is marked when the row is published. -/
theorem untried_retryEvent_published {s : State} {e : OutboxEvent}
    (hfind : s.events.find? e.id = some e) (hpublished : e.status = .published) :
    Untried s (s.retryEvent e.id) := by
  refine .of_rows ?_ ?_
  · rw [retryEvent_events]
    intro e' he'
    rcases mem_updateEvents_id hfind he' with ⟨he, -⟩ | rfl
    · exact he
    · have hrefused := markRetryOrFailed_refused s.now hpublished
      simpa [OutboxEvent.update, hrefused] using ((s.events.find?_eq_some_iff ..).mp hfind).1
  · rw [retryEvent_trace hfind]
    simp [hpublished]

theorem marked_retryEvent {s : State} {e : OutboxEvent} (hfind : s.events.find? e.id = some e)
    (h : e.status = .pending ∨ e.status = .failed ∧ e.exhausted) :
    Marked s (s.retryEvent e.id) e := by
  obtain ⟨he, -⟩ := (s.events.find?_eq_some_iff ..).mp hfind
  have hupdate : e.update (OutboxEvent.markRetryOrFailed s.now) = e.markRetryOrFailed s.now := by
    have haccepted := markRetryOrFailed_accepted s.now h
    unfold OutboxEvent.update
    exact if_pos haccepted
  refine ⟨he, h, ?_, fun e' he' => ?_, retryEvent_trace hfind⟩
  · rw [retryEvent_events]
    refine List.mem_map.mpr ⟨e, he, ?_⟩
    simpa [updateWhere] using hupdate
  · rw [retryEvent_events] at he'
    rcases mem_updateEvents_id hfind he' with h | h
    · exact .inl h
    · exact .inr (h.trans hupdate)

/-! ## The invariant -/

/-- What holds in every state, whether escalation is exact or not: a row that has not failed
    has a retry left, and one that has failed has used them up. -/
structure RetryInv (s : State) : Prop extends Inv s where
  drawn : ∀ eventId, .failed eventId ∈ s.trace → ∃ k < s.uuids, eventId = ⟨1, k⟩
  left : ∀ e ∈ s.events.rows, e.status ≠ .failed →
    e.retryCount < max 1 e.maxRetries ∧ .failed e.eventId ∉ s.trace
  used : ∀ e ∈ s.events.rows, e.status = .failed →
    max 1 e.maxRetries ≤ e.retryCount ∧ .failed e.eventId ∈ s.trace

theorem retryInv_of_fresh {s : State} (h : s.Fresh) : RetryInv s where
  rows e he := (h.rows e he).1
  inserted e he := (h.rows e (h.inserted ▸ he)).1
  relays r := by
    rw [h.relays r]
    trivial
  redis eventId hmem := by simp [h.redis] at hmem
  versions e he e' he' hid := by
    cases s.events.eq_of_key_eq he' (h.inserted ▸ he) hid
    exact .refl e
  traced eventId hmem := by simp [h.trace] at hmem
  published e he hstatus := by simp [(h.rows e he).2.1] at hstatus
  accounted e he := .inr (.inr ⟨e, h.inserted ▸ he, .refl e, (h.rows e (h.inserted ▸ he)).2.1⟩)
  drawn eventId hmem := by simp [h.trace] at hmem
  left e he _ := by
    rw [(h.rows e he).2.2, h.trace]
    exact ⟨by omega, List.not_mem_nil⟩
  used e he hfailed := by simp [(h.rows e he).2.1] at hfailed

theorem retryInv_of_untried {s t : State} (hinv : RetryInv s) (hbase : Inv t)
    (huuids : s.uuids ≤ t.uuids) (h : Untried s t) : RetryInv t where
  toInv := hbase
  drawn eventId hmem := by
    obtain ⟨k, hk, rfl⟩ := hinv.drawn eventId ((h.trace eventId).mp hmem)
    exact ⟨k, Nat.lt_of_lt_of_le hk huuids, rfl⟩
  left e' he' hne := by
    rw [h.trace]
    rcases h.rows e' he' with ⟨e, he, hsame⟩ | ⟨-, hretry, heventId⟩
    · rw [hsame.retryCount, hsame.maxRetries, hsame.eventId]
      exact hinv.left e he (fun hf => hne (hsame.failed.mpr hf))
    · -- the identifier of a new row is not that of an event that has failed
      refine ⟨by omega, fun hmem => ?_⟩
      obtain ⟨k, hk, heq⟩ := hinv.drawn _ hmem
      cases heventId.symm.trans heq
      exact absurd hk (Nat.lt_irrefl _)
  used e' he' hfailed := by
    rw [h.trace]
    rcases h.rows e' he' with ⟨e, he, hsame⟩ | ⟨hpending, -⟩
    · rw [hsame.retryCount, hsame.maxRetries, hsame.eventId]
      exact hinv.used e he (hsame.failed.mp hfailed)
    · simp [hpending] at hfailed

theorem retryInv_of_marked {s t : State} {e : OutboxEvent} (hinv : RetryInv s) (hbase : Inv t)
    (huuids : s.uuids ≤ t.uuids) (h : Marked s t e) : RetryInv t where
  toInv := hbase
  drawn eventId hmem := by
    have hmono : (∃ k < s.uuids, eventId = ⟨1, k⟩) → ∃ k < t.uuids, eventId = ⟨1, k⟩ := by
      rintro ⟨k, hk, rfl⟩
      exact ⟨k, Nat.lt_of_lt_of_le hk huuids, rfl⟩
    rw [h.trace] at hmem
    split at hmem
    · rcases List.mem_cons.mp hmem with heq | hmem
      · cases heq
        obtain ⟨k, hk, -, heventId⟩ := hinv.rows e h.row
        exact hmono ⟨k, hk, heventId⟩
      · exact hmono (hinv.drawn eventId hmem)
    · exact hmono (hinv.drawn eventId hmem)
  left e' he' hne := by
    rcases h.rows e' he' with ⟨he, hid⟩ | rfl
    · obtain ⟨hlt, hmem⟩ := hinv.left e' he hne
      refine ⟨hlt, ?_⟩
      have hother : e'.eventId ≠ e.eventId := by
        rwa [Ne, ← (hinv.rows e' he).id_eq_iff (hinv.rows e h.row)]
      rw [h.trace]
      split
      · simp [hother, hmem]
      · exact hmem
    · -- the marked row has not failed, so it goes back to pending with a retry left
      have hexhausted : e.exhausted = false := by
        rw [markRetryOrFailed_status_eq] at hne
        simpa using hne
      have hpending : e.status = .pending := by simpa [hexhausted] using h.status
      have hmem := (hinv.left e h.row (by simp [hpending])).2
      simp only [OutboxEvent.exhausted, decide_eq_false_iff_not] at hexhausted
      have hlt : e.retryCount + 1 < max 1 e.maxRetries := by omega
      refine ⟨hlt, ?_⟩
      rw [h.trace, if_neg (by simp [OutboxEvent.exhausted, hexhausted])]
      exact hmem
  used e' he' hfailed := by
    have hsub : ∀ eventId, .failed eventId ∈ s.trace → .failed eventId ∈ t.trace := by
      intro eventId hmem
      rw [h.trace]
      split
      · exact List.mem_cons_of_mem _ hmem
      · exact hmem
    rcases h.rows e' he' with ⟨he, -⟩ | rfl
    · obtain ⟨hle, hmem⟩ := hinv.used e' he hfailed
      exact ⟨hle, hsub _ hmem⟩
    · have hexhausted : e.exhausted := by
        rw [markRetryOrFailed_status_eq] at hfailed
        by_contra hne
        simp [hne] at hfailed
      have hle : max 1 e.maxRetries ≤ e.retryCount + 1 := by
        simp only [OutboxEvent.exhausted, decide_eq_true_eq] at hexhausted
        omega
      refine ⟨hle, ?_⟩
      rcases h.status with hpending | ⟨hfailed, -⟩
      · rw [h.trace, if_pos ⟨hpending, hexhausted⟩]
        exact List.mem_cons_self ..
      · exact hsub _ (hinv.used e h.row hfailed).2

/-! ## Exactness -/

/-- The records read as counts. -/
theorem Escalating.exact_iff (s : Escalating) : s.Exact ↔
    (∀ eventId, s.escalated.count eventId = if .failed eventId ∈ s.trace then 1 else 0) ∧
      ∀ e ∈ s.events.rows, e.retryCount ≤ max 1 e.maxRetries := by
  constructor
  · intro h
    refine ⟨fun eventId => ?_, h.bounded⟩
    split
    · rename_i hmem
      exact h.failed eventId hmem
    · rename_i hmem
      exact List.count_eq_zero.mpr (h.others eventId hmem)
  · rintro ⟨hcount, hbounded⟩
    refine ⟨fun eventId hmem => ?_, fun eventId hmem => ?_, hbounded⟩
    · rw [hcount, if_pos hmem]
    · exact List.count_eq_zero.mp (by rw [hcount, if_neg hmem])

/-- Without a mark nothing may be escalated. -/
theorem exact_untried {s t : Escalating} {new : List Uuid} (hexact : s.Exact)
    (h : Untried s.toState t.toState) (hescalated : t.escalated = new ++ s.escalated) :
    t.Exact ↔ new = [] := by
  obtain ⟨hcount, hbounded⟩ := s.exact_iff.mp hexact
  have hbounded' : ∀ e ∈ t.events.rows, e.retryCount ≤ max 1 e.maxRetries := by
    intro e' he'
    rcases h.rows e' he' with ⟨e, he, hsame⟩ | ⟨-, hretry, -⟩
    · rw [hsame.retryCount, hsame.maxRetries]
      exact hbounded e he
    · omega
  rw [t.exact_iff, hescalated, and_iff_left hbounded']
  simp only [List.count_append, hcount, h.trace, add_eq_right]
  exact ⟨fun hzero => List.eq_nil_iff_forall_not_mem.mpr fun i => List.count_eq_zero.mp (hzero i),
    fun hnil i => by rw [hnil, List.count_nil]⟩

/-- A mark is exact if the row is pending, and what is escalated is the row that fails. -/
theorem exact_marked {s t : Escalating} {e : OutboxEvent} {exhausted : Bool}
    (hinv : RetryInv s.toState) (hexact : s.Exact) (h : Marked s.toState t.toState e)
    (hescalated : t.escalated = (if exhausted then [e.eventId] else []) ++ s.escalated) :
    t.Exact ↔ e.status = .pending ∧ e.exhausted = exhausted := by
  obtain ⟨hcount, hbounded⟩ := s.exact_iff.mp hexact
  rw [t.exact_iff, hescalated]
  rcases h.status with hpending | ⟨hfailed, -⟩
  · obtain ⟨hlt, hmem⟩ := hinv.left e h.row (by simp [hpending])
    have hbounded' : ∀ e' ∈ t.events.rows, e'.retryCount ≤ max 1 e'.maxRetries := by
      intro e' he'
      rcases h.rows e' he' with ⟨he, -⟩ | rfl
      · exact hbounded e' he
      · exact hlt
    simp only [List.count_append, hcount, h.trace, hpending, true_and]
    constructor
    · -- the counts of the marked event alone decide
      rintro ⟨hcount', -⟩
      have hrow := hcount' e.eventId
      cases hexhausted : e.exhausted <;> cases exhausted <;> simp [hexhausted, hmem] at hrow ⊢
    · intro heq
      refine ⟨fun eventId => ?_, hbounded'⟩
      rw [heq]
      by_cases heventId : eventId = e.eventId
      · subst heventId
        cases exhausted <;> simp [hmem]
      · have hother : e.eventId ≠ eventId := fun h => heventId h.symm
        cases exhausted <;> simp [heventId, hother]
  · -- the count of a failed row goes beyond the bound
    have hle := (hinv.used e h.row hfailed).1
    constructor
    · rintro ⟨-, hbounded'⟩
      have hle' : e.retryCount + 1 ≤ max 1 e.maxRetries := hbounded' _ h.mem
      omega
    · rintro ⟨hpending, -⟩
      simp [hpending] at hfailed

/-! ## Runs -/

theorem Marked.setRelay {s t : State} {e : OutboxEvent} (h : Marked s t e) (r : Nat)
    (relay : Relay) : Marked s (t.setRelay r relay) e :=
  ⟨h.row, h.status, h.mem, h.rows, h.trace⟩

/-- `mark_retry_or_failed` and what is escalated with it, by the status of the row. -/
theorem markRetry_exact_iff {s t : Escalating} {r : Nat} {event : OutboxEvent}
    {rest : List OutboxEvent} (hinv : RetryInv s.toState) (hexact : s.Exact)
    (hevent : Identified s.uuids event) (hbase : Inv t.toState) (huuids : s.uuids ≤ t.uuids)
    (ht : t.toState = (s.retryEvent event.id).setRelay r (Relay.next rest))
    (hescalated : t.escalated =
      (if s.retryOk event.id && event.exhausted then [event.eventId] else []) ++ s.escalated) :
    RetryInv t.toState ∧ (t.Exact ↔ s.AgreesWith event) := by
  unfold State.AgreesWith
  cases hfind : s.events.find? event.id with
  | none =>
    -- the statement updates no row and is answered with Ok
    have huntried : Untried s.toState t.toState := by
      rw [ht]
      exact (untried_retryEvent_gone hfind).setRelay ..
    refine ⟨retryInv_of_untried hinv hbase huuids huntried, ?_⟩
    rw [exact_untried hexact huntried hescalated]
    simp [State.retryOk, hfind]
  | some e =>
    obtain ⟨he, hid⟩ := (s.events.find?_eq_some_iff ..).mp hfind
    have heventId : e.eventId = event.eventId := ((hinv.rows e he).id_eq_iff hevent).mp hid
    rw [← hid] at hfind
    by_cases hpublished : e.status = .published
    · -- the trigger raises, and nothing is escalated
      have huntried : Untried s.toState t.toState := by
        rw [ht, ← hid]
        exact (untried_retryEvent_published hfind hpublished).setRelay ..
      refine ⟨retryInv_of_untried hinv hbase huuids huntried, ?_⟩
      rw [exact_untried hexact huntried hescalated]
      have hok : s.retryOk event.id = false := by
        rw [State.retryOk, ← hid, hfind]
        exact markRetryOrFailed_refused _ hpublished
      simp [hok, hpublished]
    · -- the mark is applied: a row that has failed before is exhausted
      have hstatus : e.status = .pending ∨ e.status = .failed ∧ e.exhausted := by
        cases hstatus : e.status with
        | pending => exact .inl rfl
        | published => exact absurd hstatus hpublished
        | failed =>
          have hle := (hinv.used e he hstatus).1
          exact .inr ⟨rfl, by simp only [OutboxEvent.exhausted, decide_eq_true_eq]; omega⟩
      have hmarked : Marked s.toState t.toState e := by
        rw [ht, ← hid]
        exact (marked_retryEvent hfind hstatus).setRelay ..
      refine ⟨retryInv_of_marked hinv hbase huuids hmarked, ?_⟩
      have hok : s.retryOk event.id = true := by
        rw [State.retryOk, ← hid, hfind]
        exact markRetryOrFailed_accepted _ hstatus
      rw [hok, Bool.true_and, ← heventId] at hescalated
      rw [exact_marked hinv hexact hmarked hescalated]
      simp [hpublished]

/-- A step keeps the invariant; it keeps escalation exact if and only if what it marks agrees
    with what was claimed. -/
theorem escalatingStep_exact_iff {config : Nat → RelayConfig} {s t : Escalating} {a : Label}
    (hinv : RetryInv s.toState) (hquiet : a.Undisturbed) (hexact : s.Exact)
    (h : escalatingStep config s a = some t) :
    RetryInv t.toState ∧ (t.Exact ↔ RetryAgrees s a) := by
  obtain ⟨u, hstep, rfl⟩ := Option.map_eq_some_iff.mp h
  have hchanges := step_changes hinv.toInv hstep
  have hbase := inv_of_changes hinv.toInv hchanges
  by_cases ha : ∃ r applied, a = .markRetry r applied
  · obtain ⟨r, applied, rfl⟩ := ha
    have happlied : applied = true := hquiet
    subst happlied
    simp only [step, if_true] at hstep
    split at hstep
    · rename_i event rest hrelay
      cases hstep
      have hsound := hinv.relays r
      rw [hrelay] at hsound
      have hagrees : RetryAgrees s (.markRetry r true) ↔ s.AgreesWith event := by
        simp [RetryAgrees, State.marking, hrelay]
      have hescalates : s.escalates (.markRetry r true) =
          if s.retryOk event.id && event.exhausted then [event.eventId] else [] := by
        simp [State.escalates, hrelay]
      rw [hagrees, hescalates]
      exact markRetry_exact_iff hinv hexact (hsound.1 event (List.mem_cons_self ..)) hbase
        hchanges.uuids_le rfl rfl
    · cases hstep
  · have huntried : Untried s.toState u :=
      untried_step (fun r applied heq => ha ⟨r, applied, heq⟩) hstep
    refine ⟨retryInv_of_untried hinv hbase hchanges.uuids_le huntried, ?_⟩
    have hothers : s.escalates a = [] ∧ RetryAgrees s a := by
      cases a with
      | markRetry r applied => exact absurd ⟨r, applied, rfl⟩ ha
      | _ => exact ⟨rfl, trivial⟩
    exact iff_of_true ((exact_untried hexact huntried rfl).mpr hothers.1) hothers.2

theorem exact_of_fresh {s : State} (h : s.Fresh) : Escalating.Exact ⟨s, []⟩ where
  failed eventId hmem := by simp [h.trace] at hmem
  others eventId _ := List.not_mem_nil
  bounded e he := by
    rw [(h.rows e he).2.2]
    exact Nat.zero_le _

/-- In every run of any number of relays without crashes and failing statements, whatever
    the `max_retries` of the events are: escalation is exact in every state of the run if and
    only if every failed publish is marked on a row that agrees with the claimed one. -/
theorem escalation_exact_iff (config : Nat → RelayConfig) (as : List Label) {s₀ : State}
    {s : Escalating} (hfresh : s₀.Fresh) (hquiet : ∀ a ∈ as, a.Undisturbed)
    (hrun : Run.run (escalatingStep config) ⟨s₀, []⟩ as = some s) :
    (∀ t, Run.Visits (escalatingStep config) ⟨s₀, []⟩ as t → t.Exact) ↔
      Run.Meets (escalatingStep config) RetryAgrees ⟨s₀, []⟩ as := by
  have hstep : ∀ s a t, a.Undisturbed = true → RetryInv s.toState → s.Exact →
      escalatingStep config s a = some t → RetryInv t.toState ∧ (t.Exact ↔ RetryAgrees s a) :=
    fun s a t hquiet hinv hexact h => escalatingStep_exact_iff hinv hquiet hexact h
  exact Run.run_forall_iff_of_label hstep hquiet
    (retryInv_of_fresh hfresh) (exact_of_fresh hfresh) hrun

/-- One round of relay `r` with the first event, whose publish fails. -/
def failing (r : Nat) : List Label :=
  [.claimSelect r [⟨0, 0⟩], .claimLock r [⟨0, 0⟩], .checkDedup r true, .publish r false,
    .markRetry r true]

/-- `n` rounds, each followed by a time that is longer than any back-off. -/
def failures (r : Nat) : Nat → List Label
  | 0 => []
  | n + 1 => failures r n ++ failing r ++ [.tick 1024000000]

/-- An event fails in ten rounds of one relay, and is escalated. -/
theorem escalation_exact_iff_failed :
    ∃ s, Run.run (escalatingStep plainConfig) ⟨{}, []⟩ (.insert ⟨2, 0⟩ 0 :: failures 0 10) =
        some s ∧
      s.escalated = [⟨1, 0⟩] ∧ s.Exact := by
  have hrun : (Run.run (escalatingStep plainConfig) ⟨{}, []⟩
      (.insert ⟨2, 0⟩ 0 :: failures 0 10)).map (·.escalated) = some [⟨1, 0⟩] := by
    decide +kernel
  obtain ⟨s, hs, hescalated⟩ := Option.map_eq_some_iff.mp hrun
  have hfresh : State.Fresh {} := ⟨by simp, rfl, fun _ => rfl, rfl, rfl⟩
  have hvisits : Run.Visits (escalatingStep plainConfig) ⟨{}, []⟩
      (.insert ⟨2, 0⟩ 0 :: failures 0 10) s := ⟨_, [], by simp, hs⟩
  exact ⟨s, hs, hescalated, (escalation_exact_iff plainConfig _ hfresh (by decide) hs).mpr
    (by decide +kernel) s hvisits⟩

/-- Relay 1 claims an event from relay 0 in the last but one round, and both publishes fail. -/
def overtaken : List Label :=
  [.insert ⟨2, 0⟩ 0] ++ failures 0 8 ++
    [.claimSelect 0 [⟨0, 0⟩], .claimLock 0 [⟨0, 0⟩], .tick 61, .releaseStaleLocks 60,
    .claimSelect 1 [⟨0, 0⟩], .claimLock 1 [⟨0, 0⟩],
    .checkDedup 0 true, .publish 0 false, .markRetry 0 true,
    .checkDedup 1 true, .publish 1 false, .markRetry 1 true]

/-- The event has failed, and nobody was told. -/
theorem escalation_missed :
    ∃ s, Run.run (escalatingStep plainConfig) ⟨{}, []⟩ overtaken = some s ∧
      (∀ a ∈ overtaken, a.Undisturbed) ∧ ¬ s.Exact := by
  have hrun : (Run.run (escalatingStep plainConfig) ⟨{}, []⟩ overtaken).map
      (fun s => (decide (.failed ⟨1, 0⟩ ∈ s.trace), s.escalated)) = some (true, []) := by
    decide +kernel
  obtain ⟨s, hs, heq⟩ := Option.map_eq_some_iff.mp hrun
  obtain ⟨hfailed, hescalated⟩ := Prod.mk.inj heq
  refine ⟨s, hs, by decide, fun hexact => ?_⟩
  have hcount := hexact.failed _ (of_decide_eq_true hfailed)
  rw [hescalated] at hcount
  cases hcount

end Koupang.Outbox
