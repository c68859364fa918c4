import Koupang.Spec.CatalogInterleaving

/-!
# One outcome of a reservation

`InventoryReserved` is written on the consumer's transaction, together with the
event's entry in `processed_events`; `InventoryReservationFailed` is written on
a connection of its own, and survives the rollback of the attempt without such an
entry. So a redelivered attempt, or a concurrent one, can come to the opposite
outcome. Attempts one after the other, and none after a refusal, agree.

## Key results

- `wp_attempt`: an attempt announces its outcome once, and marks only a reservation
- `oneOutcome_run`: one outcome, while attempts do not overlap or follow a refusal
- `both_outcomes`: a redelivery, and two instances, that announce both
-/

namespace Koupang.Catalog.Interleaving

open ReadCommitted

section Service

variable [SerdeJson]

/-- The order that a request reserves inventory for. -/
def Request.reserves : Request → Option Uuid
  | .consume env => if env.eventType = .orderCreated then env.payload.orderId else none
  | .reserveForOrder orderId .. => some orderId
  | .releaseForOrder _ | .confirmForOrder .. | .stock _ => none

/-- There is an event of the type for the order. -/
def Announces (inserts : List OutboxInsert) (t : EventType) (o : Uuid) : Prop :=
  ∃ insert ∈ inserts, insert.envelope.eventType = t ∧ insert.envelope.metadata.aggregateId = o

instance (inserts : List OutboxInsert) (t : EventType) (o : Uuid) :
    Decidable (Announces inserts t o) :=
  inferInstanceAs (Decidable (∃ insert ∈ inserts, _))

/-- The committed outbox does not have both outcomes for the order. -/
def OneOutcome (o : Uuid) (s : State) : Prop :=
  ¬(Announces s.committed.tables.outbox .inventoryReserved o ∧
    Announces s.committed.tables.outbox .inventoryReservationFailed o)

instance (o : Uuid) (s : State) : Decidable (OneOutcome o s) := inferInstanceAs (Decidable (¬_))

/-- The request is an attempt at the event. -/
def Request.Attempts (key : Consumer.ProcessedKey) : Request → Prop
  | .consume env => processedKey env = key
  | _ => False

instance (key : Consumer.ProcessedKey) : ∀ request : Request, Decidable (request.Attempts key)
  | .consume _ => inferInstanceAs (Decidable (_ = _))
  | .reserveForOrder .. | .releaseForOrder _ | .confirmForOrder .. | .stock _ => .isFalse id

/-- Whoever reserves for the order attempts the event `key`, does so alone, and not after the
    order was refused. -/
def AttemptsAlone (o : Uuid) (key : Consumer.ProcessedKey) (s : State) : Label → Prop
  | .start _ request => request.reserves = some o → request.Attempts key ∧
    (∀ se ∈ s.sessions.rows, se.request.reserves ≠ some o) ∧
    ¬Announces s.committed.tables.outbox .inventoryReservationFailed o
  | _ => True

instance (o : Uuid) (key : Consumer.ProcessedKey) (s : State) :
    ∀ a, Decidable (AttemptsAlone o key s a)
  | .start _ request => inferInstanceAs (Decidable (request.reserves = some o → _))
  | .exec .. | .fault .. | .commit _ | .rollback _ => .isTrue trivial

/-! ## What is announced -/

/-- The events among some writes. -/
def inserts (ws : List (Write ⊕ Consumer.ProcessedKey)) : List OutboxInsert :=
  ws.filterMap fun
    | .inl (.outbox insert) => some insert
    | _ => none

omit [SerdeJson] in
theorem announces_append {xs ys : List OutboxInsert} {t : EventType} {o : Uuid} :
    Announces (xs ++ ys) t o ↔ Announces xs t o ∨ Announces ys t o := by
  simp only [Announces, List.mem_append, or_and_right, exists_or]

omit [SerdeJson] in
theorem not_announces_nil {t : EventType} {o : Uuid} : ¬Announces [] t o := by
  simp [Announces]

omit [SerdeJson] in
theorem inserts_append (ws ws' : List (Write ⊕ Consumer.ProcessedKey)) :
    inserts (ws ++ ws') = inserts ws ++ inserts ws' := by
  simp [inserts]

theorem outbox_view (ws : List (Write ⊕ Consumer.ProcessedKey)) (db : Consumer.Tables CatalogDb) :
    (view consumerSql ws db).tables.outbox = db.tables.outbox ++ inserts ws := by
  induction ws generalizing db with
  | nil => exact (List.append_nil _).symm
  | cons w ws ih =>
    refine (ih _).trans ?_
    rcases w with (_ | _ | _ | insert | _) | _
    case inl.outbox => exact List.append_assoc _ [insert] (inserts ws)
    all_goals rfl

/-- Events are written in the transaction. -/
theorem inserts_transactional (ws : List (Write ⊕ Consumer.ProcessedKey)) :
    inserts (transactional consumerSql ws) = inserts ws := by
  induction ws with
  | nil => rfl
  | cons w ws ih =>
    rcases w with (_ | _ | _ | insert | _) | _
    case inl.outbox => exact congrArg (insert :: ·) ih
    all_goals exact ih

theorem inserts_immediate (ws : List (Write ⊕ Consumer.ProcessedKey)) :
    inserts (immediate consumerSql ws) = [] := by
  induction ws with
  | nil => rfl
  | cons w ws ih =>
    rcases w with (_ | _ | _ | _ | _) | _
    all_goals exact ih

/-- The events that a statement inserts. -/
def Stmt.events (db : CatalogDb) : Stmt → List OutboxInsert
  | .insertOutboxRow insert => [insert]
  | .writeReservationFailed o reason => [reservationFailed o reason (Koupang.nowV7 db).1]
  | _ => []

theorem inserts_exec {st : Stmt} {db : CatalogDb} {a : st.Result} {cw : List Write}
    (hexec : st.exec () db = .ok (a, cw)) : inserts (cw.map .inl) = st.events db := by
  have hupdate {id : Uuid} {cond : Sku → Bool} {set : Sku → Sku}
      {settles : Option (Uuid × ReservationStatus)} {n : Nat}
      (hexec : execUpdateSku id cond set settles db = .ok (n, cw)) :
      inserts (cw.map .inl) = [] := by
    rcases execUpdateSku_ok hexec with rfl | ⟨row, rfl⟩ <;> rfl
  cases st with
  | reserveSku | updateSku | deleteSku | adjustStock | releaseSku | confirmSku =>
    exact hupdate hexec
  | findReserved | findAllReserved | nowV7 | insertOutboxRow =>
    cases hexec
    rfl
  | setReservationStatus id status =>
    cases hexec
    unfold execSetReservationStatus
    split <;> rfl
  | insertReservation o skuId q =>
    simp only [Stmt.exec, execInsertReservation, Except.bind_eq_ok] at hexec
    obtain ⟨q', -, hexec⟩ := hexec
    split at hexec
    · exact absurd hexec Except.throw_ne_ok
    split at hexec
    · exact absurd hexec Except.throw_ne_ok
    split at hexec
    · exact absurd hexec Except.throw_ne_ok
    split at hexec
    · exact absurd hexec Except.throw_ne_ok
    cases hexec
    rfl
  | createSku q =>
    simp only [Stmt.exec, execCreateSku, Except.bind_eq_ok] at hexec
    obtain ⟨row, -, hexec⟩ := hexec
    split at hexec
    · exact absurd hexec Except.throw_ne_ok
    · cases hexec
      rfl
  | writeReservationFailed o reason =>
    simp only [Stmt.exec, execWriteReservationFailed] at hexec
    split at hexec
    · cases hexec
    · cases hexec
      rfl

/-- The statement inserts no event for the order. -/
def Stmt.Silent (o : Uuid) : Stmt → Prop
  | .insertOutboxRow insert => insert.envelope.metadata.aggregateId ≠ o
  | .writeReservationFailed o' _ => o' ≠ o
  | _ => True

omit [SerdeJson] in
theorem Stmt.Silent.not_announces {o : Uuid} {st : Stmt} (h : st.Silent o) (db : CatalogDb)
    (t : EventType) : ¬Announces (st.events db) t o := by
  cases st with
  | insertOutboxRow insert =>
    rintro ⟨insert', hmem, -, hagg⟩
    cases List.mem_singleton.mp hmem
    exact h hagg
  | writeReservationFailed o' reason =>
    rintro ⟨insert', hmem, -, hagg⟩
    cases List.mem_singleton.mp hmem
    exact h hagg
  | _ => exact not_announces_nil

/-! ## What the programs send -/

/-- Statements other than those that announce an outcome. -/
def Stmt.Quiet : Stmt → Prop
  | .insertOutboxRow _ | .writeReservationFailed .. => False
  | _ => True

section Programs

variable {ε : Type} {P : Conn → Stmt → Prop}

section Quiet

variable (hquiet : ∀ st : Stmt, st.Quiet → P .tx st)
include hquiet

theorem sends_reserveInventory (o skuId : Uuid) (q : Int) :
    (reserveInventory o skuId q).Sends P := by
  refine Prog.sends_bind (Prog.sends_send (hquiet _ trivial)) fun n => ?_
  split
  · trivial
  · exact Prog.sends_send (hquiet _ trivial)

theorem sends_releaseReservation (o skuId : Uuid) : (releaseReservation o skuId).Sends P :=
  Prog.sends_bind (Prog.sends_fetchOne (hquiet _ trivial)) fun _ =>
    Prog.sends_bind (Prog.sends_send (hquiet _ trivial)) fun _ =>
      Prog.sends_send (hquiet _ trivial)

theorem sends_confirmReservation (o skuId : Uuid) : (confirmReservation o skuId).Sends P :=
  Prog.sends_bind (Prog.sends_fetchOne (hquiet _ trivial)) fun _ =>
    Prog.sends_bind (Prog.sends_send (hquiet _ trivial)) fun _ =>
      Prog.sends_send (hquiet _ trivial)

theorem sends_releaseAllReservations (o : Uuid) : (releaseAllReservations o).Sends P :=
  Prog.sends_bind (Prog.sends_send (hquiet _ trivial)) fun _ =>
    Prog.sends_forEach fun r _ => sends_releaseReservation hquiet o r.skuId

theorem sends_affecting {st : Stmt} (hst : st.Quiet) {onError : String → AppError} {e : AppError}
    {rows : st.Result → Nat} : (affecting st onError e rows).Sends P := by
  refine Prog.sends_bind (Prog.sends_send (hquiet st hst)) fun n => ?_
  split
  · trivial
  · trivial

theorem sends_stockOp (op : StockOp) : (stockOp op).Sends P := by
  cases op with
  | createSku q => exact Prog.sends_bind (Prog.sends_send (hquiet _ trivial)) fun _ => trivial
  | updateSku id req =>
    simp only [stockOp]
    split
    · trivial
    · exact sends_affecting hquiet (by trivial)
  | deleteSku id => exact sends_affecting hquiet (by trivial)
  | adjustStock id delta => exact sends_affecting hquiet (by trivial)

theorem sends_doReserveAndWriteEvent (hnow : P .client .nowV7) {o : Uuid}
    (hinsert : ∀ insert : OutboxInsert, insert.envelope.eventType = .inventoryReserved →
      insert.envelope.metadata.aggregateId = o → P .tx (.insertOutboxRow insert))
    (buyerId : Uuid) (totalAmount : DecimalText) (currency : String)
    (items : List ReservationItem) :
    (doReserveAndWriteEvent o buyerId totalAmount currency items).Sends P := by
  refine Prog.sends_bind (Prog.sends_forEach fun item _ =>
    sends_reserveInventory hquiet o item.1 item.2) fun _ => ?_
  -- the metadata carry the drawn id
  refine ⟨hnow, fun r => ?_⟩
  cases r with
  | error e => trivial
  | ok eventId =>
    change (insertOutboxEvent _).Sends P
    unfold insertOutboxEvent
    dsimp only
    split
    · trivial
    · exact Prog.sends_send (hinsert _ rfl rfl)

end Quiet

theorem sends_onTables {α : Type} {x : Program ε α}
    {P' : Conn → Consumer.Stmt catalogSql → Prop} (h : x.Sends fun c st => P' c (.handler st)) :
    (Consumer.onTables x).Sends P' := by
  induction x with
  | done r => trivial
  | stmt c st k ih => exact ⟨h.1, fun r => ih r (h.2 r)⟩

/-- What is sent by a request that does not reserve for the order. -/
def Unrelated (o : Uuid) (c : Conn) : Consumer.Stmt catalogSql → Prop
  | .handler st => st.Silent o
  | _ => c = .tx

theorem sends_ownTransaction {o : Uuid} {x : Program AppError Unit}
    (h : x.Sends fun _ (st : Stmt) => st.Silent o) : (ownTransaction x).Sends (Unrelated o) :=
  Prog.sends_bind (Prog.sends_mapErr (sends_onTables h)) fun _ => trivial

omit [SerdeJson] in
theorem silent_of_quiet (o : Uuid) (st : Stmt) (h : st.Quiet) : st.Silent o := by
  cases st with
  | insertOutboxRow | writeReservationFailed => exact absurd h id
  | _ => trivial

theorem sends_reserveForOrderOnTx {o o' : Uuid} (hne : o' ≠ o) (buyerId : Uuid)
    (totalAmount : DecimalText) (currency : String) (items : List ReservationItem) :
    (reserveForOrderOnTx o' buyerId totalAmount currency items).Sends fun _ (st : Stmt) =>
      st.Silent o := by
  refine Prog.sends_bind (Prog.sends_attempt (sends_doReserveAndWriteEvent (silent_of_quiet o)
    trivial (fun insert _ hagg heq => hne (hagg.symm.trans heq)) ..)) fun r => ?_
  cases r with
  | ok u => trivial
  | error e => exact Prog.sends_bind (Prog.sends_send hne) fun _ => trivial

omit [SerdeJson] in
theorem orderId_of_mapError {env : EventEnvelope} {o : Uuid} {f : AppError → HandlerError}
    (h : env.payloadOrderId.mapError f = .ok o) : env.payload.orderId = some o := by
  unfold EventEnvelope.payloadOrderId at h
  split at h
  · rename_i horder
    cases h
    exact horder
  · exact nomatch h

theorem sends_handle {o : Uuid} {env : EventEnvelope}
    (h : (Request.consume env).reserves ≠ some o) :
    (handle env).Sends fun _ (st : Stmt) => st.Silent o := by
  unfold handle
  split
  · rename_i hcreated
    refine Prog.sends_bind_done fun o' horder => ?_
    have hne : o' ≠ o := by
      rintro rfl
      exact h (by rw [Request.reserves, if_pos hcreated, orderId_of_mapError horder])
    refine Prog.sends_bind (Prog.sends_mapErr trivial) fun buyerId =>
      Prog.sends_bind trivial fun items => Prog.sends_mapErr ?_
    exact sends_reserveForOrderOnTx hne ..
  · refine Prog.sends_mapErr (Prog.sends_bind trivial fun o' => Prog.sends_bind ?_ fun _ => trivial)
    exact Prog.sends_attempt (sends_releaseAllReservations (silent_of_quiet o) o')
  · trivial

theorem sends_program {o : Uuid} {request : Request} (h : request.reserves ≠ some o) :
    (program request).Sends (Unrelated o) := by
  cases request with
  | consume env =>
    refine Prog.sends_bind (Prog.sends_send rfl) fun processed => ?_
    split
    · trivial
    · refine Prog.sends_bind (Prog.sends_mapErr (sends_onTables (sends_handle h))) fun _ => ?_
      exact Prog.sends_bind (Prog.sends_send rfl) fun _ => trivial
  | reserveForOrder o' buyerId totalAmount currency items =>
    have hne : o' ≠ o := fun heq => h (congrArg some heq)
    exact sends_ownTransaction (sends_reserveForOrderOnTx hne ..)
  | releaseForOrder o' =>
    exact sends_ownTransaction (sends_releaseAllReservations (silent_of_quiet o) o')
  | confirmForOrder o' items =>
    exact sends_ownTransaction (Prog.sends_forEach fun item _ =>
      sends_confirmReservation (silent_of_quiet o) o' item.1)
  | stock op => exact sends_ownTransaction (sends_stockOp (silent_of_quiet o) op)

end Programs

/-! ## Attempts -/

/-- How far a program is with the order. -/
inductive Progress where
  /-- the request does not reserve for the order -/
  | unrelated
  | unchecked
  /-- the event was not in `processed_events` -/
  | checked
  | refused
  /-- reserved, and marked as processed -/
  | marked
deriving DecidableEq

/-- An attempt checks the event, reserves and marks it, or writes the refusal. -/
def outcomeProtocol (o : Uuid) (key : Consumer.ProcessedKey) : Protocol consumerSql Progress where
  pre g c st := match g, st with
    | .unrelated, st => Unrelated o c st
    | .unchecked, .isEventProcessed k => c = .tx ∧ k = key
    | .checked, .handler (.insertOutboxRow insert) =>
      c = .tx ∧ insert.envelope.eventType = .inventoryReserved
    | .checked, .handler (.writeReservationFailed ..) => c ≠ .tx
    | .checked, .handler _ => True
    | .checked, .markEventProcessed k => c = .tx ∧ k = key
    | _, _ => False
  next g _ st r g' := match g, st, r with
    | .unchecked, .isEventProcessed _, .ok false => g' = .checked
    | .checked, .handler (.writeReservationFailed ..), _ => g' = .refused
    | .checked, .markEventProcessed _, .ok _ => g' = .marked
    | _, _, _ => g' = g

/-- Only an attempt that has marked the event is to be committed, or one that skips it. -/
def EndsMarked (g : Progress) (r : Except Consumer.AttemptResult Consumer.AttemptResult) : Prop :=
  ∀ a, r = .ok a → g = .unrelated ∨ g = .unchecked ∨ g = .marked

/-- What is sent before the outcome is known. -/
def Reserving (c : Conn) : Stmt → Prop
  | .insertOutboxRow insert => c = .tx ∧ insert.envelope.eventType = .inventoryReserved
  | .writeReservationFailed .. => False
  | _ => True

section Attempts

variable {o : Uuid} {key : Consumer.ProcessedKey}

omit [SerdeJson] in
theorem reserving_of_quiet (st : Stmt) (h : st.Quiet) : Reserving .tx st := by
  cases st with
  | insertOutboxRow | writeReservationFailed => exact absurd h id
  | _ => trivial

theorem checked_of_reserving {c : Conn} {st : Stmt} (h : Reserving c st) :
    (outcomeProtocol o key).pre .checked c (.handler st) ∧
      ∀ r g', (outcomeProtocol o key).next .checked c (.handler st) r g' → g' = .checked := by
  cases st with
  | writeReservationFailed => exact absurd h id
  | insertOutboxRow => exact ⟨h, fun _ _ hnext => hnext⟩
  | _ => exact ⟨trivial, fun _ _ hnext => hnext⟩

/-- Reserving for an order succeeds, or ends with an error. -/
theorem wp_reserveForOrderOnTx_checked (o' buyerId : Uuid) (totalAmount : DecimalText)
    (currency : String) (items : List ReservationItem) :
    (reserveForOrderOnTx o' buyerId totalAmount currency items).wp
      (Consumer.handlerProtocol (outcomeProtocol o key))
      (fun g r => ∀ u, r = .ok u → g = .checked) .checked := by
  have hreserve : (doReserveAndWriteEvent o' buyerId totalAmount currency items).Sends Reserving :=
    sends_doReserveAndWriteEvent reserving_of_quiet trivial (fun _ htype _ => ⟨rfl, htype⟩) ..
  refine Prog.wp_bind (Prog.wp_attempt (Prog.wp_mono (Prog.wp_of_sends hreserve fun c st h =>
    checked_of_reserving h) ?_))
  rintro g r rfl
  cases r with
  | ok u => exact fun _ _ => rfl
  | error e =>
    exact Prog.wp_bind (Prog.wp_send Conn.noConfusion (fun _ _ _ => nofun) fun _ _ _ =>
      nofun)

/-- An attempt announces its outcome once, and marks the event only if it has reserved. -/
theorem wp_attempt {env : EventEnvelope} (hkey : processedKey env = key)
    (hcreated : env.eventType = .orderCreated) :
    (program (.consume env)).wp (outcomeProtocol o key) EndsMarked .unchecked := by
  refine Prog.wp_bind (Prog.wp_send ⟨rfl, hkey⟩ (fun processed g' hnext => ?_) fun _ _ _ => nofun)
  cases processed with
  | true =>
    cases (hnext : g' = .unchecked)
    exact fun _ _ => .inr (.inl rfl)
  | false =>
    cases (hnext : g' = .checked)
    refine Prog.wp_bind (Prog.wp_mapErr (Consumer.wp_onTables ?_))
    have hhandle : (handle env).wp (Consumer.handlerProtocol (outcomeProtocol o key))
        (fun g r => ∀ u, r = .ok u → g = .checked) .checked := by
      unfold handle
      rw [hcreated]
      refine Prog.wp_bind_done (fun o' _ => ?_) fun _ _ => nofun
      refine Prog.wp_bind_done (fun buyerId _ => ?_) fun _ _ => nofun
      refine Prog.wp_bind_done (fun items _ => ?_) fun _ _ => nofun
      refine Prog.wp_mapErr (Prog.wp_mono (wp_reserveForOrderOnTx_checked ..) fun g r h => ?_)
      cases r with
      | ok u => exact fun _ _ => h u rfl
      | error e => nofun
    refine Prog.wp_mono hhandle fun g r h => ?_
    cases r with
    | error e => nofun
    | ok u =>
      cases h u rfl
      refine Prog.wp_bind (Prog.wp_send ⟨rfl, hkey⟩ (fun _ g' hnext => ?_) fun _ _ _ => nofun)
      cases (hnext : g' = .marked)
      exact fun _ _ => .inr (.inr rfl)

/-! ## Over every interleaving -/

omit [SerdeJson] in
/-- Marking an event announces nothing. -/
theorem markEventProcessed_silent (k : Consumer.ProcessedKey) (processed : Prop)
    [Decidable processed] {t : EventType} {o : Uuid} :
    ¬Announces (inserts (if processed then [] else [.inr k])) t o := by
  split
  · exact not_announces_nil
  · exact not_announces_nil

/-- What is known of a session with these writes. -/
structure Knows (o : Uuid) (key : Consumer.ProcessedKey) (db : Consumer.Tables CatalogDb)
    (g : Progress) (request : Request) (ws : List (Write ⊕ Consumer.ProcessedKey)) : Prop where
  unrelated : g = .unrelated ↔ request.reserves ≠ some o
  noRefusal : ¬Announces (inserts ws) .inventoryReservationFailed o
  silent : g = .unrelated ∨ g = .unchecked → ¬Announces (inserts ws) .inventoryReserved o
  unrefused : g ≠ .unrelated → g ≠ .refused →
    ¬Announces db.tables.outbox .inventoryReservationFailed o
  unreserved : g = .checked ∨ g = .marked → ¬Announces db.tables.outbox .inventoryReserved o
  marked : g = .marked → key ∈ db.processedEvents ∨ .inr key ∈ ws

/-- Not both outcomes are committed, and a reservation is marked as processed. -/
structure Settled (o : Uuid) (key : Consumer.ProcessedKey) (db : Consumer.Tables CatalogDb) :
    Prop where
  one : ¬(Announces db.tables.outbox .inventoryReserved o ∧
    Announces db.tables.outbox .inventoryReservationFailed o)
  processed : Announces db.tables.outbox .inventoryReserved o → key ∈ db.processedEvents

/-- The committed outcomes are settled, and at most one session reserves for the order. -/
structure Outcomes (o : Uuid) (key : Consumer.ProcessedKey) (s : State) : Prop where
  settled : Settled o key s.committed
  alone : ∀ se ∈ s.sessions.rows, ∀ se' ∈ s.sessions.rows, se.request.reserves = some o →
    se'.request.reserves = some o → se.id = se'.id

abbrev OutcomeInv (o : Uuid) (key : Consumer.ProcessedKey) : State → Prop :=
  Inv (outcomeProtocol o key) EndsMarked (Outcomes o key) fun s g se =>
    Knows o key s.committed g se.request se.writes

/-- Nothing was announced for the order. -/
structure Frame (o : Uuid) (db db' : Consumer.Tables CatalogDb) : Prop where
  reserved : Announces db'.tables.outbox .inventoryReserved o →
    Announces db.tables.outbox .inventoryReserved o
  refused : Announces db'.tables.outbox .inventoryReservationFailed o →
    Announces db.tables.outbox .inventoryReservationFailed o
  processed : ∀ k ∈ db.processedEvents, k ∈ db'.processedEvents

section Knows

variable {db db' : Consumer.Tables CatalogDb} {g g' : Progress} {request : Request}
  {ws ws' : List (Write ⊕ Consumer.ProcessedKey)}

/-- Some writes that announce nothing for the order. -/
theorem frame_view (hreserved : ¬Announces (inserts ws) .inventoryReserved o)
    (hrefused : ¬Announces (inserts ws) .inventoryReservationFailed o) :
    Frame o db (view consumerSql ws db) := by
  refine ⟨fun h => ?_, fun h => ?_, fun k hk => ?_⟩
  · rw [outbox_view, announces_append] at h
    exact h.resolve_right hreserved
  · rw [outbox_view, announces_append] at h
    exact h.resolve_right hrefused
  · exact (Consumer.mem_processedEvents_view (D := catalogSql) ws db k).mpr (.inl hk)

omit [SerdeJson] in
theorem Settled.mono (h : Settled o key db) (hframe : Frame o db db') : Settled o key db' where
  one := fun ⟨hreserved, hrefused⟩ => h.one ⟨hframe.reserved hreserved, hframe.refused hrefused⟩
  processed hreserved := hframe.processed key (h.processed (hframe.reserved hreserved))

omit [SerdeJson] in
theorem Knows.mono (h : Knows o key db g request ws) (hframe : Frame o db db') :
    Knows o key db' g request ws where
  unrelated := h.unrelated
  noRefusal := h.noRefusal
  silent := h.silent
  unrefused h₁ h₂ := mt hframe.refused (h.unrefused h₁ h₂)
  unreserved hg := mt hframe.reserved (h.unreserved hg)
  marked hg := (h.marked hg).imp_left (hframe.processed key)

omit [SerdeJson] in
/-- A session that goes on without announcing anything, unless it is reserving. -/
theorem Knows.append (h : Knows o key db g request ws)
    (hrefused : ¬Announces (inserts ws') .inventoryReservationFailed o)
    (hreserved : g = .unrelated ∨ g = .unchecked →
      ¬Announces (inserts ws') .inventoryReserved o) : Knows o key db g request (ws ++ ws') where
  unrelated := h.unrelated
  noRefusal := by
    rw [inserts_append, announces_append]
    exact not_or.mpr ⟨h.noRefusal, hrefused⟩
  silent hg := by
    rw [inserts_append, announces_append]
    exact not_or.mpr ⟨h.silent hg, hreserved hg⟩
  unrefused := h.unrefused
  unreserved := h.unreserved
  marked hg := (h.marked hg).imp_right (List.mem_append_left _)

omit [SerdeJson] in
/-- An attempt that has written its refusal is not committed. -/
theorem Knows.refuse (h : Knows o key db .checked request ws) :
    Knows o key db' .refused request ws :=
  ⟨iff_of_false nofun (mt h.unrelated.mpr nofun), h.noRefusal, nofun, fun _ hne => absurd rfl hne,
    nofun, nofun⟩

/-- A statement on a transaction leads on. -/
theorem Knows.exec (h : Knows o key db g request ws) (hsettled : Settled o key db)
    {st : Consumer.Stmt catalogSql} (hpre : (outcomeProtocol o key).pre g .tx st) {input : Unit}
    {a : consumerSql.Result st}
    (hexec : consumerSql.exec st input (view consumerSql ws db) = .ok (a, ws')) :
    ∃ g', (outcomeProtocol o key).next g .tx st (.ok a) g' ∧
      Knows o key db g' request (ws ++ transactional consumerSql ws') := by
  have hinserts := inserts_transactional ws'
  cases st with
  | handler st =>
    obtain ⟨cw, hst, rfl⟩ := Consumer.exec_handler_ok hexec
    rw [inserts_exec hst] at hinserts
    cases g with
    | unrelated =>
      refine ⟨.unrelated, rfl, h.append ?_ fun _ => ?_⟩
      all_goals
        rw [hinserts]
        exact Stmt.Silent.not_announces hpre _ _
    | checked =>
      cases st with
      | writeReservationFailed o' reason => exact absurd rfl hpre
      | insertOutboxRow insert =>
        refine ⟨.checked, rfl, h.append ?_ nofun⟩
        rw [hinserts]
        rintro ⟨insert', hmem, htype, -⟩
        cases List.mem_singleton.mp hmem
        exact nomatch hpre.2.symm.trans htype
      | _ => exact ⟨.checked, rfl, h.append (hinserts ▸ not_announces_nil) nofun⟩
    | unchecked | refused | marked => exact absurd hpre id
  | isEventProcessed k =>
    cases hexec
    have hsame : Knows o key db g request (ws ++ transactional consumerSql []) :=
      h.append not_announces_nil fun _ => not_announces_nil
    cases g with
    | unrelated => exact ⟨.unrelated, rfl, hsame⟩
    | unchecked =>
      obtain ⟨-, rfl⟩ := hpre
      cases hcontains : (view consumerSql ws db).processedEvents.contains k with
      | true => exact ⟨.unchecked, rfl, hsame⟩
      | false =>
        -- a committed reservation would be in `processed_events`
        have hnotin : k ∉ db.processedEvents := fun hk =>
          absurd ((Consumer.mem_processedEvents_view (D := catalogSql) _ _ k).mpr (.inl hk))
            (by simpa using hcontains)
        exact ⟨.checked, rfl, ⟨iff_of_false nofun (mt hsame.unrelated.mpr nofun), hsame.noRefusal,
          nofun, fun _ _ => hsame.unrefused nofun nofun,
          fun _ => mt hsettled.processed hnotin, nofun⟩⟩
    | checked | refused | marked => exact absurd hpre id
  | markEventProcessed k =>
    cases hexec
    have hsame := h.append (hinserts ▸ markEventProcessed_silent k _)
      fun _ => hinserts ▸ markEventProcessed_silent k _
    cases g with
    | unrelated => exact ⟨.unrelated, rfl, hsame⟩
    | checked =>
      obtain ⟨-, rfl⟩ := hpre
      refine ⟨.marked, rfl, ⟨iff_of_false nofun (mt hsame.unrelated.mpr nofun), hsame.noRefusal,
        nofun, fun _ _ => hsame.unrefused nofun nofun, fun _ => hsame.unreserved (.inl rfl),
        fun _ => ?_⟩⟩
      by_cases hk : k ∈ (view consumerSql ws db).processedEvents
      · exact ((Consumer.mem_processedEvents_view (D := catalogSql) _ _ k).mp hk).imp_right
          (List.mem_append_left _)
      · refine .inr (List.mem_append_right _ ?_)
        rw [if_neg (by simpa using hk)]
        exact List.mem_singleton_self _
    | unchecked | refused | marked => exact absurd hpre id

/-- After an error a session is where it was, or its refusal could not be written. -/
theorem Knows.error (h : Knows o key db g request ws) (c : Conn) (st : Consumer.Stmt catalogSql)
    (e : String) : ∃ g', (outcomeProtocol o key).next g c st (.error e) g' ∧
      Knows o key db g' request ws := by
  cases g with
  | checked =>
    cases st with
    | handler st =>
      cases st with
      | writeReservationFailed => exact ⟨.refused, rfl, h.refuse⟩
      | _ => exact ⟨.checked, rfl, h⟩
    | _ => exact ⟨.checked, rfl, h⟩
  | _ => cases st <;> exact ⟨_, rfl, h⟩

/-- A statement on another connection: the refusal, or nothing about the order. -/
theorem Knows.pool (h : Knows o key db g request ws) (hsettled : Settled o key db) {c : Conn}
    (hc : c ≠ .tx) {st : Consumer.Stmt catalogSql} (hpre : (outcomeProtocol o key).pre g c st)
    {input : Unit} {a : consumerSql.Result st}
    (hexec : consumerSql.exec st input db = .ok (a, ws')) :
    ∃ g', (outcomeProtocol o key).next g c st (.ok a) g' ∧
      Knows o key (view consumerSql ws' db) g' request ws ∧
      (g = .unrelated → Frame o db (view consumerSql ws' db)) ∧
      Settled o key (view consumerSql ws' db) := by
  cases st with
  | isEventProcessed k =>
    cases g with
    | unrelated => exact absurd hpre hc
    | unchecked => exact absurd hpre.1 hc
    | checked | refused | marked => exact absurd hpre id
  | markEventProcessed k =>
    cases g with
    | unrelated => exact absurd hpre hc
    | checked => exact absurd hpre.1 hc
    | unchecked | refused | marked => exact absurd hpre id
  | handler st =>
    obtain ⟨cw, hst, rfl⟩ := Consumer.exec_handler_ok hexec
    have hinserts := inserts_exec hst
    cases g with
    | unrelated =>
      have hframe : Frame o db (view consumerSql (cw.map .inl) db) := by
        refine frame_view ?_ ?_
        all_goals
          rw [hinserts]
          exact Stmt.Silent.not_announces hpre _ _
      exact ⟨.unrelated, rfl, h.mono hframe, fun _ => hframe, hsettled.mono hframe⟩
    | checked =>
      have hquiet (hevents : st.events db.tables = []) :
          Frame o db (view consumerSql (cw.map .inl) db) :=
        frame_view (hinserts.trans hevents ▸ not_announces_nil)
          (hinserts.trans hevents ▸ not_announces_nil)
      cases st with
      | writeReservationFailed o' reason =>
        have hreserved : ¬Announces (view consumerSql (cw.map .inl) db).tables.outbox
            .inventoryReserved o := by
          rw [outbox_view, announces_append, hinserts]
          refine not_or.mpr ⟨h.unreserved (.inl rfl), ?_⟩
          rintro ⟨insert, hmem, htype, -⟩
          cases List.mem_singleton.mp hmem
          exact nomatch htype
        exact ⟨.refused, rfl, h.refuse, nofun,
          ⟨fun hboth => hreserved hboth.1, fun h => absurd h hreserved⟩⟩
      | insertOutboxRow insert => exact absurd hpre.1 hc
      | _ => exact ⟨.checked, rfl, h.mono (hquiet rfl), nofun, hsettled.mono (hquiet rfl)⟩
    | unchecked | refused | marked => exact absurd hpre id

/-- A transaction that is committed. -/
theorem Knows.commit (h : Knows o key db g request ws) (hsettled : Settled o key db)
    (hends : g = .unrelated ∨ g = .unchecked ∨ g = .marked) :
    Settled o key (view consumerSql ws db) ∧
      (g = .unrelated → Frame o db (view consumerSql ws db)) := by
  have hframe (hg : g = .unrelated ∨ g = .unchecked) : Frame o db (view consumerSql ws db) :=
    frame_view (h.silent hg) h.noRefusal
  rcases hends with hg | hg | hg
  · exact ⟨hsettled.mono (hframe (.inl hg)), fun hg => hframe (.inl hg)⟩
  · exact ⟨hsettled.mono (hframe (.inr hg)), fun hg => hframe (.inl hg)⟩
  · subst hg
    refine ⟨⟨fun hboth => ?_, fun _ => ?_⟩, nofun⟩
    · have hrefused := hboth.2
      rw [outbox_view, announces_append] at hrefused
      exact hrefused.elim (h.unrefused nofun nofun) h.noRefusal
    · exact (Consumer.mem_processedEvents_view (D := catalogSql) _ _ key).mpr (h.marked rfl)

end Knows

section Step

variable {s u : State} {g g' : Progress}
  {se x : Session consumerSql Request Consumer.AttemptResult Consumer.AttemptResult}

/-- The session that goes on is the one that reserved before, if any does. -/
theorem Outcomes.put (h : Outcomes o key s) (hse : se ∈ s.sessions.rows)
    (hsessions : u.sessions = s.sessions) (hid : x.id = se.id) (hrequest : x.request = se.request)
    (hsettled : Settled o key u.committed) : Outcomes o key (u.put x) := by
  refine ⟨hsettled, State.forall_put.mpr ⟨State.forall_put.mpr ⟨fun _ _ => rfl, ?_⟩, ?_⟩⟩
  · rw [hsessions, hid, hrequest]
    exact fun y hy _ => h.alone se hse y hy
  · rw [hsessions, hid]
    intro y hy hne
    refine State.forall_put.mpr ⟨?_, ?_⟩
    · rw [hid, hrequest]
      exact h.alone y hy se hse
    · rw [hsessions]
      exact fun z hz _ => h.alone y hy z hz

theorem Outcomes.drop (h : Outcomes o key s) {i : Nat} (hsessions : u.sessions = s.sessions)
    (hsettled : Settled o key u.committed) : Outcomes o key (u.drop i) := by
  refine ⟨hsettled, State.forall_drop.mpr ?_⟩
  rw [hsessions]
  refine fun y hy _ => State.forall_drop.mpr ?_
  rw [hsessions]
  exact fun z hz _ => h.alone y hy z hz

/-- The other sessions, when `se` has gone on from `g`. -/
theorem Knows.others {db : Consumer.Tables CatalogDb}
    (hx : Knows o key s.committed g' x.request x.writes) (hout : Outcomes o key s)
    (hmem : x ∈ s.sessions.rows) (hse : se ∈ s.sessions.rows) (hne : x.id ≠ se.id)
    (hknows : Knows o key s.committed g se.request se.writes)
    (hframe : g = .unrelated → Frame o s.committed db) :
    Knows o key db g' x.request x.writes := by
  by_cases hg : g = .unrelated
  · exact hx.mono (hframe hg)
  · -- `se` reserves for the order, and nobody else does
    have hreserves : se.request.reserves = some o :=
      Classical.not_not.mp (mt hknows.unrelated.mpr hg)
    have hother : x.request.reserves ≠ some o := fun h => hne (hout.alone x hmem se hse h hreserves)
    cases hx.unrelated.mpr hother
    exact ⟨hx.unrelated, hx.noRefusal, hx.silent, fun h => absurd rfl h, nofun, nofun⟩

/-- A request begins. -/
theorem knows_start {db : Consumer.Tables CatalogDb}
    {request : Request} (h : request.reserves = some o → request.Attempts key ∧
      ¬Announces db.tables.outbox .inventoryReservationFailed o) :
    ∃ g, Knows o key db g request [] ∧
      (program request).wp (outcomeProtocol o key) EndsMarked g := by
  by_cases hres : request.reserves = some o
  · obtain ⟨hattempts, hunrefused⟩ := h hres
    refine ⟨.unchecked, ⟨iff_of_false nofun (not_not_intro hres), not_announces_nil,
      fun _ => not_announces_nil, fun _ _ => hunrefused, nofun, nofun⟩, ?_⟩
    cases request with
    | consume env =>
      refine wp_attempt hattempts ?_
      by_contra hne
      rw [Request.reserves, if_neg hne] at hres
      exact nomatch hres
    | _ => exact absurd hattempts id
  · refine ⟨.unrelated, ⟨iff_of_true rfl hres, not_announces_nil, fun _ => not_announces_nil,
      fun hne => absurd rfl hne, nofun, nofun⟩, ?_⟩
    refine Prog.wp_mono (Prog.wp_of_sends (sends_program hres) fun c st hst => ⟨hst, ?_⟩) ?_
    · exact fun r g' hnext => by cases st <;> exact hnext
    · rintro g r rfl
      exact fun _ _ => .inl rfl

theorem outcomeInv_step {t : State} {a : Label} (h : OutcomeInv o key s)
    (halone : AttemptsAlone o key s a) (hstep : step s a = some t) : OutcomeInv o key t := by
  have hcases := step_cases hstep
  have hexcl := exclusive_step h.exclusive hcases
  cases hcases with
  | @start i request hfree =>
    obtain ⟨g, hknows, hwp⟩ := knows_start fun hres =>
      ⟨(halone hres).1, (halone hres).2.2⟩
    refine h.put hexcl rfl ⟨h.state.settled, ?_⟩ ⟨g, hknows, hwp⟩ fun _ _ _ _ hx => hx
    have hnone (hres : request.reserves = some o) := (halone hres).2.1
    refine State.forall_put.mpr ⟨State.forall_put.mpr ⟨fun _ _ => rfl, ?_⟩, fun x hx _ => ?_⟩
    · exact fun x hx _ hres hres' => absurd hres' (hnone hres x hx)
    · refine State.forall_put.mpr ⟨fun hres' hres => absurd hres' (hnone hres x hx), ?_⟩
      exact fun y hy _ => h.state.alone x hx y hy
  | @exec se st k input a ws hse hprog hab hexec hfree =>
    obtain ⟨g, hknows, hpre, hwp⟩ := h.stmt hse hprog
    obtain ⟨g', hnext, hknows'⟩ := hknows.exec h.state.settled hpre hexec
    have hframe : Frame o s.committed (view consumerSql (immediate consumerSql ws) s.committed) :=
      frame_view (inserts_immediate ws ▸ not_announces_nil)
        (inserts_immediate ws ▸ not_announces_nil)
    exact h.put hexcl rfl (h.state.put hse rfl rfl rfl (h.state.settled.mono hframe))
      ⟨g', hknows'.mono hframe, hwp _ _ hnext⟩ fun x _ _ gx hx => hx.mono hframe
  | abort hlabel hse hprog =>
    obtain ⟨g, hknows, -, hwp⟩ := h.stmt hse hprog
    obtain ⟨g', hnext, hknows'⟩ := hknows.error .tx _ _
    exact h.put hexcl rfl (h.state.put hse rfl rfl rfl h.state.settled)
      ⟨g', hknows', hwp _ _ hnext⟩ fun _ _ _ _ hx => hx
  | pool hse hprog hc hexec hfree =>
    obtain ⟨g, hknows, hpre, hwp⟩ := h.stmt hse hprog
    obtain ⟨g', hnext, hknows', hframe, hsettled⟩ := hknows.pool h.state.settled hc hpre hexec
    exact h.put hexcl rfl (h.state.put hse rfl rfl rfl hsettled)
      ⟨g', hknows', hwp _ _ hnext⟩ fun x hmem hne gx hx =>
        hx.others h.state hmem hse hne hknows hframe
  | poolError hlabel hse hprog hc =>
    obtain ⟨g, hknows, -, hwp⟩ := h.stmt hse hprog
    obtain ⟨g', hnext, hknows'⟩ := hknows.error _ _ _
    exact h.put hexcl rfl (h.state.put hse rfl rfl rfl h.state.settled)
      ⟨g', hknows', hwp _ _ hnext⟩ fun _ _ _ _ hx => hx
  | commit hse hprog hab =>
    obtain ⟨g, hknows, hends⟩ := h.done hse hprog
    obtain ⟨hsettled, hframe⟩ := hknows.commit h.state.settled (hends _ rfl)
    exact h.drop hexcl rfl (h.state.drop rfl hsettled) fun x hmem hne gx hx =>
      hx.others h.state hmem hse hne hknows hframe
  | drop hse hlabel =>
    exact h.drop hexcl rfl (h.state.drop rfl h.state.settled) fun _ _ _ _ hx => hx

end Step

/-- In every interleaving of any requests, from any tables without a reservation for the order:
    there is one outcome, as long as the attempts to reserve for the order are attempts at the
    same event, no two of them overlap, and none begins after a refusal. -/
theorem oneOutcome_run {db : Consumer.Tables CatalogDb}
    (hreserved : ¬Announces db.tables.outbox .inventoryReserved o) {as : List Label}
    (halone : Run.Meets step (AttemptsAlone o key) { committed := db } as) {s : State}
    (hrun : Run.run step { committed := db } as = some s) : OneOutcome o s := by
  have hsettled : Settled o key db :=
    ⟨fun hboth => hreserved hboth.1, fun h => absurd h hreserved⟩
  have hinit : OutcomeInv o key { committed := db } :=
    .init ⟨hsettled, fun _ hse => absurd hse List.not_mem_nil⟩
  exact (Run.run_invariant_of_meets (fun _ _ _ h halone hstep => outcomeInv_step h halone hstep)
    hinit halone hrun).state.settled.one

end Attempts

end Service

/-! ## Attempts at an order -/

/-- An order of some of a SKU. -/
def sampleCreated (quantity : Int) : EventEnvelope :=
  { metadata :=
      { eventId := ⟨0, 2⟩, eventType := .orderCreated, aggregateType := .order,
        aggregateId := ⟨0, 0⟩, sourceService := .order }
    payload :=
      { orderId := some ⟨0, 0⟩
        buyerId := some ⟨2, 0⟩
        totalAmount := some (.decimal 30)
        currency := some "USD"
        items := some [{ skuId := some ⟨1, 0⟩, quantity := some quantity }] } }

/-- The first attempt dies, the second one reserves while another order waits and is refused,
    the SKU is restocked, and a third attempt skips the event. -/
def oneAfterTheOther : List Label :=
  [.start 0 (.consume (sampleCreated 3)), .exec 0 (), .exec 0 (), .rollback 0,
   .start 1 (.consume (sampleCreated 3)), .exec 1 (), .exec 1 (),
   .start 2 (.reserveForOrder ⟨0, 1⟩ ⟨2, 1⟩ (.decimal 30) "USD" [(⟨1, 0⟩, 4)]),
   .exec 1 (), .exec 1 (), .exec 1 (), .exec 1 (), .commit 1, .exec 2 (), .exec 2 (), .rollback 2,
   .start 3 (.stock (.adjustStock ⟨1, 0⟩ 2)), .exec 3 (), .commit 3,
   .start 4 (.consume (sampleCreated 3)), .exec 4 (), .commit 4]

theorem oneOutcome_oneAfterTheOther :
    ∃ s, Run.run step { committed := { tables := sampleStock } } oneAfterTheOther = some s ∧
      Announces s.committed.tables.outbox .inventoryReserved ⟨0, 0⟩ ∧
      Announces s.committed.tables.outbox .inventoryReservationFailed ⟨0, 1⟩ ∧
      OneOutcome ⟨0, 0⟩ s := by
  have hrun : (Run.run step { committed := { tables := sampleStock } } oneAfterTheOther).map
      (fun s => decide (Announces s.committed.tables.outbox .inventoryReserved ⟨0, 0⟩ ∧
        Announces s.committed.tables.outbox .inventoryReservationFailed ⟨0, 1⟩)) =
      some true := by decide
  obtain ⟨s, hs, hreserved, hrefused⟩ := Run.run_decide hrun
  have halone : Run.Meets step (AttemptsAlone ⟨0, 0⟩ (⟨0, 2⟩, "catalog-service"))
      { committed := { tables := sampleStock } } oneAfterTheOther := by decide
  exact ⟨s, hs, hreserved, hrefused, oneOutcome_run (by decide) halone hs⟩

/-- The order is refused, and its dead letter is lost; after the SKU was restocked, the event is
    delivered again. -/
def refusedThenReserved : List Label :=
  [.start 0 (.consume (sampleCreated 7)), .exec 0 (), .exec 0 (), .exec 0 (), .rollback 0,
   .start 1 (.stock (.adjustStock ⟨1, 0⟩ 5)), .exec 1 (), .commit 1,
   .start 2 (.consume (sampleCreated 7)), .exec 2 (), .exec 2 (), .exec 2 (), .exec 2 (),
   .exec 2 (), .exec 2 (), .commit 2]

/-- Two instances pass the check; the second one waits for the lock of the SKU, and finds that
    what is left is not enough. -/
def reservedAndRefused : List Label :=
  [.start 0 (.consume (sampleCreated 3)), .start 1 (.consume (sampleCreated 3)), .exec 0 (),
   .exec 1 (), .exec 0 (), .exec 0 (), .exec 0 (), .exec 0 (), .exec 0 (), .commit 0, .exec 1 (),
   .exec 1 (), .rollback 1]

theorem both_outcomes :
    (∃ s, Run.run step { committed := { tables := sampleStock } } refusedThenReserved = some s ∧
      ¬OneOutcome ⟨0, 0⟩ s) ∧
    ∃ s, Run.run step { committed := { tables := sampleStock } } reservedAndRefused = some s ∧
      ¬OneOutcome ⟨0, 0⟩ s :=
  ⟨Run.run_decide (by decide), Run.run_decide (by decide)⟩

end Koupang.Catalog.Interleaving
