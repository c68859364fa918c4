import Koupang.Model.Order
import Koupang.Spec.SharedCorrect

/-!
# What the order service's operations do

Every operation that changes anything writes the status of one order and emits
events of that order; `Wrote` says which, and that nothing else changes. The
transitions themselves are the inductive `Effect`.

## Key results

- `handle_committed`: an event that is handled has one of the effects, or is ignored
- `createOrder_ok`, `cancelOrder_ok`: the same for the two requests
- `handle_paymentAuthorized_commits`: in `InventoryReserved`, PaymentAuthorized is accepted
-/

namespace Koupang.Order

/-! ## Status and events of one order -/

/-- The status of an order, if there is one. -/
def OrderDb.statusOf (db : OrderDb) (o : Uuid) : Option OrderStatus :=
  (db.find? o).map OrderEntity.status

/-- The status history of an order: every write to its row, oldest first. -/
def OrderDb.history (db : OrderDb) (o : Uuid) : List OrderStatus :=
  (db.statusWrites.filter (·.1 = o)).map Prod.snd

/-- The outbox rows of an order. -/
def OrderDb.eventsOf (db : OrderDb) (o : Uuid) : List OutboxInsert :=
  db.outbox.filter (·.envelope.metadata.aggregateId = o)

/-- The type of the event in an outbox row. -/
abbrev eventTypeOf (ins : OutboxInsert) : EventType := ins.envelope.eventType

/-- `db'` is `db` after the writes `ws` to the status of `o` and the events `new` of `o`. -/
structure Wrote (db db' : OrderDb) (o : Uuid) (ws : List OrderStatus)
    (new : List OutboxInsert) : Prop where
  statusWrites : db'.statusWrites = db.statusWrites ++ ws.map (o, ·)
  outbox : db'.outbox = db.outbox ++ new
  new_aggregateId : ∀ ins ∈ new, ins.envelope.metadata.aggregateId = o
  new_orderId : ∀ ins ∈ new, ins.envelope.payload.orderId = some o
  new_topic : ∀ ins ∈ new, ins.topic = .ordersEvents
  statusOf : db'.statusOf o = ws.getLast?.or (db.statusOf o)
  find?_other : ∀ o', o' ≠ o → db'.find? o' = db.find? o'

namespace Wrote

variable {db db' db'' : OrderDb} {o : Uuid} {ws ws' : List OrderStatus}
  {new new' : List OutboxInsert}

theorem trans (h : Wrote db db' o ws new) (h' : Wrote db' db'' o ws' new') :
    Wrote db db'' o (ws ++ ws') (new ++ new') where
  statusWrites := by rw [h'.statusWrites, h.statusWrites, List.map_append, List.append_assoc]
  outbox := by rw [h'.outbox, h.outbox, List.append_assoc]
  new_aggregateId ins hins := (List.mem_append.mp hins).elim (h.new_aggregateId ins)
    (h'.new_aggregateId ins)
  new_orderId ins hins := (List.mem_append.mp hins).elim (h.new_orderId ins) (h'.new_orderId ins)
  new_topic ins hins := (List.mem_append.mp hins).elim (h.new_topic ins) (h'.new_topic ins)
  statusOf := by
    rw [h'.statusOf, h.statusOf, List.getLast?_append, Option.or_assoc]
  find?_other o' ho' := (h'.find?_other o' ho').trans (h.find?_other o' ho')

/-- The order's history grows by exactly the writes. -/
theorem history (h : Wrote db db' o ws new) : db'.history o = db.history o ++ ws := by
  simp only [OrderDb.history, h.statusWrites, List.filter_append, List.map_append,
    List.append_cancel_left_eq]
  clear h
  induction ws with
  | nil => rfl
  | cons w ws ih => simpa using ih

/-- The order's events grow by exactly the new ones. -/
theorem eventsOf (h : Wrote db db' o ws new) : db'.eventsOf o = db.eventsOf o ++ new := by
  have : new.filter (·.envelope.metadata.aggregateId = o) = new :=
    List.filter_eq_self.mpr fun ins hins => by simpa using h.new_aggregateId ins hins
  simp only [OrderDb.eventsOf, h.outbox, List.filter_append, this]

theorem history_other (h : Wrote db db' o ws new) {o' : Uuid} (ho : o' ≠ o) :
    db'.history o' = db.history o' := by
  have : (ws.map (o, ·)).filter (·.1 = o') = [] :=
    List.filter_eq_nil_iff.mpr fun p hp => by
      obtain ⟨w, -, rfl⟩ := List.mem_map.mp hp
      simpa using ho.symm
  simp only [OrderDb.history, h.statusWrites, List.filter_append, this, List.append_nil]

theorem eventsOf_other (h : Wrote db db' o ws new) {o' : Uuid} (ho : o' ≠ o) :
    db'.eventsOf o' = db.eventsOf o' := by
  have : new.filter (·.envelope.metadata.aggregateId = o') = [] :=
    List.filter_eq_nil_iff.mpr fun ins hins => by
      simpa [h.new_aggregateId ins hins] using ho.symm
  simp only [OrderDb.eventsOf, h.outbox, List.filter_append, this, List.append_nil]

theorem statusOf_other (h : Wrote db db' o ws new) {o' : Uuid} (ho : o' ≠ o) :
    db'.statusOf o' = db.statusOf o' := by
  simp only [OrderDb.statusOf, h.find?_other o' ho]

end Wrote

/-! ## Statements -/

/-- The tables after `UPDATE orders SET status = .. WHERE id = $id`. -/
def OrderDb.writeStatus (db : OrderDb) (o : Uuid) (status : OrderStatus)
    (cancelledReason : Option String) : OrderDb :=
  (Repository.updateStatusWhereId o status cancelledReason db).2

theorem wrote_writeStatus {db : OrderDb} {o : Uuid} (hsome : (db.find? o).isSome)
    (status : OrderStatus) (reason : Option String) :
    Wrote db (db.writeStatus o status reason) o [status] [] := by
  obtain ⟨order, horder⟩ := Option.isSome_iff_exists.mp hsome
  have horder' : db.orders.find? o = some order := horder
  simp only [OrderDb.writeStatus, Repository.updateStatusWhereId, horder]
  refine ⟨rfl, by simp, by simp, by simp, by simp, ?_, fun o' ho' => ?_⟩
  · simp only [OrderDb.statusOf, OrderDb.find?]
    rw [Table.find?_modify, horder']
    simp [Repository.setStatus]
  · simp only [OrderDb.find?]
    rw [Table.find?_modify]
    simp [ho']

@[simp] theorem writeStatus_orderItems (db : OrderDb) (o : Uuid) (status : OrderStatus)
    (reason : Option String) : (db.writeStatus o status reason).orderItems = db.orderItems := by
  simp only [OrderDb.writeStatus, Repository.updateStatusWhereId]
  split <;> rfl

theorem getOrderById_ok {o : Uuid} {s t : TxState OrderDb} {order : OrderEntity} :
    Repository.getOrderById o s = .ok order t ↔
      s.aborted = false ∧ s.db.find? o = some order ∧ t = s :=
  Tx.fetchOne_ok

theorem updateOrderStatus_ok {o : Uuid} {status : OrderStatus} {reason : Option String}
    {s t : TxState OrderDb} {u : Unit} :
    Repository.updateOrderStatus o status reason s = .ok u t ↔
      s.aborted = false ∧ (s.db.find? o).isSome ∧
        t = { s with db := s.db.writeStatus o status reason } := by
  simp only [Repository.updateOrderStatus, Tx.bind_ok, Tx.statement_ok, OrderDb.writeStatus]
  cases h : s.db.find? o with
  | none =>
    -- no row is affected, which the function reports as an error
    simp only [Repository.updateStatusWhereId, h]
    constructor
    · rintro ⟨rows, t', ⟨hab, db, hdb, rfl⟩, ht⟩
      cases hdb
      exact absurd ht Tx.throw_ok
    · rintro ⟨-, hnone, -⟩
      exact nomatch hnone
  | some order =>
    simp only [Repository.updateStatusWhereId, h]
    constructor
    · rintro ⟨rows, t', ⟨hab, db, hdb, rfl⟩, ht⟩
      cases hdb
      obtain ⟨-, rfl⟩ := Tx.pure_ok.mp ht
      exact ⟨hab, rfl, rfl⟩
    · rintro ⟨hab, -, rfl⟩
      exact ⟨1, _, ⟨hab, _, rfl, rfl⟩, Tx.pure_ok.mpr ⟨rfl, rfl⟩⟩

@[simp] theorem keepsPool_updateOrderStatus (o : Uuid) (status : OrderStatus)
    (reason : Option String) :
    Tx.KeepsPool (Repository.updateOrderStatus o status reason) := by
  refine Tx.keepsPool_bind (Tx.keepsPool_statement _ _) fun rows => ?_
  split
  · exact Tx.keepsPool_throw _
  · exact Tx.keepsPool_pure _

/-! ## Events -/

/-- The outbox row that `write_order_outbox` inserts. -/
def OrderDb.event (db : OrderDb) (o : Uuid) (eventType : EventType) (payload : Payload)
    (causationId : Option Uuid) : OutboxInsert :=
  let metadata : EventMetadata :=
    { eventId := (nowV7 db).1, eventType, aggregateType := .order, aggregateId := o,
      sourceService := .order, causationId }
  { topic := .ordersEvents, envelope := { metadata, payload } }

/-- The tables after `write_order_outbox`. -/
def OrderDb.emit (db : OrderDb) (o : Uuid) (eventType : EventType) (payload : Payload)
    (causationId : Option Uuid) : OrderDb :=
  (insertOutboxRow (db.event o eventType payload causationId) (nowV7 db).2).2

theorem wrote_emit (db : OrderDb) (o : Uuid) (eventType : EventType) (payload : Payload)
    (causationId : Option Uuid) (hpayload : payload.orderId = some o) :
    Wrote db (db.emit o eventType payload causationId) o []
      [db.event o eventType payload causationId] where
  statusWrites := by simp [OrderDb.emit, insertOutboxRow, nowV7, HasOutbox.setOutbox,
    HasOutbox.setUuids]
  outbox := rfl
  new_aggregateId ins hins := by
    cases List.mem_singleton.mp hins
    rfl
  new_orderId ins hins := by
    cases List.mem_singleton.mp hins
    exact hpayload
  new_topic ins hins := by
    cases List.mem_singleton.mp hins
    rfl
  statusOf := rfl
  find?_other _ _ := rfl

section Service

variable [SerdeJson]

theorem writeOrderOutbox_ok {o : Uuid} {eventType : EventType} {payload : Payload}
    {causationId : Option Uuid} {s t : TxState OrderDb} {u : Unit} :
    writeOrderOutbox o eventType payload causationId s = .ok u t ↔
      SerdeJson.payloadBytes (s.db.event o eventType payload causationId).envelope
          ≤ maxPayloadBytes ∧
        s.aborted = false ∧
        t = { s with db := s.db.emit o eventType payload causationId } := by
  simp only [writeOrderOutbox, newMetadata, Tx.bind_ok, Tx.client_ok, Tx.pure_ok,
    insertOutboxEvent_ok]
  constructor
  · rintro ⟨m, u, ⟨id, v, ⟨rfl, rfl⟩, rfl, rfl⟩, hfits, hab, rfl⟩
    exact ⟨hfits, hab, rfl⟩
  · rintro ⟨hfits, hab, rfl⟩
    exact ⟨_, _, ⟨_, _, ⟨rfl, rfl⟩, rfl, rfl⟩, hfits, hab, rfl⟩

@[simp] theorem keepsPool_writeOrderOutbox (o : Uuid) (eventType : EventType) (payload : Payload)
    (causationId : Option Uuid) :
    Tx.KeepsPool (writeOrderOutbox o eventType payload causationId) :=
  Tx.keepsPool_bind
    (Tx.keepsPool_bind (Tx.keepsPool_client _) fun _ => Tx.keepsPool_pure _)
    fun _ => keepsPool_insertOutboxEvent _

/-! ## Handlers -/

omit [SerdeJson] in
theorem transitionTo_ok {status target r : OrderStatus} (h : status.transitionTo target = .ok r) :
    r = target := by
  revert h
  cases status <;> simp only [OrderStatus.transitionTo] <;> split <;> intro h <;> cases h <;> rfl

omit [SerdeJson] in
theorem checkTransition_ok {status target : OrderStatus} {u : Unit} :
    checkTransition status target = .ok u ↔ status.transitionTo target = .ok target := by
  unfold checkTransition
  split
  · rename_i r hr
    rw [hr, transitionTo_ok hr]
    exact ⟨fun _ => rfl, fun _ => rfl⟩
  · rename_i e he
    rw [he]
    exact ⟨nofun, nofun⟩

omit [SerdeJson] in
/-- `can_cancel` and `transition_to(Cancelled)` agree. -/
theorem transitionTo_cancelled {status : OrderStatus} :
    status.transitionTo .cancelled = .ok .cancelled ↔ status.canCancel = true := by
  cases status <;> simp [OrderStatus.transitionTo, OrderStatus.canCancel]

/-- What handling an event does to an order in status `status`: the status writes and
    the events it emits. -/
inductive Effect : EventType → OrderStatus → List OrderStatus → List EventType → Prop
  | inventoryReserved : Effect .inventoryReserved .pending [.inventoryReserved] []
  | inventoryReservationFailed {status : OrderStatus} (h : status.canCancel = true) :
    Effect .inventoryReservationFailed status [.cancelled] []
  | paymentAuthorized :
    Effect .paymentAuthorized .inventoryReserved [.paymentAuthorized, .confirmed]
      [.orderConfirmed]
  | paymentFailed {status : OrderStatus} (h : status.canCancel = true) :
    Effect .paymentFailed status [.cancelled] [.orderCancelled]
  | paymentTimedOut {status : OrderStatus} (h : status.canCancel = true) :
    Effect .paymentTimedOut status [.cancelled] [.orderCancelled]

/-- The committed result of handling an event: the order it is about, and the effect. -/
def Handled (db db' : OrderDb) (env : EventEnvelope) : Prop :=
  ∃ o order ws new, env.payload.orderId = some o ∧ db.find? o = some order ∧
    Wrote db db' o ws new ∧ db'.orderItems = db.orderItems ∧
    Effect env.eventType order.status ws (new.map eventTypeOf)

omit [SerdeJson] in
theorem handleInventoryReserved_ok {env : EventEnvelope} {s t : TxState OrderDb}
    (henv : env.eventType = .inventoryReserved)
    (h : handleInventoryReserved env s = .ok () t) : Handled s.db t.db env := by
  simp only [handleInventoryReserved, Tx.bind_ok, Tx.ofExcept_ok, payloadOrderId_ok,
    getOrderById_ok, checkTransition_ok, updateOrderStatus_ok] at h
  obtain ⟨o, _, ⟨ho, rfl⟩, order, _, ⟨hab, hfind, rfl⟩, _, _, ⟨htr, rfl⟩, -, hsome, rfl⟩ := h
  refine ⟨o, order, _, _, ho, hfind, wrote_writeStatus hsome _ _, by simp, ?_⟩
  -- only a Pending order can become InventoryReserved
  have hpending : order.status = .pending := by
    revert htr
    cases order.status <;> simp [OrderStatus.transitionTo]
  rw [henv, hpending]
  exact .inventoryReserved

omit [SerdeJson] in
theorem handleInventoryReservationFailed_ok {env : EventEnvelope} {s t : TxState OrderDb}
    (henv : env.eventType = .inventoryReservationFailed)
    (h : handleInventoryReservationFailed env s = .ok () t) : Handled s.db t.db env := by
  simp only [handleInventoryReservationFailed, Tx.bind_ok, Tx.ofExcept_ok, payloadOrderId_ok,
    getOrderById_ok, checkTransition_ok, updateOrderStatus_ok] at h
  obtain ⟨o, _, ⟨ho, rfl⟩, order, _, ⟨hab, hfind, rfl⟩, _, _, ⟨htr, rfl⟩, -, hsome, rfl⟩ := h
  refine ⟨o, order, _, _, ho, hfind, wrote_writeStatus hsome _ _, by simp, ?_⟩
  rw [henv]
  exact .inventoryReservationFailed (transitionTo_cancelled.mp htr)

omit [SerdeJson] in
@[simp] theorem emit_orderItems (db : OrderDb) (o : Uuid) (eventType : EventType)
    (payload : Payload) (causationId : Option Uuid) :
    (db.emit o eventType payload causationId).orderItems = db.orderItems := rfl

omit [SerdeJson] in
/-- Writing a status keeps the order there. -/
theorem find?_writeStatus_isSome {db : OrderDb} {o : Uuid} (hsome : (db.find? o).isSome)
    (status : OrderStatus) (reason : Option String) :
    ((db.writeStatus o status reason).find? o).isSome := by
  have h := (wrote_writeStatus hsome status reason).statusOf
  simp only [OrderDb.statusOf, List.getLast?_singleton, Option.some_or] at h
  exact Option.isSome_map.symm.trans (by rw [h]; rfl)

theorem handlePaymentAuthorized_ok {env : EventEnvelope} {s t : TxState OrderDb}
    (henv : env.eventType = .paymentAuthorized)
    (h : handlePaymentAuthorized env s = .ok () t) : Handled s.db t.db env := by
  simp only [handlePaymentAuthorized, Tx.bind_ok, Tx.ofExcept_ok, payloadOrderId_ok,
    getOrderById_ok, checkTransition_ok, updateOrderStatus_ok, writeOrderOutbox_ok] at h
  obtain ⟨o, _, ⟨ho, rfl⟩, order, _, ⟨hab, hfind, rfl⟩, _, _, ⟨htr, rfl⟩, _, _, ⟨-, hsome, rfl⟩,
    _, _, ⟨-, hsome', rfl⟩, -, -, rfl⟩ := h
  refine ⟨o, order, _, _, ho, hfind,
    (wrote_writeStatus hsome _ _).trans ((wrote_writeStatus hsome' _ _).trans
      (wrote_emit _ _ _ _ _ rfl)), by simp, ?_⟩
  -- only an InventoryReserved order can become PaymentAuthorized
  have hreserved : order.status = .inventoryReserved := by
    revert htr
    cases order.status <;> simp [OrderStatus.transitionTo]
  rw [henv, hreserved]
  exact .paymentAuthorized

/-- In `InventoryReserved`, PaymentAuthorized is accepted. -/
theorem handle_paymentAuthorized_commits {env : EventEnvelope} {db : OrderDb} {o : Uuid}
    {order : OrderEntity} (henv : env.eventType = .paymentAuthorized)
    (ho : env.payload.orderId = some o) (hfind : db.find? o = some order)
    (hstatus : order.status = .inventoryReserved) :
    ∃ db', Tx.attempt (handle env) db = .committed () db' := by
  have hsome : (db.find? o).isSome := by
    rw [hfind]
    rfl
  have hok : ∃ t, handle env (Tx.begin db) = .ok () t ∧ t.aborted = false := by
    simp only [handle, henv, Tx.mapErr_ok, handlePaymentAuthorized, Tx.bind_ok, Tx.ofExcept_ok,
      payloadOrderId_ok, getOrderById_ok, checkTransition_ok, updateOrderStatus_ok,
      writeOrderOutbox_ok]
    refine ⟨_, ⟨o, _, ⟨ho, rfl⟩, order, _, ⟨rfl, hfind, rfl⟩, (), _, ⟨by rw [hstatus]; rfl, rfl⟩,
      (), _, ⟨rfl, hsome, rfl⟩, (), _, ⟨rfl, find?_writeStatus_isSome hsome _ _, rfl⟩, ?_, rfl,
      rfl⟩, rfl⟩
    exact SerdeJson.payloadBytes_short _ ⟨rfl, rfl, rfl, rfl, rfl⟩
  obtain ⟨t, ht, hab⟩ := hok
  exact ⟨t.db, Tx.attempt_eq_committed.mpr ⟨t, ht, hab, rfl⟩⟩

theorem cancelOrderOnPaymentFailure_ok {env : EventEnvelope} {defaultReason : String}
    {s t : TxState OrderDb}
    (henv : env.eventType = .paymentFailed ∨ env.eventType = .paymentTimedOut)
    (h : cancelOrderOnPaymentFailure env defaultReason s = .ok () t) : Handled s.db t.db env := by
  simp only [cancelOrderOnPaymentFailure, Tx.bind_ok, Tx.ofExcept_ok, payloadOrderId_ok,
    getOrderById_ok, checkTransition_ok, updateOrderStatus_ok, writeOrderOutbox_ok] at h
  obtain ⟨o, _, ⟨ho, rfl⟩, order, _, ⟨hab, hfind, rfl⟩, _, _, ⟨htr, rfl⟩, _, _, ⟨-, hsome, rfl⟩,
    -, -, rfl⟩ := h
  refine ⟨o, order, _, _, ho, hfind,
    (wrote_writeStatus hsome _ _).trans (wrote_emit _ _ _ _ _ rfl), by simp, ?_⟩
  have hcancel := transitionTo_cancelled.mp htr
  rcases henv with henv | henv <;> rw [henv]
  · exact .paymentFailed hcancel
  · exact .paymentTimedOut hcancel

/-- The events that the order service reacts to. -/
def consumedTypes : List EventType :=
  [.inventoryReserved, .inventoryReservationFailed, .paymentAuthorized, .paymentFailed,
   .paymentTimedOut]

/-- An event that is handled and committed has one of the effects, or is ignored. -/
theorem handle_committed {env : EventEnvelope} {db db' : OrderDb}
    (h : Tx.attempt (handle env) db = .committed () db') :
    (db' = db ∧ env.eventType ∉ consumedTypes) ∨ Handled db db' env := by
  obtain ⟨s, hs, -, rfl⟩ := Tx.attempt_eq_committed.mp h
  cases henv : env.eventType <;> simp only [handle, henv] at hs
  case inventoryReserved =>
    exact .inr (handleInventoryReserved_ok henv (Tx.mapErr_ok.mp hs))
  case inventoryReservationFailed =>
    exact .inr (handleInventoryReservationFailed_ok henv (Tx.mapErr_ok.mp hs))
  case paymentAuthorized =>
    exact .inr (handlePaymentAuthorized_ok henv (Tx.mapErr_ok.mp hs))
  case paymentFailed =>
    exact .inr (cancelOrderOnPaymentFailure_ok (.inl henv) (Tx.mapErr_ok.mp hs))
  case paymentTimedOut =>
    exact .inr (cancelOrderOnPaymentFailure_ok (.inr henv) (Tx.mapErr_ok.mp hs))
  -- the order service logs and ignores every other event
  all_goals
    obtain ⟨-, rfl⟩ := Tx.pure_ok.mp hs
    exact .inl ⟨rfl, by decide⟩

/-- An event that is rejected is handled again. -/
theorem handle_failed {env : EventEnvelope} {db db' : OrderDb} {e : HandlerError}
    (h : Tx.attempt (handle env) db = .failed e db') : e.isTransient = true := by
  obtain ⟨s, hs⟩ := Tx.attempt_eq_failed h
  cases henv : env.eventType <;> simp only [handle, henv] at hs
  case inventoryReserved | inventoryReservationFailed | paymentAuthorized | paymentFailed |
      paymentTimedOut =>
    obtain ⟨e', rfl⟩ := Tx.mapErr_error hs
    rfl
  all_goals exact nomatch hs

theorem keepsPool_handle (env : EventEnvelope) : Tx.KeepsPool (handle env) := by
  -- every handler reads the order and checks the transition before it writes
  have hchecked : ∀ (target : OrderStatus) (write : Uuid → OrderEntity → Tx AppError OrderDb Unit),
      (∀ o order, Tx.KeepsPool (write o order)) →
      Tx.KeepsPool (do
        let orderId ← Tx.ofExcept env.payloadOrderId
        let order ← Repository.getOrderById orderId
        Tx.ofExcept (checkTransition order.status target)
        write orderId order) := fun target write hwrite =>
    Tx.keepsPool_bind (Tx.keepsPool_ofExcept _) fun o =>
      Tx.keepsPool_bind (Tx.keepsPool_fetchOne _ _ _) fun order =>
        Tx.keepsPool_bind (Tx.keepsPool_ofExcept _) fun _ => hwrite o order
  have hcancel : ∀ r, Tx.KeepsPool (cancelOrderOnPaymentFailure env r) := fun r =>
    hchecked .cancelled _ fun o order => Tx.keepsPool_bind (keepsPool_updateOrderStatus _ _ _)
      fun _ => keepsPool_writeOrderOutbox _ _ _ _
  unfold handle
  dsimp only
  split
  · exact Tx.keepsPool_mapErr (hchecked _ _ fun o order => keepsPool_updateOrderStatus _ _ _)
  · exact Tx.keepsPool_mapErr (hchecked _ _ fun o order => keepsPool_updateOrderStatus _ _ _)
  · exact Tx.keepsPool_mapErr (hchecked _ _ fun o order =>
      Tx.keepsPool_bind (keepsPool_updateOrderStatus _ _ _) fun _ =>
        Tx.keepsPool_bind (keepsPool_updateOrderStatus _ _ _) fun _ =>
          keepsPool_writeOrderOutbox _ _ _ _)
  · exact Tx.keepsPool_mapErr (hcancel _)
  · exact Tx.keepsPool_mapErr (hcancel _)
  · exact Tx.keepsPool_pure _

/-- What the update of the status and the write to the outbox keep, the handlers keep. -/
theorem keeps_handle {P : OrderDb → Prop}
    (hupdate : ∀ o status reason, Tx.Keeps P (Repository.updateOrderStatus o status reason))
    (hwrite : ∀ o eventType payload causationId,
      Tx.Keeps P (writeOrderOutbox o eventType payload causationId)) (env : EventEnvelope) :
    Tx.Keeps P (handle env) := by
  have hchecked : ∀ (target : OrderStatus) (write : Uuid → OrderEntity → Tx AppError OrderDb Unit),
      (∀ o order, Tx.Keeps P (write o order)) →
      Tx.Keeps P (do
        let orderId ← Tx.ofExcept env.payloadOrderId
        let order ← Repository.getOrderById orderId
        Tx.ofExcept (checkTransition order.status target)
        write orderId order) := fun target write hwrite =>
    Tx.keeps_bind (Tx.keeps_ofExcept _) fun o => Tx.keeps_bind (Tx.keeps_fetchOne _ _ _)
      fun order => Tx.keeps_bind (Tx.keeps_ofExcept _) fun _ => hwrite o order
  have hcancel : ∀ r, Tx.Keeps P (cancelOrderOnPaymentFailure env r) := fun r =>
    hchecked .cancelled _ fun o order => Tx.keeps_bind (hupdate _ _ _) fun _ => hwrite _ _ _ _
  unfold handle
  dsimp only
  split
  · exact Tx.keeps_mapErr (hchecked _ _ fun o order => hupdate _ _ _)
  · exact Tx.keeps_mapErr (hchecked _ _ fun o order => hupdate _ _ _)
  · exact Tx.keeps_mapErr (hchecked _ _ fun o order =>
      Tx.keeps_bind (hupdate _ _ _) fun _ =>
        Tx.keeps_bind (hupdate _ _ _) fun _ => hwrite _ _ _ _)
  · exact Tx.keeps_mapErr (hcancel _)
  · exact Tx.keeps_mapErr (hcancel _)
  · exact Tx.keeps_pure _

/-- Handling an event has one of the effects, or leaves the tables as they are. -/
theorem handle_db (env : EventEnvelope) (db : OrderDb) :
    (Tx.attempt (handle env) db).db = db ∨ Handled db (Tx.attempt (handle env) db).db env := by
  rcases Tx.attempt_db_eq (keepsPool_handle env) db with ⟨_, h⟩ | h
  · exact (handle_committed h).imp_left And.left
  · exact .inl h

/-! ## Requests -/

omit [SerdeJson] in
/-- The row of an order that passes the checks of the table. -/
theorem insertOrder_inserts {buyerId o : Uuid} {req : ValidCreateOrderReq} {db db' : OrderDb}
    (h : Repository.insertOrder buyerId req db = .ok (o, db')) :
    ∃ total currency key orders, numeric19_4 req.totalAmount = .ok total ∧ ¬ total < 0 ∧
      varchar 3 req.currency = .ok currency ∧ varchar 255 req.idempotencyKey = .ok key ∧
      o = (nowV7 db).1 ∧
      db.orders.insert { id := o, buyerId, status := .pending, totalAmount := total, currency
                         idempotencyKey := key, shippingAddress := req.shippingAddress
                         cancelledReason := none } = some orders ∧
      db' = { (nowV7 db).2 with
              orders, statusWrites := db.statusWrites ++ [(o, .pending)] } := by
  simp only [Repository.insertOrder, Except.bind_eq_ok, Except.guard_eq_ok] at h
  obtain ⟨total, htotal, currency, hcurrency, key, hkey, hpos, -, h⟩ := h
  simp only [nowV7] at h
  split at h
  · exact absurd h Except.throw_ne_ok
  · rename_i orders hins
    cases h
    exact ⟨total, currency, key, orders, htotal, hpos, hcurrency, hkey, rfl, hins, rfl⟩

omit [SerdeJson] in
theorem insertOrder_ok {buyerId o : Uuid} {req : ValidCreateOrderReq} {db db' : OrderDb}
    (h : Repository.insertOrder buyerId req db = .ok (o, db')) :
    db.find? o = none ∧ Wrote db db' o [.pending] [] ∧ db'.orderItems = db.orderItems := by
  obtain ⟨total, currency, key, orders, -, -, -, -, rfl, hins, rfl⟩ := insertOrder_inserts h
  -- the identifier was not in use
  have hnone := ((Table.insert_eq_some _ _ _).mp hins).1
  refine ⟨hnone, ⟨rfl, by simp [nowV7, HasOutbox.setUuids], by simp, by simp, by simp, ?_,
    fun o' ho' => ?_⟩, rfl⟩
  · simp only [OrderDb.statusOf, OrderDb.find?, Table.find?_of_insert hins]
    rfl
  · simp only [OrderDb.find?, Table.find?_of_insert hins, if_neg (Ne.symm ho')]

/-- The reservation that an order item asks for. -/
def OrderItemEntity.demand (item : OrderItemEntity) : Uuid × Int := (item.skuId, item.quantity)

/-- `rows` are the rows of `order_items` for the items of a request. -/
structure ItemRows (o : Uuid) (items : List ValidCreateOrderItem)
    (rows : List OrderItemEntity) : Prop where
  orderId : ∀ row ∈ rows, row.orderId = o
  demand : rows.map OrderItemEntity.demand = items.map fun i => (i.skuId, i.quantity)
  inRange : ∀ row ∈ rows, -2147483648 ≤ row.quantity ∧ row.quantity ≤ 2147483647

omit [SerdeJson] in
/-- The row of an item that passes the checks of the table. -/
theorem insertOrderItem_inserts {o : Uuid} {item : ValidCreateOrderItem} {db db' : OrderDb}
    {u : Unit} (h : Repository.insertOrderItem o item db = .ok (u, db')) :
    ∃ name code quantity price total, varchar 500 item.productName = .ok name ∧
      varchar 100 item.skuCode = .ok code ∧ int4 item.quantity = .ok quantity ∧ ¬ quantity ≤ 0 ∧
      numeric19_4 item.unitPrice = .ok price ∧ ¬ price < 0 ∧
      numeric19_4 item.totalPrice = .ok total ∧ ¬ total < 0 ∧
      db' = { (nowV7 db).2 with
              orderItems := db.orderItems ++ [
                { id := (nowV7 db).1, orderId := o, productId := item.productId
                  skuId := item.skuId, productName := name, skuCode := code, quantity
                  sellerId := item.sellerId, unitPrice := price, totalPrice := total }] } := by
  simp only [Repository.insertOrderItem, Except.bind_eq_ok, Except.guard_eq_ok] at h
  obtain ⟨name, hname, code, hcode, quantity, hquantity, price, hprice, total, htotal, hq, hp, ht,
    h⟩ := h
  cases h
  exact ⟨name, code, quantity, price, total, hname, hcode, hquantity, hq, hprice, hp, htotal, ht,
    rfl⟩

omit [SerdeJson] in
theorem insertOrderItem_ok {o : Uuid} {item : ValidCreateOrderItem} {db db' : OrderDb} {u : Unit}
    (h : Repository.insertOrderItem o item db = .ok (u, db')) :
    ∃ row, db'.orderItems = db.orderItems ++ [row] ∧ ItemRows o [item] [row] ∧
      Wrote db db' o [] [] := by
  obtain ⟨name, code, quantity, price, total, -, -, hq, -, -, -, -, -, rfl⟩ :=
    insertOrderItem_inserts h
  -- what the column can hold is stored as it is
  obtain ⟨rfl, hle, hge⟩ : quantity = item.quantity ∧ -2147483648 ≤ item.quantity ∧
      item.quantity ≤ 2147483647 := by
    unfold int4 at hq
    split at hq
    · rename_i hr
      cases hq
      exact ⟨rfl, hr⟩
    · exact nomatch hq
  refine ⟨_, rfl, ⟨by simp, by simp [OrderItemEntity.demand], by simp [hle, hge]⟩, ?_⟩
  exact ⟨by simp [nowV7, HasOutbox.setUuids], by simp [nowV7, HasOutbox.setUuids], by simp,
    by simp, by simp, rfl, fun _ _ => rfl⟩

omit [SerdeJson] in
theorem forM_insertOrderItem_ok {o : Uuid} {onError : String → AppError}
    {items : List ValidCreateOrderItem} {s t : TxState OrderDb} {u : Unit}
    (h : (items.forM fun item => Tx.statement onError (Repository.insertOrderItem o item)) s
      = .ok u t) :
    ∃ rows, t.db.orderItems = s.db.orderItems ++ rows ∧ ItemRows o items rows ∧
      Wrote s.db t.db o [] [] := by
  -- by induction on the items; each one adds its row
  induction items generalizing s with
  | nil =>
    obtain ⟨-, rfl⟩ := Tx.pure_ok.mp h
    exact ⟨[], by simp, ⟨by simp, by simp, by simp⟩,
      ⟨by simp, by simp, by simp, by simp, by simp, rfl, fun _ _ => rfl⟩⟩
  | cons item items ih =>
    obtain ⟨_, s', hs', h⟩ := Tx.bind_ok.mp h
    obtain ⟨-, db, hdb, rfl⟩ := Tx.statement_ok.mp hs'
    obtain ⟨row, hrow, hitem, hwrote⟩ := insertOrderItem_ok hdb
    obtain ⟨rows, hrows, hitems, hwrote'⟩ := ih h
    refine ⟨row :: rows, ?_, ⟨?_, ?_, ?_⟩, hwrote.trans hwrote'⟩
    · rw [hrows, hrow, List.append_assoc, List.singleton_append]
    · simpa using ⟨hitem.orderId row (by simp), hitems.orderId⟩
    · have := hitem.demand
      simp only [List.map_cons, List.map_nil] at this
      simp [hitems.demand, List.cons.inj this]
    · simpa using ⟨hitem.inRange row (by simp), hitems.inRange⟩

/-- A request has created the order `o`, with its items, and emitted `OrderCreated`. -/
structure Created (db db' : OrderDb) (o : Uuid) : Prop where
  fresh : db.find? o = none
  wrote : ∃ ins rows items, Wrote db db' o [.pending] [ins] ∧ eventTypeOf ins = .orderCreated ∧
    db'.orderItems = db.orderItems ++ rows ∧ ItemRows o items rows ∧
    ins.envelope.payload.items = some (items.map fun i =>
      { productId := some i.productId, skuId := some i.skuId, quantity := some i.quantity,
        unitPrice := some (.decimal i.unitPrice) })

theorem createOrder_ok {user : CurrentUser} {key : String} {req : CreateOrderReq}
    {db db' : OrderDb} {order : OrderEntity}
    (h : createOrder user key req db = .ok (order, db')) : db' = db ∨ ∃ o, Created db db' o := by
  simp only [createOrder, Except.bind_eq_ok] at h
  obtain ⟨valid, -, h⟩ := h
  split at h
  · exact absurd h Except.throw_ne_ok
  -- the idempotency key is known: the order from then is returned
  split at h
  · cases h
    exact .inl rfl
  split at h
  · exact absurd h Except.throw_ne_ok
  rename_i o db₂ htx
  split at h
  · cases h
    have hkeeps : Tx.KeepsPool (Repository.createOrder user.id valid) :=
      Tx.keepsPool_bind (Tx.keepsPool_statement _ _) fun _ =>
        Tx.keepsPool_bind (Tx.keepsPool_forM (fun _ => Tx.keepsPool_statement _ _) _)
          fun _ => Tx.keepsPool_pure _
    -- either nothing is committed, or the order, its items and the event together
    refine (withTransaction_ok ?_ htx).symm.imp_right fun hatt => ⟨o, ?_⟩
    · exact Tx.keepsPool_bind hkeeps fun o =>
        Tx.keepsPool_bind (keepsPool_writeOrderOutbox _ _ _ _) fun _ => Tx.keepsPool_pure _
    obtain ⟨s, hs, -, rfl⟩ := Tx.attempt_eq_committed.mp hatt
    simp only [Repository.createOrder, Tx.bind_ok, Tx.statement_ok, writeOrderOutbox_ok,
      Tx.pure_ok] at hs
    obtain ⟨_, _, ⟨_, _, ⟨-, db₁, hins, rfl⟩, _, s₁, hitems, rfl, rfl⟩, _, _, ⟨-, -, rfl⟩,
      rfl, rfl⟩ := hs
    obtain ⟨hfresh, hwrote, hnone⟩ := insertOrder_ok hins
    obtain ⟨rows, hrows, hdemand, hwrote'⟩ := forM_insertOrderItem_ok hitems
    refine ⟨hfresh, _, rows, valid.items, (hwrote.trans hwrote').trans
      (wrote_emit _ _ _ _ _ rfl), rfl, ?_, hdemand, rfl⟩
    rw [emit_orderItems, hrows, hnone]
    rfl
  · exact absurd h Except.throw_ne_ok

/-- The closure that `cancel_order` runs in its transaction. -/
def cancelOrderTx (orderId buyerId : Uuid) (cancelReason : String) : Tx AppError OrderDb Unit := do
  Repository.updateOrderStatus orderId .cancelled (some cancelReason)
  writeOrderOutbox orderId .orderCancelled
    { orderId := some orderId, buyerId := some buyerId, reason := some cancelReason } none

theorem keepsPool_cancelOrderTx (orderId buyerId : Uuid) (cancelReason : String) :
    Tx.KeepsPool (cancelOrderTx orderId buyerId cancelReason) :=
  Tx.keepsPool_bind (keepsPool_updateOrderStatus _ _ _) fun _ =>
    keepsPool_writeOrderOutbox _ _ _ _

/-- A cancellation that succeeds has passed its checks and run its transaction. -/
theorem cancelOrder_run {user : CurrentUser} {o : Uuid} {reason : Option String}
    {db db' : OrderDb} (h : cancelOrder user o reason db = .ok db') :
    ∃ order, db.find? o = some order ∧ order.status.canCancel = true ∧
      withTransaction (cancelOrderTx o order.buyerId (reason.getD "Cancelled by buyer")) db =
        .ok ((), db') := by
  simp only [cancelOrder] at h
  split at h
  · exact absurd h Except.throw_ne_ok
  rename_i order hfind
  simp only [Except.bind_eq_ok] at h
  obtain ⟨_, -, h⟩ := h
  -- the rules, then the transition
  split at h
  · exact absurd h Except.throw_ne_ok
  split at h
  · exact absurd h Except.throw_ne_ok
  rename_i target htr
  split at h
  · exact absurd h Except.throw_ne_ok
  rename_i _ db₂ htx
  cases h
  exact ⟨order, hfind, transitionTo_cancelled.mp (transitionTo_ok htr ▸ htr), htx⟩

/-- What cancelling an order as its buyer does. -/
theorem cancelOrder_ok {user : CurrentUser} {o : Uuid} {reason : Option String}
    {db db' : OrderDb} (h : cancelOrder user o reason db = .ok db') :
    db' = db ∨ ∃ order ins, db.find? o = some order ∧ order.status.canCancel = true ∧
      Wrote db db' o [.cancelled] [ins] ∧ eventTypeOf ins = .orderCancelled ∧
      db'.orderItems = db.orderItems := by
  obtain ⟨order, hfind, hcancel, htx⟩ := cancelOrder_run h
  refine (withTransaction_ok (keepsPool_cancelOrderTx _ _ _) htx).symm.imp_right fun hatt => ?_
  obtain ⟨s, hs, -, rfl⟩ := Tx.attempt_eq_committed.mp hatt
  simp only [cancelOrderTx, Tx.bind_ok, updateOrderStatus_ok, writeOrderOutbox_ok] at hs
  obtain ⟨_, _, ⟨-, hsome, rfl⟩, -, -, rfl⟩ := hs
  exact ⟨order, _, hfind, hcancel,
    (wrote_writeStatus hsome _ _).trans (wrote_emit _ _ _ _ _ rfl), rfl, by simp⟩

/-! ## One step of the service -/

/-- What an operation does to an existing order in status `status`. -/
inductive OpEffect : Op → OrderStatus → List OrderStatus → List EventType → Prop
  | cancelOrder {user : CurrentUser} {o : Uuid} {reason : Option String} {status : OrderStatus}
    (h : status.canCancel = true) :
    OpEffect (.cancelOrder user o reason) status [.cancelled] [.orderCancelled]
  | handle {env : EventEnvelope} {status : OrderStatus} {ws : List OrderStatus}
    {evs : List EventType} (h : Effect env.eventType status ws evs) :
    OpEffect (.handle env) status ws evs

/-- A step changes nothing, creates an order, or has an effect on one order. -/
theorem step_cases {db db' : OrderDb} {op : Op} (h : step db op = some db') :
    db' = db ∨ (∃ o, Created db db' o) ∨
      ∃ o order ws new, db.find? o = some order ∧ Wrote db db' o ws new ∧
        db'.orderItems = db.orderItems ∧ OpEffect op order.status ws (new.map eventTypeOf) := by
  cases op with
  | createOrder user key req =>
    simp only [step] at h
    split at h
    · rename_i order db₁ hok
      cases h
      exact (createOrder_ok hok).imp_right .inl
    · cases h
      exact .inl rfl
  | cancelOrder user o reason =>
    simp only [step] at h
    split at h
    · rename_i db₁ hok
      cases h
      refine (cancelOrder_ok hok).imp_right fun hc => .inr ?_
      obtain ⟨order, ins, hfind, hcancel, hwrote, htype, hitems⟩ := hc
      refine ⟨o, order, _, _, hfind, hwrote, hitems, ?_⟩
      rw [List.map_singleton, htype]
      exact .cancelOrder hcancel
    · cases h
      exact .inl rfl
  | handle env =>
    cases h
    refine (handle_db env db).imp_right fun hh => .inr ?_
    obtain ⟨o, order, ws, new, -, hfind, hwrote, hitems, heffect⟩ := hh
    exact ⟨o, order, ws, new, hfind, hwrote, hitems, .handle heffect⟩

end Service

end Koupang.Order
