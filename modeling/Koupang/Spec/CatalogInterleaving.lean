import Koupang.Spec.CatalogCorrect
import Koupang.Spec.ConsumerAttempt

/-!
# The inventory under interleaving

`reserve_inventory` compares and adds in one `UPDATE`, which sees the latest
committed row and keeps it locked. So no interleaving of reservations, releases,
confirmations and restocking reserves more of a SKU than there is, not even one
in which a reservation is settled twice.

## Key results

- `toTx_handle`: alone, the programs are the functions of `Catalog`
- `wp_program`: every program finds a reservation, subtracts it and closes it, in this order
- `covered_run`: what is reserved of a SKU stays covered by its stock
-/

namespace Koupang.Catalog.Interleaving

open ReadCommitted

/-! ## The programs alone -/

theorem execUpdateSku_eq (id : Uuid) (cond : Sku → Bool) (set : Sku → Sku)
    (hset : ∀ s, (set s).id = s.id) (settles : Option (Uuid × ReservationStatus))
    (db : CatalogDb) :
    (execUpdateSku id cond set settles db).map (fun p => (p.1, p.2.foldl Write.apply db)) =
      Catalog.updateSku id cond set hset db := by
  unfold execUpdateSku Catalog.updateSku
  cases hfind : db.skus.find? id with
  | none => rfl
  | some sku =>
    dsimp only
    split
    · cases hcheck : (set sku).check with
      | error e => rfl
      | ok row =>
        simp only [bind, Except.bind, pure, Except.pure, Except.map, List.foldl_cons,
          List.foldl_nil, Write.apply, db.skus.modify_eq_set hfind set hset]
    · rfl

section Service

variable [SerdeJson]

/-- A statement alone, given what it does to the tables. -/
theorem toTx_send {ε : Type} (onError : String → ε) (s : Stmt)
    {f : CatalogDb → Except String (s.Result × CatalogDb)}
    (h : ∀ db, (s.exec () db).map (fun p => (p.1, p.2.foldl Write.apply db)) = f db) :
    (send onError s).toTx () = Tx.statement onError f := by
  rw [send, Prog.toTx_send]
  congr 1
  exact funext h

omit [SerdeJson] in
theorem execInsertReservation_eq (orderId skuId : Uuid) (quantity : Int) (db : CatalogDb) :
    (execInsertReservation orderId skuId quantity db).map
        (fun p => (p.1, p.2.foldl Write.apply db)) =
      Repository.insertReservation orderId skuId quantity db := by
  unfold execInsertReservation Repository.insertReservation
  cases int4 quantity with
  | error e => rfl
  | ok q =>
    simp only [bind, Except.bind]
    split
    · rfl
    · split
      · rfl
      · split
        · rfl
        · -- the primary key
          simp only [nowV7, HasOutbox.setUuids, Table.insert_eq_ite]
          by_cases hid : (db.inventoryReservations.find? (nowV7 db).1).isSome = true
          · simp only [nowV7] at hid
            simp only [hid, if_true]
            rfl
          · simp only [nowV7] at hid
            simp only [hid]
            rfl

theorem toTx_reserveInventory (orderId skuId : Uuid) (quantity : Int) :
    (reserveInventory orderId skuId quantity).toTx () =
      Repository.reserveInventory orderId skuId quantity := by
  unfold reserveInventory Repository.reserveInventory
  rw [Prog.toTx_bind, toTx_send (f := Repository.reserveSku skuId quantity) _
    (.reserveSku skuId quantity) fun db => execUpdateSku_eq ..]
  congr 1
  funext n
  dsimp only
  split
  · rfl
  · exact toTx_send _ (.insertReservation orderId skuId quantity) fun db =>
      execInsertReservation_eq ..

theorem toTx_fetchReserved (orderId skuId : Uuid) :
    (fetchReserved orderId skuId).toTx () =
      Tx.fetchOne (fun e => .notFound s!"Reservation not found: {e}") rowNotFound
        (Repository.findReserved orderId skuId) := by
  rw [fetchReserved, Prog.toTx_fetchOne]
  · rfl
  · exact fun db => rfl

omit [SerdeJson] in
theorem setReservationStatus_eq (id : Uuid) (status : ReservationStatus) (db : CatalogDb) :
    (execSetReservationStatus id status db).foldl Write.apply db =
      Repository.setReservationStatus id status db := by
  unfold execSetReservationStatus Repository.setReservationStatus
  cases hfind : db.inventoryReservations.find? id with
  | none => rw [db.inventoryReservations.modify_of_none hfind]; rfl
  | some r =>
    simp only [List.foldl_cons, List.foldl_nil, Write.apply,
      db.inventoryReservations.modify_eq_set hfind]

theorem toTx_releaseReservation (orderId skuId : Uuid) :
    (releaseReservation orderId skuId).toTx () = Repository.releaseReservation orderId skuId := by
  unfold releaseReservation Repository.releaseReservation
  rw [Prog.toTx_bind, toTx_fetchReserved]
  congr 1
  funext r
  rw [Prog.toTx_bind, toTx_send (f := Catalog.updateSku skuId (fun _ => true)
      (fun s => { s with reservedQuantity := s.reservedQuantity - r.quantity }) fun _ => rfl)
    _ (.releaseSku skuId r) fun db => execUpdateSku_eq ..]
  congr 1
  funext n
  exact toTx_send _ (.setReservationStatus r.id .released) fun db =>
    congrArg (fun db => Except.ok ((), db)) (setReservationStatus_eq ..)

theorem toTx_confirmReservation (orderId skuId : Uuid) :
    (confirmReservation orderId skuId).toTx () = Repository.confirmReservation orderId skuId := by
  unfold confirmReservation Repository.confirmReservation
  rw [Prog.toTx_bind, toTx_fetchReserved]
  congr 1
  funext r
  rw [Prog.toTx_bind, toTx_send (f := Catalog.updateSku skuId (fun _ => true)
      (fun s => { s with stockQuantity := s.stockQuantity - r.quantity
                         reservedQuantity := s.reservedQuantity - r.quantity }) fun _ => rfl)
    _ (.confirmSku skuId r) fun db => execUpdateSku_eq ..]
  congr 1
  funext n
  exact toTx_send _ (.setReservationStatus r.id .confirmed) fun db =>
    congrArg (fun db => Except.ok ((), db)) (setReservationStatus_eq ..)

theorem toTx_releaseAllReservations (orderId : Uuid) :
    (releaseAllReservations orderId).toTx () = Repository.releaseAllReservations orderId := by
  unfold releaseAllReservations Repository.releaseAllReservations
  rw [Prog.toTx_bind, toTx_send _ (.findAllReserved orderId) fun db => rfl]
  congr 1
  funext rs
  rw [Prog.toTx_forEach]
  congr 1
  funext r
  exact toTx_releaseReservation orderId r.skuId

theorem toTx_insertOutboxEvent (insert : OutboxInsert) :
    (insertOutboxEvent insert).toTx () = Koupang.insertOutboxEvent insert := by
  unfold insertOutboxEvent Koupang.insertOutboxEvent
  dsimp only
  split
  · rfl
  · exact toTx_send _ (.insertOutboxRow insert) fun db => rfl

theorem toTx_newMetadata (eventType : EventType) (orderId : Uuid) :
    (newMetadata eventType orderId).toTx () = Catalog.newMetadata eventType orderId := by
  unfold newMetadata Catalog.newMetadata
  rw [Prog.toTx_bind]
  rfl

theorem toTx_doReserveAndWriteEvent (orderId buyerId : Uuid) (totalAmount : DecimalText)
    (currency : String) (items : List ReservationItem) :
    (doReserveAndWriteEvent orderId buyerId totalAmount currency items).toTx () =
      Catalog.doReserveAndWriteEvent orderId buyerId totalAmount currency items := by
  unfold doReserveAndWriteEvent Catalog.doReserveAndWriteEvent
  rw [Prog.toTx_bind, Prog.toTx_forEach]
  congr 1
  · congr 1
    funext item
    exact toTx_reserveInventory orderId item.1 item.2
  · funext _
    rw [Prog.toTx_bind, toTx_newMetadata]
    congr 1
    funext metadata
    exact toTx_insertOutboxEvent _

theorem execWriteReservationFailed_eq (orderId : Uuid) (reason : String) (db : CatalogDb) :
    (execWriteReservationFailed orderId reason db).map
        (fun p => (p.1, p.2.foldl Write.apply db)) =
      withTransaction (do
        let metadata ← Catalog.newMetadata .inventoryReservationFailed orderId
        let payload : Payload := { orderId := some orderId, reason := some reason }
        Koupang.insertOutboxEvent { topic := .catalogEvents, envelope := { metadata, payload } } :
          Tx AppError CatalogDb Unit) db := by
  unfold execWriteReservationFailed withTransaction Tx.attempt
  simp only [bind, EStateM.bind, Catalog.newMetadata, Tx.client, pure, EStateM.pure,
    Koupang.insertOutboxEvent, Tx.begin_db, reservationFailed]
  by_cases hbytes : SerdeJson.payloadBytes
      (reservationFailed orderId reason (nowV7 db).1).envelope > maxPayloadBytes
  · simp only [reservationFailed] at hbytes
    simp only [hbytes, if_true]
    rfl
  · simp only [reservationFailed] at hbytes
    simp only [hbytes, if_false]
    rfl

theorem toTx_writeReservationFailedOnPool (orderId : Uuid) (reason : String) :
    (writeReservationFailedOnPool orderId reason).toTx () =
      Catalog.writeReservationFailedOnPool orderId reason := by
  rw [writeReservationFailedOnPool, Prog.toTx_send_pool, Catalog.writeReservationFailedOnPool]
  congr 1
  funext db
  exact execWriteReservationFailed_eq orderId reason db

theorem toTx_reserveForOrderOnTx (orderId buyerId : Uuid) (totalAmount : DecimalText)
    (currency : String) (items : List ReservationItem) :
    (reserveForOrderOnTx orderId buyerId totalAmount currency items).toTx () =
      Catalog.reserveForOrderOnTx orderId buyerId totalAmount currency items := by
  unfold reserveForOrderOnTx
  rw [Prog.toTx_bind]
  funext t
  simp only [bind, EStateM.bind, Prog.toTx_attempt, toTx_doReserveAndWriteEvent,
    Catalog.reserveForOrderOnTx]
  cases Catalog.doReserveAndWriteEvent orderId buyerId totalAmount currency items t with
  | ok a t' => rfl
  | error e t' =>
    refine (congrFun (Prog.toTx_bind () (writeReservationFailedOnPool orderId (toString e)) _)
      t').trans ?_
    rw [toTx_writeReservationFailedOnPool]
    rfl

theorem toTx_ofExcept {ε α : Type} (r : Except ε α) :
    (Prog.ofExcept r : Program ε α).toTx () = Tx.ofExcept r := by
  cases r <;> rfl

theorem toTx_handleOrderCreated (env : EventEnvelope) :
    (handleOrderCreated env).toTx () = Catalog.handleOrderCreated env := by
  unfold handleOrderCreated Catalog.handleOrderCreated
  simp only [Prog.toTx_bind, Prog.toTx_mapErr, toTx_ofExcept, toTx_reserveForOrderOnTx]

theorem toTx_handleOrderCancelled (env : EventEnvelope) :
    (handleOrderCancelled env).toTx () = Catalog.handleOrderCancelled env := by
  unfold handleOrderCancelled Catalog.handleOrderCancelled
  rw [Prog.toTx_bind, toTx_ofExcept]
  congr 1
  funext o t
  rw [Prog.toTx_bind]
  simp only [bind, EStateM.bind, Prog.toTx_attempt, releaseForOrderOnTx,
    toTx_releaseAllReservations, Tx.catching, Catalog.releaseForOrderOnTx]
  cases Repository.releaseAllReservations o t <;> rfl

/-- Alone, the handler is that of the catalog. -/
theorem toTx_handle (env : EventEnvelope) : (handle env).toTx () = Catalog.handle env := by
  unfold handle Catalog.handle
  cases env.eventType with
  | orderCreated => exact toTx_handleOrderCreated env
  | orderCancelled =>
    refine (Prog.toTx_mapErr ..).trans ?_
    rw [toTx_handleOrderCancelled]
  | _ => rfl

theorem wp_ownTransaction {γ : Type} {B : Protocol catalogSql γ} {x : Program AppError Unit}
    {Q : γ → Except Consumer.AttemptResult Consumer.AttemptResult → Prop} {g : γ}
    (h : x.wp B (fun g' r => match r with
      | .ok _ => Q g' (.ok .committed)
      | .error _ => Q g' (.error .dbError)) g) :
    (ownTransaction x).wp (Consumer.liftProtocol B) Q g := by
  refine Prog.wp_bind (Prog.wp_mapErr (Consumer.wp_onTables (Prog.wp_mono h fun g' r h => ?_)))
  cases r with
  | ok u => exact h
  | error e => exact h

/-! ## Settling a reservation -/

/-- How far a program is with the reservation it settles. -/
inductive Phase where
  | idle
  /-- it has found the reservation open -/
  | found (r : InventoryReservationEntity)
  /-- it has taken the quantity off the SKU, and has yet to close the reservation -/
  | subtracted (r : InventoryReservationEntity) (status : ReservationStatus)

/-- Where the answer to a statement leads. -/
def Stmt.phase : (st : Stmt) → Except String st.Result → Phase
  | .findReserved .. => fun
    | .ok (some r) => .found r
    | _ => .idle
  | .releaseSku _ r => fun
    | .ok _ => .subtracted r .released
    | .error _ => .idle
  | .confirmSku _ r => fun
    | .ok _ => .subtracted r .confirmed
    | .error _ => .idle
  | _ => fun _ => .idle

/-- A reservation is found, then taken off its SKU, then closed. -/
def settleProtocol : Protocol catalogSql Phase where
  pre g c st := match st with
    | .releaseSku _ r | .confirmSku _ r => c = .tx ∧ g = .found r
    | .setReservationStatus id status => c = .tx ∧ ∃ r, g = .subtracted r status ∧ r.id = id
    | .nowV7 | .writeReservationFailed .. => g = .idle
    | _ => c = .tx ∧ g = .idle
  next _ _ st r g' := g' = st.phase r

/-- A program ends with no reservation half settled, or with an error. -/
abbrev EndsIdle {ε α : Type} (g : Phase) (_ : Except ε α) : Prop := g = .idle

section Programs

variable {ε : Type}

theorem wp_send_idle {onError : String → ε} {st : Stmt} {c : Conn} {g : Phase}
    (hpre : settleProtocol.pre g c st) (hphase : ∀ r, st.phase r = .idle) :
    (Prog.send (D := catalogSql) c onError st).wp settleProtocol EndsIdle g :=
  Prog.wp_send hpre (fun a _ hnext => Eq.trans hnext (hphase (.ok a)))
    fun e _ hnext => Eq.trans hnext (hphase (.error e))

theorem wp_reserveInventory (o skuId : Uuid) (q : Int) :
    (reserveInventory o skuId q).wp settleProtocol EndsIdle .idle := by
  refine Prog.wp_bind (Prog.wp_send ⟨rfl, rfl⟩ (fun n g' hnext => ?_) fun _ _ hnext => hnext)
  cases (hnext : g' = .idle)
  dsimp only
  split
  · rfl
  · exact wp_send_idle ⟨rfl, rfl⟩ fun _ => rfl

/-- A reservation that was found is taken off its SKU, and then closed. -/
theorem wp_settle {o skuId : Uuid} {onError onError' : String → AppError}
    {stmt : InventoryReservationEntity → Stmt} {status : ReservationStatus}
    (hpre : ∀ r, settleProtocol.pre (.found r) .tx (stmt r))
    (hok : ∀ r n, (stmt r).phase (.ok n) = .subtracted r status)
    (herror : ∀ r e, (stmt r).phase (.error e) = .idle) :
    (fetchReserved o skuId >>= fun r => send onError (stmt r) >>= fun _ =>
      send onError' (.setReservationStatus r.id status)).wp settleProtocol EndsIdle .idle := by
  refine Prog.wp_bind (Prog.wp_fetchOne ⟨rfl, rfl⟩ (fun a r g' hnext hrow => ?_)
    (fun a g' hnext hrow => ?_) fun _ _ hnext => hnext)
  · cases (hrow : a = some r)
    cases (hnext : g' = .found r)
    refine Prog.wp_bind (Prog.wp_send (hpre r) (fun n g' hnext => ?_) fun e g' hnext => ?_)
    · cases hnext.trans (hok r n)
      exact wp_send_idle ⟨rfl, r, rfl, rfl⟩ fun _ => rfl
    · exact hnext.trans (herror r e)
  · cases (hrow : a = none)
    exact hnext

theorem wp_releaseReservation (o skuId : Uuid) :
    (releaseReservation o skuId).wp settleProtocol EndsIdle .idle :=
  wp_settle (fun _ => ⟨rfl, rfl⟩) (fun _ _ => rfl) fun _ _ => rfl

theorem wp_confirmReservation (o skuId : Uuid) :
    (confirmReservation o skuId).wp settleProtocol EndsIdle .idle :=
  wp_settle (fun _ => ⟨rfl, rfl⟩) (fun _ _ => rfl) fun _ _ => rfl

theorem wp_forEach_idle {β : Type} {x : β → Program ε Unit} {bs : List β}
    (h : ∀ b ∈ bs, (x b).wp settleProtocol EndsIdle .idle) :
    (Prog.forEach x bs).wp settleProtocol EndsIdle .idle :=
  Prog.wp_forEach (fun b hb => Prog.wp_mono (h b hb) fun _ r hg => by cases r <;> exact hg) rfl

theorem wp_releaseAllReservations (o : Uuid) :
    (releaseAllReservations o).wp settleProtocol EndsIdle .idle := by
  refine Prog.wp_bind (Prog.wp_send ⟨rfl, rfl⟩ (fun rs g' hnext => ?_) fun _ _ hnext => hnext)
  cases (hnext : g' = .idle)
  exact wp_forEach_idle fun r _ => wp_releaseReservation o r.skuId

theorem wp_insertOutboxEvent (insert : OutboxInsert) :
    (insertOutboxEvent insert).wp settleProtocol EndsIdle .idle := by
  unfold insertOutboxEvent
  dsimp only
  split
  · rfl
  · exact wp_send_idle ⟨rfl, rfl⟩ fun _ => rfl

/-- A program, and then another one on its result. -/
theorem wp_bind_idle {α β : Type} {x : Program ε α} {f : α → Program ε β}
    (hx : x.wp settleProtocol EndsIdle .idle)
    (hf : ∀ a, (f a).wp settleProtocol EndsIdle .idle) :
    (x >>= f).wp settleProtocol EndsIdle .idle := by
  refine Prog.wp_bind (Prog.wp_mono hx ?_)
  rintro g r rfl
  cases r with
  | ok a => exact hf a
  | error e => rfl

theorem wp_reserveForOrderOnTx (o buyerId : Uuid) (totalAmount : DecimalText) (currency : String)
    (items : List ReservationItem) :
    (reserveForOrderOnTx o buyerId totalAmount currency items).wp settleProtocol EndsIdle
      .idle := by
  have hreserve : (doReserveAndWriteEvent o buyerId totalAmount currency items).wp settleProtocol
      EndsIdle .idle := by
    refine wp_bind_idle (wp_forEach_idle fun item _ => wp_reserveInventory o item.1 item.2)
      fun _ => wp_bind_idle ?_ fun _ => wp_insertOutboxEvent _
    exact wp_bind_idle (wp_send_idle rfl fun _ => rfl) fun _ => rfl
  refine wp_bind_idle (Prog.wp_attempt hreserve) fun r => ?_
  cases r with
  | ok u => rfl
  | error e =>
    -- the failure is written on the pool
    exact wp_bind_idle (wp_send_idle rfl fun _ => rfl) fun _ => rfl

theorem wp_affecting {st : Stmt} {onError : String → AppError} {e : AppError}
    {rows : st.Result → Nat} (hpre : settleProtocol.pre .idle .tx st)
    (hphase : ∀ r, st.phase r = .idle) :
    (affecting st onError e rows).wp settleProtocol EndsIdle .idle := by
  refine wp_bind_idle (wp_send_idle hpre hphase) fun n => ?_
  split
  · rfl
  · rfl

theorem wp_stockOp (op : StockOp) : (stockOp op).wp settleProtocol EndsIdle .idle := by
  cases op with
  | createSku q => exact wp_bind_idle (wp_send_idle ⟨rfl, rfl⟩ fun _ => rfl) fun _ => rfl
  | updateSku id req =>
    simp only [stockOp]
    split
    · rfl
    · exact wp_affecting ⟨rfl, rfl⟩ fun _ => rfl
  | deleteSku id => exact wp_affecting ⟨rfl, rfl⟩ fun _ => rfl
  | adjustStock id delta => exact wp_affecting ⟨rfl, rfl⟩ fun _ => rfl

theorem wp_mapErr_idle {ε' α : Type} {f : ε → ε'} {x : Program ε α}
    (h : x.wp settleProtocol EndsIdle .idle) : (x.mapErr f).wp settleProtocol EndsIdle .idle :=
  Prog.wp_mapErr h

theorem wp_handle (env : EventEnvelope) : (handle env).wp settleProtocol EndsIdle .idle := by
  unfold handle
  split
  · refine wp_bind_idle (wp_mapErr_idle rfl) fun o => wp_bind_idle (wp_mapErr_idle rfl) fun b =>
      wp_bind_idle rfl fun items => wp_mapErr_idle ?_
    exact wp_reserveForOrderOnTx ..
  · refine wp_mapErr_idle (wp_bind_idle rfl fun o => wp_bind_idle ?_ fun _ => rfl)
    exact Prog.wp_attempt (wp_releaseAllReservations o)
  · rfl

/-- Every program of the catalog keeps to the protocol. -/
theorem wp_program (request : Request) :
    (program request).wp (Consumer.liftProtocol settleProtocol) EndsIdle .idle := by
  have hown (x : Program AppError Unit) (hx : x.wp settleProtocol EndsIdle .idle) :
      (ownTransaction x).wp (Consumer.liftProtocol settleProtocol) EndsIdle .idle :=
    wp_ownTransaction (Prog.wp_mono hx fun g r hg => by cases r <;> exact hg)
  cases request with
  | consume env =>
    refine Consumer.wp_tryProcessOnceOnTx_lift rfl rfl (Prog.wp_mono (wp_handle env) ?_)
    rintro g r rfl
    cases r with
    | ok u => exact ⟨rfl, rfl⟩
    | error e => rfl
  | reserveForOrder o buyerId totalAmount currency items =>
    exact hown _ (wp_reserveForOrderOnTx ..)
  | releaseForOrder o => exact hown _ (wp_releaseAllReservations o)
  | confirmForOrder o items =>
    exact hown _ (wp_forEach_idle fun item _ => wp_confirmReservation o item.1)
  | stock op => exact hown _ (wp_stockOp op)

end Programs

/-! ## No oversell -/

/-- Every SKU has what is reserved of it, and every reservation is of something. -/
structure Covered (db : CatalogDb) : Prop where
  skus : ∀ sku ∈ db.skus.rows,
    0 ≤ sku.reservedQuantity ∧ sku.reservedQuantity ≤ sku.stockQuantity
  positive : ∀ r ∈ db.inventoryReservations.rows, 0 < r.quantity

/-- The row written is covered. -/
def Write.Covers : Write → Prop
  | .sku row _ => 0 ≤ row.reservedQuantity ∧ row.reservedQuantity ≤ row.stockQuantity
  | .reservation row => 0 < row.quantity
  | .orderSku .. | .outbox _ | .uuid => True

omit [SerdeJson] in
theorem Covered.apply {db : CatalogDb} (h : Covered db) {w : Write} (hw : w.Covers) :
    Covered (w.apply db) := by
  cases w with
  | orderSku o skuId => exact h
  | sku row settles =>
    refine ⟨fun sku hsku => ?_, h.positive⟩
    rcases (db.skus.mem_set row sku).mp hsku with rfl | ⟨hsku, -⟩
    · exact hw
    · exact h.skus sku hsku
  | reservation row =>
    refine ⟨h.skus, fun r hr => ?_⟩
    rcases (db.inventoryReservations.mem_set row r).mp hr with rfl | ⟨hr, -⟩
    · exact hw
    · exact h.positive r hr
  | outbox insert => exact ⟨h.skus, h.positive⟩
  | uuid => exact ⟨h.skus, h.positive⟩

/-- The seller's edit would lower the stock. -/
def Stmt.lowersStock (db : CatalogDb) : Stmt → Bool
  | .adjustStock _ delta => delta < 0
  | .updateSku id (some stockQuantity) =>
    match db.skus.find? id with
    | some sku => stockQuantity < sku.stockQuantity
    | none => false
  | _ => false

omit [SerdeJson] in
/-- What an `UPDATE skus ..` writes. -/
theorem execUpdateSku_ok {id : Uuid} {cond : Sku → Bool} {set : Sku → Sku}
    {settles : Option (Uuid × ReservationStatus)} {db : CatalogDb} {n : Nat} {cw : List Write}
    (hexec : execUpdateSku id cond set settles db = .ok (n, cw)) :
    cw = [] ∨ ∃ row, cw = [.sku row settles] := by
  unfold execUpdateSku at hexec
  split at hexec
  · cases hexec
    exact .inl rfl
  · split at hexec
    · obtain ⟨row, -, hexec⟩ := Except.bind_eq_ok.mp hexec
      cases hexec
      exact .inr ⟨_, rfl⟩
    · cases hexec
      exact .inl rfl

omit [SerdeJson] in
/-- An `UPDATE skus ..` that covers the row it sets. -/
theorem covers_execUpdateSku {id : Uuid} {cond : Sku → Bool} {set : Sku → Sku}
    {settles : Option (Uuid × ReservationStatus)} {db : CatalogDb} {n : Nat} {ws : List Write}
    (hexec : execUpdateSku id cond set settles db = .ok (n, ws))
    (hset : ∀ sku ∈ db.skus.rows, sku.id = id → cond sku = true → 0 ≤ (set sku).reservedQuantity →
      (set sku).reservedQuantity ≤ (set sku).stockQuantity) :
    ∀ w ∈ ws, w.Covers := by
  unfold execUpdateSku at hexec
  split at hexec
  · cases hexec
    exact List.forall_mem_nil _
  · rename_i sku hfind
    obtain ⟨hmem, hid⟩ := (db.skus.find?_eq_some_iff _ _).mp hfind
    split at hexec
    · rename_i hcond
      obtain ⟨row, hcheck, hexec⟩ := Except.bind_eq_ok.mp hexec
      cases hexec
      obtain ⟨-, -, -, hreserved, -⟩ := check_eq_ok.mp hcheck
      simp only [Bool.and_eq_true] at hcond
      intro w hw
      rw [List.mem_singleton.mp hw]
      exact ⟨hreserved, hset sku hmem hid hcond.2 hreserved⟩
    · cases hexec
      exact List.forall_mem_nil _

omit [SerdeJson] in
theorem covers_execInsertReservation {orderId skuId : Uuid} {quantity : Int} {db : CatalogDb}
    {u : Unit} {ws : List Write}
    (hexec : execInsertReservation orderId skuId quantity db = .ok (u, ws)) :
    ∀ w ∈ ws, w.Covers := by
  simp only [execInsertReservation, Except.bind_eq_ok] at hexec
  obtain ⟨q, -, hexec⟩ := hexec
  split at hexec
  · exact absurd hexec Except.throw_ne_ok
  rename_i hpos
  split at hexec
  · exact absurd hexec Except.throw_ne_ok
  split at hexec
  · exact absurd hexec Except.throw_ne_ok
  split at hexec
  · exact absurd hexec Except.throw_ne_ok
  cases hexec
  simpa [Write.Covers] using hpos

/-- What a statement writes is covered, if the seller does not lower the stock by it. -/
theorem covers_exec {db : CatalogDb} (h : Covered db) {g : Phase} {c : Conn} {st : Stmt}
    (hpre : settleProtocol.pre g c st) (hfound : ∀ r, g = .found r → 0 < r.quantity)
    (hstock : st.lowersStock db = false) {a : st.Result} {ws : List Write}
    (hexec : st.exec () db = .ok (a, ws)) :
    ∀ w ∈ ws, w.Covers := by
  cases st with
  | reserveSku skuId q =>
    refine covers_execUpdateSku hexec fun sku _ _ hcond _ => ?_
    simp only [ge_iff_le, decide_eq_true_eq] at hcond
    dsimp only
    omega
  | insertReservation o skuId q => exact covers_execInsertReservation hexec
  | findReserved o skuId =>
    cases hexec
    exact List.forall_mem_nil _
  | findAllReserved o =>
    cases hexec
    exact List.forall_mem_nil _
  | releaseSku skuId r =>
    have hpos : 0 < r.quantity := hfound r hpre.2
    refine covers_execUpdateSku hexec fun sku hsku _ _ _ => ?_
    have := h.skus sku hsku
    dsimp only
    omega
  | confirmSku skuId r =>
    refine covers_execUpdateSku hexec fun sku hsku _ _ _ => ?_
    have := h.skus sku hsku
    dsimp only
    omega
  | setReservationStatus id status =>
    cases hexec
    unfold execSetReservationStatus
    split
    · exact List.forall_mem_nil _
    · rename_i r hfind
      have hr := ((db.inventoryReservations.find?_eq_some_iff _ _).mp hfind).1
      simpa [Write.Covers] using h.positive r hr
  | nowV7 =>
    cases hexec
    simp [Write.Covers]
  | insertOutboxRow insert =>
    cases hexec
    simp [Write.Covers]
  | writeReservationFailed o reason =>
    simp only [Stmt.exec, execWriteReservationFailed] at hexec
    split at hexec
    · cases hexec
    · cases hexec
      simp [Write.Covers]
  | createSku q =>
    simp only [Stmt.exec, execCreateSku, Except.bind_eq_ok] at hexec
    obtain ⟨row, hcheck, hexec⟩ := hexec
    obtain ⟨rfl, hq, -⟩ := check_eq_ok.mp hcheck
    split at hexec
    · exact absurd hexec Except.throw_ne_ok
    · cases hexec
      simpa [Write.Covers] using hq
  | updateSku id q =>
    refine covers_execUpdateSku hexec fun sku hsku hid _ _ => ?_
    have := h.skus sku hsku
    cases q with
    | none =>
      dsimp only [Option.getD]
      omega
    | some q =>
      have hfind := (db.skus.find?_eq_some_iff id sku).mpr ⟨hsku, hid⟩
      simp only [Stmt.lowersStock, hfind, decide_eq_false_iff_not] at hstock
      dsimp only [Option.getD]
      omega
  | deleteSku id =>
    exact covers_execUpdateSku hexec fun sku hsku _ _ _ => (h.skus sku hsku).2
  | adjustStock skuId delta =>
    refine covers_execUpdateSku hexec fun sku hsku _ _ _ => ?_
    have := h.skus sku hsku
    simp only [Stmt.lowersStock, decide_eq_false_iff_not] at hstock
    dsimp only
    omega

/-- A reservation that a statement finds is of something. -/
theorem found_exec {db : CatalogDb} (h : Covered db) {st : Stmt} {a : st.Result} {ws : List Write}
    (hexec : st.exec () db = .ok (a, ws)) (r : InventoryReservationEntity)
    (hr : st.phase (.ok a) = .found r) : 0 < r.quantity := by
  cases st with
  | findReserved o skuId =>
    cases hexec
    cases hfind : Repository.findReserved o skuId db with
    | none =>
      rw [hfind] at hr
      cases hr
    | some r' =>
      rw [hfind] at hr
      cases hr
      exact h.positive r (findReserved_some hfind).1
  | _ => cases hr

/-- The next statement of a session on the catalog's tables. -/
def nextStmt (se : Session consumerSql Request Consumer.AttemptResult Consumer.AttemptResult) :
    Option Stmt :=
  match se.prog with
  | .stmt _ (.handler st) _ => some st
  | _ => none

/-- The seller's edits do not lower the stock. -/
def KeepsStock (s : State) : Label → Prop
  | .exec i _ => ∀ se ∈ s.sessions.rows, se.id = i → ∀ st ∈ nextStmt se,
    st.lowersStock (view consumerSql se.writes s.committed).tables = false
  | _ => True

instance (s : State) : ∀ a, Decidable (KeepsStock s a)
  | .exec _ _ => inferInstanceAs (Decidable (∀ se ∈ s.sessions.rows, _))
  | .start .. | .fault .. | .commit _ | .rollback _ => .isTrue trivial

/-- The tables are covered, what the transactions have written is covered, and a reservation
    that is about to be settled is of something. -/
abbrev CoveredInv : State → Prop :=
  Inv (Consumer.liftProtocol settleProtocol) EndsIdle (fun s => Covered s.committed.tables)
    fun _ g se => (∀ w, .inl w ∈ se.writes → w.Covers) ∧ ∀ r, g = .found r → 0 < r.quantity

theorem covered_view {ws : List (Write ⊕ Consumer.ProcessedKey)} {db : Consumer.Tables CatalogDb}
    (h : Covered db.tables) (hws : ∀ w, .inl w ∈ ws → w.Covers) :
    Covered (view consumerSql ws db).tables := by
  induction ws generalizing db with
  | nil => exact h
  | cons w ws ih =>
    refine ih ?_ fun w' hw' => hws w' (List.mem_cons_of_mem _ hw')
    cases w with
    | inl w => exact h.apply (hws w (List.mem_cons_self ..))
    | inr k => exact h

/-- A statement on another connection is none of the seller's. -/
theorem lowersStock_of_pool {g : Phase} {c : Conn} {st : Stmt} (hpre : settleProtocol.pre g c st)
    (hc : c ≠ .tx) (db : CatalogDb) : st.lowersStock db = false := by
  cases st with
  | updateSku => exact absurd hpre.1 hc
  | adjustStock => exact absurd hpre.1 hc
  | _ => rfl

/-- A statement of a program, executed on covered tables. -/
theorem covers_exec_attempt {db : Consumer.Tables CatalogDb} (h : Covered db.tables) {g : Phase}
    {c : Conn} {st : Consumer.Stmt catalogSql}
    (hpre : (Consumer.liftProtocol settleProtocol).pre g c st)
    (hfound : ∀ r, g = .found r → 0 < r.quantity)
    (hstock : ∀ st', st = .handler st' → st'.lowersStock db.tables = false)
    {a : consumerSql.Result st} {ws : List (Write ⊕ Consumer.ProcessedKey)} {input : Unit}
    (hexec : consumerSql.exec st input db = .ok (a, ws)) :
    (∀ w, .inl w ∈ ws → w.Covers) ∧
      ∃ g', (Consumer.liftProtocol settleProtocol).next g c st (.ok a) g' ∧
        ∀ r, g' = .found r → 0 < r.quantity := by
  cases st with
  | handler st =>
    obtain ⟨cw, hst, rfl⟩ := Consumer.exec_handler_ok hexec
    have hcovers := covers_exec h hpre hfound (hstock st rfl) hst
    exact ⟨fun w hw => hcovers w (by simpa using hw), _, rfl, found_exec h hst⟩
  | isEventProcessed k =>
    cases hexec
    exact ⟨fun _ hw => absurd hw List.not_mem_nil, g, rfl, hfound⟩
  | markEventProcessed k =>
    cases hexec
    refine ⟨fun w hw => ?_, g, rfl, hfound⟩
    split at hw
    · exact nomatch hw
    · simp at hw

omit [SerdeJson] in
theorem phase_error (st : Stmt) (e : String) : st.phase (.error e) = .idle := by
  cases st <;> rfl

/-- After an error no reservation is about to be settled. -/
theorem next_error (g : Phase) (c : Conn) (st : Consumer.Stmt catalogSql) (e : String) :
    ∃ g', (Consumer.liftProtocol settleProtocol).next g c st (.error e) g' ∧
      (g' = g ∨ g' = .idle) := by
  cases st with
  | handler st => exact ⟨.idle, (phase_error st e).symm, .inr rfl⟩
  | isEventProcessed k => exact ⟨g, rfl, .inl rfl⟩
  | markEventProcessed k => exact ⟨g, rfl, .inl rfl⟩

theorem coveredInv_step {s t : State} {a : Label} (h : CoveredInv s) (hstock : KeepsStock s a)
    (hstep : step s a = some t) : CoveredInv t := by
  have hcases := step_cases hstep
  have hexcl := exclusive_step h.exclusive hcases
  cases hcases with
  | @start i request hfree =>
    refine h.put hexcl rfl h.state ⟨.idle, ⟨fun _ hw => absurd hw List.not_mem_nil, nofun⟩, ?_⟩
      fun _ _ _ _ hx => hx
    exact wp_program request
  | @exec se st k input a ws hse hprog hab hexec hfree =>
    obtain ⟨g, ⟨hwrites, hfound⟩, hpre, hwp⟩ := h.stmt hse hprog
    have hkeeps : ∀ st', st = .handler st' →
        st'.lowersStock (view consumerSql se.writes s.committed).tables = false := by
      rintro st' rfl
      exact hstock se hse rfl st' (by rw [nextStmt, hprog]; rfl)
    obtain ⟨hcovers, g', hnext, hfound'⟩ :=
      covers_exec_attempt (covered_view h.state hwrites) hpre hfound hkeeps hexec
    refine h.put hexcl rfl ?_ ⟨g', ⟨fun w hw => ?_, hfound'⟩, hwp _ _ hnext⟩ fun _ _ _ _ hx => hx
    · exact covered_view h.state fun w hw => hcovers w (List.mem_of_mem_filter hw)
    · rcases List.mem_append.mp hw with hw | hw
      · exact hwrites w hw
      · exact hcovers w (List.mem_of_mem_filter hw)
  | abort hlabel hse hprog =>
    obtain ⟨g, ⟨hwrites, hfound⟩, -, hwp⟩ := h.stmt hse hprog
    obtain ⟨g', hnext, hg'⟩ := next_error g .tx _ _
    refine h.put hexcl rfl h.state ⟨g', ⟨hwrites, ?_⟩, hwp _ _ hnext⟩ fun _ _ _ _ hx => hx
    rcases hg' with rfl | rfl
    · exact hfound
    · exact nofun
  | pool hse hprog hc hexec hfree =>
    obtain ⟨g, ⟨hwrites, hfound⟩, hpre, hwp⟩ := h.stmt hse hprog
    obtain ⟨hcovers, g', hnext, hfound'⟩ := covers_exec_attempt h.state hpre hfound
      (by rintro st' rfl; exact lowersStock_of_pool hpre hc _) hexec
    exact h.put hexcl rfl (covered_view h.state hcovers) ⟨g', ⟨hwrites, hfound'⟩, hwp _ _ hnext⟩
      fun _ _ _ _ hx => hx
  | poolError hlabel hse hprog hc =>
    obtain ⟨g, ⟨hwrites, hfound⟩, -, hwp⟩ := h.stmt hse hprog
    obtain ⟨g', hnext, hg'⟩ := next_error g _ _ _
    refine h.put hexcl rfl h.state ⟨g', ⟨hwrites, ?_⟩, hwp _ _ hnext⟩ fun _ _ _ _ hx => hx
    rcases hg' with rfl | rfl
    · exact hfound
    · exact nofun
  | commit hse hprog hab =>
    obtain ⟨g, ⟨hwrites, -⟩, -⟩ := h.done hse hprog
    exact h.drop hexcl rfl (covered_view h.state hwrites) fun _ _ _ _ hx => hx
  | drop hse hlabel => exact h.drop hexcl rfl h.state fun _ _ _ _ hx => hx

/-- In every interleaving of any requests, from tables where what is reserved is covered by the
    stock, and as long as no seller lowers the stock, it stays covered. -/
theorem covered_run {db : Consumer.Tables CatalogDb} (h : Covered db.tables) {as : List Label}
    (hstock : Run.Meets step KeepsStock { committed := db } as) {s : State}
    (hrun : Run.run step { committed := db } as = some s) : Covered s.committed.tables := by
  have hinit : CoveredInv { committed := db } := .init h
  exact (Run.run_invariant_of_meets (fun _ _ _ h hstock hstep => coveredInv_step h hstock hstep)
    hinit hstock hrun).state

end Service

/-! ## Two orders of a SKU -/

/-- A SKU of which 5 are in stock. -/
def sampleStock : CatalogDb :=
  { skus := ⟨[{ id := ⟨1, 0⟩, stockQuantity := 5, reservedQuantity := 0, deleted := false }],
      by decide⟩
    uuids := 1 }

/-- Two orders of 3 each: the second one waits for the lock of the SKU and is refused. Then two
    more are stocked, and the first order is confirmed. -/
def twoOrders : List Label :=
  [.start 0 (.reserveForOrder ⟨0, 0⟩ ⟨2, 0⟩ (.decimal 30) "USD" [(⟨1, 0⟩, 3)]),
   .start 1 (.reserveForOrder ⟨0, 1⟩ ⟨2, 1⟩ (.decimal 30) "USD" [(⟨1, 0⟩, 3)]),
   .exec 0 (), .exec 0 (), .exec 0 (), .exec 0 (), .commit 0, .exec 1 (), .exec 1 (), .rollback 1,
   .start 2 (.stock (.adjustStock ⟨1, 0⟩ 2)), .exec 2 (),
   .start 3 (.confirmForOrder ⟨0, 0⟩ [(⟨1, 0⟩, 3)]), .exec 3 (), .commit 2, .exec 3 (), .exec 3 (),
   .commit 3]

theorem covered_twoOrders :
    ∃ s, Run.run step { committed := { tables := sampleStock } } twoOrders = some s ∧
      s.committed.tables.skus.rows.map (fun sku => (sku.stockQuantity, sku.reservedQuantity)) =
        [(4, 0)] ∧ s.committed.tables.outbox.length = 2 ∧ Covered s.committed.tables := by
  have hrun : (Run.run step { committed := { tables := sampleStock } } twoOrders).map
      (fun s => decide (s.committed.tables.skus.rows.map
          (fun sku => (sku.stockQuantity, sku.reservedQuantity)) = [(4, 0)] ∧
        s.committed.tables.outbox.length = 2)) = some true := by decide
  obtain ⟨s, hs, hskus, houtbox⟩ := Run.run_decide hrun
  have hinit : Covered sampleStock := ⟨by decide, by decide⟩
  exact ⟨s, hs, hskus, houtbox, covered_run hinit (by decide) hs⟩

end Koupang.Catalog.Interleaving
