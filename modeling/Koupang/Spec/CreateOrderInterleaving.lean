import Koupang.Model.CreateOrderInterleaving
import Koupang.Spec.CreateOrder

/-!
# Concurrent calls with one idempotency key

A call that finds the key unused inserts the order later. As long as no call
runs its `INSERT` after another one has committed the key, all calls agree on
one order and one event. A call that comes later with its `INSERT` is answered
with an error, although the order exists.

## Key results

- `toTx_program`: the statements of a call, run alone, are those of `create_order`
- `fits_of_createOrder`: a request that is accepted once fits the tables in every state
- `callsInv_step`: a step keeps all calls in agreement
- `idsHandedOut_run`: the service reaches only tables whose identifiers it has handed out
- `idempotent_run`: one order, one event and one answer, over every run of the condition
-/

namespace Koupang.Order.Creation

open ReadCommitted

section Service

variable [SerdeJson]

/-! ## A call alone -/

omit [SerdeJson] in
theorem toTx_send {ε : Type} (onError : String → ε) (s : Stmt)
    {f : OrderDb → Except String (s.Result × OrderDb)}
    (hexec : ∀ db, (s.exec () db).map (fun p => (p.1, p.2.foldl Write.apply db)) = f db) :
    (send onError s).toTx () = Tx.statement onError f := by
  rw [send, Prog.toTx_send]
  exact congrArg (Tx.statement onError) (funext hexec)

omit [SerdeJson] in
theorem execInsertOrder_eq (buyerId : Uuid) (req : ValidCreateOrderReq) (db : OrderDb) :
    (execInsertOrder buyerId req db).map (fun p => (p.1, p.2.foldl Write.apply db)) =
      Repository.insertOrder buyerId req db := by
  unfold execInsertOrder Repository.insertOrder
  cases numeric19_4 req.totalAmount with
  | error e => rfl
  | ok total =>
    cases varchar 3 req.currency with
    | error e => rfl
    | ok currency =>
      cases varchar 255 req.idempotencyKey with
      | error e => rfl
      | ok key =>
        simp only [bind, Except.bind]
        split
        · rfl
        · split
          · rfl
          · -- the primary key
            simp only [nowV7, HasOutbox.setUuids, Table.insert_eq_ite]
            by_cases hid : (db.orders.find? (nowV7 db).1).isSome = true
            · simp only [nowV7] at hid
              simp only [hid, if_true]
              rfl
            · simp only [nowV7] at hid
              simp only [hid]
              rfl

omit [SerdeJson] in
theorem execInsertOrderItem_eq (o : Uuid) (item : ValidCreateOrderItem) (db : OrderDb) :
    (execInsertOrderItem o item db).map (fun p => (p.1, p.2.foldl Write.apply db)) =
      Repository.insertOrderItem o item db := by
  unfold execInsertOrderItem Repository.insertOrderItem
  cases varchar 500 item.productName with
  | error e => rfl
  | ok name =>
    cases varchar 100 item.skuCode with
    | error e => rfl
    | ok code =>
      cases int4 item.quantity with
      | error e => rfl
      | ok quantity =>
        cases numeric19_4 item.unitPrice with
        | error e => rfl
        | ok price =>
          cases numeric19_4 item.totalPrice with
          | error e => rfl
          | ok total =>
            simp only [bind, Except.bind]
            split
            · rfl
            · split
              · rfl
              · split <;> rfl

omit [SerdeJson] in
theorem toTx_createOrder (buyerId : Uuid) (req : ValidCreateOrderReq) :
    (createOrder buyerId req).toTx () = Repository.createOrder buyerId req := by
  unfold createOrder Repository.createOrder
  rw [Prog.toTx_bind, toTx_send _ (.insertOrder buyerId req) (execInsertOrder_eq buyerId req)]
  congr 1
  funext o
  rw [Prog.toTx_bind, Prog.toTx_forEach]
  congr 2
  funext item
  exact toTx_send _ (.insertOrderItem o item) (execInsertOrderItem_eq o item)

theorem toTx_insertOutboxEvent (insert : OutboxInsert) :
    (insertOutboxEvent insert).toTx () = Koupang.insertOutboxEvent insert := by
  unfold insertOutboxEvent Koupang.insertOutboxEvent
  dsimp only
  split
  · rfl
  · exact toTx_send _ (.insertOutboxRow insert) fun db => rfl

/-- The statements of a call, run alone, are the transaction of `create_order`. -/
theorem toTx_program (buyerId : Uuid) (req : ValidCreateOrderReq) :
    (program buyerId req).toTx () = createOrderTx buyerId req := by
  unfold program createOrderTx
  rw [Prog.toTx_bind, toTx_createOrder]
  congr 1
  funext o
  have hclient : (Prog.send (D := orderSql) .client .internalServerError Stmt.nowV7).toTx () =
      (Tx.client Koupang.nowV7 : Tx AppError OrderDb Uuid) := by
    funext s
    rfl
  simp only [writeOrderOutbox, newMetadata, bind_assoc, pure_bind]
  rw [Prog.toTx_bind, hclient]
  congr 1
  funext eventId
  rw [Prog.toTx_bind, toTx_insertOutboxEvent]
  rfl

omit [SerdeJson] in
theorem validateRequest_ok_iff {key : String} {req : CreateOrderReq} {valid : ValidCreateOrderReq} :
    validateRequest key req = .ok valid ↔ Admitted key req valid := by
  unfold validateRequest
  rw [Except.bind_eq_ok]
  constructor
  · rintro ⟨validated, hvalidated, h⟩
    dsimp only at h
    split at h
    · exact absurd h Except.throw_ne_ok
    · rename_i hpassed
      cases h
      exact ⟨hvalidated, by simpa [creationContext] using hpassed⟩
  · intro h
    have hpassed := h.passed
    unfold creationContext at hpassed
    refine ⟨valid, h.validated, ?_⟩
    simp only [hpassed, Bool.not_true, Bool.false_eq_true, if_false]
    rfl

/-! ## What fits the tables -/

/-- The columns take an item, whatever the tables hold. -/
def ItemFits (item : ValidCreateOrderItem) : Prop :=
  ∀ o db, ∃ row, execInsertOrderItem o item db = .ok ((), [.uuid, .orderItem row])

/-- The row that is inserted for a request. -/
structure RowFor (buyerId : Uuid) (valid : ValidCreateOrderReq) (row : OrderEntity) : Prop where
  buyer : row.buyerId = buyerId
  key : row.idempotencyKey = valid.idempotencyKey

/-- A request fits: its order is stored unless the key is taken or the identifier is, its items
    are, and its event is not too large. -/
structure Fits (buyerId : Uuid) (valid : ValidCreateOrderReq) : Prop where
  order : ∀ db : OrderDb, Repository.getOrderByIdempotencyKey valid.idempotencyKey db = none →
    db.orders.find? (nowV7 db).1 = none →
    ∃ row, execInsertOrder buyerId valid db = .ok (row.id,
      [.uuid, .idempotencyKey valid.idempotencyKey, .order row]) ∧ row.id = (nowV7 db).1 ∧
      RowFor buyerId valid row
  items : ∀ item ∈ valid.items, ItemFits item
  event : ∀ eventId o, SerdeJson.payloadBytes (orderCreated eventId o buyerId valid).envelope ≤
    maxPayloadBytes

omit [SerdeJson] in
theorem itemFits_of_ok {o : Uuid} {item : ValidCreateOrderItem} {db db' : OrderDb} {u : Unit}
    (h : Repository.insertOrderItem o item db = .ok (u, db')) : ItemFits item := by
  obtain ⟨name, code, quantity, price, total, hname, hcode, hquantity, hq, hprice, hp, htotal, ht,
    -⟩ := insertOrderItem_inserts h
  intro o' db₂
  refine ⟨{ id := (nowV7 db₂).1, orderId := o', productId := item.productId, skuId := item.skuId,
            productName := name, skuCode := code, quantity, sellerId := item.sellerId,
            unitPrice := price, totalPrice := total }, ?_⟩
  simp only [execInsertOrderItem, hname, hcode, hquantity, hprice, htotal, bind, Except.bind, hq,
    hp, ht, if_false]
  rfl

omit [SerdeJson] in
theorem forM_itemFits {o : Uuid} {onError : String → AppError}
    {items : List ValidCreateOrderItem} {s t : TxState OrderDb} {u : Unit}
    (h : (items.forM fun item => Tx.statement onError (Repository.insertOrderItem o item)) s
      = .ok u t) : ∀ item ∈ items, ItemFits item := by
  induction items generalizing s with
  | nil => exact List.forall_mem_nil _
  | cons item items ih =>
    obtain ⟨_, s', hs', h⟩ := Tx.bind_ok.mp h
    obtain ⟨-, db, hdb, -⟩ := Tx.statement_ok.mp hs'
    exact List.forall_mem_cons.mpr ⟨itemFits_of_ok hdb, ih h⟩

/-- A request that is accepted once, with a new key, fits the tables whatever they hold. -/
theorem fits_of_createOrder [SerdeJson.FixedWidthIds] {user : CurrentUser} {key : String}
    {req : CreateOrderReq} {valid : ValidCreateOrderReq} {db db' : OrderDb} {order : OrderEntity}
    (hok : Order.createOrder user key req db = .ok (order, db'))
    (hadmitted : Admitted key req valid)
    (hnew : Repository.getOrderByIdempotencyKey valid.idempotencyKey db = none) :
    Fits user.id valid := by
  obtain ⟨valid', hadmitted', hcases⟩ := createOrder_ok_iff.mp hok
  cases hadmitted.eq hadmitted'
  rcases hcases with ⟨hexisting, -⟩ | ⟨-, o, htx, -⟩
  · rw [hnew] at hexisting
    cases hexisting
  obtain ⟨s, hs, -⟩ := withTransaction_run htx
  simp only [createOrderTx, Repository.createOrder, Tx.bind_ok, Tx.statement_ok,
    writeOrderOutbox_ok, Tx.pure_ok] at hs
  obtain ⟨_, _, ⟨_, _, ⟨-, db₁, hins, rfl⟩, _, s₁, hitems, rfl, rfl⟩, _, _, ⟨hbytes, -, rfl⟩,
    rfl, rfl⟩ := hs
  refine ⟨fun db₂ hnone hid => ?_, forM_itemFits hitems, fun eventId o' => ?_⟩
  · obtain ⟨total, currency, stored, orders, htotal, hpos, hcurrency, hstored, -, -, -⟩ :=
      insertOrder_inserts hins
    have hkey := idempotencyKey_fits (validated_ok hadmitted.validated).1
    cases hkey.symm.trans hstored
    have hunused : db₂.orders.rows.any (·.idempotencyKey = valid.idempotencyKey) = false := by
      have hall := List.find?_eq_none.mp hnone
      simpa using hall
    refine ⟨{ id := (nowV7 db₂).1, buyerId := user.id, status := .pending, totalAmount := total
              currency, idempotencyKey := valid.idempotencyKey
              shippingAddress := valid.shippingAddress, cancelledReason := none },
      ?_, rfl, rfl, rfl⟩
    simp only [execInsertOrder, htotal, hcurrency, hkey, bind, Except.bind, hpos, if_false,
      hunused, Bool.false_eq_true, hid, Option.isSome_none]
    rfl
  · -- every identifier is rendered in the same width
    rw [← SerdeJson.FixedWidthIds.payloadBytes_blankIds] at hbytes ⊢
    exact hbytes

/-! ## The order of the statements -/

/-- How far a transaction has come. -/
inductive Progress where
  | started
  | inserted (row : OrderEntity)
  | identified (row : OrderEntity) (eventId : Uuid)
  | written (row : OrderEntity) (eventId : Uuid)

section Discipline

variable (buyerId : Uuid) (valid : ValidCreateOrderReq)

/-- A transaction inserts the order, then its items, then its event. None of its statements
    fails. -/
def discipline : Protocol orderSql Progress where
  pre g c st := match st with
    | .insertOrder b r => g = .started ∧ c = .tx ∧ b = buyerId ∧ r = valid
    | .insertOrderItem o item => ∃ row, g = .inserted row ∧ c = .tx ∧ o = row.id ∧
      item ∈ valid.items
    | .nowV7 => ∃ row, g = .inserted row ∧ c = .client
    | .insertOutboxRow ins => ∃ row eventId, g = .identified row eventId ∧ c = .tx ∧
      ins = orderCreated eventId row.id buyerId valid
  next g _ st r g' := match st, r with
    | .insertOrder _ _, .ok o => ∃ row, row.id = o ∧ g' = .inserted row
    | .insertOrderItem _ _, .ok _ => g' = g
    | .nowV7, .ok eventId => ∃ row, g = .inserted row ∧ g' = .identified row eventId
    | .insertOutboxRow _, .ok _ => ∃ row eventId, g = .identified row eventId ∧
      g' = .written row eventId
    | _, .error _ => False

/-- A transaction ends with everything written, and returns the order's identifier. -/
def Ended (g : Progress) (r : Except AppError Uuid) : Prop :=
  ∃ row eventId, g = .written row eventId ∧ r = .ok row.id

variable {buyerId : Uuid} {valid : ValidCreateOrderReq}

theorem program_wp (hfits : Fits buyerId valid) :
    (program buyerId valid).wp (discipline buyerId valid) Ended .started := by
  refine Prog.wp_bind ?_
  -- the order
  refine Prog.wp_bind (Prog.wp_send ⟨rfl, rfl, rfl, rfl⟩ (fun o g' hnext => ?_)
    fun e g' hnext => hnext.elim)
  obtain ⟨row, rfl, rfl⟩ := hnext
  -- its items
  have hitems : (Prog.forEach (insertOrderItem row.id) valid.items).wp
      (discipline buyerId valid) (fun g' r => r = .ok () ∧ g' = .inserted row)
      (.inserted row) := by
    refine Prog.wp_forEach (fun item hitem => ?_) ⟨rfl, rfl⟩
    refine Prog.wp_send ⟨row, rfl, rfl, rfl, hitem⟩ (fun _ g' hnext => hnext) ?_
    exact fun e g' hnext => hnext.elim
  refine Prog.wp_bind (Prog.wp_mono hitems fun g' r hr => ?_)
  obtain ⟨rfl, rfl⟩ := hr
  -- its event
  refine Prog.wp_bind (Prog.wp_send ⟨row, rfl, rfl⟩ (fun eventId g' hnext => ?_)
    fun e g' hnext => hnext.elim)
  obtain ⟨row', heq, rfl⟩ := hnext
  cases heq
  have hbytes := hfits.event eventId row.id
  refine Prog.wp_bind ?_
  unfold insertOutboxEvent
  dsimp only
  rw [if_neg (by omega)]
  refine Prog.wp_send ⟨row, eventId, rfl, rfl, rfl⟩ (fun _ g' hnext => ?_)
    fun e g' hnext => hnext.elim
  obtain ⟨row', eventId', heq, rfl⟩ := hnext
  cases heq
  exact ⟨row, eventId, rfl, rfl⟩

end Discipline

/-! ## The tables and the transactions -/

section Invariant

variable (buyerId : Uuid) (valid : ValidCreateOrderReq) (db : OrderDb)

/-- What a transaction has written when it has come so far. -/
def Progress.Writes : Progress → List Write → Prop
  | .started, ws => ws = []
  | .inserted row, ws | .identified row _, ws => ∃ items : List OrderItemEntity,
    ws = .idempotencyKey valid.idempotencyKey :: .order row :: items.map .orderItem
  | .written row eventId, ws => ∃ items : List OrderItemEntity,
    ws = .idempotencyKey valid.idempotencyKey :: .order row :: items.map .orderItem ++
      [.outbox (orderCreated eventId row.id buyerId valid)]

/-- The order that a transaction has inserted. -/
def Progress.row? : Progress → Option OrderEntity
  | .started => none
  | .inserted row | .identified row _ | .written row _ => some row

/-- The committed tables are those before the calls, or hold the one order of the calls. -/
inductive Phase (db' : OrderDb) : Prop
  | unchanged (orders : db'.orders = db.orders) (outbox : db'.outbox = db.outbox)
  | created {order : OrderEntity} {ins : OutboxInsert}
    (h : CreatedFor buyerId valid db db' order ins)

/-- Every identifier of an order has been handed out by the generator. -/
def IdsHandedOut (db : OrderDb) : Prop := ∀ order ∈ db.orders.rows, order.id.serial < db.uuids

structure TablesInv (s : ReadCommitted.State orderSql ValidCreateOrderReq AppError Uuid) :
    Prop where
  ids : IdsHandedOut s.committed
  phase : Phase buyerId valid db s.committed

structure SessionInv (s : ReadCommitted.State orderSql ValidCreateOrderReq AppError Uuid)
    (g : Progress) (se : Session orderSql ValidCreateOrderReq AppError Uuid) : Prop where
  aborted : se.aborted = false
  writes : g.Writes buyerId valid se.writes
  row : ∀ row ∈ g.row?, RowFor buyerId valid row ∧ row.id.serial < s.committed.uuids ∧
    db.orders.find? row.id = none
  /-- once the key is committed, nobody else has inserted it -/
  started : Repository.getOrderByIdempotencyKey valid.idempotencyKey s.committed ≠ none →
    g = .started

/-- The invariant of the tables and the transactions. -/
abbrev SqlInv (s : ReadCommitted.State orderSql ValidCreateOrderReq AppError Uuid) : Prop :=
  Inv (discipline buyerId valid) Ended (TablesInv buyerId valid db) (SessionInv buyerId valid db) s

variable {buyerId valid db}
variable {s t : ReadCommitted.State orderSql ValidCreateOrderReq AppError Uuid}

/-- The committed tables, but for identifiers that were drawn. -/
structure SameTables (db db' : OrderDb) : Prop where
  orders : db'.orders = db.orders
  outbox : db'.outbox = db.outbox
  uuids : db.uuids ≤ db'.uuids

omit [SerdeJson] in
theorem TablesInv.congr (h : TablesInv buyerId valid db s)
    (hsame : SameTables s.committed t.committed) : TablesInv buyerId valid db t where
  ids := by
    intro order horder
    rw [hsame.orders] at horder
    have hlt := h.ids order horder
    have hle := hsame.uuids
    omega
  phase := by
    cases h.phase with
    | unchanged horders houtbox =>
      exact .unchanged (hsame.orders.trans horders) (hsame.outbox.trans houtbox)
    | created h =>
      exact .created ⟨by rw [hsame.orders, h.orders], by rw [hsame.outbox, h.outbox], h.buyer,
        h.key, h.eventType, h.payload⟩

omit [SerdeJson] in
theorem SessionInv.congr {g : Progress} {se : Session orderSql ValidCreateOrderReq AppError Uuid}
    (h : SessionInv buyerId valid db s g se) (hsame : SameTables s.committed t.committed) :
    SessionInv buyerId valid db t g se where
  aborted := h.aborted
  writes := h.writes
  row row hrow := by
    obtain ⟨hfor, hserial, hnone⟩ := h.row row hrow
    have hle := hsame.uuids
    exact ⟨hfor, by omega, hnone⟩
  started hused := by
    refine h.started fun hnone => hused ?_
    unfold Repository.getOrderByIdempotencyKey at hnone ⊢
    rw [hsame.orders]
    exact hnone

omit [SerdeJson] in
/-- A session begins or goes on, and the tables stay as they are. -/
theorem SqlInv.put {se : Session orderSql ValidCreateOrderReq AppError Uuid} {g : Progress}
    (h : SqlInv buyerId valid db s) {db' : OrderDb} (hsame : SameTables s.committed db')
    (hexcl : Exclusive ({ s with committed := db' }.put se))
    (hse : SessionInv buyerId valid db ({ s with committed := db' }.put se) g se)
    (hwp : se.prog.wp (discipline buyerId valid) Ended g) :
    SqlInv buyerId valid db ({ s with committed := db' }.put se) :=
  Inv.put h hexcl rfl (h.state.congr hsame) ⟨g, hse, hwp⟩ fun _ _ _ _ hK => hK.congr hsame

theorem sqlInv_start {i : Nat} (hfits : Fits buyerId valid) (h : SqlInv buyerId valid db s)
    (hstep : ReadCommitted.step (program buyerId) s (.start i valid) = some t) :
    SqlInv buyerId valid db t ∧ t.committed = s.committed := by
  have hexcl := exclusive_step h.exclusive (ReadCommitted.step_cases hstep)
  cases ReadCommitted.step_cases hstep with
  | start hfree =>
    have hsame : SameTables s.committed s.committed := ⟨rfl, rfl, Nat.le_refl _⟩
    refine ⟨SqlInv.put (g := .started) h hsame hexcl ?_ (program_wp hfits), rfl⟩
    exact ⟨rfl, rfl, by simp [Progress.row?], fun _ => rfl⟩
  | abort hlabel => rcases hlabel with ⟨_, hl⟩ | ⟨_, hl⟩ <;> cases hl
  | poolError hlabel => rcases hlabel with ⟨_, hl⟩ | ⟨_, hl⟩ <;> cases hl
  | drop _ hlabel => rcases hlabel with hl | ⟨hl, -⟩ <;> cases hl

/-- The next statement is the `INSERT` of the order. -/
def insertsNext (x : Program AppError Uuid) : Bool :=
  match x with
  | .stmt _ (.insertOrder _ _) _ => true
  | _ => false

/-- The statement that call `i` executes next does not insert the order after the key has been
    committed. -/
def InsertFree (valid : ValidCreateOrderReq)
    (s : ReadCommitted.State orderSql ValidCreateOrderReq AppError Uuid) (i : Nat) : Prop :=
  ∀ se ∈ s.sessions.rows, se.id = i → insertsNext se.prog = true →
    Repository.getOrderByIdempotencyKey valid.idempotencyKey s.committed = none

instance (s : ReadCommitted.State orderSql ValidCreateOrderReq AppError Uuid) (i : Nat) :
    Decidable (InsertFree valid s i) :=
  inferInstanceAs (Decidable (∀ se ∈ s.sessions.rows, _))

omit [SerdeJson] in
theorem TablesInv.subset (h : TablesInv buyerId valid db s) :
    ∀ order ∈ db.orders.rows, order ∈ s.committed.orders.rows := by
  intro order horder
  cases h.phase with
  | unchanged horders => exact horders ▸ horder
  | created h =>
    rw [h.orders]
    exact List.mem_append_left _ horder

omit [SerdeJson] in
/-- The identifier that is drawn next is not in use. -/
theorem IdsHandedOut.find?_next (h : IdsHandedOut db) : db.orders.find? (nowV7 db).1 = none := by
  rw [Table.find?_eq_none_iff]
  intro order horder heq
  have hlt := h order horder
  rw [heq] at hlt
  exact Nat.lt_irrefl _ hlt

theorem sqlInv_insertOrder {se : Session orderSql ValidCreateOrderReq AppError Uuid}
    {k : Except String Uuid → Program AppError Uuid} (hfits : Fits buyerId valid)
    (h : SqlInv buyerId valid db s) (hK : SessionInv buyerId valid db s .started se)
    (hnone : Repository.getOrderByIdempotencyKey valid.idempotencyKey s.committed = none)
    (hexec : execStmt s se .tx (Stmt.insertOrder buyerId valid) k () = some t)
    (hexcl : Exclusive t)
    (hnext : ∀ r g',
      (discipline buyerId valid).next .started .tx (.insertOrder buyerId valid) r g' →
      (k r).wp (discipline buyerId valid) Ended g') :
    SqlInv buyerId valid db t ∧ SameTables s.committed t.committed := by
  have hws : se.writes = [] := hK.writes
  have hid := IdsHandedOut.find?_next h.state.ids
  obtain ⟨row, hrow, hrowid, hfor⟩ := hfits.order s.committed hnone hid
  obtain ⟨-, rfl⟩ := execStmt_tx_ok hexec hK.aborted (by rw [hws]; exact hrow)
  have hsame : SameTables s.committed { s.committed with uuids := s.committed.uuids + 1 } :=
    ⟨rfl, rfl, Nat.le_succ _⟩
  refine ⟨SqlInv.put (g := .inserted row) h hsame hexcl ?_ (hnext (.ok row.id) _ ⟨row, rfl, rfl⟩),
    hsame⟩
  refine ⟨hK.aborted, ⟨[], by rw [hws]; rfl⟩, ?_, fun hused => absurd hnone hused⟩
  intro row' hrow'
  cases hrow'
  refine ⟨hfor, ?_, ?_⟩
  · rw [hrowid]
    exact Nat.lt_succ_self _
  · rw [hrowid, Table.find?_eq_none_iff]
    exact fun order horder =>
      (Table.find?_eq_none_iff ..).mp hid order (h.state.subset order horder)

/-- A statement after the `INSERT` of the order, which locks what it writes. -/
theorem sqlInv_exec {i : Nat} (hfits : Fits buyerId valid) (h : SqlInv buyerId valid db s)
    (hfree : InsertFree valid s i)
    (hstep : ReadCommitted.step (program buyerId) s (.exec i ()) = some t) :
    SqlInv buyerId valid db t ∧ SameTables s.committed t.committed := by
  have hexcl := exclusive_step h.exclusive (ReadCommitted.step_cases hstep)
  obtain ⟨se, hse, rfl, c, st, k, hprog, hexec⟩ := step_exec hstep
  obtain ⟨g, hK, hpre, hnext⟩ := h.stmt hse hprog
  -- an identifier may have been drawn, nothing else is committed
  have hsame : SameTables s.committed { s.committed with uuids := s.committed.uuids + 1 } :=
    ⟨rfl, rfl, Nat.le_succ _⟩
  have hrefl : SameTables s.committed s.committed := ⟨rfl, rfl, Nat.le_refl _⟩
  cases st with
  | insertOrder b r =>
    obtain ⟨rfl, rfl, rfl, rfl⟩ := hpre
    exact sqlInv_insertOrder hfits h hK (hfree se hse rfl (by rw [hprog]; rfl)) hexec hexcl hnext
  | insertOrderItem o item =>
    obtain ⟨row, rfl, rfl, rfl, hitem⟩ := hpre
    obtain ⟨irow, hirow⟩ := hfits.items item hitem row.id (view orderSql se.writes s.committed)
    obtain ⟨-, rfl⟩ := execStmt_tx_ok hexec hK.aborted hirow
    obtain ⟨items, hws⟩ := hK.writes
    refine ⟨SqlInv.put (g := .inserted row) h hsame hexcl ?_ (hnext (.ok ()) _ rfl), hsame⟩
    have hkept := hK.congr (t := { s with committed := _ }) hsame
    refine ⟨hkept.aborted, ⟨items ++ [irow], ?_⟩, hkept.row, hkept.started⟩
    rw [hws, List.map_append]
    rfl
  | nowV7 =>
    obtain ⟨row, rfl, rfl⟩ := hpre
    obtain ⟨-, rfl⟩ := execStmt_pool_ok hexec (by decide) rfl
    refine ⟨SqlInv.put (g := .identified row _) h hsame hexcl ?_
      (hnext (.ok _) _ ⟨row, rfl, rfl⟩), hsame⟩
    have hkept := hK.congr (t := { s with committed := _ }) hsame
    exact ⟨hkept.aborted, hkept.writes, hkept.row, fun hused => nomatch hkept.started hused⟩
  | insertOutboxRow ins =>
    obtain ⟨row, eventId, rfl, rfl, rfl⟩ := hpre
    obtain ⟨-, rfl⟩ := execStmt_tx_ok hexec hK.aborted rfl
    obtain ⟨items, hws⟩ := hK.writes
    refine ⟨SqlInv.put (g := .written row eventId) h hrefl hexcl ?_
      (hnext (.ok ()) _ ⟨row, eventId, rfl, rfl⟩), hrefl⟩
    refine ⟨hK.aborted, ⟨items, ?_⟩, hK.row, fun hused => nomatch hK.started hused⟩
    rw [hws]
    rfl

omit [SerdeJson] in
theorem view_items (items : List OrderItemEntity) (db : OrderDb) :
    (view orderSql (items.map .orderItem) db).orders = db.orders ∧
      (view orderSql (items.map .orderItem) db).outbox = db.outbox ∧
      (view orderSql (items.map .orderItem) db).uuids = db.uuids := by
  induction items generalizing db with
  | nil => exact ⟨rfl, rfl, rfl⟩
  | cons item items ih => exact ih _

omit [SerdeJson] in
/-- What committing a transaction writes, when its order is new. -/
theorem Progress.Writes.created {row : OrderEntity} {eventId : Uuid} {ws : List Write}
    (h : (Progress.written row eventId).Writes buyerId valid ws) {db' : OrderDb}
    (hfor : RowFor buyerId valid row) (hnone : db'.orders.find? row.id = none)
    (hkey : varchar 255 valid.idempotencyKey = .ok valid.idempotencyKey) :
    CreatedFor buyerId valid db' (view orderSql ws db') row
      (orderCreated eventId row.id buyerId valid) ∧ (view orderSql ws db').uuids = db'.uuids := by
  obtain ⟨items, rfl⟩ := h
  let inserted := view orderSql [.idempotencyKey valid.idempotencyKey, .order row] db'
  obtain ⟨horders, houtbox, huuids⟩ := view_items items inserted
  have hview : view orderSql (.idempotencyKey valid.idempotencyKey :: .order row ::
      items.map .orderItem ++ [.outbox (orderCreated eventId row.id buyerId valid)]) db' =
      { view orderSql (items.map .orderItem) inserted with
        outbox := (view orderSql (items.map .orderItem) inserted).outbox ++
          [orderCreated eventId row.id buyerId valid] } := by
    simp only [view, List.foldl_append, List.foldl_cons, List.foldl_nil, inserted]
    rfl
  rw [hview]
  refine ⟨⟨?_, ?_, hfor.buyer, by rw [hfor.key]; exact hkey, rfl, rfl⟩, huuids⟩
  · show (view orderSql (items.map .orderItem) inserted).orders.rows = db'.orders.rows ++ [row]
    rw [horders]
    exact Table.rows_set_of_none _ hnone
  · show (view orderSql (items.map .orderItem) inserted).outbox ++ _ = _
    rw [houtbox]
    rfl

omit [SerdeJson] in
/-- The key of the calls is found once their order is committed. -/
theorem found_of_createdFor {db' : OrderDb} {order : OrderEntity} {ins : OutboxInsert}
    (h : CreatedFor buyerId valid db db' order ins)
    (hkey : varchar 255 valid.idempotencyKey = .ok valid.idempotencyKey)
    (hnew : Repository.getOrderByIdempotencyKey valid.idempotencyKey db = none) :
    Repository.getOrderByIdempotencyKey valid.idempotencyKey db' = some order := by
  have hsame : order.idempotencyKey = valid.idempotencyKey :=
    Except.ok.inj (h.key.symm.trans hkey)
  unfold Repository.getOrderByIdempotencyKey at hnew ⊢
  rw [h.orders, List.find?_append, hnew]
  simp [hsame]

omit [SerdeJson] in
/-- A transaction that has inserted holds the key. -/
theorem Progress.Writes.key_mem {g : Progress} {ws : List Write} (h : g.Writes buyerId valid ws)
    (hne : g ≠ .started) : .idempotencyKey valid.idempotencyKey ∈ ws := by
  cases g with
  | started => exact absurd rfl hne
  | inserted row =>
    obtain ⟨items, rfl⟩ := h
    exact List.mem_cons_self ..
  | identified row eventId =>
    obtain ⟨items, rfl⟩ := h
    exact List.mem_cons_self ..
  | written row eventId =>
    obtain ⟨items, rfl⟩ := h
    exact List.mem_append_left _ (List.mem_cons_self ..)

/-- Committing a call's transaction: the tables now hold the one order of the calls. -/
theorem sqlInv_commit {i : Nat} {o : Uuid}
    {se : Session orderSql ValidCreateOrderReq AppError Uuid}
    (hkey : varchar 255 valid.idempotencyKey = .ok valid.idempotencyKey)
    (hnew : Repository.getOrderByIdempotencyKey valid.idempotencyKey db = none)
    (h : SqlInv buyerId valid db s) (hfind : s.sessions.find? i = some se)
    (hprog : se.prog = .done (.ok o))
    (hstep : ReadCommitted.step (program buyerId) s (.commit i) = some t) :
    SqlInv buyerId valid db t ∧
      Repository.getOrderByIdempotencyKey valid.idempotencyKey s.committed = none ∧
      ∃ order ins, order.id = o ∧ CreatedFor buyerId valid db t.committed order ins := by
  have hexcl := exclusive_step h.exclusive (ReadCommitted.step_cases hstep)
  obtain ⟨hse, rfl⟩ := (Table.find?_eq_some_iff ..).mp hfind
  obtain ⟨g, hK, row, eventId, rfl, hid⟩ := h.done hse hprog
  cases hid
  obtain ⟨hfor, hserial, hnone⟩ := hK.row row rfl
  -- the key is not committed yet, so the tables are still those before the calls
  have hunused : Repository.getOrderByIdempotencyKey valid.idempotencyKey s.committed = none := by
    by_contra hused
    exact nomatch hK.started hused
  have hphase : s.committed.orders = db.orders ∧ s.committed.outbox = db.outbox := by
    cases h.state.phase with
    | unchanged horders houtbox => exact ⟨horders, houtbox⟩
    | created hcreated =>
      rw [found_of_createdFor hcreated hkey hnew] at hunused
      cases hunused
  have hfresh : s.committed.orders.find? row.id = none := by
    rw [hphase.1]
    exact hnone
  obtain ⟨hcreated, huuids⟩ := hK.writes.created hfor hfresh hkey
  have hcreated' : CreatedFor buyerId valid db (view orderSql se.writes s.committed) row
      (orderCreated eventId row.id buyerId valid) :=
    ⟨by rw [hcreated.orders, hphase.1], by rw [hcreated.outbox, hphase.2], hcreated.buyer,
      hcreated.key, hcreated.eventType, hcreated.payload⟩
  have hids : IdsHandedOut (view orderSql se.writes s.committed) := by
    intro order horder
    rw [hcreated.orders, List.mem_append, List.mem_singleton] at horder
    rw [huuids]
    rcases horder with horder | rfl
    · exact h.state.ids order horder
    · exact hserial
  -- nobody else has inserted, for this transaction holds the key
  have hothers : ∀ x ∈ s.sessions.rows, x.id ≠ se.id → ∀ g, SessionInv buyerId valid db s g x →
      g = .started := by
    intro x hx hne g hKx
    by_contra hg
    have hkeys := h.exclusive x hx se hse hne (.idempotencyKey valid.idempotencyKey)
      (hKx.writes.key_mem hg) (.idempotencyKey valid.idempotencyKey)
      (hK.writes.key_mem (by simp)) rfl
    exact hkeys rfl
  simp only [ReadCommitted.step, hfind, hprog] at hstep
  rw [if_neg (by simp [hK.aborted])] at hstep
  cases hstep
  refine ⟨Inv.drop h hexcl rfl ⟨hids, .created hcreated'⟩ fun x hx hne g hKx => ?_, hunused,
    row, _, rfl, hcreated'⟩
  cases hothers x hx hne g hKx
  exact ⟨hKx.aborted, hKx.writes, by simp [Progress.row?], fun _ => rfl⟩

end Invariant

/-! ## The calls -/

section Calls

variable {user : CurrentUser} {key : String} {req : CreateOrderReq} {valid : ValidCreateOrderReq}
variable {db : OrderDb} {s t : State}

/-- All calls that have come so far agree on one order. -/
structure CallsInv (user : CurrentUser) (valid : ValidCreateOrderReq) (db : OrderDb) (s : State) :
    Prop where
  sql : SqlInv user.id valid db s.sql
  committed : ∀ i o, s.calls i = some (.committed o) →
    ∃ order ins, order.id = o ∧ CreatedFor user.id valid db s.sql.committed order ins
  returned : ∀ i r, s.calls i = some (.returned r) →
    ∃ order ins, r = .ok order ∧ CreatedFor user.id valid db s.sql.committed order ins

/-- When a call executes its `INSERT`, no call has committed the key since its lookup. -/
def KeyFree (valid : ValidCreateOrderReq) (s : State) : Label → Prop
  | .exec i => InsertFree valid s.sql i
  | _ => True

instance (s : State) : ∀ a, Decidable (KeyFree valid s a)
  | .exec i => inferInstanceAs (Decidable (InsertFree valid s.sql i))
  | .lookup _ | .finish _ | .fetch _ => .isTrue trivial

omit [SerdeJson] in
theorem calls_setCall (s : State) (i j : Nat) (c : Call) :
    (s.setCall i c).calls j = if j = i then some c else s.calls j := by
  simp [State.setCall, Function.update_apply]

omit [SerdeJson] in
/-- What is known of the calls after one of them went on. -/
theorem CallsInv.setCall (h : CallsInv user valid db s) {i : Nat} {c : Call}
    (hcommitted : ∀ o, c = .committed o →
      ∃ order ins, order.id = o ∧ CreatedFor user.id valid db s.sql.committed order ins)
    (hreturned : ∀ r, c = .returned r →
      ∃ order ins, r = .ok order ∧ CreatedFor user.id valid db s.sql.committed order ins) :
    CallsInv user valid db (s.setCall i c) where
  sql := h.sql
  committed j o hj := by
    rw [calls_setCall] at hj
    split at hj
    · exact hcommitted o (Option.some.inj hj)
    · exact h.committed j o hj
  returned j r hj := by
    rw [calls_setCall] at hj
    split at hj
    · exact hreturned r (Option.some.inj hj)
    · exact h.returned j r hj

omit [SerdeJson] in
/-- The transactions go on, and the committed tables keep the calls' order. -/
theorem CallsInv.setSql (h : CallsInv user valid db s)
    {sql : ReadCommitted.State orderSql ValidCreateOrderReq AppError Uuid}
    (hsql : SqlInv user.id valid db sql)
    (hcreated : ∀ order ins, CreatedFor user.id valid db s.sql.committed order ins →
      CreatedFor user.id valid db sql.committed order ins) :
    CallsInv user valid db { s with sql } where
  sql := hsql
  committed i o hi := by
    obtain ⟨order, ins, hid, horder⟩ := h.committed i o hi
    exact ⟨order, ins, hid, hcreated order ins horder⟩
  returned i r hi := by
    obtain ⟨order, ins, hr, horder⟩ := h.returned i r hi
    exact ⟨order, ins, hr, hcreated order ins horder⟩

omit [SerdeJson] in
theorem SameTables.created {db₁ db₂ : OrderDb} (h : SameTables db₁ db₂) (order : OrderEntity)
    (ins : OutboxInsert) (hcreated : CreatedFor user.id valid db db₁ order ins) :
    CreatedFor user.id valid db db₂ order ins :=
  ⟨by rw [h.orders, hcreated.orders], by rw [h.outbox, hcreated.outbox], hcreated.buyer,
    hcreated.key, hcreated.eventType, hcreated.payload⟩

/-- A step keeps all calls in agreement. -/
theorem callsInv_step (hadmitted : Admitted key req valid) (hfits : Fits user.id valid)
    (hnew : Repository.getOrderByIdempotencyKey valid.idempotencyKey db = none)
    (h : CallsInv user valid db s) {a : Label} (hfree : KeyFree valid s a)
    (hstep : step user key req s a = some t) : CallsInv user valid db t := by
  have hkey := idempotencyKey_fits (validated_ok hadmitted.validated).1
  cases a with
  | lookup i =>
    simp only [step, validateRequest_ok_iff.mpr hadmitted] at hstep
    split at hstep
    · cases hstep
    split at hstep
    · -- the key is found: it is that of the order of the calls
      rename_i existing hexisting
      cases hstep
      cases h.sql.state.phase with
      | unchanged horders =>
        have hsame : Repository.getOrderByIdempotencyKey valid.idempotencyKey s.sql.committed =
            none := by
          unfold Repository.getOrderByIdempotencyKey at hnew ⊢
          rw [horders]
          exact hnew
        rw [hsame] at hexisting
        cases hexisting
      | created hcreated =>
        have heq := (found_of_createdFor hcreated hkey hnew).symm.trans hexisting
        cases heq
        refine h.setCall (fun o ho => by cases ho) fun r hr => ?_
        cases hr
        exact ⟨_, _, rfl, hcreated⟩
    · -- the key is not found: a transaction begins
      obtain ⟨sql, hsql, rfl⟩ := Option.map_eq_some_iff.mp hstep
      obtain ⟨hinv, hsame⟩ := sqlInv_start hfits h.sql hsql
      refine (h.setSql hinv fun order ins horder => ?_).setCall (fun o ho => by cases ho)
        fun r hr => by cases hr
      rw [hsame]
      exact horder
  | exec i =>
    obtain ⟨sql, hsql, rfl⟩ := Option.map_eq_some_iff.mp hstep
    obtain ⟨hinv, hsame⟩ := sqlInv_exec hfits h.sql hfree hsql
    exact h.setSql hinv hsame.created
  | finish i =>
    simp only [step] at hstep
    split at hstep
    · cases hstep
    rename_i se hfind
    split at hstep
    · cases hstep
    · rename_i o hprog
      obtain ⟨sql, hsql, rfl⟩ := Option.map_eq_some_iff.mp hstep
      obtain ⟨hinv, hunused, order, ins, hid, hcreated⟩ :=
        sqlInv_commit hkey hnew h.sql hfind hprog hsql
      -- no call had committed before
      refine (h.setSql hinv fun order ins horder => ?_).setCall (fun o' ho' => ?_)
        fun r hr => by cases hr
      · rw [found_of_createdFor horder hkey hnew] at hunused
        cases hunused
      · cases ho'
        exact ⟨order, ins, hid, hcreated⟩
    · -- no statement has failed
      rename_i e hprog
      obtain ⟨hse, -⟩ := (Table.find?_eq_some_iff ..).mp hfind
      obtain ⟨g, -, row, eventId, -, hok⟩ := h.sql.done hse hprog
      cases hok
  | fetch i =>
    simp only [step] at hstep
    split at hstep
    · -- the call reads back what it has committed
      rename_i o hcall
      obtain ⟨order, ins, hid, hcreated⟩ := h.committed i o hcall
      have hrow : order ∈ s.sql.committed.orders.rows := by simp [hcreated.orders]
      have hfound : s.sql.committed.find? o = some order :=
        (Table.find?_eq_some_iff ..).mpr ⟨hrow, hid⟩
      rw [hfound] at hstep
      cases hstep
      refine h.setCall (fun o ho => by cases ho) fun r hr => ?_
      cases hr
      exact ⟨order, ins, rfl, hcreated⟩
    · cases hstep

omit [SerdeJson] in
theorem callsInv_start (hids : IdsHandedOut db) : CallsInv user valid db (start db) where
  sql := Inv.init ⟨hids, .unchanged rfl rfl⟩
  committed i o hi := by cases hi
  returned i r hi := by cases hi

/-- As long as no call inserts after the key was committed, one order and one event are committed,
    or none yet, and every call that has returned has returned the order. -/
theorem idempotent_run [SerdeJson.FixedWidthIds] {as : List Label} {db' : OrderDb}
    {order : OrderEntity} (hids : IdsHandedOut db)
    (hok : Order.createOrder user key req db = .ok (order, db'))
    (hadmitted : Admitted key req valid)
    (hnew : Repository.getOrderByIdempotencyKey valid.idempotencyKey db = none)
    (h : Run.run (step user key req) (start db) as = some s)
    (hm : Run.Meets (step user key req) (KeyFree valid) (start db) as) :
    Phase user.id valid db s.sql.committed ∧
    ∀ i r, s.calls i = some (.returned r) →
      ∃ order ins, r = .ok order ∧ CreatedFor user.id valid db s.sql.committed order ins := by
  have hfits := fits_of_createOrder hok hadmitted hnew
  have hinv : CallsInv user valid db s :=
    Run.run_invariant_of_meets
      (fun _ _ _ hinv hfree hstep => callsInv_step hadmitted hfits hnew hinv hfree hstep)
      (callsInv_start hids) hm h
  exact ⟨hinv.sql.state.phase, hinv.returned⟩

end Calls

/-! ## The identifiers of the orders -/

omit [SerdeJson] in
/-- The generator goes on, and the orders keep their identifiers. -/
theorem IdsHandedOut.mono {db db' : OrderDb} (h : IdsHandedOut db)
    (hids : ∀ order' ∈ db'.orders.rows, ∃ order ∈ db.orders.rows, order.id = order'.id)
    (huuids : db.uuids ≤ db'.uuids) : IdsHandedOut db' := by
  intro order' horder'
  obtain ⟨order, horder, hid⟩ := hids order' horder'
  have hlt := h order horder
  rw [← hid]
  omega

omit [SerdeJson] in
theorem idsHandedOut_insertOrder {buyerId o : Uuid} {req : ValidCreateOrderReq} {db db' : OrderDb}
    (hok : Repository.insertOrder buyerId req db = .ok (o, db')) (h : IdsHandedOut db) :
    IdsHandedOut db' := by
  obtain ⟨total, currency, key, orders, -, -, -, -, rfl, hinsert, rfl⟩ := insertOrder_inserts hok
  obtain ⟨-, hrows⟩ := (Table.insert_eq_some ..).mp hinsert
  intro order horder
  change order ∈ orders.rows at horder
  rw [hrows, List.mem_append, List.mem_singleton] at horder
  change order.id.serial < db.uuids + 1
  rcases horder with horder | rfl
  · have hlt := h order horder
    omega
  · exact Nat.lt_succ_self _

omit [SerdeJson] in
theorem idsHandedOut_insertOrderItem {o : Uuid} {item : ValidCreateOrderItem} {db db' : OrderDb}
    {u : Unit} (hok : Repository.insertOrderItem o item db = .ok (u, db')) (h : IdsHandedOut db) :
    IdsHandedOut db' := by
  obtain ⟨_, _, _, _, _, -, -, -, -, -, -, -, -, rfl⟩ := insertOrderItem_inserts hok
  exact h.mono (fun order horder => ⟨order, horder, rfl⟩) (Nat.le_succ _)

omit [SerdeJson] in
theorem keepsIds_updateOrderStatus (o : Uuid) (status : OrderStatus) (reason : Option String) :
    Tx.Keeps IdsHandedOut (Repository.updateOrderStatus o status reason) := by
  intro s t u hok h
  obtain ⟨-, hsome, rfl⟩ := updateOrderStatus_ok.mp hok
  obtain ⟨order, hfind⟩ := Option.isSome_iff_exists.mp hsome
  simp only [OrderDb.writeStatus, Repository.updateStatusWhereId, hfind]
  refine h.mono (fun order' horder' => ?_) (Nat.le_refl _)
  dsimp only at horder'
  rw [Table.mem_modify] at horder'
  rcases horder' with ⟨horder, -⟩ | ⟨order, horder, -, rfl⟩
  · exact ⟨order', horder, rfl⟩
  · exact ⟨order, horder, rfl⟩

theorem keepsIds_writeOrderOutbox (o : Uuid) (eventType : EventType) (payload : Payload)
    (causationId : Option Uuid) :
    Tx.Keeps IdsHandedOut (writeOrderOutbox o eventType payload causationId) := by
  intro s t u hok h
  obtain ⟨-, -, rfl⟩ := writeOrderOutbox_ok.mp hok
  exact h.mono (fun order horder => ⟨order, horder, rfl⟩) (Nat.le_succ _)

theorem keepsIds_createOrderTx (buyerId : Uuid) (valid : ValidCreateOrderReq) :
    Tx.Keeps IdsHandedOut (createOrderTx buyerId valid) := by
  have hcreate : Tx.Keeps IdsHandedOut (Repository.createOrder buyerId valid) :=
    Tx.keeps_bind (Tx.keeps_statement fun _ _ _ => idsHandedOut_insertOrder) fun o =>
      Tx.keeps_bind (Tx.keeps_forM (fun item => Tx.keeps_statement fun _ _ _ =>
        idsHandedOut_insertOrderItem) _) fun _ => Tx.keeps_pure _
  exact Tx.keeps_bind hcreate fun o =>
    Tx.keeps_bind (keepsIds_writeOrderOutbox _ _ _ _) fun _ => Tx.keeps_pure _

theorem keepsIds_handle (env : EventEnvelope) : Tx.Keeps IdsHandedOut (handle env) :=
  keeps_handle keepsIds_updateOrderStatus keepsIds_writeOrderOutbox env

theorem idsHandedOut_step {db db' : OrderDb} {op : Op} (h : IdsHandedOut db)
    (hstep : Order.step db op = some db') : IdsHandedOut db' := by
  cases op with
  | createOrder user key req =>
    simp only [Order.step] at hstep
    split at hstep
    · rename_i order db₂ hok
      cases hstep
      obtain ⟨valid, -, hcases⟩ := createOrder_ok_iff.mp hok
      rcases hcases with ⟨-, rfl⟩ | ⟨-, o, htx, -⟩
      · exact h
      · exact withTransaction_keeps (keepsPool_createOrderTx _ _) (keepsIds_createOrderTx _ _) htx h
    · cases hstep
      exact h
  | cancelOrder user o reason =>
    simp only [Order.step] at hstep
    split at hstep
    · rename_i db₂ hok
      cases hstep
      obtain ⟨order, -, -, htx⟩ := cancelOrder_run hok
      have hkeeps : Tx.Keeps IdsHandedOut
          (cancelOrderTx o order.buyerId (reason.getD "Cancelled by buyer")) :=
        Tx.keeps_bind (keepsIds_updateOrderStatus _ _ _) fun _ => keepsIds_writeOrderOutbox _ _ _ _
      exact withTransaction_keeps (keepsPool_cancelOrderTx _ _ _) hkeeps htx h
    · cases hstep
      exact h
  | handle env =>
    cases hstep
    exact Tx.attempt_keeps (keepsPool_handle env) (keepsIds_handle env) h

/-- The service hands out the identifiers of its orders: what `idempotent_run` assumes of the
    tables is true of all that it reaches, one operation after the other. -/
theorem idsHandedOut_run {ops : List Op} {db : OrderDb}
    (h : Run.run Order.step {} ops = some db) : IdsHandedOut db :=
  Run.run_invariant (fun _ _ _ => idsHandedOut_step) (fun _ horder => by cases horder) h

end Service

/-! ## Two runs -/

/-- The request of the sample order, validated. -/
def sampleValid : ValidCreateOrderReq where
  idempotencyKey := "key-1"
  currency := "USD"
  shippingAddress := { street := "1 Main St", city := "Seoul", state := "", postalCode := "04524",
                       country := "KR" }
  items := [{ productId := ⟨9, 0⟩, skuId := ⟨1, 0⟩, productName := "Mug", skuCode := "MUG-1",
              quantity := 2, sellerId := ⟨9, 1⟩, unitPrice := 10, totalPrice := 20 }]
  totalAmount := 20

theorem admitted_sample : Admitted "key-1" sampleReq sampleValid where
  validated := by
    have h : (ValidCreateOrderReq.new "key-1" sampleReq).toOption = some sampleValid := by
      decide +kernel
    cases hvalid : ValidCreateOrderReq.new "key-1" sampleReq with
    | error e =>
      rw [hvalid] at h
      cases h
    | ok valid =>
      rw [hvalid] at h
      exact congrArg Except.ok (Option.some.inj h)
  passed := by decide +kernel

/-- Two calls look the key up before the first one inserts and commits. -/
def firstCommits : List Label :=
  [.lookup 0, .lookup 1, .exec 0, .exec 0, .exec 0, .exec 0, .finish 0, .fetch 0]

/-- The order that call `i` has returned, if it has. -/
def orderOf (s : State) (i : Nat) : Option OrderEntity :=
  match s.calls i with
  | some (.returned (.ok order)) => some order
  | _ => none

theorem calls_of_orderOf {s : State} {i : Nat} {order : OrderEntity}
    (h : orderOf s i = some order) : s.calls i = some (.returned (.ok order)) := by
  unfold orderOf at h
  split at h
  · rename_i hcall
    cases h
    exact hcall
  · cases h

/-- A third call that comes after the commit is answered with the same order. -/
theorem idempotent_run_third : ∃ s order ins,
    Run.run (step sampleBuyer "key-1" sampleReq) (start {}) (firstCommits ++ [.lookup 2]) = some s ∧
    s.calls 0 = some (.returned (.ok order)) ∧ s.calls 2 = some (.returned (.ok order)) ∧
    CreatedFor sampleBuyer.id sampleValid {} s.sql.committed order ins := by
  have hrun : (Run.run (step sampleBuyer "key-1" sampleReq) (start {})
      (firstCommits ++ [.lookup 2])).map (fun s =>
        (orderOf s 0).isSome && decide (orderOf s 0 = orderOf s 2)) = some true := by
    decide +kernel
  obtain ⟨s, hs, hagree⟩ := Option.map_eq_some_iff.mp hrun
  simp only [Bool.and_eq_true, decide_eq_true_eq] at hagree
  obtain ⟨order, horder⟩ := Option.isSome_iff_exists.mp hagree.1
  have hfirst := calls_of_orderOf horder
  have hthird := calls_of_orderOf (hagree.2.symm.trans horder)
  have hok : (Order.createOrder sampleBuyer "key-1" sampleReq {}).toOption.isSome = true := by
    decide +kernel
  cases hcreated : Order.createOrder sampleBuyer "key-1" sampleReq {} with
  | error e =>
    rw [hcreated] at hok
    cases hok
  | ok p =>
    have hrets := (idempotent_run (by simp [IdsHandedOut]) hcreated admitted_sample rfl hs
      (by decide +kernel)).2
    obtain ⟨order', ins, hret, hfor⟩ := hrets 0 _ hfirst
    cases hret
    exact ⟨s, order, ins, hs, hfirst, hthird, hfor⟩

def hasFailed (s : State) (i : Nat) : Bool :=
  match s.calls i with
  | some (.returned (.error _)) => true
  | _ => false

theorem calls_of_hasFailed {s : State} {i : Nat} (h : hasFailed s i) :
    ∃ e, s.calls i = some (.returned (.error e)) := by
  unfold hasFailed at h
  split at h
  · rename_i e hcall
    exact ⟨e, hcall⟩
  · cases h

/-- The second call is answered with an error, although its order is there. -/
theorem second_call_fails : ∃ s e,
    Run.run (step sampleBuyer "key-1" sampleReq) (start {})
      (firstCommits ++ [.exec 1, .finish 1]) = some s ∧
    s.calls 1 = some (.returned (.error e)) ∧ s.sql.committed.orders.rows.length = 1 := by
  have hrun : (Run.run (step sampleBuyer "key-1" sampleReq) (start {})
      (firstCommits ++ [.exec 1, .finish 1])).map (fun s =>
        (hasFailed s 1, s.sql.committed.orders.rows.length)) = some (true, 1) := by
    decide +kernel
  obtain ⟨s, hs, heq⟩ := Option.map_eq_some_iff.mp hrun
  obtain ⟨hfailed, hlength⟩ := Prod.mk.inj heq
  obtain ⟨e, hcall⟩ := calls_of_hasFailed hfailed
  exact ⟨s, e, hs, hcall, hlength⟩

end Koupang.Order.Creation
