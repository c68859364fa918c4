import Koupang.Model.PaymentInterleaving
import Koupang.Spec.ConsumerAttempt
import Koupang.Spec.PaymentLedger

/-!
# Payment operations under interleaving

The lock of an order keeps two handlers apart from the read of the ledger to the
answer of the gateway. It does not keep them apart until the ledger is
committed: the handler releases the lock, and the consumer commits later. So the
gateway performs one operation on an authorization exactly as long as no handler
finds the payment Authorized after the gateway has performed one.

## Key results

- `toTx_dispatch`: alone, the programs are the functions of `Payment`
- `wp_program`: every program calls the gateway only under the lock, after it has read
- `exclusive_run`: one operation for each authorization
-/

namespace Koupang.Payment.Interleaving

open ReadCommitted

/-! ## The programs alone -/

section Alone

variable {ε : Type} (gateway : PaymentGateway)

/-- A statement alone, given what it does to the tables. -/
theorem toTx_send (onError : String → ε) (s : Stmt)
    {f : PaymentDb → Except String (s.Result × PaymentDb)}
    (h : ∀ db, (s.exec gateway db).map (fun p => (p.1, p.2.foldl Write.apply db)) = f db) :
    (send onError s).toTx gateway = Tx.statement onError f := by
  rw [send, Prog.toTx_send]
  congr 1
  exact funext h

/-- A query alone reads what is committed. -/
theorem toTx_query (onError : String → ε) (s : Stmt) (f : PaymentDb → s.Result)
    (h : ∀ db, s.exec gateway db = .ok (f db, [])) :
    (query onError s).toTx gateway = do
      let pool ← Tx.readPool
      return f pool := by
  rw [query, Prog.toTx_send_pool]
  funext t
  simp only [Tx.onPool, h, Except.map]
  rfl

/-- A call of the gateway alone leaves the tables as they are. -/
theorem toTx_call {α : Type} (s : Stmt) (answer : s.Result → Except GatewayError α) (a : s.Result)
    (h : ∀ db, ∃ ws, s.exec gateway db = .ok (a, ws) ∧ ws.foldl Write.apply db = db) :
    (call s answer : Program ε _).toTx gateway = pure (answer a) := by
  funext t
  obtain ⟨ws, hexec, hview⟩ := h t.db
  simp only [call, Prog.toTx, hexec, view, hview]
  rfl

theorem toTx_authorize (key : IdempotencyKey) (o : Uuid) (amount : Decimal) (currency : String) :
    (call (.authorize key o amount currency) id : Program ε _).toTx gateway =
      pure (gateway.authorize key o amount currency) :=
  toTx_call gateway _ _ _ fun _ => ⟨[], rfl, rfl⟩

theorem toTx_voidApproval (ref : String) :
    (call (.voidApproval ref) id : Program ε _).toTx gateway = pure (gateway.void ref) :=
  toTx_call gateway _ _ _ fun _ => ⟨[], rfl, rfl⟩

theorem toTx_capture (o : Uuid) (ref : String) :
    (call (.capture o ref) id : Program ε _).toTx gateway = pure (gateway.capture ref) := by
  refine toTx_call gateway _ _ _ fun db => ?_
  simp only [Stmt.exec, answered]
  cases gateway.capture ref with
  | ok u => exact ⟨_, rfl, rfl⟩
  | error e => exact ⟨_, rfl, rfl⟩

theorem toTx_void (o : Uuid) (ref : String) :
    (call (.void o ref) id : Program ε _).toTx gateway = pure (gateway.void ref) := by
  refine toTx_call gateway _ _ _ fun db => ?_
  simp only [Stmt.exec, answered]
  cases gateway.void ref with
  | ok u => exact ⟨_, rfl, rfl⟩
  | error e => exact ⟨_, rfl, rfl⟩

theorem execInsertAccount_eq (accountType : AccountType) (referenceId : Uuid) (currency : String)
    (db : PaymentDb) :
    (execInsertAccount accountType referenceId currency db).map
        (fun p => (p.1, p.2.foldl Write.apply db)) =
      LedgerRepo.insertAccount accountType referenceId currency db := by
  unfold execInsertAccount LedgerRepo.insertAccount
  cases varchar 3 currency with
  | error e => rfl
  | ok c =>
    simp only [bind, Except.bind]
    split
    · rfl
    · simp only [nowV7, HasOutbox.setUuids, Table.insert_eq_ite]
      by_cases hid : (db.accounts.find? (nowV7 db).1).isSome = true
      · simp only [nowV7] at hid
        simp only [hid, if_true]
        rfl
      · simp only [nowV7] at hid
        simp only [hid]
        rfl

theorem execInsertTransaction_eq (orderId : Uuid) (transactionType : TransactionType)
    (key : IdempotencyKey) (ref : Option String) (db : PaymentDb) :
    (execInsertTransaction orderId transactionType key ref db).map
        (fun p => (p.1, p.2.foldl Write.apply db)) =
      LedgerRepo.insertTransaction orderId transactionType key ref db := by
  unfold execInsertTransaction LedgerRepo.insertTransaction
  cases ref.mapM (varchar 255) with
  | error e => rfl
  | ok r =>
    simp only [bind, Except.bind]
    split
    · rfl
    · simp only [nowV7, HasOutbox.setUuids, Table.insert_eq_ite]
      by_cases hid : (db.ledgerTransactions.find? (nowV7 db).1).isSome = true
      · simp only [nowV7] at hid
        simp only [hid, if_true]
        rfl
      · simp only [nowV7] at hid
        simp only [hid]
        rfl

theorem execInsertEntry_eq (transactionId accountId : Uuid) (direction : EntryDirection)
    (amount : Decimal) (db : PaymentDb) :
    (execInsertEntry transactionId accountId direction amount db).map
        (fun p => (p.1, p.2.foldl Write.apply db)) =
      LedgerRepo.insertEntry transactionId accountId direction amount db := by
  unfold execInsertEntry LedgerRepo.insertEntry
  cases numeric19_4 amount with
  | error e => rfl
  | ok a =>
    simp only [bind, Except.bind]
    split
    · rfl
    · split
      · rfl
      · split <;> rfl

theorem execSetTransactionStatus_eq (id : Uuid) (status : TransactionStatus) (db : PaymentDb) :
    ((execSetTransactionStatus id status db).1,
        (execSetTransactionStatus id status db).2.foldl Write.apply db) =
      LedgerRepo.setTransactionStatus id status db := by
  unfold execSetTransactionStatus LedgerRepo.setTransactionStatus
  cases hfind : db.ledgerTransactions.find? id with
  | none => rfl
  | some t =>
    simp only [List.foldl_cons, List.foldl_nil, Write.apply,
      db.ledgerTransactions.modify_eq_set hfind]

theorem toTx_getOrCreateAccount (accountType : AccountType) (o : Uuid) (currency : String) :
    (getOrCreateAccount accountType o currency).toTx gateway =
      LedgerRepo.getOrCreateAccount accountType o currency := by
  unfold getOrCreateAccount LedgerRepo.getOrCreateAccount
  rw [Prog.toTx_bind, toTx_send gateway _ (.insertAccount accountType o currency) fun _ =>
    execInsertAccount_eq ..]
  congr 1
  funext account
  cases account with
  | some a => rfl
  | none =>
    exact Prog.toTx_fetchOne (D := paymentSql) gateway _ _
      (Stmt.fetchAccount accountType o currency) id (findAccount accountType o currency)
      fun _ => rfl

theorem toTx_createTransaction (o : Uuid) (type : TransactionType) (key : IdempotencyKey)
    (ref : Option String) : (createTransaction o type key ref).toTx gateway =
      LedgerRepo.createTransaction o type key ref :=
  toTx_send gateway _ (.insertTransaction o type key ref) fun _ => execInsertTransaction_eq ..

theorem toTx_updateTransactionStatus (id : Uuid) (status : TransactionStatus) :
    (updateTransactionStatus id status).toTx gateway =
      LedgerRepo.updateTransactionStatus id status := by
  unfold updateTransactionStatus LedgerRepo.updateTransactionStatus
  rw [Prog.toTx_bind, toTx_send gateway _ (.setTransactionStatus id status) fun db =>
    congrArg Except.ok (execSetTransactionStatus_eq id status db)]
  congr 1
  funext n
  split <;> rfl

theorem toTx_writeEntryPair (id debit credit : Uuid) (amount : Decimal) :
    (writeEntryPair id debit credit amount).toTx gateway =
      Payment.writeEntryPair id debit credit amount := by
  have hentry (accountId : Uuid) (direction : EntryDirection) :
      (createEntry id accountId direction amount).toTx gateway =
        LedgerRepo.createEntry id accountId direction amount :=
    toTx_send gateway _ (.insertEntry id accountId direction amount) fun _ =>
      execInsertEntry_eq ..
  rw [writeEntryPair, Prog.toTx_bind, hentry, hentry]
  rfl

theorem toTx_createAccountPair (o : Uuid) (currency : String) (debitType creditType : AccountType) :
    (createAccountPair o currency debitType creditType).toTx gateway =
      Payment.createAccountPair o currency debitType creditType := by
  unfold createAccountPair Payment.createAccountPair
  simp only [Prog.toTx_bind, toTx_getOrCreateAccount]
  rfl

theorem toTx_listTransactionsByOrder (o : Uuid) :
    (listTransactionsByOrder o).toTx gateway = do
      let pool ← Tx.readPool
      return LedgerRepo.listTransactionsByOrder o pool :=
  toTx_query gateway _ (.listTransactionsByOrder o) _ fun _ => rfl

theorem toTx_ofExcept {α : Type} (r : Except ε α) :
    (Prog.ofExcept r : Program ε α).toTx gateway = Tx.ofExcept r := by
  cases r <;> rfl

section Service

variable [SerdeJson]

theorem toTx_writeOutbox (o : Uuid) (t : EventType) (payload : Payload) :
    (writeOutbox o t payload).toTx gateway = Payment.writeOutbox o t payload := by
  have hinsert (insert : OutboxInsert) :
      (insertOutboxEvent insert).toTx gateway = Koupang.insertOutboxEvent insert := by
    unfold insertOutboxEvent Koupang.insertOutboxEvent
    dsimp only
    split
    · rfl
    · exact toTx_send gateway _ (.insertOutboxRow insert) fun _ => rfl
  unfold writeOutbox Payment.writeOutbox
  rw [Prog.toTx_bind]
  simp only [hinsert]
  rfl

theorem toTx_recordAuthorization (o : Uuid) (amount : Decimal) (currency ref : String) :
    (recordAuthorization o amount currency ref).toTx gateway =
      Payment.recordAuthorization o amount currency ref := by
  unfold recordAuthorization Payment.recordAuthorization
  simp only [Prog.toTx_bind, toTx_createAccountPair, toTx_createTransaction, toTx_writeEntryPair,
    postTransaction, toTx_updateTransactionStatus, toTx_writeOutbox]
  rfl

theorem toTx_recordCapture (o : Uuid) (currency : String) (amount : Decimal)
    (key : IdempotencyKey) (ref : String) :
    (recordCapture o currency amount key ref).toTx gateway =
      Payment.recordCapture o currency amount key ref := by
  unfold recordCapture Payment.recordCapture
  simp only [Prog.toTx_bind, toTx_createAccountPair, toTx_createTransaction, toTx_writeEntryPair,
    postTransaction, toTx_updateTransactionStatus, toTx_writeOutbox]
  rfl

theorem toTx_recordVoid (o authTxId : Uuid) (currency : String) (amount : Decimal)
    (key : IdempotencyKey) :
    (recordVoid o authTxId currency amount key).toTx gateway =
      Payment.recordVoid o authTxId currency amount key := by
  unfold recordVoid Payment.recordVoid
  simp only [Prog.toTx_bind, toTx_createAccountPair, toTx_createTransaction, toTx_writeEntryPair,
    postTransaction, toTx_updateTransactionStatus, toTx_writeOutbox]
  rfl

omit [SerdeJson] in
theorem toTx_findPostedAuthorization (o : Uuid)
    (validate : PaymentState → Except PaymentError Unit) :
    (findPostedAuthorization o validate).toTx gateway =
      Tx.readPool >>= fun pool =>
        Tx.ofExcept (Payment.findPostedAuthorization o validate pool) := by
  unfold findPostedAuthorization
  rw [Prog.toTx_bind, toTx_listTransactionsByOrder]
  funext t
  simp only [bind, EStateM.bind, Tx.readPool, pure, EStateM.pure, Payment.findPostedAuthorization]
  cases validate (LedgerRepo.derivePaymentState (LedgerRepo.listTransactionsByOrder o t.pool)) with
  | error e => rfl
  | ok u =>
    dsimp only
    cases ((LedgerRepo.listTransactionsByOrder o t.pool).find? fun t =>
        t.transactionType = .authorization && t.status = .posted) with
    | none => rfl
    | some authTx =>
      dsimp only
      cases authTx.gatewayReference with
      | none => rfl
      | some ref => rfl

theorem toTx_authorizePaymentOnTx (o : Uuid) (amount : Decimal) (currency : String) :
    (authorizePaymentOnTx o amount currency).toTx gateway =
      Payment.authorizePaymentOnTx gateway o amount currency := by
  unfold authorizePaymentOnTx
  rw [Prog.toTx_bind, toTx_query gateway _ (.getTransactionByIdempotencyKey (.auth o)) _
    fun _ => rfl]
  funext t
  simp only [bind, EStateM.bind, Tx.readPool, pure, EStateM.pure, Payment.authorizePaymentOnTx]
  split
  · rfl
  · refine (congrFun (Prog.toTx_bind gateway (listTransactionsByOrder o) _) t).trans ?_
    rw [toTx_listTransactionsByOrder]
    refine (congrFun (Prog.toTx_bind (D := paymentSql) gateway (Prog.ofExcept
      (validateAuthorization amount currency (t.pool.paymentState o))) _) t).trans ?_
    rw [toTx_ofExcept]
    refine congrFun (congrArg (EStateM.bind _) (funext fun _ => ?_)) t
    refine (Prog.toTx_bind gateway (call (.authorize (.auth o) o amount currency) id) _).trans ?_
    rw [toTx_authorize, pure_bind]
    cases gateway.authorize (.auth o) o amount currency with
    | error gwErr => exact toTx_writeOutbox ..
    | ok result =>
      dsimp only
      split
      · refine (Prog.toTx_bind gateway (call (.voidApproval result.gatewayReference) id) _).trans ?_
        rw [toTx_voidApproval, pure_bind]
        refine (Prog.toTx_bind (D := paymentSql) gateway (writeOutbox o .paymentFailed _)
          _).trans ?_
        rw [toTx_writeOutbox]
        rfl
      · exact toTx_recordAuthorization ..

theorem toTx_captureOnTx (o : Uuid) (retryCount : Nat) (declined : String) :
    (captureOnTx o retryCount declined).toTx gateway =
      Payment.captureOnTx gateway o retryCount declined := by
  unfold captureOnTx Payment.captureOnTx
  rw [Prog.toTx_bind, toTx_findPostedAuthorization, bind_assoc]
  refine congrArg (Tx.readPool >>= ·) (funext fun pool => ?_)
  refine congrArg (Tx.ofExcept _ >>= ·) (funext fun auth => ?_)
  rw [Prog.toTx_bind, toTx_capture, pure_bind]
  cases gateway.capture auth.gatewayRef with
  | ok u => exact toTx_recordCapture ..
  | error gwErr =>
    dsimp only
    split
    · exact toTx_writeOutbox ..
    · exact toTx_writeOutbox ..

theorem toTx_voidPaymentOnTx (o : Uuid) :
    (voidPaymentOnTx o).toTx gateway = Payment.voidPaymentOnTx gateway o := by
  unfold voidPaymentOnTx Payment.voidPaymentOnTx
  rw [Prog.toTx_bind, toTx_findPostedAuthorization, bind_assoc]
  refine congrArg (Tx.readPool >>= ·) (funext fun pool => ?_)
  refine congrArg (Tx.ofExcept _ >>= ·) (funext fun auth => ?_)
  rw [Prog.toTx_bind, toTx_void, pure_bind]
  cases gateway.void auth.gatewayRef with
  | ok u => exact toTx_recordVoid ..
  | error gwErr => rfl

theorem toTx_handleInventoryReserved (env : EventEnvelope) :
    (handleInventoryReserved env).toTx gateway = Payment.handleInventoryReserved gateway env := by
  unfold handleInventoryReserved Payment.handleInventoryReserved
  rw [Prog.toTx_bind, toTx_ofExcept]
  refine congrArg (Tx.ofExcept _ >>= ·) (funext fun o => ?_)
  cases env.payload.totalAmount.bind DecimalText.parse with
  | none => rfl
  | some amount => exact toTx_authorizePaymentOnTx ..

theorem toTx_handleOrderConfirmed (env : EventEnvelope) :
    (handleOrderConfirmed env).toTx gateway = Payment.handleOrderConfirmed gateway env := by
  unfold handleOrderConfirmed Payment.handleOrderConfirmed
  rw [Prog.toTx_bind, toTx_ofExcept]
  exact congrArg (Tx.ofExcept _ >>= ·) (funext fun o => toTx_captureOnTx ..)

theorem toTx_handleOrderCancelled (env : EventEnvelope) :
    (handleOrderCancelled env).toTx gateway = Payment.handleOrderCancelled gateway env := by
  unfold handleOrderCancelled Payment.handleOrderCancelled
  rw [Prog.toTx_bind, toTx_ofExcept]
  refine congrArg (Tx.ofExcept _ >>= ·) (funext fun o => ?_)
  rw [Prog.toTx_bind, toTx_listTransactionsByOrder, bind_assoc]
  refine congrArg (Tx.readPool >>= ·) (funext fun pool => ?_)
  rw [pure_bind, PaymentDb.paymentState]
  cases LedgerRepo.derivePaymentState (LedgerRepo.listTransactionsByOrder o pool) with
  | authorized => exact toTx_voidPaymentOnTx ..
  | new | captured | voided | refunded | pending | failed => rfl

theorem toTx_handleCaptureRetry (env : EventEnvelope) :
    (handleCaptureRetry env).toTx gateway = Payment.handleCaptureRetry gateway env := by
  unfold handleCaptureRetry Payment.handleCaptureRetry
  rw [Prog.toTx_bind, toTx_ofExcept]
  refine congrArg (Tx.ofExcept _ >>= ·) (funext fun o => ?_)
  dsimp only
  split
  · exact toTx_writeOutbox ..
  · exact toTx_captureOnTx ..

/-- Alone, an event is handled as in `Payment`. -/
theorem toTx_dispatch (env : EventEnvelope) :
    Payment.handle gateway env = match env.eventType with
      | .inventoryReserved | .orderConfirmed | .orderCancelled | .paymentCaptureRetryRequested => do
        let _ ← Tx.mapErr (fun e => HandlerError.permanent (toString e))
          (Tx.ofExcept env.payloadOrderId)
        Tx.mapErr (fun e => .transient (toString e)) ((dispatch env).toTx gateway)
      | _ => pure () := by
  unfold Payment.handle dispatch
  cases env.eventType <;> simp only [toTx_handleInventoryReserved, toTx_handleOrderConfirmed,
    toTx_handleOrderCancelled, toTx_handleCaptureRetry]

end Service

end Alone

/-! ## Reads and gateway calls -/

/-- Whether a program knows the payment to be Authorized, by the last read of its order. -/
def Stmt.authorized : (st : Stmt) → Except String st.Result → Bool → Bool
  | .listTransactionsByOrder _ => fun
    | .ok transactions => fun _ => LedgerRepo.derivePaymentState transactions = .authorized
    | .error _ => fun _ => false
  | .capture .. | .void .. => fun _ _ => false
  | _ => fun _ authorized => authorized

/-- Only order `o` is read, and the gateway is called only for it, and only after it was read
    as Authorized. -/
def ledgerProtocol (o : Uuid) : Protocol paymentSql Bool where
  pre authorized c st := match st with
    | .listTransactionsByOrder o' => c = .pool ∧ o' = o
    | .capture o' _ | .void o' _ => c = .client ∧ o' = o ∧ authorized = true
    | _ => True
  next authorized _ st r authorized' := authorized' = st.authorized r authorized

/-- Neither a read of an order nor an operation on its authorization. -/
def Plain (_ : Conn) : Stmt → Prop
  | .listTransactionsByOrder _ | .capture .. | .void .. => False
  | _ => True

section Programs

variable {ε α : Type} {o : Uuid}

theorem wp_of_plain {x : Program ε α} (h : x.Sends Plain) (b : Bool) :
    x.wp (ledgerProtocol o) (fun b' _ => b' = b) b := by
  refine Prog.wp_of_sends h fun c st hst => ?_
  cases st with
  | listTransactionsByOrder => exact hst.elim
  | capture => exact hst.elim
  | void => exact hst.elim
  | _ => exact ⟨trivial, fun _ _ hnext => hnext⟩

theorem sends_call {s : Stmt} {answer : s.Result → Except GatewayError α}
    (h : Plain .client s) : (call s answer : Program ε _).Sends Plain := by
  refine ⟨h, fun r => ?_⟩
  cases r <;> trivial

theorem sends_getOrCreateAccount (accountType : AccountType) (referenceId : Uuid)
    (currency : String) : (getOrCreateAccount accountType referenceId currency).Sends Plain := by
  refine Prog.sends_bind (Prog.sends_send trivial) fun account => ?_
  split
  · trivial
  · exact Prog.sends_fetchOne trivial

theorem sends_updateTransactionStatus (id : Uuid) (status : TransactionStatus) :
    (updateTransactionStatus id status).Sends Plain := by
  refine Prog.sends_bind (Prog.sends_send trivial) fun n => ?_
  split <;> trivial

theorem sends_createAccountPair (orderId : Uuid) (currency : String)
    (debitType creditType : AccountType) :
    (createAccountPair orderId currency debitType creditType).Sends Plain :=
  Prog.sends_bind (sends_getOrCreateAccount ..) fun _ =>
    Prog.sends_bind (sends_getOrCreateAccount ..) fun _ => trivial

theorem sends_writeEntryPair (id debit credit : Uuid) (amount : Decimal) :
    (writeEntryPair id debit credit amount).Sends Plain :=
  Prog.sends_bind (Prog.sends_send trivial) fun _ => Prog.sends_send trivial

section Service

variable [SerdeJson]

theorem sends_writeOutbox (orderId : Uuid) (t : EventType) (payload : Payload) :
    (writeOutbox orderId t payload).Sends Plain := by
  refine Prog.sends_bind (Prog.sends_send trivial) fun eventId => ?_
  unfold insertOutboxEvent
  dsimp only
  split
  · trivial
  · exact Prog.sends_send trivial

/-- What the three recordings share: a transaction, its entries, and the event. -/
theorem sends_record {orderId : Uuid} {type : TransactionType} {key : IdempotencyKey}
    {ref : Option String} {debit credit : Uuid} {amount : Decimal} {t : EventType}
    {payload : LedgerTransactionEntity → Payload} :
    (createTransaction orderId type key ref >>= fun ledgerTx =>
      writeEntryPair ledgerTx.id debit credit amount >>= fun _ =>
      postTransaction ledgerTx.id >>= fun _ =>
      writeOutbox orderId t (payload ledgerTx)).Sends Plain :=
  Prog.sends_bind (Prog.sends_send trivial) fun _ =>
    Prog.sends_bind (sends_writeEntryPair ..) fun _ =>
      Prog.sends_bind (sends_updateTransactionStatus ..) fun _ => sends_writeOutbox ..

theorem sends_recordAuthorization (orderId : Uuid) (amount : Decimal) (currency ref : String) :
    (recordAuthorization orderId amount currency ref).Sends Plain :=
  Prog.sends_bind (sends_createAccountPair ..) fun _ => sends_record

theorem sends_recordCapture (orderId : Uuid) (currency : String) (amount : Decimal)
    (key : IdempotencyKey) (ref : String) :
    (recordCapture orderId currency amount key ref).Sends Plain :=
  Prog.sends_bind (sends_createAccountPair ..) fun _ => sends_record

theorem sends_recordVoid (orderId authTxId : Uuid) (currency : String) (amount : Decimal)
    (key : IdempotencyKey) : (recordVoid orderId authTxId currency amount key).Sends Plain :=
  Prog.sends_bind (sends_updateTransactionStatus ..) fun _ =>
    Prog.sends_bind (sends_createAccountPair ..) fun _ => sends_record

end Service

/-- The protocol is kept, whatever the program ends with. -/
abbrev Keeps (o : Uuid) (x : Program ε α) (b : Bool) : Prop :=
  x.wp (ledgerProtocol o) (fun _ _ => True) b

theorem keeps_of_plain {x : Program ε α} (h : x.Sends Plain) (b : Bool) : Keeps o x b :=
  Prog.wp_mono (wp_of_plain h b) fun _ _ _ => trivial

/-- The posted authorization is found only if the payment was read as Authorized. -/
theorem wp_findPostedAuthorization (o : Uuid) (operation : String) (b : Bool) :
    (findPostedAuthorization o (PaymentState.requireAuthorized operation)).wp (ledgerProtocol o)
      (fun b' r => ∀ auth, r = .ok auth → b' = true) b := by
  refine Prog.wp_bind (Prog.wp_send ⟨rfl, rfl⟩ (fun transactions b' hnext => ?_)
    fun _ _ _ _ => nofun)
  cases (hnext : b' = decide (LedgerRepo.derivePaymentState transactions = .authorized))
  dsimp only
  split
  · exact fun _ => nofun
  · rename_i hvalid
    have hauthorized := requireAuthorized_ok.mp hvalid
    split
    · exact fun _ => nofun
    · split
      · exact fun _ => nofun
      · refine Prog.wp_bind (Prog.wp_send trivial (fun entries b'' hnext => ?_)
          fun _ _ _ _ => nofun)
        cases (hnext : b'' = _)
        exact fun _ _ => decide_eq_true hauthorized

/-- A call of the gateway for an order that was read as Authorized. -/
theorem keeps_call_bind {s : Stmt} {answer : s.Result → Except GatewayError Unit}
    {f : Except GatewayError Unit → Program ε α} {b : Bool}
    (hpre : (ledgerProtocol o).pre b .client s) (hf : ∀ r, (f r).Sends Plain) : Keeps o (call s answer >>= f) b := by
  refine Prog.wp_bind ⟨hpre, fun r b' _ => ?_⟩
  cases r with
  | ok a => exact keeps_of_plain (hf _) b'
  | error e => exact keeps_of_plain (hf _) b'

/-- The order is read, and the program goes on with what it has read. -/
theorem keeps_list_bind {f : List LedgerTransactionEntity → Program AppError α} {b : Bool}
    (hf : ∀ transactions b', Keeps o (f transactions) b') :
    Keeps o (listTransactionsByOrder o >>= f) b :=
  Prog.wp_bind (Prog.wp_send ⟨rfl, rfl⟩ (fun transactions b' _ => hf transactions b')
    fun _ _ _ => trivial)

section Service

variable [SerdeJson]

theorem keeps_captureOnTx (o : Uuid) (retryCount : Nat) (declined : String) (b : Bool) :
    Keeps o (captureOnTx o retryCount declined) b := by
  refine Prog.wp_bind (Prog.wp_mono (wp_findPostedAuthorization o "capture" b) fun b' r h => ?_)
  cases r with
  | error e => trivial
  | ok auth =>
    refine keeps_call_bind ⟨rfl, rfl, h auth rfl⟩ fun r => ?_
    split
    · exact sends_recordCapture ..
    · split
      · exact sends_writeOutbox ..
      · exact sends_writeOutbox ..

theorem keeps_voidPaymentOnTx (o : Uuid) (b : Bool) : Keeps o (voidPaymentOnTx o) b := by
  refine Prog.wp_bind (Prog.wp_mono (wp_findPostedAuthorization o "void" b) fun b' r h => ?_)
  cases r with
  | error e => trivial
  | ok auth =>
    refine keeps_call_bind ⟨rfl, rfl, h auth rfl⟩ fun r => ?_
    split
    · trivial
    · exact sends_recordVoid ..

theorem keeps_authorizePaymentOnTx (o : Uuid) (amount : Decimal) (currency : String) (b : Bool) :
    Keeps o (authorizePaymentOnTx o amount currency) b := by
  refine Prog.wp_bind (Prog.wp_send trivial (fun existing b' _ => ?_) fun _ _ _ => trivial)
  dsimp only
  split
  · trivial
  · refine keeps_list_bind fun transactions b' => keeps_of_plain ?_ b'
    refine Prog.sends_bind_done fun _ _ => Prog.sends_bind (sends_call trivial) fun r => ?_
    split
    · split
      · exact Prog.sends_bind (sends_call trivial) fun _ =>
          Prog.sends_bind (sends_writeOutbox ..) fun _ => trivial
      · exact sends_recordAuthorization ..
    · exact sends_writeOutbox ..

omit [SerdeJson] in
/-- The order of the event is read from its payload first. -/
theorem keeps_payloadOrderId_bind {env : EventEnvelope} (ho : env.payloadOrderId = .ok o)
    {f : Uuid → Program AppError α} {b : Bool} (hf : Keeps o (f o) b) :
    Keeps o (Prog.ofExcept env.payloadOrderId >>= f) b := by
  rw [ho]
  exact hf

/-- Whatever an event is dispatched to reads and calls the gateway for the order of the event. -/
theorem keeps_dispatch {env : EventEnvelope} (ho : env.payloadOrderId = .ok o) (b : Bool) :
    Keeps o (dispatch env) b := by
  unfold dispatch
  split
  · refine keeps_payloadOrderId_bind ho ?_
    split
    · trivial
    · exact keeps_authorizePaymentOnTx ..
  · exact keeps_payloadOrderId_bind ho (keeps_captureOnTx ..)
  · refine keeps_payloadOrderId_bind ho (keeps_list_bind fun transactions b' => ?_)
    -- the order is read once more before the void
    split
    · exact keeps_voidPaymentOnTx ..
    · trivial
  · refine keeps_payloadOrderId_bind ho ?_
    dsimp only
    split
    · exact keeps_of_plain (sends_writeOutbox ..) b
    · exact keeps_captureOnTx ..
  · trivial

end Service

end Programs

/-! ## Under the lock -/

/-- Where a consumer instance is with the lock. -/
inductive Phase where
  | outside
  /-- it holds the lock of an order, and has read it as Authorized or not -/
  | holding (orderId : Uuid) (authorized : Bool)

/-- An instance with the token it locks with. -/
structure Holder where
  token : Option Uuid
  phase : Phase

/-- An order is read, and the gateway called for it, only by who holds its lock. The lock is
    acquired with the token of the instance, and released by who holds it. -/
def lockProtocol : Protocol lockedSql Holder where
  pre g c st := match st with
    | .sql st => match g.phase with
      | .outside => Plain c st
      | .holding o b => (ledgerProtocol o).pre b c st
    | .acquire _ token => c = .client ∧ g = ⟨some token, .outside⟩
    | .release o token => c = .client ∧ ∃ b, g = ⟨some token, .holding o b⟩
    | .expire _ => c = .client ∧ g.phase = .outside
  next g c st r g' := match st, r with
    | .sql st, r => match g.phase with
      | .outside => g' = g
      | .holding o b => ∃ b', (ledgerProtocol o).next b c st r b' ∧ g' = ⟨g.token, .holding o b'⟩
    | .acquire o _, .ok true => g' = ⟨g.token, .holding o false⟩
    | .acquire .., .ok false => g' = g
    | .release .., .ok _ => g' = ⟨g.token, .outside⟩
    -- Redis is available
    | .acquire .., .error _ | .release .., .error _ => False
    | .expire _, _ => g' = g

/-- A program that keeps to the protocol of order `o`, run by who holds its lock. -/
theorem wp_underLock {ε α : Type} {o : Uuid} {token : Option Uuid} {x : Program ε α} {b : Bool}
    (h : Keeps o x b) :
    (underLock x).wp lockProtocol (fun g _ => ∃ b, g = ⟨token, .holding o b⟩)
      ⟨token, .holding o b⟩ := by
  induction x generalizing b with
  | done r => exact ⟨b, rfl⟩
  | stmt c s k ih =>
    refine ⟨h.1, ?_⟩
    rintro r g' ⟨b', hnext, rfl⟩
    exact ih r (h.2 r b' hnext)

section Service

variable [SerdeJson]

theorem wp_handleLocked (token o : Uuid) {env : EventEnvelope} (ho : env.payloadOrderId = .ok o) :
    (handleLocked token o env).wp lockProtocol (fun _ _ => True) ⟨some token, .outside⟩ := by
  refine Prog.wp_bind ⟨⟨rfl, rfl⟩, fun r g' hnext => ?_⟩
  match r with
  | .ok false => trivial
  | .ok true =>
    cases (hnext : g' = ⟨some token, .holding o false⟩)
    refine Prog.wp_bind (Prog.wp_attempt (Prog.wp_mono (wp_underLock (keeps_dispatch ho false)) ?_))
    rintro g r ⟨b, rfl⟩
    exact Prog.wp_bind ⟨⟨rfl, b, rfl⟩, fun _ _ _ => trivial⟩
  | .error e => exact hnext.elim

theorem wp_handle (token : Uuid) (env : EventEnvelope) :
    (handle token env).wp lockProtocol (fun _ _ => True) ⟨some token, .outside⟩ := by
  have hlocked : ((Prog.ofExcept env.payloadOrderId).mapErr
      (fun e : AppError => HandlerError.permanent (toString e)) >>= fun orderId =>
        handleLocked token orderId env).wp lockProtocol (fun _ _ => True)
      ⟨some token, .outside⟩ := by
    cases ho : env.payloadOrderId with
    | error e => trivial
    | ok o => exact wp_handleLocked token o ho
  unfold handle
  split
  · exact hlocked
  · exact hlocked
  · exact hlocked
  · exact hlocked
  · trivial

/-- The token of a consumer instance. -/
def tokenOf : Request → Option Uuid
  | .consume token _ _ => some token
  | .expire _ => none

/-- Every program calls the gateway only under the lock of the order, and only after it has
    read the order as Authorized there. -/
theorem wp_program (request : Request) :
    (program request).wp (Consumer.liftProtocol lockProtocol) (fun _ _ => True)
      ⟨tokenOf request, .outside⟩ := by
  cases request with
  | consume token now env =>
    refine Prog.wp_bind (Prog.wp_send trivial (fun _ g' hnext => ?_) fun _ _ _ => trivial)
    cases (hnext : g' = ⟨some token, .outside⟩)
    refine Consumer.wp_tryProcessOnceOnTx_lift trivial trivial
      (Prog.wp_mono (wp_handle token env) fun _ r _ => ?_)
    cases r with
    | ok u => exact ⟨trivial, trivial⟩
    | error e => trivial
  | expire o =>
    exact Prog.wp_bind ⟨⟨rfl, rfl⟩, fun _ _ _ => trivial⟩

end Service

/-! ## What Redis holds and what the gateway has done -/

/-- One lock an order, and one operation on its authorization. -/
structure Exclusion (db : LockedDb) : Prop where
  locks : (db.locks.map Prod.fst).Nodup
  log : (db.log.map Prod.fst).Nodup

/-- Who is in a lock holds it, and who knows an order to be Authorized is before any operation
    on it. -/
def Holder.Holds (db : LockedDb) (g : Holder) : Prop :=
  ∀ o b, g.phase = .holding o b → ∃ token, g.token = some token ∧ (o, token) ∈ db.locks ∧
    (b = true → o ∉ db.log.map Prod.fst)

namespace Exclusion

variable {db : LockedDb}

/-- A lock is held with one token. -/
theorem token_eq (h : Exclusion db) {o token token' : Uuid} (hl : (o, token) ∈ db.locks)
    (hl' : (o, token') ∈ db.locks) : token = token' := by
  have heq := List.inj_on_of_nodup_map h.locks hl hl' rfl
  exact congrArg Prod.snd heq

/-- Two that hold the lock of one order are the same. -/
theorem holder_eq (h : Exclusion db) {g g' : Holder} (hg : g.Holds db) (hg' : g'.Holds db)
    {o : Uuid} {b b' : Bool} (hphase : g.phase = .holding o b)
    (hphase' : g'.phase = .holding o b') : g.token = g'.token ∧ g.token ≠ none := by
  obtain ⟨token, htoken, hl, -⟩ := hg o b hphase
  obtain ⟨token', htoken', hl', -⟩ := hg' o b' hphase'
  rw [htoken, htoken', h.token_eq hl hl']
  exact ⟨rfl, nofun⟩

theorem lock (h : Exclusion db) {o : Uuid} (hfree : ∀ l ∈ db.locks, l.1 ≠ o) (token : Uuid) :
    Exclusion { db with locks := (o, token) :: db.locks } := by
  refine ⟨List.nodup_cons.mpr ⟨fun hmem => ?_, h.locks⟩, h.log⟩
  obtain ⟨l, hl, heq⟩ := List.mem_map.mp hmem
  exact hfree l hl heq

theorem unlock (h : Exclusion db) (p : Uuid × Uuid → Bool) :
    Exclusion { db with locks := db.locks.filter p } :=
  ⟨(List.filter_sublist.map _).nodup h.locks, h.log⟩

theorem perform (h : Exclusion db) {o : Uuid} (hfresh : o ∉ db.log.map Prod.fst) (op : GatewayOp) :
    Exclusion { db with log := db.log ++ [(o, op)] } := by
  refine ⟨h.locks, ?_⟩
  rw [List.map_append, List.nodup_append]
  refine ⟨h.log, List.nodup_singleton _, ?_⟩
  rintro x hx y hy rfl
  cases List.mem_singleton.mp hy
  exact hfresh hx

end Exclusion

namespace Holder.Holds

variable {db : LockedDb} {g : Holder}

theorem of_outside (h : g.phase = .outside) : g.Holds db := by
  intro o b hphase
  rw [h] at hphase
  exact nomatch hphase

theorem lock (h : g.Holds db) (l : Uuid × Uuid) :
    g.Holds { db with locks := l :: db.locks } := by
  intro o b hphase
  obtain ⟨token, htoken, hl, hlog⟩ := h o b hphase
  exact ⟨token, htoken, List.mem_cons_of_mem _ hl, hlog⟩

/-- Locks that are not held by `g` are dropped. -/
theorem unlock (h : g.Holds db) {p : Uuid × Uuid → Bool}
    (hp : ∀ l ∈ db.locks, g.token = some l.2 → p l = true) :
    g.Holds { db with locks := db.locks.filter p } := by
  intro o b hphase
  obtain ⟨token, htoken, hl, hlog⟩ := h o b hphase
  exact ⟨token, htoken, List.mem_filter.mpr ⟨hl, hp _ hl htoken⟩, hlog⟩

/-- The gateway performs an operation on an order whose lock `g` does not hold. -/
theorem perform (h : g.Holds db) {o : Uuid} (hne : ∀ b, g.phase ≠ .holding o b) (op : GatewayOp) :
    g.Holds { db with log := db.log ++ [(o, op)] } := by
  intro o' b hphase
  obtain ⟨token, htoken, hl, hlog⟩ := h o' b hphase
  refine ⟨token, htoken, hl, fun hb hmem => ?_⟩
  rw [List.map_append, List.mem_append] at hmem
  rcases hmem with hmem | hmem
  · exact hlog hb hmem
  · cases List.mem_singleton.mp hmem
    exact hne b hphase

end Holder.Holds

/-! ## What a statement does to them -/

/-- A write that leaves the locks and the log of the gateway alone. -/
def LockWrite.Quiet : LockWrite → Prop
  | .sql (.gateway ..) | .lock .. | .unlock .. => False
  | .sql _ => True

/-- What is committed or rolled back with a transaction is quiet. -/
theorem LockWrite.quiet_of_key {w : LockWrite} (h : w.key.isSome) : w.Quiet := by
  cases w with
  | sql w =>
    cases w with
    | gateway => exact nomatch h
    | _ => trivial
  | lock => exact nomatch h
  | unlock => exact nomatch h

theorem LockWrite.Quiet.apply {w : LockWrite} (h : w.Quiet) (db : LockedDb) :
    (w.apply db).locks = db.locks ∧ (w.apply db).log = db.log := by
  cases w with
  | sql w =>
    cases w with
    | gateway => exact h.elim
    | _ => exact ⟨rfl, rfl⟩
  | lock => exact h.elim
  | unlock => exact h.elim

theorem quiet_view {ws : List LockWrite} (db : LockedDb) (h : ∀ w ∈ ws, w.Quiet) :
    (view lockedSql ws db).locks = db.locks ∧ (view lockedSql ws db).log = db.log := by
  induction ws generalizing db with
  | nil => exact ⟨rfl, rfl⟩
  | cons w ws ih =>
    obtain ⟨hlocks, hlog⟩ := (h w (List.mem_cons_self ..)).apply db
    obtain ⟨hlocks', hlog'⟩ := ih (w.apply db) fun w' hw' => h w' (List.mem_cons_of_mem _ hw')
    exact ⟨hlocks'.trans hlocks, hlog'.trans hlog⟩

/-- The operation on an authorization that a statement asks the gateway for. -/
def Stmt.operation : Stmt → Option (Uuid × GatewayOp)
  | .capture o _ => some (o, .capture)
  | .void o _ => some (o, .void)
  | _ => none

variable {gateway : PaymentGateway}

theorem quiet_exec {st : Stmt} (hst : st.operation = none) {db : PaymentDb} {a : st.Result}
    {ws : List Write} (hexec : st.exec gateway db = .ok (a, ws)) :
    ∀ w ∈ ws, (LockWrite.sql w).Quiet := by
  have hnil : ∀ w ∈ ([] : List Write), (LockWrite.sql w).Quiet := List.forall_mem_nil _
  cases st with
  | capture => exact nomatch hst
  | void => exact nomatch hst
  | insertAccount accountType referenceId currency =>
    simp only [Stmt.exec, execInsertAccount, Except.bind_eq_ok] at hexec
    obtain ⟨c, -, hexec⟩ := hexec
    split at hexec
    · cases hexec
      exact hnil
    · split at hexec
      · exact absurd hexec Except.throw_ne_ok
      · cases hexec
        simp [LockWrite.Quiet]
  | insertTransaction orderId transactionType key ref =>
    simp only [Stmt.exec, execInsertTransaction, Except.bind_eq_ok] at hexec
    obtain ⟨r, -, hexec⟩ := hexec
    split at hexec
    · exact absurd hexec Except.throw_ne_ok
    · split at hexec
      · exact absurd hexec Except.throw_ne_ok
      · cases hexec
        simp [LockWrite.Quiet]
  | insertEntry transactionId accountId direction amount =>
    simp only [Stmt.exec, execInsertEntry, Except.bind_eq_ok] at hexec
    obtain ⟨r, -, hexec⟩ := hexec
    split at hexec
    · exact absurd hexec Except.throw_ne_ok
    · split at hexec
      · exact absurd hexec Except.throw_ne_ok
      · split at hexec
        · exact absurd hexec Except.throw_ne_ok
        · cases hexec
          simp [LockWrite.Quiet]
  | setTransactionStatus id status =>
    simp only [Stmt.exec, execSetTransactionStatus] at hexec
    split at hexec
    · cases hexec
      exact hnil
    · cases hexec
      simp [LockWrite.Quiet]
  | startTransaction token now =>
    cases hexec
    simp [LockWrite.Quiet]
  | nowV7 =>
    cases hexec
    simp [LockWrite.Quiet]
  | insertOutboxRow insert =>
    cases hexec
    simp [LockWrite.Quiet]
  | _ =>
    cases hexec
    exact hnil

theorem answered_writes (o : Uuid) (op : GatewayOp) (answer : Except GatewayError Unit) :
    (answered o op answer).2 = [] ∨ (answered o op answer).2 = [.gateway o op] := by
  cases answer with
  | ok u => exact .inr rfl
  | error e => exact .inl rfl

/-- What the gateway has done when it is asked for an operation. -/
theorem exec_operation {st : Stmt} {o : Uuid} {op : GatewayOp} (hst : st.operation = some (o, op))
    {db : PaymentDb} {a : st.Result} {ws : List Write}
    (hexec : st.exec gateway db = .ok (a, ws)) : ws = [] ∨ ws = [.gateway o op] := by
  cases st with
  | capture o' ref =>
    cases hst
    obtain rfl : (answered o _ (gateway.capture ref)).2 = ws :=
      congrArg Prod.snd (Except.ok.inj hexec)
    exact answered_writes ..
  | void o' ref =>
    cases hst
    obtain rfl : (answered o _ (gateway.void ref)).2 = ws :=
      congrArg Prod.snd (Except.ok.inj hexec)
    exact answered_writes ..
  | _ => exact nomatch hst

theorem exclusion_congr {db db' : LockedDb} (hlocks : db'.locks = db.locks)
    (hlog : db'.log = db.log) : Exclusion db' ↔ Exclusion db := by
  constructor
  · exact fun h => ⟨hlocks ▸ h.locks, hlog ▸ h.log⟩
  · exact fun h => ⟨hlocks ▸ h.locks, hlog ▸ h.log⟩

theorem holds_congr {db db' : LockedDb} (hlocks : db'.locks = db.locks) (hlog : db'.log = db.log)
    (g : Holder) : g.Holds db' ↔ g.Holds db := by
  unfold Holder.Holds
  rw [hlocks, hlog]

/-- A program knows an order to be Authorized because it did before, or by reading it. -/
theorem authorized_cases {st : Stmt} {db : PaymentDb} {a : st.Result} {ws : List Write}
    (hexec : st.exec gateway db = .ok (a, ws)) {b : Bool} (h : st.authorized (.ok a) b = true) :
    (b = true ∧ st.operation = none) ∨
      ∃ o, st = .listTransactionsByOrder o ∧ db.paymentState o = .authorized := by
  cases st with
  | listTransactionsByOrder o =>
    cases hexec
    exact .inr ⟨o, rfl, of_decide_eq_true h⟩
  | capture => exact nomatch h
  | void => exact nomatch h
  | _ => exact .inl ⟨h, rfl⟩

/-- A statement of a transaction is quiet and teaches nothing. -/
theorem exec_tx {g : Holder} {st : LockStmt} (hpre : lockProtocol.pre g .tx st) {db : LockedDb}
    {a : st.Result} {ws : List LockWrite} (hexec : st.exec gateway db = .ok (a, ws)) :
    (∀ w ∈ ws, w.Quiet) ∧ lockProtocol.next g .tx st (.ok a) g := by
  cases st with
  | acquire => exact nomatch hpre.1
  | release => exact nomatch hpre.1
  | expire => exact nomatch hpre.1
  | sql st =>
    have hplain : st.operation = none ∧ ∀ b, st.authorized (.ok a) b = b := by
      obtain ⟨token, phase⟩ := g
      cases phase with
      | outside =>
        cases st with
        | listTransactionsByOrder => exact hpre.elim
        | capture => exact hpre.elim
        | void => exact hpre.elim
        | _ => exact ⟨rfl, fun _ => rfl⟩
      | holding o b =>
        cases st with
        | listTransactionsByOrder => exact nomatch hpre.1
        | capture => exact nomatch hpre.1
        | void => exact nomatch hpre.1
        | _ => exact ⟨rfl, fun _ => rfl⟩
    obtain ⟨p, hst, hp⟩ := Except.map_eq_ok.mp hexec
    cases hp
    refine ⟨fun w hw => ?_, ?_⟩
    · obtain ⟨w', hw', rfl⟩ := List.mem_map.mp hw
      exact quiet_exec hplain.1 hst w' hw'
    · obtain ⟨token, phase⟩ := g
      cases phase with
      | outside => rfl
      | holding o b => exact ⟨b, (hplain.2 b).symm, rfl⟩

/-- A call of Redis. -/
def LockStmt.callsRedis : LockStmt → Bool
  | .acquire .. | .release .. => true
  | _ => false

theorem callsRedis_of_tx {g : Holder} {st : LockStmt} (hpre : lockProtocol.pre g .tx st) :
    st.callsRedis = false := by
  cases st with
  | acquire => exact nomatch hpre.1
  | release => exact nomatch hpre.1
  | sql => rfl
  | expire => rfl

/-- Redis answers, if it is reached. -/
theorem callsRedis_of_error {st : LockStmt} {db : LockedDb} {e : String}
    (hexec : st.exec gateway db = .error e) : st.callsRedis = false := by
  cases st with
  | acquire =>
    simp only [LockStmt.exec] at hexec
    split at hexec
    · exact nomatch hexec
    · exact nomatch hexec
  | release => exact nomatch hexec
  | sql => rfl
  | expire => rfl

/-- An error teaches nothing. -/
theorem next_error {g : Holder} {c : Conn} {st : LockStmt} (hredis : st.callsRedis = false)
    (e : String) : ∃ g', lockProtocol.next g c st (.error e) g' ∧ g'.token = g.token ∧
      ∀ db, g.Holds db → g'.Holds db := by
  cases st with
  | acquire => exact nomatch hredis
  | release => exact nomatch hredis
  | expire o => exact ⟨g, rfl, rfl, fun _ h => h⟩
  | sql st =>
    obtain ⟨token, phase⟩ := g
    cases phase with
    | outside => exact ⟨_, rfl, rfl, fun _ h => h⟩
    | holding o b =>
      refine ⟨_, ⟨_, rfl, rfl⟩, rfl, fun db h => ?_⟩
      rintro o' b' ⟨⟩
      obtain ⟨token, htoken, hl, hlog⟩ := h o b rfl
      refine ⟨token, htoken, hl, fun hb => hlog ?_⟩
      cases st with
      | listTransactionsByOrder => exact nomatch hb
      | capture => exact nomatch hb
      | void => exact nomatch hb
      | _ => exact hb

theorem view_unlock (ls : List (Uuid × Uuid)) (db : LockedDb) :
    view lockedSql (ls.map fun l => .unlock l.1 l.2) db =
      { db with locks := db.locks.filter (· ∉ ls) } := by
  induction ls generalizing db with
  | nil => simp [view]
  | cons l ls ih =>
    refine (ih _).trans ?_
    simp only [LockWrite.apply, List.filter_filter, List.mem_cons, not_or, Bool.decide_and]
    congr 2
    funext l'
    exact Bool.and_comm ..

/-- What a statement of `g` on a connection of its own has done: everybody who does not lock
    with the token of `g` still holds what he held. -/
structure Outcome (db db' : LockedDb) (st : LockStmt) (g g' : Holder) : Prop where
  exclusion : Exclusion db'
  token : g'.token = g.token
  holds : g'.Holds db'
  others : ∀ h : Holder, h.Holds db → (h.token = g.token → h.token = none) →
    (∀ o, st = .expire o → ∀ l ∈ db.locks, l.1 = o → h.token ≠ some l.2) → h.Holds db'

section Outcome

variable {db : LockedDb} {g : Holder} {c : Conn}

/-- The gateway is asked for an operation. -/
theorem outcome_operation (h : Exclusion db) (hg : g.Holds db) {st : Stmt}
    {p : Uuid × GatewayOp} (hst : st.operation = some p) (hpre : lockProtocol.pre g c (.sql st))
    {a : st.Result} {ws : List Write} (hexec : st.exec gateway db.db = .ok (a, ws)) :
    ∃ g', lockProtocol.next g c (.sql st) (.ok a) g' ∧
      Outcome db (view lockedSql (ws.map .sql) db) (.sql st) g g' := by
  obtain ⟨o, op⟩ := p
  obtain ⟨token, phase⟩ := g
  cases phase with
  | outside => cases st with
    | capture => exact hpre.elim
    | void => exact hpre.elim
    | _ => exact nomatch hst
  | holding o' b =>
    -- it is asked for the order whose lock is held, which was read as Authorized
    obtain ⟨rfl, rfl, hforget⟩ : o' = o ∧ b = true ∧ st.authorized (.ok a) b = false := by
      cases st with
      | capture =>
        cases hst
        exact ⟨hpre.2.1.symm, hpre.2.2, rfl⟩
      | void =>
        cases hst
        exact ⟨hpre.2.1.symm, hpre.2.2, rfl⟩
      | _ => exact nomatch hst
    obtain ⟨t, ht, hl, hlog⟩ := hg o' true rfl
    have hself (log : List (Uuid × GatewayOp)) :
        Holder.Holds { db with log } ⟨token, .holding o' false⟩ := by
      rintro o b ⟨⟩
      exact ⟨t, ht, hl, nofun⟩
    -- nobody else is in the lock of this order
    have hothers (x : Holder) (hx : x.Holds db) (htoken : x.token = token → x.token = none)
        (b : Bool) : x.phase ≠ .holding o' b := by
      intro hphase
      obtain ⟨heq, hne⟩ := h.holder_eq hx hg hphase rfl
      exact hne (htoken heq)
    refine ⟨_, ⟨_, rfl, rfl⟩, ?_⟩
    rw [hforget]
    rcases exec_operation hst hexec with rfl | rfl
    · exact ⟨h, rfl, hself db.log, fun _ hx _ _ => hx⟩
    · exact ⟨h.perform (hlog rfl) op, rfl, hself _, fun x hx htoken _ =>
        hx.perform (hothers x hx htoken) op⟩

/-- A statement on the tables that asks the gateway for no operation. -/
theorem outcome_quiet (h : Exclusion db) (hg : g.Holds db) {st : Stmt}
    (hst : st.operation = none) (hpre : lockProtocol.pre g c (.sql st))
    (hread : ∀ o, st = .listTransactionsByOrder o → db.db.paymentState o = .authorized →
      o ∉ db.log.map Prod.fst)
    {a : st.Result} {ws : List Write} (hexec : st.exec gateway db.db = .ok (a, ws)) :
    ∃ g', lockProtocol.next g c (.sql st) (.ok a) g' ∧
      Outcome db (view lockedSql (ws.map .sql) db) (.sql st) g g' := by
  have hquiet : ∀ w ∈ ws.map LockWrite.sql, w.Quiet := by
    intro w hw
    obtain ⟨w', hw', rfl⟩ := List.mem_map.mp hw
    exact quiet_exec hst hexec w' hw'
  obtain ⟨hlocks, hlog⟩ := quiet_view db hquiet
  have hexcl := (exclusion_congr hlocks hlog).mpr h
  have hothers (x : Holder) (hx : x.Holds db) := (holds_congr hlocks hlog x).mpr hx
  obtain ⟨token, phase⟩ := g
  cases phase with
  | outside => exact ⟨_, rfl, hexcl, rfl, hothers _ hg, fun x hx _ _ => hothers x hx⟩
  | holding o b =>
    refine ⟨_, ⟨_, rfl, rfl⟩, hexcl, rfl, hothers _ ?_, fun x hx _ _ => hothers x hx⟩
    rintro o' b' ⟨⟩
    obtain ⟨t, ht, hl, hfresh⟩ := hg o b rfl
    refine ⟨t, ht, hl, fun hb => ?_⟩
    rcases authorized_cases hexec hb with ⟨hb, -⟩ | ⟨o', rfl, hstate⟩
    · exact hfresh hb
    · cases hpre.2
      exact hread o rfl hstate

/-- A statement that is not sent on the transaction. -/
theorem outcome_exec (h : Exclusion db) (hg : g.Holds db) {st : LockStmt}
    (hpre : lockProtocol.pre g c st)
    (hread : ∀ o, st = .sql (.listTransactionsByOrder o) → db.db.paymentState o = .authorized →
      o ∉ db.log.map Prod.fst)
    {a : st.Result} {ws : List LockWrite} (hexec : st.exec gateway db = .ok (a, ws)) :
    ∃ g', lockProtocol.next g c st (.ok a) g' ∧ Outcome db (view lockedSql ws db) st g g' := by
  cases st with
  | sql st =>
    obtain ⟨p, hst, hp⟩ := Except.map_eq_ok.mp hexec
    cases hp
    cases hop : st.operation with
    | none => exact outcome_quiet h hg hop hpre (fun o ho => hread o (congrArg _ ho)) hst
    | some p => exact outcome_operation h hg hop hpre hst
  | acquire o token =>
    obtain ⟨-, rfl⟩ := hpre
    simp only [LockStmt.exec] at hexec
    split at hexec
    · cases hexec
      exact ⟨_, rfl, h, rfl, hg, fun _ hx _ _ => hx⟩
    · rename_i hlocked
      cases hexec
      have hfree : ∀ l ∈ db.locks, l.1 ≠ o := fun l hl heq =>
        hlocked (List.any_eq_true.mpr ⟨l, hl, decide_eq_true heq⟩)
      refine ⟨_, rfl, h.lock hfree token, rfl, ?_, fun _ hx _ _ => hx.lock _⟩
      rintro o' b' ⟨⟩
      exact ⟨token, rfl, List.mem_cons_self .., nofun⟩
  | release o token =>
    obtain ⟨-, b, rfl⟩ := hpre
    cases hexec
    refine ⟨_, rfl, h.unlock _, rfl, .of_outside rfl, fun x hx htoken _ => hx.unlock ?_⟩
    -- the others lock with other tokens
    intro l _ hl
    have hne : l ≠ (o, token) := by
      rintro rfl
      exact nomatch hl.symm.trans (htoken hl)
    exact decide_eq_true hne
  | expire o =>
    cases hexec
    rw [view_unlock]
    refine ⟨g, rfl, h.unlock _, rfl, .of_outside hpre.2, fun x hx _ hexpire => hx.unlock ?_⟩
    intro l hl htoken
    have hne : l ∉ db.locks.filter (·.1 = o) := by
      intro hmem
      have ho : l.1 = o := by simpa using (List.mem_filter.mp hmem).2
      exact hexpire o rfl l hl ho htoken
    exact decide_eq_true hne

end Outcome

/-! ## Runs -/

abbrev Instance := Session consumerSql Request Consumer.AttemptResult Consumer.AttemptResult

/-- The next statement of a session on the tables, the gateway or Redis. -/
def nextStmt (se : Instance) : Option LockStmt :=
  match se.prog with
  | .stmt _ (.handler st) _ => some st
  | _ => none

theorem mem_nextStmt {se : Instance} {c : Conn} {st : LockStmt}
    {k : Except String st.Result → Prog consumerSql Consumer.AttemptResult Consumer.AttemptResult}
    (hprog : se.prog = .stmt c (.handler st) k) : st ∈ nextStmt se := by
  rw [nextStmt, hprog]
  rfl

/-- The order whose ledger is read. -/
def LockStmt.reads : LockStmt → Option Uuid
  | .sql (.listTransactionsByOrder o) => some o
  | _ => none

/-- The order whose lock expires. -/
def LockStmt.expires : LockStmt → Option Uuid
  | .expire o => some o
  | _ => none

/-- Redis is available, no lock expires while the instance that acquired it is running, and a
    token is not used by two instances. -/
def Reliable (s : State) : Label → Prop
  | .start _ request => ∀ se ∈ s.sessions.rows, tokenOf se.request = tokenOf request →
    tokenOf request = none
  | .fault i _ => ∀ se ∈ s.sessions.rows, se.id = i → ∀ st ∈ nextStmt se, st.callsRedis = false
  | .exec i _ => ∀ se ∈ s.sessions.rows, se.id = i → ∀ st ∈ nextStmt se, ∀ o ∈ st.expires,
    ∀ l ∈ s.committed.tables.locks, l.1 = o →
      ∀ x ∈ s.sessions.rows, tokenOf x.request ≠ some l.2
  | _ => True

/-- No instance reads the ledger of an order as Authorized when the gateway has reported an
    operation on its authorization as successful. -/
def NoStaleRead (s : State) : Label → Prop
  | .exec i _ => ∀ se ∈ s.sessions.rows, se.id = i → ∀ st ∈ nextStmt se, ∀ o ∈ st.reads,
    s.committed.tables.db.paymentState o = .authorized →
      o ∉ s.committed.tables.log.map Prod.fst
  | _ => True

instance (s : State) : ∀ a, Decidable (Reliable s a)
  | .start .. | .fault .. | .exec .. =>
    inferInstanceAs (Decidable (∀ se ∈ s.sessions.rows, _))
  | .commit _ | .rollback _ => .isTrue trivial

instance (s : State) : ∀ a, Decidable (NoStaleRead s a)
  | .exec .. => inferInstanceAs (Decidable (∀ se ∈ s.sessions.rows, _))
  | .start .. | .fault .. | .commit _ | .rollback _ => .isTrue trivial

/-- No two instances lock with the same token. -/
def DistinctTokens (s : State) : Prop :=
  ∀ se ∈ s.sessions.rows, ∀ x ∈ s.sessions.rows, x.id ≠ se.id →
    tokenOf x.request = tokenOf se.request → tokenOf x.request = none

/-- What is known of an instance. -/
structure Known (s : State) (g : Holder) (se : Instance) : Prop where
  token : g.token = tokenOf se.request
  quiet : ∀ w ∈ se.writes, (consumerSql.key w).isSome
  holds : g.Holds s.committed.tables

abbrev LockInv : State → Prop :=
  Inv (Consumer.liftProtocol lockProtocol) (fun _ _ => True)
    (fun s => Exclusion s.committed.tables ∧ DistinctTokens s) Known

/-- Writes of an attempt that leave the locks and the log of the gateway alone. -/
theorem quiet_tables {ws : List (LockWrite ⊕ Consumer.ProcessedKey)}
    (db : Consumer.Tables LockedDb) (h : ∀ w, .inl w ∈ ws → w.Quiet) :
    (view consumerSql ws db).tables.locks = db.tables.locks ∧
      (view consumerSql ws db).tables.log = db.tables.log := by
  rw [Consumer.tables_view]
  refine quiet_view db.tables fun w hw => h w ?_
  obtain ⟨w', hw', hleft⟩ := List.mem_filterMap.mp hw
  cases w' with
  | inl w' =>
    cases hleft
    exact hw'
  | inr k => exact nomatch hleft

theorem quiet_of_keyed {ws : List (LockWrite ⊕ Consumer.ProcessedKey)}
    (h : ∀ w ∈ ws, (consumerSql.key w).isSome) (w : LockWrite) (hw : .inl w ∈ ws) : w.Quiet :=
  LockWrite.quiet_of_key (by simpa using h _ hw)

/-- A statement of an attempt on its transaction. -/
theorem exec_tx_attempt {g : Holder} {st : Consumer.Stmt lockedSql}
    (hpre : (Consumer.liftProtocol lockProtocol).pre g .tx st) {db : Consumer.Tables LockedDb}
    {a : consumerSql.Result st} {ws : List (LockWrite ⊕ Consumer.ProcessedKey)}
    (hexec : consumerSql.exec st gateway db = .ok (a, ws)) :
    (∀ w, .inl w ∈ ws → w.Quiet) ∧
      (Consumer.liftProtocol lockProtocol).next g .tx st (.ok a) g := by
  cases st with
  | handler st =>
    obtain ⟨dws, hst, rfl⟩ := Consumer.exec_handler_ok hexec
    obtain ⟨hquiet, hnext⟩ := exec_tx hpre hst
    exact ⟨fun w hw => hquiet w (by simpa using hw), hnext⟩
  | isEventProcessed k =>
    cases hexec
    exact ⟨fun _ hw => absurd hw List.not_mem_nil, rfl⟩
  | markEventProcessed k =>
    cases hexec
    refine ⟨fun w hw => ?_, rfl⟩
    split at hw
    · exact nomatch hw
    · simp at hw

/-- An error in an attempt. -/
theorem next_error_attempt {st : Consumer.Stmt lockedSql}
    (hredis : ∀ st', st = .handler st' → st'.callsRedis = false) (g : Holder) (c : Conn)
    (e : String) : ∃ g', (Consumer.liftProtocol lockProtocol).next g c st (.error e) g' ∧
      g'.token = g.token ∧ ∀ db, g.Holds db → g'.Holds db := by
  cases st with
  | handler st => exact next_error (hredis st rfl) e
  | isEventProcessed k => exact ⟨g, rfl, rfl, fun _ h => h⟩
  | markEventProcessed k => exact ⟨g, rfl, rfl, fun _ h => h⟩

theorem DistinctTokens.put {s u : State} (h : DistinctTokens s) {se se' : Instance}
    (hse : se ∈ s.sessions.rows) (hid : se'.id = se.id) (hrequest : se'.request = se.request)
    (hsessions : u.sessions = s.sessions) : DistinctTokens (u.put se') := by
  refine State.forall_put.mpr ⟨State.forall_put.mpr ⟨fun hne => absurd rfl hne, ?_⟩, ?_⟩
  · rw [hsessions, hid, hrequest]
    exact fun x hx hne _ => h se hse x hx hne
  · rw [hsessions, hid]
    refine fun x hx hne => State.forall_put.mpr ⟨?_, ?_⟩
    · rw [hid, hrequest]
      exact h x hx se hse
    · rw [hsessions]
      exact fun y hy _ => h x hx y hy

theorem DistinctTokens.drop {s u : State} (h : DistinctTokens s) (i : Nat)
    (hsessions : u.sessions = s.sessions) : DistinctTokens (u.drop i) := by
  refine State.forall_drop.mpr ?_
  rw [hsessions]
  refine fun x hx _ => State.forall_drop.mpr ?_
  rw [hsessions]
  exact fun y hy _ => h x hx y hy

/-- A session goes on, with tables where everybody still holds what he held. -/
theorem LockInv.go_on {s u : State} (h : LockInv s) {se se' : Instance}
    (hse : se ∈ s.sessions.rows) (hid : se'.id = se.id) (hrequest : se'.request = se.request)
    (hexcl : Exclusive (u.put se')) (hsessions : u.sessions = s.sessions)
    (hstate : Exclusion u.committed.tables) {g' : Holder} (hknown : Known u g' se')
    (hwp : se'.prog.wp (Consumer.liftProtocol lockProtocol) (fun _ _ => True) g')
    (hothers : ∀ x ∈ s.sessions.rows, x.id ≠ se.id → ∀ g, Known s g x →
      g.Holds u.committed.tables) : LockInv (u.put se') := by
  refine h.put hexcl hsessions ⟨hstate, h.state.2.put hse hid hrequest hsessions⟩
    ⟨g', ⟨hknown.token, hknown.quiet, hknown.holds⟩, hwp⟩ fun x hx hne g hK => ?_
  rw [hid] at hne
  exact ⟨hK.token, hK.quiet, hothers x hx hne g hK⟩

section Service

variable [SerdeJson]

theorem lockInv_step {s t : State} {a : Label} (h : LockInv s) (hreliable : Reliable s a)
    (hread : NoStaleRead s a) (hstep : step s a = some t) : LockInv t := by
  have hcases := step_cases hstep
  have hexcl := exclusive_step h.exclusive hcases
  cases hcases with
  | @start i request hfree =>
    refine h.put hexcl rfl ⟨h.state.1, ?_⟩ ⟨_, ⟨rfl, List.forall_mem_nil _, .of_outside rfl⟩,
      wp_program request⟩ fun _ _ _ _ hK => ⟨hK.token, hK.quiet, hK.holds⟩
    refine State.forall_put.mpr ⟨State.forall_put.mpr ⟨fun hne => absurd rfl hne, ?_⟩, ?_⟩
    · intro x hx _ _ heq
      exact heq.trans (hreliable x hx heq)
    · refine fun x hx hne => State.forall_put.mpr ⟨?_, fun y hy _ => h.state.2 x hx y hy⟩
      exact fun _ heq => hreliable x hx heq.symm
  | @exec se st k input a ws hse hprog hab hexec hfree =>
    obtain ⟨g, hK, hpre, hwp⟩ := h.stmt hse hprog
    obtain ⟨hquiet, hnext⟩ := exec_tx_attempt hpre hexec
    have himmediate : ∀ w, .inl w ∈ immediate consumerSql ws → w.Quiet := fun w hw =>
      hquiet w (List.mem_of_mem_filter hw)
    obtain ⟨hlocks, hlog⟩ := quiet_tables s.committed himmediate
    have hstate := (exclusion_congr hlocks hlog).mpr h.state.1
    have hkeyed : ∀ w ∈ se.writes ++ transactional consumerSql ws, (consumerSql.key w).isSome := by
      intro w hw
      rcases List.mem_append.mp hw with hw | hw
      · exact hK.quiet w hw
      · exact (mem_transactional.mp hw).2
    exact h.go_on hse rfl rfl hexcl rfl hstate
      ⟨hK.token, hkeyed, (holds_congr hlocks hlog g).mpr hK.holds⟩ (hwp _ _ hnext)
      fun x _ _ g' hK' => (holds_congr hlocks hlog g').mpr hK'.holds
  | @abort se st k e label hlabel hse hprog =>
    obtain ⟨g, hK, hpre, hwp⟩ := h.stmt hse hprog
    have hredis : ∀ st', st = .handler st' → st'.callsRedis = false := by
      rintro st' rfl
      exact callsRedis_of_tx hpre
    obtain ⟨g', hnext, htoken, hholds⟩ := next_error_attempt hredis g .tx e
    exact h.go_on hse rfl rfl hexcl rfl h.state.1
      ⟨htoken.trans hK.token, hK.quiet, hholds _ hK.holds⟩ (hwp _ _ hnext)
      fun x _ _ g' hK' => hK'.holds
  | @pool se c st k input a ws hse hprog hc hexec hfree =>
    obtain ⟨g, hK, hpre, hwp⟩ := h.stmt hse hprog
    cases st with
    | isEventProcessed key => exact absurd hpre hc
    | markEventProcessed key => exact absurd hpre hc
    | handler st =>
      have hst := mem_nextStmt hprog
      obtain ⟨dws, hdexec, rfl⟩ := Consumer.exec_handler_ok hexec
      have hfresh : ∀ o, st = .sql (.listTransactionsByOrder o) →
          s.committed.tables.db.paymentState o = .authorized →
          o ∉ s.committed.tables.log.map Prod.fst := by
        rintro o rfl
        exact hread se hse rfl _ hst o rfl
      obtain ⟨g', hnext, hout⟩ := outcome_exec h.state.1 hK.holds hpre hfresh hdexec
      rw [← Consumer.tables_view_handler] at hout
      have hknown := hout.token.trans hK.token
      refine h.go_on hse rfl rfl hexcl rfl hout.exclusion ⟨hknown, hK.quiet, hout.holds⟩
        (hwp _ _ hnext) fun x hx hne gx hKx => hout.others gx hKx.holds (fun heq => ?_) ?_
      · rw [hKx.token, hK.token] at heq
        rw [hKx.token]
        exact h.state.2 se hse x hx hne heq
      · rintro o rfl l hl hlo
        rw [hKx.token]
        exact hreliable se hse rfl _ hst o rfl l hl hlo x hx
  | @poolError se c st k e label hlabel hse hprog hc hexec =>
    obtain ⟨g, hK, hpre, hwp⟩ := h.stmt hse hprog
    have hredis : ∀ st', st = .handler st' → st'.callsRedis = false := by
      rintro st' rfl
      rcases hlabel with ⟨input, rfl⟩ | ⟨e', rfl⟩
      · exact callsRedis_of_error (Consumer.exec_handler_error (hexec input rfl))
      · exact hreliable se hse rfl st' (mem_nextStmt hprog)
    obtain ⟨g', hnext, htoken, hholds⟩ := next_error_attempt hredis g c e
    exact h.go_on hse rfl rfl hexcl rfl h.state.1
      ⟨htoken.trans hK.token, hK.quiet, hholds _ hK.holds⟩ (hwp _ _ hnext)
      fun x _ _ g' hK' => hK'.holds
  | commit hse hprog hab =>
    obtain ⟨g, hK, -⟩ := h.done hse hprog
    obtain ⟨hlocks, hlog⟩ := quiet_tables s.committed (quiet_of_keyed hK.quiet)
    refine h.drop hexcl rfl ⟨(exclusion_congr hlocks hlog).mpr h.state.1, h.state.2.drop _ rfl⟩
      fun x hx hne g' hK' => ?_
    exact ⟨hK'.token, hK'.quiet, (holds_congr hlocks hlog g').mpr hK'.holds⟩
  | drop hse hlabel =>
    exact h.drop hexcl rfl ⟨h.state.1, h.state.2.drop _ rfl⟩
      fun _ _ _ _ hK => ⟨hK.token, hK.quiet, hK.holds⟩

/-- In every interleaving of any consumer instances, with Redis available, no lock expiring
    while its holder runs and no stale read, the gateway reports at most one operation on the
    authorization of an order as successful: not a capture and a void, and not two captures. -/
theorem exclusive_run {db : PaymentDb} {processed : List Consumer.ProcessedKey} {as : List Label}
    (hreliable : Run.Meets step Reliable
      { committed := { tables := { db }, processedEvents := processed } } as)
    (hread : Run.Meets step NoStaleRead
      { committed := { tables := { db }, processedEvents := processed } } as) {s : State}
    (hrun : Run.run step { committed := { tables := { db }, processedEvents := processed } } as =
      some s) (o : Uuid) :
    ¬((o, .capture) ∈ s.committed.tables.log ∧ (o, .void) ∈ s.committed.tables.log) ∧
      s.committed.tables.log.count (o, .capture) ≤ 1 := by
  have hinit : LockInv { committed := { tables := { db }, processedEvents := processed } } :=
    .init ⟨⟨List.nodup_nil, List.nodup_nil⟩, fun _ hse => absurd hse List.not_mem_nil⟩
  have hlog := (Run.run_invariant_of_meets
    (fun _ _ _ h hC hstep => lockInv_step h hC.1 hC.2 hstep) hinit (hreliable.and hread)
    hrun).state.1.log
  refine ⟨fun ⟨hcapture, hvoid⟩ => ?_, ?_⟩
  · exact nomatch List.inj_on_of_nodup_map hlog hcapture hvoid rfl
  · exact List.nodup_iff_count_le_one.mp (List.Nodup.of_map _ hlog) _

end Service

/-! ## Two instances and one order -/

/-- The `n`th event, about an order worth 20 USD. -/
def sampleEvent (n : Nat) (t : EventType) : EventEnvelope :=
  let env := sampleEnv t ⟨0, 0⟩
  { env with metadata := { env.metadata with eventId := ⟨1, n⟩ } }

/-- Instance `i` begins with the `n`th event. -/
def begins (i n : Nat) (t : EventType) : Label :=
  .start i (.consume ⟨9, n⟩ n (sampleEvent n t))

/-- Instance `i` executes its next `n` statements. -/
def executes (i n : Nat) : List Label := .replicate n (.exec i approving)

/-- The order is authorized. Then it is confirmed, and cancelled at the same time: the second
    instance does not get the lock. When it tries again, the capture is committed. -/
def lockedOut : List Label :=
  begins 0 0 .inventoryReserved :: executes 0 16 ++ .commit 0 ::
  begins 0 1 .orderConfirmed :: executes 0 5 ++
  begins 1 2 .orderCancelled :: executes 1 3 ++ .rollback 1 ::
  executes 0 12 ++ .commit 0 ::
  begins 1 3 .orderCancelled :: executes 1 6 ++ [.commit 1]

theorem exclusive_run_lockedOut :
    ∃ s, Run.run step { committed := { tables := {} } } lockedOut = some s ∧
      s.committed.tables.log = [(⟨0, 0⟩, .capture)] ∧
      ¬((⟨0, 0⟩, .capture) ∈ s.committed.tables.log ∧ (⟨0, 0⟩, .void) ∈ s.committed.tables.log) ∧
      s.committed.tables.log.count (⟨0, 0⟩, .capture) ≤ 1 := by
  have hrun : (Run.run step { committed := { tables := {} } } lockedOut).map
      (fun s => decide (s.committed.tables.log = [(⟨0, 0⟩, .capture)])) = some true := by
    decide +kernel
  obtain ⟨s, hs, hlog⟩ := Run.run_decide hrun
  exact ⟨s, hs, hlog, exclusive_run (by decide +kernel) (by decide +kernel) hs ⟨0, 0⟩⟩

/-- The first instance captures, and releases the lock. Before it commits, the second one reads
    that the payment is Authorized, and voids it. Both are recorded. -/
def releasedEarly : List Label :=
  begins 0 0 .inventoryReserved :: executes 0 16 ++ .commit 0 ::
  begins 0 1 .orderConfirmed :: executes 0 16 ++
  begins 1 2 .orderCancelled :: executes 1 7 ++
  executes 0 1 ++ .commit 0 :: executes 1 13 ++ [.commit 1]

theorem captured_and_voided :
    Run.Meets step Reliable { committed := { tables := {} } } releasedEarly ∧
      ∃ s, Run.run step { committed := { tables := {} } } releasedEarly = some s ∧
        s.committed.tables.log = [(⟨0, 0⟩, .capture), (⟨0, 0⟩, .void)] ∧
        s.committed.tables.db.ledgerTransactions.rows.map
          (fun t => (t.transactionType, t.status)) =
          [(.authorization, .discarded), (.capture, .posted), (.void, .posted)] := by
  refine ⟨by decide +kernel, Run.run_decide (by decide +kernel)⟩

end Koupang.Payment.Interleaving
