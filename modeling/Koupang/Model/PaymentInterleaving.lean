import Koupang.Model.ConsumerAttempt
import Koupang.Model.Payment

/-!
# The payment consumer, statement by statement

The handlers of `payment/` as programs that send one statement after the other,
so that any number of instances can interleave. Every function here is the one
of the same name in `Payment`, cut at its statements. Reads go to the pool and
see what is committed; the gateway and Redis answer at once, and what they have
done is not rolled back.

`PaymentEventHandler::handle` acquires the lock of the order, and releases it
before it returns, so before the consumer commits.
-/

namespace Koupang.Payment.Interleaving

open ReadCommitted

/-! ## Statements -/

/-- An operation on the authorization of an order that the gateway has reported as successful. -/
inductive GatewayOp where
  | capture
  | void
deriving DecidableEq, Repr

inductive Stmt where
  /-- `BEGIN` of the transaction with the lock token `token`; sets its `NOW()` -/
  | startTransaction (token : Uuid) (now : Nat)
  /-- `SELECT * FROM ledger_transactions WHERE idempotency_key = $1` -/
  | getTransactionByIdempotencyKey (key : IdempotencyKey)
  /-- `SELECT * FROM ledger_transactions WHERE order_id = $1 ORDER BY created_at DESC` -/
  | listTransactionsByOrder (orderId : Uuid)
  /-- `SELECT * FROM ledger_entries WHERE transaction_id = $1 ORDER BY created_at ASC` -/
  | listEntriesByTransaction (transactionId : Uuid)
  /-- `INSERT INTO accounts .. ON CONFLICT .. DO NOTHING RETURNING *` -/
  | insertAccount (accountType : AccountType) (referenceId : Uuid) (currency : String)
  /-- `SELECT * FROM accounts WHERE reference_id = $1 AND account_type = $2 AND currency = $3` -/
  | fetchAccount (accountType : AccountType) (referenceId : Uuid) (currency : String)
  /-- `INSERT INTO ledger_transactions .. RETURNING *` -/
  | insertTransaction (orderId : Uuid) (transactionType : TransactionType)
    (idempotencyKey : IdempotencyKey) (gatewayReference : Option String)
  /-- `INSERT INTO ledger_entries ..` -/
  | insertEntry (transactionId accountId : Uuid) (direction : EntryDirection) (amount : Decimal)
  /-- `UPDATE ledger_transactions SET status = $1 WHERE id = $2` -/
  | setTransactionStatus (id : Uuid) (status : TransactionStatus)
  /-- `Uuid::now_v7()` -/
  | nowV7
  /-- `INSERT INTO outbox_events ..` -/
  | insertOutboxRow (insert : OutboxInsert)
  /-- `gateway.authorize` -/
  | authorize (key : IdempotencyKey) (orderId : Uuid) (amount : Decimal) (currency : String)
  /-- `gateway.capture` for the authorization of order `orderId` -/
  | capture (orderId : Uuid) (gatewayRef : String)
  /-- `gateway.void` for the authorization of order `orderId` -/
  | void (orderId : Uuid) (gatewayRef : String)
  /-- `gateway.void` for an approval that is not recorded -/
  | voidApproval (gatewayRef : String)

@[reducible] def Stmt.Result : Stmt → Type
  | .getTransactionByIdempotencyKey _ => Option LedgerTransactionEntity
  | .listTransactionsByOrder _ => List LedgerTransactionEntity
  | .listEntriesByTransaction _ => List LedgerEntryEntity
  | .insertAccount .. | .fetchAccount .. => Option AccountEntity
  | .insertTransaction .. => LedgerTransactionEntity
  | .setTransactionStatus .. => Nat
  | .nowV7 => Uuid
  | .authorize .. => Except GatewayError GatewayAuthResult
  | .capture .. | .void .. | .voidApproval _ => Except GatewayError Unit
  | .startTransaction .. | .insertEntry .. | .insertOutboxRow _ => Unit

inductive Write where
  /-- the start time of a transaction, which its own rows carry -/
  | now (token : Uuid) (now : Nat)
  | account (row : AccountEntity)
  /-- an entry of `uq_accounts` -/
  | accountSlot (accountType : AccountType) (referenceId : Uuid) (currency : String)
  | transaction (row : LedgerTransactionEntity)
  /-- an entry of the unique index on `idempotency_key` -/
  | idempotencyKey (key : IdempotencyKey)
  | entry (row : LedgerEntryEntity)
  | outbox (insert : OutboxInsert)
  /-- a UUID was drawn -/
  | uuid
  /-- the gateway has reported an operation as successful -/
  | gateway (orderId : Uuid) (op : GatewayOp)
deriving DecidableEq

/-- What a write locks. -/
inductive Key where
  | now (token : Uuid)
  | account (id : Uuid)
  | accountSlot (accountType : AccountType) (referenceId : Uuid) (currency : String)
  | transaction (id : Uuid)
  | idempotencyKey (key : IdempotencyKey)
  | entry (id : Uuid)
  | outbox (eventId : Uuid)
deriving DecidableEq

def Write.key : Write → Option Key
  | .now token _ => some (.now token)
  | .account row => some (.account row.id)
  | .accountSlot accountType referenceId currency =>
    some (.accountSlot accountType referenceId currency)
  | .transaction row => some (.transaction row.id)
  | .idempotencyKey key => some (.idempotencyKey key)
  | .entry row => some (.entry row.id)
  | .outbox insert => some (.outbox insert.envelope.metadata.eventId)
  | .uuid | .gateway .. => none

def Write.apply (db : PaymentDb) : Write → PaymentDb
  | .now _ time => { db with now := time }
  | .account row => { db with accounts := db.accounts.set row }
  | .transaction row => { db with ledgerTransactions := db.ledgerTransactions.set row }
  | .entry row => { db with ledgerEntries := db.ledgerEntries ++ [row] }
  | .outbox insert => { db with outbox := db.outbox ++ [insert] }
  | .uuid => { db with uuids := db.uuids + 1 }
  | .accountSlot .. | .idempotencyKey _ | .gateway .. => db

def findAccount (accountType : AccountType) (referenceId : Uuid) (currency : String)
    (db : PaymentDb) : Option AccountEntity :=
  db.accounts.rows.find? fun a =>
    a.referenceId = referenceId && a.accountType = accountType && a.currency = currency

def execInsertAccount (accountType : AccountType) (referenceId : Uuid) (currency : String)
    (db : PaymentDb) : Except String (Option AccountEntity × List Write) := do
  let currency ← varchar 3 currency
  if db.accounts.rows.any (fun a => a.referenceId = referenceId && a.accountType = accountType
      && a.currency = currency) then
    return (none, [])
  let id := (nowV7 db).1
  let row : AccountEntity :=
    { id, accountType, normalBalance := accountType.normalBalance, referenceId, currency }
  if (db.accounts.find? id).isSome then
    throw "duplicate key value violates unique constraint \"accounts_pkey\""
  return (some row, [.uuid, .accountSlot accountType referenceId currency, .account row])

def execInsertTransaction (orderId : Uuid) (transactionType : TransactionType)
    (idempotencyKey : IdempotencyKey) (gatewayReference : Option String) (db : PaymentDb) :
    Except String (LedgerTransactionEntity × List Write) := do
  let gatewayReference ← gatewayReference.mapM (varchar 255)
  if db.ledgerTransactions.rows.any (·.idempotencyKey = idempotencyKey) then
    throw "duplicate key value violates unique constraint \"ledger_transactions_idempotency_key_key\""
  let id := (nowV7 db).1
  let row : LedgerTransactionEntity :=
    { id, createdAt := db.now, orderId, transactionType, status := .pending, idempotencyKey,
      gatewayReference, metadataCurrency := none }
  if (db.ledgerTransactions.find? id).isSome then
    throw "duplicate key value violates unique constraint \"ledger_transactions_pkey\""
  return (row, [.uuid, .idempotencyKey idempotencyKey, .transaction row])

def execInsertEntry (transactionId accountId : Uuid) (direction : EntryDirection)
    (amount : Decimal) (db : PaymentDb) : Except String (Unit × List Write) := do
  let amount ← numeric19_4 amount
  if amount ≤ 0 then
    throw "new row for relation \"ledger_entries\" violates check constraint \"chk_amount\""
  if (db.ledgerTransactions.find? transactionId).isNone then
    throw "insert violates foreign key constraint \"ledger_entries_transaction_id_fkey\""
  if (db.accounts.find? accountId).isNone then
    throw "insert violates foreign key constraint \"ledger_entries_account_id_fkey\""
  let id := (nowV7 db).1
  return ((), [.uuid, .entry
    { id, createdAt := db.now, transactionId, accountId, direction, amount }])

def execSetTransactionStatus (id : Uuid) (status : TransactionStatus) (db : PaymentDb) :
    Nat × List Write :=
  match db.ledgerTransactions.find? id with
  | none => (0, [])
  | some t => (1, [.transaction { t with status }])

/-- The gateway's answer, and what it has done. -/
def answered (orderId : Uuid) (op : GatewayOp) (answer : Except GatewayError Unit) :
    Except GatewayError Unit × List Write :=
  match answer with
  | .ok () => (.ok (), [.gateway orderId op])
  | .error e => (.error e, [])

def Stmt.exec (s : Stmt) (gateway : PaymentGateway) (db : PaymentDb) :
    Except String (s.Result × List Write) :=
  match s with
  | .startTransaction token now => .ok ((), [.now token now])
  | .getTransactionByIdempotencyKey key =>
    .ok (LedgerRepo.getTransactionByIdempotencyKey key db, [])
  | .listTransactionsByOrder orderId => .ok (LedgerRepo.listTransactionsByOrder orderId db, [])
  | .listEntriesByTransaction id => .ok (LedgerRepo.listEntriesByTransaction id db, [])
  | .insertAccount accountType referenceId currency =>
    execInsertAccount accountType referenceId currency db
  | .fetchAccount accountType referenceId currency =>
    .ok (findAccount accountType referenceId currency db, [])
  | .insertTransaction orderId transactionType idempotencyKey gatewayReference =>
    execInsertTransaction orderId transactionType idempotencyKey gatewayReference db
  | .insertEntry transactionId accountId direction amount =>
    execInsertEntry transactionId accountId direction amount db
  | .setTransactionStatus id status => .ok (execSetTransactionStatus id status db)
  | .nowV7 => .ok ((Koupang.nowV7 db).1, [.uuid])
  | .insertOutboxRow insert => .ok ((), [.outbox insert])
  | .authorize key orderId amount currency =>
    .ok (gateway.authorize key orderId amount currency, [])
  | .capture orderId gatewayRef => .ok (answered orderId .capture (gateway.capture gatewayRef))
  | .void orderId gatewayRef => .ok (answered orderId .void (gateway.void gatewayRef))
  | .voidApproval gatewayRef => .ok (gateway.void gatewayRef, [])

/-- The payment tables. What the gateway answers is the input of a statement. -/
abbrev paymentSql : Database PaymentDb where
  Stmt := Stmt
  Result := Stmt.Result
  Input := PaymentGateway
  Write := Write
  Key := Key
  exec := Stmt.exec
  apply := Write.apply
  key := Write.key

abbrev Program (ε α : Type) := Prog paymentSql ε α

/-- Send a statement on the transaction. -/
def send {ε : Type} (onError : String → ε) (s : Stmt) : Program ε s.Result :=
  Prog.send (D := paymentSql) .tx onError s

/-- Send a query on the pool. -/
def query {ε : Type} (onError : String → ε) (s : Stmt) : Program ε s.Result :=
  Prog.send (D := paymentSql) .pool onError s

/-- Call the gateway. A call that fails on its way is a timeout. -/
def call {ε α : Type} (s : Stmt) (answer : s.Result → Except GatewayError α) :
    Program ε (Except GatewayError α) :=
  .stmt (D := paymentSql) .client s fun
    | .ok a => .done (.ok (answer a))
    | .error e => .done (.ok (.error { code := "TIMEOUT", message := e, isRetryable := true }))

/-! ## Ledger repository -/

def getOrCreateAccount (accountType : AccountType) (referenceId : Uuid) (currency : String) :
    Program AppError AccountEntity := do
  let account ← send (fun e => .internalServerError s!"Failed to create account: {e}")
    (.insertAccount accountType referenceId currency)
  match (account : Option AccountEntity) with
  | some account => return account
  | none =>
    -- Already existed, fetch it
    Prog.fetchOne (D := paymentSql)
      (fun e => .internalServerError s!"Failed to fetch account: {e}") rowNotFound
      (Stmt.fetchAccount accountType referenceId currency) id

def createTransaction (orderId : Uuid) (transactionType : TransactionType)
    (idempotencyKey : IdempotencyKey) (gatewayReference : Option String) :
    Program AppError LedgerTransactionEntity :=
  send (fun e => .internalServerError s!"Failed to create transaction: {e}")
    (.insertTransaction orderId transactionType idempotencyKey gatewayReference)

def updateTransactionStatus (id : Uuid) (status : TransactionStatus) :
    Program AppError Unit := do
  let rowsAffected : Nat ← send
    (fun e => .internalServerError s!"Failed to update transaction: {e}")
    (.setTransactionStatus id status)
  if rowsAffected ≠ 1 then
    Prog.fail (.internalServerError "UPDATE must affect exactly 1 row")

def createEntry (transactionId accountId : Uuid) (direction : EntryDirection)
    (amount : Decimal) : Program AppError Unit :=
  send (fun e => .internalServerError s!"Failed to create entry: {e}")
    (.insertEntry transactionId accountId direction amount)

def listTransactionsByOrder (orderId : Uuid) : Program AppError (List LedgerTransactionEntity) :=
  query (fun e => .internalServerError s!"Failed to list transactions: {e}")
    (.listTransactionsByOrder orderId)

/-! ## Service -/

section Service

variable [SerdeJson]

def insertOutboxEvent (insert : OutboxInsert) : Program AppError Unit :=
  let payloadBytes := SerdeJson.payloadBytes insert.envelope
  if payloadBytes > maxPayloadBytes then
    Prog.fail (.badRequest
      s!"Outbox payload too large: {payloadBytes} bytes exceeds {maxPayloadBytes} byte limit")
  else send .internalServerError (.insertOutboxRow insert)

def writeOutbox (orderId : Uuid) (eventType : EventType) (payload : Payload) :
    Program AppError Unit := do
  let eventId ← Prog.send (D := paymentSql) .client .internalServerError Stmt.nowV7
  let metadata : EventMetadata :=
    { eventId, eventType, aggregateType := .payment, aggregateId := orderId,
      sourceService := .payment }
  insertOutboxEvent { topic := .paymentsEvents, envelope := { metadata, payload } }

def createAccountPair (orderId : Uuid) (currency : String) (debitType creditType : AccountType) :
    Program AppError (Uuid × Uuid) := do
  let debitAcct ← getOrCreateAccount debitType orderId currency
  let creditAcct ← getOrCreateAccount creditType orderId currency
  return (debitAcct.id, creditAcct.id)

def writeEntryPair (transactionId debitAccountId creditAccountId : Uuid) (amount : Decimal) :
    Program AppError Unit := do
  createEntry transactionId debitAccountId .debit amount
  createEntry transactionId creditAccountId .credit amount

def postTransaction (transactionId : Uuid) : Program AppError Unit :=
  updateTransactionStatus transactionId .posted

def recordAuthorization (orderId : Uuid) (amount : Decimal) (currency gatewayRef : String) :
    Program AppError Unit := do
  let (buyer, holding) ← createAccountPair orderId currency .buyer .gatewayHolding
  let ledgerTx ← createTransaction orderId .authorization (.auth orderId) (some gatewayRef)
  writeEntryPair ledgerTx.id holding buyer amount
  postTransaction ledgerTx.id
  writeOutbox orderId .paymentAuthorized
    { orderId := some orderId, paymentId := some ledgerTx.id, gatewayReference := some gatewayRef }

def recordCapture (orderId : Uuid) (authCurrency : String) (amount : Decimal)
    (idempotencyKey : IdempotencyKey) (gatewayRef : String) : Program AppError Unit := do
  let (holding, revenue) ← createAccountPair orderId authCurrency .gatewayHolding .platformRevenue
  let captureTx ← createTransaction orderId .capture idempotencyKey (some gatewayRef)
  writeEntryPair captureTx.id revenue holding amount
  postTransaction captureTx.id
  writeOutbox orderId .paymentCaptured { orderId := some orderId }

def recordVoid (orderId authTxId : Uuid) (authCurrency : String) (amount : Decimal)
    (idempotencyKey : IdempotencyKey) : Program AppError Unit := do
  updateTransactionStatus authTxId .discarded
  let (buyer, holding) ← createAccountPair orderId authCurrency .buyer .gatewayHolding
  let voidTx ← createTransaction orderId .void idempotencyKey none
  writeEntryPair voidTx.id buyer holding amount
  postTransaction voidTx.id
  writeOutbox orderId .paymentVoided { orderId := some orderId }

def findPostedAuthorization (orderId : Uuid) (validate : PaymentState → Except PaymentError Unit) :
    Program AppError PostedAuthorization := do
  let transactions ← listTransactionsByOrder orderId
  match validate (LedgerRepo.derivePaymentState transactions) with
  | .error e => Prog.fail e.toAppError
  | .ok () =>
    match transactions.find? fun t =>
        t.transactionType = .authorization && t.status = .posted with
    | none => Prog.fail (.notFound "No posted authorization found")
    | some authTx =>
      match authTx.gatewayReference with
      | none => Prog.fail (.internalServerError "Authorization missing gateway reference")
      | some gatewayRef =>
        let authEntries : List LedgerEntryEntity ← query
          (fun e => .internalServerError s!"Failed to list entries: {e}")
          (.listEntriesByTransaction authTx.id)
        let amount := (authEntries.head?.map (·.amount)).getD 0
        return { authTxId := authTx.id, gatewayRef,
                 currency := authTx.metadataCurrency.getD "USD", amount }

/-- Authorize payment: reads on pool, gateway call, writes on tx. -/
def authorizePaymentOnTx (orderId : Uuid) (amount : Decimal) (currency : String) :
    Program AppError Unit := do
  let existing : Option LedgerTransactionEntity ← query
    (fun e => .internalServerError s!"Failed to fetch transaction: {e}")
    (.getTransactionByIdempotencyKey (.auth orderId))
  if existing.any (·.status ≠ .discarded) then
    return ()
  else
    let transactions ← listTransactionsByOrder orderId
    Prog.ofExcept
      (validateAuthorization amount currency (LedgerRepo.derivePaymentState transactions))
    match ← call (.authorize (.auth orderId) orderId amount currency) id with
    | .ok (result : GatewayAuthResult) =>
      if result.approvedAmount ≠ amount then
        -- a failing void is only logged
        let _ ← call (.voidApproval result.gatewayReference) id
        writeOutbox orderId .paymentFailed
          { orderId := some orderId
            reason := some
              s!"Amount tampering: requested={amount}, approved={result.approvedAmount}" }
        Prog.fail (PaymentError.amountTampered amount result.approvedAmount).toAppError
      else
        recordAuthorization orderId amount currency result.gatewayReference
    | .error gwErr =>
      writeOutbox orderId .paymentFailed
        { orderId := some orderId, reason := some gwErr.message }

/-- The gateway call and the write phase that `capture_payment_on_tx` and
    `handle_capture_retry` share, up to the retry count and the text of a decline. -/
def captureOnTx (orderId : Uuid) (retryCount : Nat) (declined : String) :
    Program AppError Unit := do
  let auth ← findPostedAuthorization orderId PaymentState.validateForCapture
  match ← call (.capture orderId auth.gatewayRef) id with
  | .ok (_ : Unit) =>
    recordCapture orderId auth.currency auth.amount (.capture orderId) auth.gatewayRef
  | .error gwErr =>
    if gwErr.isRetryable then
      writeOutbox orderId .paymentCaptureRetryRequested
        { orderId := some orderId, retryCount := some retryCount, reason := some gwErr.message }
    else
      writeOutbox orderId .paymentFailed
        { orderId := some orderId, reason := some s!"{declined}: {gwErr.message}" }

def capturePaymentOnTx (orderId : Uuid) : Program AppError Unit :=
  captureOnTx orderId 1 "Capture declined"

/-- Void payment: reads on pool, gateway call, writes on tx. -/
def voidPaymentOnTx (orderId : Uuid) : Program AppError Unit := do
  let auth ← findPostedAuthorization orderId PaymentState.validateForVoid
  match ← call (.void orderId auth.gatewayRef) id with
  | .error e => Prog.fail e.toPaymentError.toAppError
  | .ok (_ : Unit) =>
    recordVoid orderId auth.authTxId auth.currency auth.amount (.void orderId)

/-! ## Consumers -/

def handleInventoryReserved (env : EventEnvelope) : Program AppError Unit := do
  let orderId ← Prog.ofExcept env.payloadOrderId
  match env.payload.totalAmount.bind DecimalText.parse with
  | none => Prog.fail (.badRequest "Missing or invalid total_amount")
  | some totalAmount =>
    authorizePaymentOnTx orderId totalAmount (env.payload.currency.getD "USD")

def handleOrderConfirmed (env : EventEnvelope) : Program AppError Unit := do
  let orderId ← Prog.ofExcept env.payloadOrderId
  capturePaymentOnTx orderId

def handleOrderCancelled (env : EventEnvelope) : Program AppError Unit := do
  let orderId ← Prog.ofExcept env.payloadOrderId
  let transactions ← listTransactionsByOrder orderId
  match LedgerRepo.derivePaymentState transactions with
  | .authorized => voidPaymentOnTx orderId
  | _ => return ()

def handleCaptureRetry (env : EventEnvelope) : Program AppError Unit := do
  let orderId ← Prog.ofExcept env.payloadOrderId
  let retryCount := asU32 (env.payload.retryCount.getD 0)
  if retryCount ≥ maxCaptureRetries then
    writeOutbox orderId .paymentFailed
      { orderId := some orderId, reason := some s!"Capture failed after {retryCount} retries" }
  else
    captureOnTx orderId (retryCount + 1) "Capture permanently failed"

/-- The function that an event is dispatched to. -/
def dispatch (env : EventEnvelope) : Program AppError Unit :=
  match env.eventType with
  | .inventoryReserved => handleInventoryReserved env
  | .orderConfirmed => handleOrderConfirmed env
  | .orderCancelled => handleOrderCancelled env
  | .paymentCaptureRetryRequested => handleCaptureRetry env
  | _ => pure ()

end Service

/-! ## Distributed lock -/

/-- The payment tables, with what Redis holds and what the gateway has done. -/
structure LockedDb where
  db : PaymentDb := {}
  /-- the keys `payment:{order_id}` that are set, with their tokens -/
  locks : List (Uuid × Uuid) := []
  /-- operations that the gateway has reported as successful, in order -/
  log : List (Uuid × GatewayOp) := []
deriving DecidableEq

inductive LockStmt where
  | sql (s : Stmt)
  /-- `SET payment:{order_id} token NX EX ttl` -/
  | acquire (orderId token : Uuid)
  /-- the script that deletes the key if it still has the token -/
  | release (orderId token : Uuid)
  /-- the TTL of the key is over -/
  | expire (orderId : Uuid)

inductive LockWrite where
  | sql (w : Write)
  | lock (orderId token : Uuid)
  | unlock (orderId token : Uuid)
deriving DecidableEq

def LockWrite.apply (db : LockedDb) : LockWrite → LockedDb
  | .sql w =>
    { db with db := w.apply db.db
              log := match w with
                | .gateway orderId op => db.log ++ [(orderId, op)]
                | _ => db.log }
  | .lock orderId token => { db with locks := (orderId, token) :: db.locks }
  | .unlock orderId token => { db with locks := db.locks.filter (· ≠ (orderId, token)) }

def LockWrite.key : LockWrite → Option Key
  | .sql w => w.key
  | .lock .. | .unlock .. => none

@[reducible] def LockStmt.Result : LockStmt → Type
  | .sql s => s.Result
  | .acquire .. => Bool
  | .release .. | .expire _ => Unit

def LockStmt.exec (s : LockStmt) (gateway : PaymentGateway) (db : LockedDb) :
    Except String (s.Result × List LockWrite) :=
  match s with
  | .sql s => (s.exec gateway db.db).map fun p => (p.1, p.2.map .sql)
  | .acquire orderId token =>
    if db.locks.any (·.1 = orderId) then .ok (false, [])
    else .ok (true, [.lock orderId token])
  | .release orderId token => .ok ((), [.unlock orderId token])
  | .expire orderId =>
    .ok ((), (db.locks.filter (·.1 = orderId)).map fun l => .unlock l.1 l.2)

abbrev lockedSql : Database LockedDb where
  Stmt := LockStmt
  Result := LockStmt.Result
  Input := PaymentGateway
  Write := LockWrite
  Key := Key
  exec := LockStmt.exec
  apply := LockWrite.apply
  key := LockWrite.key

/-- A program on the payment tables. -/
def underLock {ε α : Type} (x : Program ε α) : Prog lockedSql ε α :=
  match x with
  | .done r => .done r
  | .stmt c s k => .stmt c (.sql s) fun r => underLock (k r)

/-- A call of Redis; the caller matches on the result. -/
def redis {ε : Type} (s : LockStmt) : Prog lockedSql ε (Except String s.Result) :=
  .stmt (D := lockedSql) .client s fun r => .done (.ok r)

section Service

variable [SerdeJson]

/-- Dispatch an event under the lock of its order, or without one if Redis is not available. -/
def handleLocked (token orderId : Uuid) (env : EventEnvelope) :
    Prog lockedSql HandlerError Unit := do
  match ← redis (.acquire orderId token) with
  | .ok false => Prog.fail (.transient s!"payment:{orderId} in-flight, will retry")
  | .ok true =>
    let result ← (underLock (dispatch env)).attempt
    -- a failing release is only logged
    let _ ← redis (.release orderId token)
    Prog.ofExcept (result.mapError fun e : AppError => .transient (toString e))
  | .error _ => (underLock (dispatch env)).mapErr fun e => .transient (toString e)

/-- `PaymentEventHandler::handle`. `token` is the UUID that `acquire` draws. -/
def handle (token : Uuid) (env : EventEnvelope) : Prog lockedSql HandlerError Unit :=
  match env.eventType with
  | .inventoryReserved | .orderConfirmed | .orderCancelled | .paymentCaptureRetryRequested => do
    let orderId ← (Prog.ofExcept env.payloadOrderId).mapErr
      fun e : AppError => HandlerError.permanent (toString e)
    handleLocked token orderId env
  | _ => pure ()

/-! ## Requests -/

inductive Request where
  /-- one attempt of a consumer instance at an event, in a transaction that begins at `now` -/
  | consume (token : Uuid) (now : Nat) (env : EventEnvelope)
  /-- Redis drops the lock of an order -/
  | expire (orderId : Uuid)

/-- The tables of the payment service, with `processed_events`. -/
abbrev consumerSql : Database (Consumer.Tables LockedDb) := Consumer.withProcessedEvents lockedSql

/-- `(event_id, consumer_group)` of an event for the payment consumer. -/
def processedKey (env : EventEnvelope) : Consumer.ProcessedKey :=
  (env.metadata.eventId, "payment-service")

def program : Request → Prog consumerSql Consumer.AttemptResult Consumer.AttemptResult
  | .consume token now env => do
    Prog.send (D := consumerSql) .tx (fun _ => .dbError)
      (.handler (.sql (.startTransaction token now)))
    Consumer.tryProcessOnceOnTx (handle token env) (processedKey env)
  | .expire orderId => do
    let _ ← Consumer.onTables (redis (.expire orderId))
    return .committed

abbrev State := ReadCommitted.State consumerSql Request Consumer.AttemptResult
  Consumer.AttemptResult

abbrev Label := ReadCommitted.Label consumerSql Request

/-- The instances of the payment consumer, statement by statement. -/
def step (s : State) (a : Label) : Option State := ReadCommitted.step program s a

end Service

end Koupang.Payment.Interleaving
