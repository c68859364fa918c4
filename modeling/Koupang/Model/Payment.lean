import Mathlib.Data.List.Sort
import Koupang.ForStd.Table
import Koupang.Model.Shared
import Koupang.Model.Rules

/-!
# Payment service

The model of `payment/`: the double-entry ledger with its constraints, the
payment state derived from it, the gateway, the authorization rules, the
service functions that read on the pool and write on the consumer's
transaction, and the event handlers of the consumer.

`NOW()` is the start time of a transaction, so `PaymentDb.now` is set when a
transaction begins and every row it inserts carries that time.
-/

namespace Koupang.Payment

/-! ## Value objects -/

inductive NormalBalance where
  | debit
  | credit
deriving DecidableEq, Repr

inductive AccountType where
  | buyer
  | gatewayHolding
  | platformRevenue
  | sellerPayable
deriving DecidableEq, Repr

def AccountType.normalBalance : AccountType → NormalBalance
  | .buyer | .gatewayHolding => .debit
  | .platformRevenue | .sellerPayable => .credit

inductive TransactionType where
  | authorization
  | capture
  | void
  | refund
deriving DecidableEq, Repr

inductive TransactionStatus where
  | pending
  | posted
  | discarded
deriving DecidableEq, Repr

inductive EntryDirection where
  | debit
  | credit
deriving DecidableEq, Repr

/-- Derived from the ledger transactions of an order. -/
inductive PaymentState where
  | new
  | authorized
  | captured
  | voided
  | refunded
  | pending
  | failed
deriving DecidableEq, Repr

/-- The `Debug` name of a state. -/
def PaymentState.toString : PaymentState → String
  | .new => "New"
  | .authorized => "Authorized"
  | .captured => "Captured"
  | .voided => "Voided"
  | .refunded => "Refunded"
  | .pending => "Pending"
  | .failed => "Failed"

instance : ToString PaymentState := ⟨PaymentState.toString⟩

/-! ## Gateway -/

/-- The texts `auth:{order_id}`, `capture:{order_id}` and `void:{order_id}`. -/
inductive IdempotencyKey where
  | auth (orderId : Uuid)
  | capture (orderId : Uuid)
  | void (orderId : Uuid)
deriving DecidableEq, Repr

structure GatewayAuthResult where
  gatewayReference : String
  approvedAmount : Decimal

structure GatewayError where
  code : String
  message : String
  /-- the operation may be retried -/
  isRetryable : Bool

/-- The answers of the gateway during one handling of an event. -/
structure PaymentGateway where
  authorize : IdempotencyKey → Uuid → Decimal → String → Except GatewayError GatewayAuthResult
  capture : String → Except GatewayError Unit
  void : String → Except GatewayError Unit

inductive PaymentError where
  | validationFailed (msg : String)
  | invalidState (operation : String) (state : PaymentState)
  | amountTampered (requested approved : Decimal)
  | notFound (msg : String)
  | gatewayDeclined (code message : String)
  | gatewayRetryable (code message : String)
  | infra (e : AppError)

/-- `impl From<GatewayError> for PaymentError` -/
def GatewayError.toPaymentError (e : GatewayError) : PaymentError :=
  if e.isRetryable then .gatewayRetryable e.code e.message
  else .gatewayDeclined e.code e.message

/-- `impl From<PaymentError> for AppError` -/
def PaymentError.toAppError : PaymentError → AppError
  | .validationFailed msg => .badRequest msg
  | .invalidState operation state =>
    .badRequest s!"Cannot {operation} payment in state: {state}"
  | .amountTampered requested approved =>
    .badRequest s!"Amount tampering detected: requested={requested}, approved={approved}"
  | .notFound msg => .notFound msg
  | .gatewayDeclined code message => .badRequest s!"Gateway declined [{code}]: {message}"
  | .gatewayRetryable code message =>
    .internalServerError s!"Gateway error [{code}]: {message}"
  | .infra e => e

/-- The check that `validate_for_capture` and `validate_for_void` share. -/
def PaymentState.requireAuthorized (operation : String) (state : PaymentState) :
    Except PaymentError Unit :=
  match state with
  | .authorized => .ok ()
  | state => .error (.invalidState operation state)

def PaymentState.validateForCapture : PaymentState → Except PaymentError Unit :=
  requireAuthorized "capture"

def PaymentState.validateForVoid : PaymentState → Except PaymentError Unit :=
  requireAuthorized "void"

/-! ## Rules -/

inductive PaymentCheck where
  | minAmount (min : Decimal)
  | maxAmount (max : Decimal)
  | supportedCurrency
  | validStateForOperation
  | captureAmountConsistent
deriving DecidableEq

instance : ToString PaymentCheck := ⟨fun
  | .minAmount v => s!"amount must be at least ${v}"
  | .maxAmount v => s!"amount must not exceed ${v}"
  | .supportedCurrency => "currency must be supported"
  | .validStateForOperation => "payment must be in valid state for operation"
  | .captureAmountConsistent => "capture amount must match authorization"⟩

def minPaymentAmount : Decimal := 1 / 2
def maxPaymentAmount : Decimal := 100000
def supportedCurrencies : List String := ["USD", "KRW", "EUR", "GBP", "JPY"]

def authorizationRules : Rule PaymentCheck :=
  .all ([.minAmount minPaymentAmount, .maxAmount maxPaymentAmount, .supportedCurrency,
    .validStateForOperation].map .check)

structure AuthorizationContext where
  amount : Decimal
  currency : String
  paymentState : PaymentState

def evalAuthorization (ctx : AuthorizationContext) : PaymentCheck → Bool
  | .minAmount min => ctx.amount ≥ min
  | .maxAmount max => ctx.amount ≤ max
  | .supportedCurrency => supportedCurrencies.contains ctx.currency
  | .validStateForOperation => ctx.paymentState = .new || ctx.paymentState = .failed
  | .captureAmountConsistent => true

/-! ## Tables -/

structure AccountEntity where
  id : Uuid
  accountType : AccountType
  normalBalance : NormalBalance
  referenceId : Uuid
  currency : String
deriving DecidableEq

structure LedgerTransactionEntity where
  id : Uuid
  /-- in microseconds since the epoch -/
  createdAt : Nat
  orderId : Uuid
  transactionType : TransactionType
  status : TransactionStatus
  idempotencyKey : IdempotencyKey
  gatewayReference : Option String
  /-- `metadata["currency"]`; `metadata` defaults to `'{}'` -/
  metadataCurrency : Option String
deriving DecidableEq

structure LedgerEntryEntity where
  id : Uuid
  createdAt : Nat
  transactionId : Uuid
  accountId : Uuid
  direction : EntryDirection
  amount : Decimal
deriving DecidableEq

structure PaymentDb where
  accounts : Table AccountEntity.id := .empty
  ledgerTransactions : Table LedgerTransactionEntity.id := .empty
  ledgerEntries : List LedgerEntryEntity := []
  outbox : List OutboxInsert := []
  uuids : Nat := 0
  /-- start time of the current transaction -/
  now : Nat := 0
deriving DecidableEq

instance : HasOutbox PaymentDb where
  outbox := PaymentDb.outbox
  setOutbox db rows := { db with outbox := rows }
  node := 2
  uuids := PaymentDb.uuids
  setUuids db n := { db with uuids := n }

/-! ## Ledger repository -/

namespace LedgerRepo

/-- `INSERT INTO accounts .. ON CONFLICT (reference_id, account_type, currency) DO NOTHING
    RETURNING *` -/
def insertAccount (accountType : AccountType) (referenceId : Uuid) (currency : String)
    (db : PaymentDb) : Except String (Option AccountEntity × PaymentDb) := do
  let currency ← varchar 3 currency
  if db.accounts.rows.any (fun a => a.referenceId = referenceId && a.accountType = accountType
      && a.currency = currency) then
    return (none, db)
  let (id, db) := nowV7 db
  let row : AccountEntity :=
    { id, accountType, normalBalance := accountType.normalBalance, referenceId, currency }
  match db.accounts.insert row with
  | none => throw "duplicate key value violates unique constraint \"accounts_pkey\""
  | some accounts => return (some row, { db with accounts })

def getOrCreateAccount (accountType : AccountType) (referenceId : Uuid) (currency : String) :
    Tx AppError PaymentDb AccountEntity := do
  let account ← Tx.statement (fun e => .internalServerError s!"Failed to create account: {e}")
    (insertAccount accountType referenceId currency)
  match account with
  | some account => return account
  | none =>
    -- Already existed, fetch it
    Tx.fetchOne (fun e => .internalServerError s!"Failed to fetch account: {e}") rowNotFound
      fun db => db.accounts.rows.find? fun a =>
        a.referenceId = referenceId && a.accountType = accountType && a.currency = currency

/-- `INSERT INTO ledger_transactions ..`, whose `status` defaults to `'pending'`. -/
def insertTransaction (orderId : Uuid) (transactionType : TransactionType)
    (idempotencyKey : IdempotencyKey) (gatewayReference : Option String) (db : PaymentDb) :
    Except String (LedgerTransactionEntity × PaymentDb) := do
  let gatewayReference ← gatewayReference.mapM (varchar 255)
  if db.ledgerTransactions.rows.any (·.idempotencyKey = idempotencyKey) then
    throw "duplicate key value violates unique constraint \"ledger_transactions_idempotency_key_key\""
  let (id, db) := nowV7 db
  let row : LedgerTransactionEntity :=
    { id, createdAt := db.now, orderId, transactionType, status := .pending, idempotencyKey,
      gatewayReference, metadataCurrency := none }
  match db.ledgerTransactions.insert row with
  | none => throw "duplicate key value violates unique constraint \"ledger_transactions_pkey\""
  | some ledgerTransactions => return (row, { db with ledgerTransactions })

def createTransaction (orderId : Uuid) (transactionType : TransactionType)
    (idempotencyKey : IdempotencyKey) (gatewayReference : Option String) :
    Tx AppError PaymentDb LedgerTransactionEntity :=
  Tx.statement (fun e => .internalServerError s!"Failed to create transaction: {e}")
    (insertTransaction orderId transactionType idempotencyKey gatewayReference)

/-- `SELECT * FROM ledger_transactions WHERE idempotency_key = $1` -/
def getTransactionByIdempotencyKey (key : IdempotencyKey) (db : PaymentDb) :
    Option LedgerTransactionEntity :=
  db.ledgerTransactions.rows.find? (·.idempotencyKey = key)

/-- `UPDATE ledger_transactions SET status = $1 WHERE id = $2`, returning the rows affected. -/
def setTransactionStatus (id : Uuid) (status : TransactionStatus) (db : PaymentDb) :
    Nat × PaymentDb :=
  match db.ledgerTransactions.find? id with
  | none => (0, db)
  | some _ =>
    (1, { db with ledgerTransactions :=
            db.ledgerTransactions.modify id (fun t => { t with status }) fun _ => rfl })

/-- No caller passes a `gateway_reference`. The failed assertion is a panic, which drops
    and so rolls back the transaction. -/
def updateTransactionStatus (id : Uuid) (status : TransactionStatus) :
    Tx AppError PaymentDb Unit := do
  let rowsAffected ← Tx.statement
    (fun e => .internalServerError s!"Failed to update transaction: {e}")
    (fun db => .ok (setTransactionStatus id status db))
  if rowsAffected ≠ 1 then
    throw (.internalServerError "UPDATE must affect exactly 1 row")

/-- `SELECT * FROM ledger_transactions WHERE order_id = $1 ORDER BY created_at DESC` -/
def listTransactionsByOrder (orderId : Uuid) (db : PaymentDb) : List LedgerTransactionEntity :=
  (db.ledgerTransactions.rows.filter (·.orderId = orderId)).insertionSort
    fun t u => u.createdAt ≤ t.createdAt

/-- `INSERT INTO ledger_entries ..` -/
def insertEntry (transactionId accountId : Uuid) (direction : EntryDirection)
    (amount : Decimal) (db : PaymentDb) : Except String (Unit × PaymentDb) := do
  let amount ← numeric19_4 amount
  if amount ≤ 0 then
    throw "new row for relation \"ledger_entries\" violates check constraint \"chk_amount\""
  if (db.ledgerTransactions.find? transactionId).isNone then
    throw "insert violates foreign key constraint \"ledger_entries_transaction_id_fkey\""
  if (db.accounts.find? accountId).isNone then
    throw "insert violates foreign key constraint \"ledger_entries_account_id_fkey\""
  let (id, db) := nowV7 db
  let row : LedgerEntryEntity :=
    { id, createdAt := db.now, transactionId, accountId, direction, amount }
  return ((), { db with ledgerEntries := db.ledgerEntries ++ [row] })

def createEntry (transactionId accountId : Uuid) (direction : EntryDirection)
    (amount : Decimal) : Tx AppError PaymentDb Unit :=
  Tx.statement (fun e => .internalServerError s!"Failed to create entry: {e}")
    (insertEntry transactionId accountId direction amount)

/-- `SELECT * FROM ledger_entries WHERE transaction_id = $1 ORDER BY created_at ASC` -/
def listEntriesByTransaction (transactionId : Uuid) (db : PaymentDb) : List LedgerEntryEntity :=
  (db.ledgerEntries.filter (·.transactionId = transactionId)).insertionSort
    fun e f => e.createdAt ≤ f.createdAt

/-- A row of the view `account_balances`. -/
structure AccountBalanceEntity where
  accountId : Uuid
  accountType : AccountType
  referenceId : Uuid
  normalBalance : NormalBalance
  currency : String
  totalDebits : Decimal
  totalCredits : Decimal
  balance : Decimal
deriving DecidableEq

/-- `LEFT JOIN ledger_transactions t ON t.id = e.transaction_id AND t.status = 'posted'` finds
    a transaction. -/
def isPosted (db : PaymentDb) (e : LedgerEntryEntity) : Bool :=
  (db.ledgerTransactions.find? e.transactionId).any (·.status = .posted)

/-- `CASE WHEN e.direction = $direction THEN e.amount ELSE -e.amount END` -/
def signedAmount (direction : EntryDirection) (e : LedgerEntryEntity) : Decimal :=
  if e.direction = direction then e.amount else -e.amount

/-- The group of account `a` in the view `account_balances`. -/
def accountBalance (db : PaymentDb) (a : AccountEntity) : AccountBalanceEntity :=
  let entries := db.ledgerEntries.filter (·.accountId = a.id)
  let sum (amount : LedgerEntryEntity → Decimal) : Decimal := (entries.map amount).sum
  let balance (direction : EntryDirection) : Decimal :=
    sum fun e => if isPosted db e then signedAmount direction e else 0
  { accountId := a.id, accountType := a.accountType, referenceId := a.referenceId,
    normalBalance := a.normalBalance, currency := a.currency
    totalDebits := sum fun e => if e.direction = .debit && isPosted db e then e.amount else 0
    totalCredits := sum fun e => if e.direction = .credit && isPosted db e then e.amount else 0
    balance := match a.normalBalance with
      | .debit => balance .debit
      | .credit => balance .credit }

/-- `SELECT * FROM account_balances WHERE reference_id = $1` -/
def getAccountBalances (referenceId : Uuid) (db : PaymentDb) : List AccountBalanceEntity :=
  (db.accounts.rows.map (accountBalance db)).filter (·.referenceId = referenceId)

/-- The state that the newest posted transaction says; `transactions` is newest first. -/
def derivePaymentState (transactions : List LedgerTransactionEntity) : PaymentState :=
  if transactions.isEmpty then .new
  else match transactions.find? (·.status = .posted) with
    | some tx =>
      match tx.transactionType with
      | .refund => .refunded
      | .void => .voided
      | .capture => .captured
      | .authorization => .authorized
    | none =>
      if transactions.any (·.status = .pending) then .pending
      -- All discarded
      else .failed

end LedgerRepo

/-- `derive_payment_state` of an order. -/
def PaymentDb.paymentState (db : PaymentDb) (orderId : Uuid) : PaymentState :=
  LedgerRepo.derivePaymentState (LedgerRepo.listTransactionsByOrder orderId db)

/-! ## Service -/

section Service

variable [SerdeJson]

def writeOutbox (orderId : Uuid) (eventType : EventType) (payload : Payload) :
    Tx AppError PaymentDb Unit := do
  let eventId ← Tx.client nowV7
  let metadata : EventMetadata :=
    { eventId, eventType, aggregateType := .payment, aggregateId := orderId,
      sourceService := .payment }
  insertOutboxEvent { topic := .paymentsEvents, envelope := { metadata, payload } }

def createAccountPair (orderId : Uuid) (currency : String) (debitType creditType : AccountType) :
    Tx AppError PaymentDb (Uuid × Uuid) := do
  let debitAcct ← LedgerRepo.getOrCreateAccount debitType orderId currency
  let creditAcct ← LedgerRepo.getOrCreateAccount creditType orderId currency
  return (debitAcct.id, creditAcct.id)

def writeEntryPair (transactionId debitAccountId creditAccountId : Uuid) (amount : Decimal) :
    Tx AppError PaymentDb Unit := do
  LedgerRepo.createEntry transactionId debitAccountId .debit amount
  LedgerRepo.createEntry transactionId creditAccountId .credit amount

def postTransaction (transactionId : Uuid) : Tx AppError PaymentDb Unit :=
  LedgerRepo.updateTransactionStatus transactionId .posted

def recordAuthorization (orderId : Uuid) (amount : Decimal) (currency gatewayRef : String) :
    Tx AppError PaymentDb Unit := do
  let (buyer, holding) ← createAccountPair orderId currency .buyer .gatewayHolding
  let ledgerTx ← LedgerRepo.createTransaction orderId .authorization (.auth orderId)
    (some gatewayRef)
  writeEntryPair ledgerTx.id holding buyer amount
  postTransaction ledgerTx.id
  writeOutbox orderId .paymentAuthorized
    { orderId := some orderId, paymentId := some ledgerTx.id, gatewayReference := some gatewayRef }

def recordCapture (orderId : Uuid) (authCurrency : String) (amount : Decimal)
    (idempotencyKey : IdempotencyKey) (gatewayRef : String) : Tx AppError PaymentDb Unit := do
  let (holding, revenue) ← createAccountPair orderId authCurrency .gatewayHolding .platformRevenue
  let captureTx ← LedgerRepo.createTransaction orderId .capture idempotencyKey (some gatewayRef)
  writeEntryPair captureTx.id revenue holding amount
  postTransaction captureTx.id
  writeOutbox orderId .paymentCaptured { orderId := some orderId }

def recordVoid (orderId authTxId : Uuid) (authCurrency : String) (amount : Decimal)
    (idempotencyKey : IdempotencyKey) : Tx AppError PaymentDb Unit := do
  LedgerRepo.updateTransactionStatus authTxId .discarded
  let (buyer, holding) ← createAccountPair orderId authCurrency .buyer .gatewayHolding
  let voidTx ← LedgerRepo.createTransaction orderId .void idempotencyKey none
  writeEntryPair voidTx.id buyer holding amount
  postTransaction voidTx.id
  writeOutbox orderId .paymentVoided { orderId := some orderId }

/-- What `find_posted_authorization` returns. -/
structure PostedAuthorization where
  authTxId : Uuid
  gatewayRef : String
  currency : String
  amount : Decimal

/-- `find_posted_authorization`; `validate` is the check its `operation` selects. -/
def findPostedAuthorization (orderId : Uuid) (validate : PaymentState → Except PaymentError Unit)
    (pool : PaymentDb) : Except AppError PostedAuthorization := do
  let transactions := LedgerRepo.listTransactionsByOrder orderId pool
  match validate (LedgerRepo.derivePaymentState transactions) with
  | .error e => throw e.toAppError
  | .ok () =>
    match transactions.find? fun t =>
        t.transactionType = .authorization && t.status = .posted with
    | none => throw (.notFound "No posted authorization found")
    | some authTx =>
      match authTx.gatewayReference with
      | none => throw (.internalServerError "Authorization missing gateway reference")
      | some gatewayRef =>
        let authEntries := LedgerRepo.listEntriesByTransaction authTx.id pool
        let amount := (authEntries.head?.map (·.amount)).getD 0
        return { authTxId := authTx.id, gatewayRef,
                 currency := authTx.metadataCurrency.getD "USD", amount }

def validateAuthorization (amount : Decimal) (currency : String) (paymentState : PaymentState) :
    Except AppError Unit :=
  let result := authorizationRules.evaluateDetailed
    (evalAuthorization { amount, currency, paymentState })
  if !result.passed then
    .error (PaymentError.validationFailed
      (String.intercalate "; " result.failureMessages)).toAppError
  else .ok ()

/-- Authorize payment: reads on pool, writes on tx. -/
def authorizePaymentOnTx (gateway : PaymentGateway) (orderId : Uuid) (amount : Decimal)
    (currency : String) : Tx AppError PaymentDb Unit := do
  let pool ← Tx.readPool
  let existing := LedgerRepo.getTransactionByIdempotencyKey (.auth orderId) pool
  if existing.any (·.status ≠ .discarded) then
    return ()
  else
    Tx.ofExcept (validateAuthorization amount currency (pool.paymentState orderId))
    match gateway.authorize (.auth orderId) orderId amount currency with
    | .ok result =>
      if result.approvedAmount ≠ amount then
        -- the gateway is asked to void; its answer is only logged
        writeOutbox orderId .paymentFailed
          { orderId := some orderId
            reason := some
              s!"Amount tampering: requested={amount}, approved={result.approvedAmount}" }
        throw (PaymentError.amountTampered amount result.approvedAmount).toAppError
      else
        recordAuthorization orderId amount currency result.gatewayReference
    | .error gwErr =>
      writeOutbox orderId .paymentFailed
        { orderId := some orderId, reason := some gwErr.message }

/-- The gateway call and the write phase that `capture_payment_on_tx` and
    `handle_capture_retry` share, up to the retry count and the text of a decline. -/
def captureOnTx (gateway : PaymentGateway) (orderId : Uuid) (retryCount : Nat)
    (declined : String) : Tx AppError PaymentDb Unit := do
  let pool ← Tx.readPool
  let auth ← Tx.ofExcept
    (findPostedAuthorization orderId PaymentState.validateForCapture pool)
  match gateway.capture auth.gatewayRef with
  | .ok () => recordCapture orderId auth.currency auth.amount (.capture orderId) auth.gatewayRef
  | .error gwErr =>
    if gwErr.isRetryable then
      writeOutbox orderId .paymentCaptureRetryRequested
        { orderId := some orderId, retryCount := some retryCount, reason := some gwErr.message }
    else
      writeOutbox orderId .paymentFailed
        { orderId := some orderId, reason := some s!"{declined}: {gwErr.message}" }

/-- Capture payment. A retryable gateway failure schedules a retry through the outbox. -/
def capturePaymentOnTx (gateway : PaymentGateway) (orderId : Uuid) :
    Tx AppError PaymentDb Unit :=
  captureOnTx gateway orderId 1 "Capture declined"

/-- Void payment: reads on pool, gateway call, writes on tx. -/
def voidPaymentOnTx (gateway : PaymentGateway) (orderId : Uuid) : Tx AppError PaymentDb Unit := do
  let pool ← Tx.readPool
  let auth ← Tx.ofExcept
    (findPostedAuthorization orderId PaymentState.validateForVoid pool)
  match gateway.void auth.gatewayRef with
  | .error e => throw e.toPaymentError.toAppError
  | .ok () => recordVoid orderId auth.authTxId auth.currency auth.amount (.void orderId)

/-! ## Consumers -/

/-- Handle InventoryReserved: authorize payment via gateway. -/
def handleInventoryReserved (gateway : PaymentGateway) (env : EventEnvelope) :
    Tx AppError PaymentDb Unit := do
  let orderId ← Tx.ofExcept env.payloadOrderId
  match env.payload.totalAmount.bind DecimalText.parse with
  | none => throw (.badRequest "Missing or invalid total_amount")
  | some totalAmount =>
    authorizePaymentOnTx gateway orderId totalAmount (env.payload.currency.getD "USD")

/-- Handle OrderConfirmed: capture the authorized payment. -/
def handleOrderConfirmed (gateway : PaymentGateway) (env : EventEnvelope) :
    Tx AppError PaymentDb Unit := do
  let orderId ← Tx.ofExcept env.payloadOrderId
  capturePaymentOnTx gateway orderId

/-- Handle OrderCancelled: void if authorized. Any other state is at most logged. -/
def handleOrderCancelled (gateway : PaymentGateway) (env : EventEnvelope) :
    Tx AppError PaymentDb Unit := do
  let orderId ← Tx.ofExcept env.payloadOrderId
  let pool ← Tx.readPool
  match pool.paymentState orderId with
  | .authorized => voidPaymentOnTx gateway orderId
  | _ => return ()

/-- `MAX_CAPTURE_RETRIES` -/
def maxCaptureRetries : Nat := 10

/-- Handle a self-consumed `PaymentCaptureRetryRequested` event. -/
def handleCaptureRetry (gateway : PaymentGateway) (env : EventEnvelope) :
    Tx AppError PaymentDb Unit := do
  let orderId ← Tx.ofExcept env.payloadOrderId
  let retryCount := asU32 (env.payload.retryCount.getD 0)
  if retryCount ≥ maxCaptureRetries then
    writeOutbox orderId .paymentFailed
      { orderId := some orderId, reason := some s!"Capture failed after {retryCount} retries" }
  else
    captureOnTx gateway orderId (retryCount + 1) "Capture permanently failed"

/-- `PaymentEventHandler::handle`. The distributed lock keeps two handlings of one order
    from running at the same time; handlings are atomic here. -/
def handle (gateway : PaymentGateway) (env : EventEnvelope) : Tx HandlerError PaymentDb Unit :=
  let permanent (e : AppError) : HandlerError := .permanent (toString e)
  let transient (e : AppError) : HandlerError := .transient (toString e)
  let dispatch (x : Tx AppError PaymentDb Unit) : Tx HandlerError PaymentDb Unit := do
    let _ ← Tx.mapErr permanent (Tx.ofExcept env.payloadOrderId)
    Tx.mapErr transient x
  match env.eventType with
  | .inventoryReserved => dispatch (handleInventoryReserved gateway env)
  | .orderConfirmed => dispatch (handleOrderConfirmed gateway env)
  | .orderCancelled => dispatch (handleOrderCancelled gateway env)
  | .paymentCaptureRetryRequested => dispatch (handleCaptureRetry gateway env)
  | _ => pure ()

/-! ## Handlings one after the other -/

/-- Open a transaction, later than every one before it. -/
def PaymentDb.startTransaction (db : PaymentDb) (tick : Nat) : PaymentDb :=
  { db with now := db.now + tick + 1 }

/-- An event that is delivered to the payment service, and the gateway's answers to it. -/
structure Handling where
  tick : Nat
  gateway : PaymentGateway
  env : EventEnvelope

/-- Handle one event atomically. A handler that fails is rolled back. -/
def step (db : PaymentDb) (h : Handling) : Option PaymentDb :=
  some (Tx.attempt (handle h.gateway h.env) (db.startTransaction h.tick)).db

/-! ## Pool-based API -/

/-- `with_transaction(..).map_err(..)`: a transaction of its own, whose error is reported after
    `msg`. -/
def ownTransaction (msg : String) (x : Tx AppError PaymentDb Unit) (db : PaymentDb) :
    Except AppError Unit × PaymentDb :=
  match withTransaction x db with
  | .ok ((), db) => (.ok (), db)
  | .error e => (.error (.internalServerError s!"{msg}: {e}"), db)

/-- Write a payment event outside a transaction (creates its own). -/
def writePaymentEvent (orderId : Uuid) (eventType : EventType) (payload : Payload)
    (db : PaymentDb) : Except AppError Unit × PaymentDb :=
  ownTransaction s!"Failed to write {eventType}" (writeOutbox orderId eventType payload) db

/-- Handle tampered gateway amount. The gateway is asked to void; its answer is only logged. -/
def handleTamperedAmount (orderId : Uuid) (requested approved : Decimal) (db : PaymentDb) :
    Except AppError Unit × PaymentDb :=
  match writePaymentEvent orderId .paymentFailed
      { orderId := some orderId
        reason := some s!"Amount tampering: requested={requested}, approved={approved}" } db with
  | (.error e, db) => (.error e, db)
  | (.ok (), db) => (.error (PaymentError.amountTampered requested approved).toAppError, db)

/-- Authorize payment for an order. -/
def authorizePayment (gateway : PaymentGateway) (orderId : Uuid) (amount : Decimal)
    (currency : String) (db : PaymentDb) : Except AppError Unit × PaymentDb :=
  let existingTx := LedgerRepo.getTransactionByIdempotencyKey (.auth orderId) db
  if existingTx.any (·.status ≠ .discarded) then (.ok (), db)
  else
    match validateAuthorization amount currency (db.paymentState orderId) with
    | .error e => (.error e, db)
    | .ok () =>
      match gateway.authorize (.auth orderId) orderId amount currency with
      | .ok result =>
        if result.approvedAmount ≠ amount then
          handleTamperedAmount orderId amount result.approvedAmount db
        else
          ownTransaction "Failed to authorize"
            (recordAuthorization orderId amount currency result.gatewayReference) db
      | .error gwErr =>
        writePaymentEvent orderId .paymentFailed
          { orderId := some orderId, reason := some gwErr.message } db

/-- Capture an authorized payment. -/
def capturePayment (gateway : PaymentGateway) (orderId : Uuid) (db : PaymentDb) :
    Except AppError Unit × PaymentDb :=
  match findPostedAuthorization orderId PaymentState.validateForCapture db with
  | .error e => (.error e, db)
  | .ok auth =>
    match gateway.capture auth.gatewayRef with
    | .error e => (.error e.toPaymentError.toAppError, db)
    | .ok () =>
      ownTransaction "Failed to capture payment"
        (recordCapture orderId auth.currency auth.amount (.capture orderId) auth.gatewayRef) db

/-- Void an authorized payment. -/
def voidPayment (gateway : PaymentGateway) (orderId : Uuid) (db : PaymentDb) :
    Except AppError Unit × PaymentDb :=
  match findPostedAuthorization orderId PaymentState.validateForVoid db with
  | .error e => (.error e, db)
  | .ok auth =>
    match gateway.void auth.gatewayRef with
    | .error e => (.error e.toPaymentError.toAppError, db)
    | .ok () =>
      ownTransaction "Failed to void payment"
        (recordVoid orderId auth.authTxId auth.currency auth.amount (.void orderId)) db

/-- What the service is asked to do: an event is delivered to its consumer, or a function of the
    pool-based API is called. -/
inductive Operation where
  | handle (env : EventEnvelope)
  | authorizePayment (orderId : Uuid) (amount : Decimal) (currency : String)
  | capturePayment (orderId : Uuid)
  | voidPayment (orderId : Uuid)

/-- An operation, with the gateway's answers during it. -/
structure Request where
  tick : Nat
  gateway : PaymentGateway
  operation : Operation

/-- Perform one operation atomically. -/
def perform (db : PaymentDb) (r : Request) : Option PaymentDb :=
  let db := db.startTransaction r.tick
  match r.operation with
  | .handle env => some (Tx.attempt (handle r.gateway env) db).db
  | .authorizePayment orderId amount currency =>
    some (authorizePayment r.gateway orderId amount currency db).2
  | .capturePayment orderId => some (capturePayment r.gateway orderId db).2
  | .voidPayment orderId => some (voidPayment r.gateway orderId db).2

end Service

end Koupang.Payment
