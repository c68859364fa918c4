import Koupang.Model.PaymentConsumer
import Koupang.Spec.PaymentLedger

/-!
# The verdict on a reservation

The verdict on a reservation (PaymentAuthorized or PaymentFailed) is written on
the consumer's transaction, so an attempt whose handler returns an error leaves
none. A reservation that the consumer has finished with has a verdict exactly
when one was there before, or when some attempt was not interrupted, could read
a valid amount, and got an answer from the gateway that can be recorded.

## Key results

- `authorizePaymentOnTx_new`: when the authorization of a new payment succeeds
- `tryProcessOnce_reserved`: how an attempt at a reservation ends
- `deliver_refines`: what the consumer commits is a run of handlings
- `hasVerdict_iff`: when a reservation has a verdict
-/

namespace Koupang.Payment

open LedgerRepo
open Consumer (AttemptResult ProcessResult)

/-! ## The authorization of a new payment -/

/-- The key of an authorization is that of its order. -/
def AuthKeys (db : PaymentDb) : Prop :=
  ∀ t ∈ db.ledgerTransactions.rows, ∀ o, t.idempotencyKey = .auth o → t.orderId = o

/-- No row has the key of an order whose payment is new. -/
theorem AuthKeys.absent {db : PaymentDb} {o : Uuid} (h : AuthKeys db) (hinv : LedgerInv db)
    (hnew : db.paymentState o = .new) :
    ∀ t ∈ db.ledgerTransactions.rows, t.idempotencyKey ≠ .auth o := by
  intro t ht hkey
  have hmem : t ∈ db.txsOf o := List.mem_filter.mpr ⟨ht, by simpa using h t ht o hkey⟩
  rw [(hinv.txsOf_eq_nil (.inl hnew)).1] at hmem
  exact nomatch hmem

/-- What holds of every row still does after an effect, if it holds of the row that a recording
    inserts and is not about the status. -/
theorem rows_effect {P : LedgerTransactionEntity → Prop} {db db' : PaymentDb} {o : Uuid}
    {t : EventType} (h : ∀ tx ∈ db.ledgerTransactions.rows, P tx) (heffect : Effect db db' o t)
    (hdiscard : ∀ tx, P tx → P { tx with status := .discarded })
    (hnew : ∀ row : LedgerTransactionEntity, row.orderId = o →
      (row.transactionType, row.idempotencyKey) ∈
        [(TransactionType.authorization, IdempotencyKey.auth o), (.capture, .capture o),
          (.void, .void o)] → P row) :
    ∀ tx ∈ db'.ledgerTransactions.rows, P tx := by
  have hrecords {base : PaymentDb} {type : TransactionType} {key : IdempotencyKey}
      {ref : Option String} {t' : EventType} (hbase : ∀ tx ∈ base.ledgerTransactions.rows, P tx)
      (hkey : (type, key) ∈ [(TransactionType.authorization, IdempotencyKey.auth o),
        (.capture, .capture o), (.void, .void o)]) (hr : Records base db' o type key ref t') :
      ∀ tx ∈ db'.ledgerTransactions.rows, P tx := by
    obtain ⟨row, hrow, -, ho, htype, -, hrkey, -⟩ := hr.row
    intro tx htx
    rw [hrow, List.mem_append, List.mem_singleton] at htx
    rcases htx with htx | rfl
    · exact hbase tx htx
    · exact hnew tx ho (by rw [htype, hrkey]; exact hkey)
  cases heffect with
  | failed _ he | retried _ he =>
    rw [he.frame]
    exact h
  | authorized _ _ ref hr => exact hrecords h (by simp) hr
  | captured _ _ ref hr => exact hrecords h (by simp) hr
  | voided _ _ auth _ _ _ hr =>
    refine hrecords (fun tx htx => ?_) (by simp) hr
    rw [PaymentDb.discard, Table.mem_modify] at htx
    rcases htx with ⟨htx, -⟩ | ⟨tx', htx', -, rfl⟩
    · exact h tx htx
    · exact hdiscard tx' (h tx' htx')

theorem authKeys_effect {db db' : PaymentDb} {o : Uuid} {t : EventType} (h : AuthKeys db)
    (heffect : Effect db db' o t) : AuthKeys db' := by
  refine rows_effect h heffect (fun _ hkeys => hkeys) fun row ho hrow o' hkey => ?_
  simp only [hkey, List.mem_cons, Prod.mk.injEq, reduceCtorEq, and_false, List.not_mem_nil,
    or_false, IdempotencyKey.auth.injEq] at hrow
  exact ho.trans hrow.2.symm

theorem insertTransaction_ref {o : Uuid} {type : TransactionType} {key : IdempotencyKey}
    {ref : String} {db db' : PaymentDb} {row : LedgerTransactionEntity}
    (h : insertTransaction o type key (some ref) db = .ok (row, db')) :
    ∃ ref', varchar 255 ref = .ok ref' := by
  unfold insertTransaction at h
  obtain ⟨stored, hstored, -⟩ := Except.bind_eq_ok.mp h
  rw [Option.mapM_some] at hstored
  cases href : varchar 255 ref with
  | error e =>
    rw [href] at hstored
    exact nomatch hstored
  | ok ref' => exact ⟨ref', rfl⟩

/-- An amount that the rules admit can be stored. -/
theorem numeric19_4_of_mem {d : Decimal} (hmin : minPaymentAmount ≤ d)
    (hmax : d ≤ maxPaymentAmount) : ∃ stored, numeric19_4 d = .ok stored ∧ 0 < stored := by
  simp only [minPaymentAmount, maxPaymentAmount] at hmin hmax
  have hlow : (5000 : ℤ) ≤ ⌊d * 10000 + 1 / 2⌋ := Int.le_floor.mpr (by push_cast; linarith)
  have hhigh : ⌊d * 10000 + 1 / 2⌋ ≤ (1000000000 : ℤ) := by
    refine Int.le_of_lt_add_one (Int.floor_lt.mpr ?_)
    push_cast
    linarith
  have hlow' : (5000 : ℚ) ≤ ⌊d * 10000 + 1 / 2⌋ := by exact_mod_cast hlow
  have hhigh' : (⌊d * 10000 + 1 / 2⌋ : ℚ) ≤ 1000000000 := by exact_mod_cast hhigh
  have hround : roundNumeric d = (⌊d * 10000 + 1 / 2⌋ : ℚ) / 10000 := by
    rw [roundNumeric, if_pos (by linarith : (0 : ℚ) ≤ d)]
  refine ⟨roundNumeric d, if_pos ⟨?_, ?_⟩, ?_⟩ <;> rw [hround] <;> linarith

section Verdict

variable [SerdeJson]

/-- The event that a handler writes for the order fits the outbox. -/
def EventFits (o : Uuid) (t : EventType) (payload : Payload) : Prop :=
  SerdeJson.payloadBytes (({} : PaymentDb).event o t payload).envelope ≤ maxPayloadBytes

/-- The gateway's answer to an authorization can be recorded: it approves the amount that was
    asked for, or it is an error, and what is stored of it fits. -/
def Recordable (o : Uuid) (amount : Decimal) : Except GatewayError GatewayAuthResult → Prop
  | .ok result => result.approvedAmount = amount ∧
      (∃ ref, varchar 255 result.gatewayReference = .ok ref) ∧
      EventFits o .paymentAuthorized
        { orderId := some o, paymentId := some ⟨0, 0⟩
          gatewayReference := some result.gatewayReference }
  | .error gwErr => EventFits o .paymentFailed { orderId := some o, reason := some gwErr.message }

/-- The outbox has a verdict on the order. -/
def HasVerdict (db : PaymentDb) (o : Uuid) : Prop :=
  ∃ ins ∈ db.outbox, IsEvent ins .paymentsEvents o .paymentAuthorized ∨
    IsEvent ins .paymentsEvents o .paymentFailed

omit [SerdeJson] in
theorem Emits.hasVerdict {db db' : PaymentDb} {o : Uuid} (h : Emits db db' o .paymentFailed) :
    HasVerdict db' o := by
  obtain ⟨ins, hout, hins⟩ := h.outbox
  exact ⟨ins, by rw [hout]; exact List.mem_append_right _ (List.mem_singleton_self _), .inr hins⟩

omit [SerdeJson] in
theorem Records.hasVerdict {db db' : PaymentDb} {o : Uuid} {type : TransactionType}
    {key : IdempotencyKey} {ref : Option String}
    (h : Records db db' o type key ref .paymentAuthorized) : HasVerdict db' o := by
  obtain ⟨ins, hout, hins⟩ := h.outbox
  exact ⟨ins, by rw [hout]; exact List.mem_append_right _ (List.mem_singleton_self _), .inl hins⟩

section Sizes

variable [SerdeJson.FixedWidthIds]

/-- The identifiers in an event do not matter for its size. -/
theorem payloadBytes_congr {env env' : EventEnvelope} (h : env.blankIds = env'.blankIds) :
    SerdeJson.payloadBytes env = SerdeJson.payloadBytes env' := by
  rw [← SerdeJson.FixedWidthIds.payloadBytes_blankIds env, h,
    SerdeJson.FixedWidthIds.payloadBytes_blankIds env']

theorem authorizedEvent_fits {db : PaymentDb} {o id : Uuid} {ref : String} :
    SerdeJson.payloadBytes (db.event o .paymentAuthorized
      { orderId := some o, paymentId := some id, gatewayReference := some ref }).envelope ≤
        maxPayloadBytes ↔
    EventFits o .paymentAuthorized
      { orderId := some o, paymentId := some ⟨0, 0⟩, gatewayReference := some ref } := by
  refine iff_of_eq (congrArg (· ≤ maxPayloadBytes) (payloadBytes_congr ?_))
  rfl

theorem failedEvent_fits {db : PaymentDb} {o : Uuid} {reason : String} :
    SerdeJson.payloadBytes (db.event o .paymentFailed
      { orderId := some o, reason := some reason }).envelope ≤ maxPayloadBytes ↔
    EventFits o .paymentFailed { orderId := some o, reason := some reason } := by
  refine iff_of_eq (congrArg (· ≤ maxPayloadBytes) (payloadBytes_congr ?_))
  rfl

end Sizes

/-- The writes of an authorization succeed exactly when what they store fits. -/
theorem recordAuthorization_new [SerdeJson.FixedWidthIds] {db : PaymentDb} {o : Uuid}
    {amount : Decimal} {currency ref : String} {state : PaymentState} (hinv : LedgerInv db)
    (habsent : ∀ t ∈ db.ledgerTransactions.rows, t.idempotencyKey ≠ .auth o)
    (hvalid : validateAuthorization amount currency state = .ok ()) :
    (∃ s, recordAuthorization o amount currency ref (Tx.begin db) = .ok () s ∧
      s.aborted = false) ↔
    (∃ ref', varchar 255 ref = .ok ref') ∧ EventFits o .paymentAuthorized
      { orderId := some o, paymentId := some ⟨0, 0⟩, gatewayReference := some ref } := by
  rw [recordAuthorization_eq]
  constructor
  · rintro ⟨s, h, -⟩
    simp only [recordTransaction, createTransaction, postTransaction, Tx.bind_ok, Tx.statement_ok,
      updateTransactionStatus_ok, writeOutbox_ok] at h
    obtain ⟨pair, s₁, -, row, _, ⟨-, db₂, hins, rfl⟩, _, s₃, -, _, _, -, hfits, -⟩ := h
    obtain ⟨ref', href⟩ := insertTransaction_ref hins
    exact ⟨⟨ref', href⟩, authorizedEvent_fits.mp hfits⟩
  · rintro ⟨⟨ref', href⟩, hfits⟩
    obtain ⟨hmin, hmax, hsupported, -⟩ := validateAuthorization_iff.mp hvalid
    obtain ⟨stored, hstored, hpos⟩ := numeric19_4_of_mem hmin hmax
    have hcurrency : ∀ c ∈ supportedCurrencies, c.length ≤ 3 := by decide
    have hmapM : (some ref).mapM (varchar 255) = .ok (some ref') := by
      rw [Option.mapM_some, href]
      rfl
    have hrecord : ∃ db', recordTransaction o currency .buyer .gatewayHolding .authorization
        (.auth o) (some ref) true amount .paymentAuthorized (fun id =>
          { orderId := some o, paymentId := some id, gatewayReference := some ref })
        (Tx.begin db) = .ok () { Tx.begin db with db := db' } :=
      recordTransaction_succeeds rfl hinv.fresh (hcurrency _ hsupported) habsent hmapM hstored hpos
        fun _ _ => authorizedEvent_fits.mpr hfits
    obtain ⟨db', h⟩ := hrecord
    exact ⟨_, h, rfl⟩

/-- What the authorization of a new payment does, by the gateway's answer. -/
theorem authorizePaymentOnTx_absent {gateway : PaymentGateway} {db : PaymentDb} {o : Uuid}
    {amount : Decimal} {currency : String}
    (habsent : ∀ t ∈ db.ledgerTransactions.rows, t.idempotencyKey ≠ .auth o)
    (hnew : db.paymentState o = .new) {s : TxState PaymentDb} :
    authorizePaymentOnTx gateway o amount currency (Tx.begin db) = .ok () s ↔
      validateAuthorization amount currency .new = .ok () ∧
        match gateway.authorize (.auth o) o amount currency with
        | .ok result => result.approvedAmount = amount ∧
          recordAuthorization o amount currency result.gatewayReference (Tx.begin db) = .ok () s
        | .error gwErr => writeOutbox o .paymentFailed
          { orderId := some o, reason := some gwErr.message } (Tx.begin db) = .ok () s := by
  have hnone : getTransactionByIdempotencyKey (.auth o) db = none := by
    rw [getTransactionByIdempotencyKey, List.find?_eq_none]
    simpa using habsent
  simp only [authorizePaymentOnTx, Tx.bind_ok, Tx.readPool_ok]
  constructor
  · rintro ⟨_, _, ⟨rfl, rfl⟩, h⟩
    simp only [Tx.begin_pool, hnone, Option.any_none, Bool.false_eq_true, if_false, hnew,
      Tx.bind_ok, Tx.ofExcept_ok] at h
    obtain ⟨_, _, ⟨hvalid, rfl⟩, h⟩ := h
    refine ⟨hvalid, ?_⟩
    cases hanswer : gateway.authorize (.auth o) o amount currency with
    | ok result =>
      simp only [hanswer] at h
      split at h
      · -- another amount was approved: PaymentFailed is written, and the error undoes it
        obtain ⟨_, _, -, h⟩ := Tx.bind_ok.mp h
        exact absurd h Tx.throw_ok
      · rename_i hsame
        exact ⟨not_not.mp hsame, h⟩
    | error gwErr =>
      simp only [hanswer] at h
      exact h
  · rintro ⟨hvalid, h⟩
    refine ⟨db, _, ⟨rfl, rfl⟩, ?_⟩
    simp only [hnone, Option.any_none, Bool.false_eq_true, if_false, hnew, Tx.bind_ok,
      Tx.ofExcept_ok]
    refine ⟨(), _, ⟨hvalid, rfl⟩, ?_⟩
    cases hanswer : gateway.authorize (.auth o) o amount currency with
    | ok result =>
      simp only [hanswer] at h
      simp only [h.1, ne_eq, not_true_eq_false, if_false]
      exact h.2
    | error gwErr =>
      simp only [hanswer] at h
      exact h

/-- Authorizing a new payment succeeds exactly when the rules admit it and the gateway's answer
    can be recorded. -/
theorem authorizePaymentOnTx_new [SerdeJson.FixedWidthIds] {gateway : PaymentGateway}
    {db : PaymentDb} {o : Uuid} {amount : Decimal} {currency : String} (hinv : LedgerInv db)
    (hkeys : AuthKeys db) (hnew : db.paymentState o = .new) :
    (∃ s, authorizePaymentOnTx gateway o amount currency (Tx.begin db) = .ok () s ∧
      s.aborted = false) ↔
    validateAuthorization amount currency .new = .ok () ∧
      Recordable o amount (gateway.authorize (.auth o) o amount currency) := by
  have habsent := hkeys.absent hinv hnew
  simp only [authorizePaymentOnTx_absent habsent hnew]
  cases gateway.authorize (.auth o) o amount currency with
  | ok result =>
    constructor
    · rintro ⟨s, ⟨hvalid, happroved, h⟩, hab⟩
      exact ⟨hvalid, happroved, (recordAuthorization_new hinv habsent hvalid).mp ⟨s, h, hab⟩⟩
    · rintro ⟨hvalid, happroved, hfits⟩
      obtain ⟨s, h, hab⟩ := (recordAuthorization_new hinv habsent hvalid).mpr hfits
      exact ⟨s, ⟨hvalid, happroved, h⟩, hab⟩
  | error gwErr =>
    simp only [writeOutbox_ok, failedEvent_fits]
    constructor
    · rintro ⟨s, ⟨hvalid, hfits, -⟩, -⟩
      exact ⟨hvalid, hfits⟩
    · rintro ⟨hvalid, hfits⟩
      exact ⟨_, ⟨hvalid, hfits, rfl, rfl⟩, rfl⟩

/-- An authorization of a new payment that succeeds has written a verdict. -/
theorem authorizePaymentOnTx_hasVerdict {gateway : PaymentGateway} {db : PaymentDb} {o : Uuid}
    {amount : Decimal} {currency : String} (hinv : LedgerInv db) (hkeys : AuthKeys db)
    (hnew : db.paymentState o = .new) {s : TxState PaymentDb}
    (h : authorizePaymentOnTx gateway o amount currency (Tx.begin db) = .ok () s) :
    HasVerdict s.db o := by
  obtain ⟨-, h⟩ := (authorizePaymentOnTx_absent (hkeys.absent hinv hnew) hnew).mp h
  cases hanswer : gateway.authorize (.auth o) o amount currency with
  | ok result =>
    simp only [hanswer, recordAuthorization_eq] at h
    obtain ⟨db', rfl, hrecords⟩ := recordTransaction_ok (fun _ => rfl) h.2
    exact hrecords.hasVerdict
  | error gwErr =>
    simp only [hanswer] at h
    obtain ⟨-, -, rfl⟩ := writeOutbox_ok.mp h
    exact (emits_event rfl).hasVerdict

/-! ## Attempts -/

/-- An attempt at the reservation `env` of order `o` that reaches a verdict: nothing interrupts
    it, the amount can be read, the rules admit it, and the gateway's answer can be recorded. -/
def Decides (env : EventEnvelope) (o : Uuid) (a : AttemptEnv) : Prop :=
  a.interruption = none ∧ ∃ amount, env.payload.totalAmount.bind DecimalText.parse = some amount ∧
    let currency := env.payload.currency.getD "USD"
    validateAuthorization amount currency .new = .ok () ∧
      Recordable o amount (a.gateway.authorize (.auth o) o amount currency)

section Attempts

variable {env : EventEnvelope} {o : Uuid}

theorem handleInterrupted_reserved (henv : env.eventType = .inventoryReserved)
    (ho : env.payload.orderId = some o) {interruption : Option Interruption}
    {gateway : PaymentGateway} {s t : TxState PaymentDb} :
    handleInterrupted interruption gateway env s = .ok () t ↔
      interruption = none ∧ ∃ amount,
        env.payload.totalAmount.bind DecimalText.parse = some amount ∧
        authorizePaymentOnTx gateway o amount (env.payload.currency.getD "USD") s = .ok () t := by
  have hid : env.payloadOrderId = .ok o := payloadOrderId_ok.mpr ho
  simp only [handleInterrupted, handle, henv, hid, Tx.bind_ok, Tx.mapErr_ok, Tx.ofExcept_ok,
    handleInventoryReserved]
  constructor
  · rintro ⟨_, _, ⟨⟨⟩, rfl⟩, h⟩
    cases interruption with
    | some i => cases i <;> exact absurd h Tx.throw_ok
    | none =>
      simp only [Tx.bind_ok, Tx.mapErr_ok, Tx.ofExcept_ok] at h
      obtain ⟨_, _, ⟨⟨⟩, rfl⟩, _, _, ⟨⟨⟩, rfl⟩, h⟩ := h
      cases hamount : env.payload.totalAmount.bind DecimalText.parse with
      | none =>
        rw [hamount] at h
        exact absurd h Tx.throw_ok
      | some amount =>
        rw [hamount] at h
        exact ⟨rfl, amount, rfl, h⟩
  · rintro ⟨rfl, amount, hamount, h⟩
    refine ⟨o, s, ⟨rfl, rfl⟩, ?_⟩
    simp only [Tx.bind_ok, Tx.mapErr_ok, Tx.ofExcept_ok]
    refine ⟨o, s, ⟨rfl, rfl⟩, o, s, ⟨rfl, rfl⟩, ?_⟩
    rw [hamount]
    exact h

/-- The handler of a reservation fails with transient errors only. -/
theorem handleInterrupted_transient (henv : env.eventType = .inventoryReserved)
    (ho : env.payload.orderId = some o) {interruption : Option Interruption}
    {gateway : PaymentGateway} {s t : TxState PaymentDb} {e : HandlerError}
    (h : handleInterrupted interruption gateway env s = .error e t) :
    ∃ msg, e = .transient msg := by
  have hid : env.payloadOrderId = .ok o := payloadOrderId_ok.mpr ho
  simp only [handleInterrupted, handle, henv, hid] at h
  cases interruption with
  | some i =>
    cases i <;> cases h <;> exact ⟨_, rfl⟩
  | none =>
    -- the order was found, so what is left are the errors of the dispatched function
    change Tx.mapErr (fun e : AppError => HandlerError.transient (toString e))
      (handleInventoryReserved gateway env) s = .error e t at h
    obtain ⟨e', rfl⟩ := Tx.mapErr_error h
    exact ⟨_, rfl⟩

/-- What the handler of a reservation does on a new payment. -/
theorem runHandler_reserved [SerdeJson.FixedWidthIds] {a : AttemptEnv} {db db' : PaymentDb}
    {input : Consumer.AttemptInput} (henv : env.eventType = .inventoryReserved)
    (ho : env.payload.orderId = some o) (hinv : LedgerInv db) (hkeys : AuthKeys db)
    (hnew : db.paymentState o = .new) (h : runHandler env a db = (input, db')) :
    (input = ⟨.ok, a.fault⟩ ∧ Decides env o a ∧ HasVerdict db' o) ∨
    input = ⟨.ok, .mark⟩ ∨
    (input = ⟨.transient, a.fault⟩ ∧ ¬Decides env o a) := by
  have hdecides : Decides env o a ↔ ∃ s,
      handleInterrupted a.interruption a.gateway env (Tx.begin db) = .ok () s ∧
        s.aborted = false := by
    simp only [Decides, ← authorizePaymentOnTx_new hinv hkeys hnew,
      handleInterrupted_reserved henv ho]
    constructor
    · rintro ⟨hi, amount, hamount, s, hs, hab⟩
      exact ⟨s, ⟨hi, amount, hamount, hs⟩, hab⟩
    · rintro ⟨s, ⟨hi, amount, hamount, hs⟩, hab⟩
      exact ⟨hi, amount, hamount, s, hs, hab⟩
  unfold runHandler at h
  split at h
  · rename_i u db₁ hattempt
    cases h
    obtain ⟨s, hs, hab, rfl⟩ := Tx.attempt_eq_committed.mp hattempt
    obtain ⟨-, amount, -, hs'⟩ := (handleInterrupted_reserved henv ho).mp hs
    exact .inl ⟨rfl, hdecides.mpr ⟨s, hs, hab⟩,
      authorizePaymentOnTx_hasVerdict hinv hkeys hnew hs'⟩
  · cases h
    exact .inr (.inl rfl)
  · rename_i e db₁ hattempt
    obtain ⟨s, hs⟩ := Tx.attempt_eq_failed hattempt
    obtain ⟨msg, hmsg⟩ := handleInterrupted_transient henv ho hs
    exact nomatch hmsg
  · rename_i e db₁ hattempt
    cases h
    obtain ⟨s, hs⟩ := Tx.attempt_eq_failed hattempt
    refine .inr (.inr ⟨rfl, fun hd => ?_⟩)
    obtain ⟨s', hs', -⟩ := hdecides.mp hd
    exact nomatch hs.symm.trans hs'

omit [SerdeJson] in
/-- The results of an attempt, by the verdict of the handler. -/
theorem tryProcessOnce_result {processedEvents : List Uuid} {eventId : Uuid}
    {input : Consumer.AttemptInput} {result : AttemptResult} {done : Bool}
    (h : Consumer.tryProcessOnce processedEvents eventId input = (result, done)) :
    (result = .dbError ∨ result = .alreadyProcessed) ∨
    (result = .committed ∧ done = true ∧ input = ⟨.ok, .none⟩) ∨
    (result = .permanentFailure ∧ done = false ∧ input.verdict = .permanent) ∨
    (result = .transientFailure ∧ done = false ∧ input.verdict = .transient) := by
  obtain ⟨verdict, fault⟩ := input
  unfold Consumer.tryProcessOnce at h
  generalize processedEvents.contains eventId = processed at h
  cases processed <;> cases verdict <;> cases fault <;> cases h <;> simp

/-- How an attempt at a reservation ends on a new payment. -/
theorem tryProcessOnce_reserved [SerdeJson.FixedWidthIds] {a : AttemptEnv} {s s' : ConsumerDb}
    {result : AttemptResult} (henv : env.eventType = .inventoryReserved)
    (ho : env.payload.orderId = some o) (hinv : LedgerInv s.db) (hkeys : AuthKeys s.db)
    (hnew : s.db.paymentState o = .new) (h : tryProcessOnce s env a = (result, s')) :
    (result = .dbError ∨ result = .alreadyProcessed) ∨
    (result = .committed ∧ Decides env o a ∧ HasVerdict s'.db o) ∨
    (result = .transientFailure ∧ ¬Decides env o a ∧
      s' = { s with db := s.db.startTransaction a.tick }) := by
  obtain ⟨hopened, -⟩ := hinv.startTransaction a.tick
  have hnew' : (s.db.startTransaction a.tick).paymentState o = .new := hnew
  obtain ⟨⟨input, db⟩, hrun⟩ : ∃ r, runHandler env a (s.db.startTransaction a.tick) = r := ⟨_, rfl⟩
  have hcases := runHandler_reserved henv ho hopened hkeys hnew' hrun
  obtain ⟨⟨result', done⟩, hresult⟩ :
      ∃ r, Consumer.tryProcessOnce s.processedEvents env.metadata.eventId input = r := ⟨_, rfl⟩
  simp only [tryProcessOnce, hrun, hresult] at h
  rcases tryProcessOnce_result hresult with hskip | ⟨rfl, rfl, rfl⟩ | ⟨rfl, rfl, hverdict⟩ |
    ⟨rfl, rfl, hverdict⟩
  · left
    cases done <;> cases h <;> exact hskip
  · cases h
    rcases hcases with ⟨-, hd, hv⟩ | hmark | ⟨htransient, -⟩
    · exact .inr (.inl ⟨rfl, hd, hv⟩)
    · exact nomatch hmark
    · exact nomatch htransient
  · -- no error of the handler is permanent
    rcases hcases with ⟨rfl, -⟩ | rfl | ⟨rfl, -⟩ <;> exact nomatch hverdict
  · cases h
    rcases hcases with ⟨rfl, -⟩ | rfl | ⟨-, hd⟩
    · exact nomatch hverdict
    · exact nomatch hverdict
    · exact .inr (.inr ⟨rfl, hd, rfl⟩)

/-- Attempt number `n` at a reservation, in a delivery that the consumer finishes with: it
    reaches a verdict, or it is the last one, or the loop goes on. -/
theorem retryLoop_step [SerdeJson.FixedWidthIds] {input : DeliveryEnv} {result : ProcessResult}
    {s s' : ConsumerDb} {n remaining : Nat} (henv : env.eventType = .inventoryReserved)
    (ho : env.payload.orderId = some o) (hfinished : result = .success ∨ result = .sentToDlq)
    (hinv : LedgerInv s.db) (hkeys : AuthKeys s.db) (hnew : s.db.paymentState o = .new)
    (h : retryLoop env input s n remaining = (result, s')) :
    (Decides env o (input.attempts n) ∧ HasVerdict s'.db o) ∨
    (¬Decides env o (input.attempts n) ∧ (remaining = 0 ∨ input.shutdown n = true) ∧
      s'.db.outbox = s.db.outbox) ∨
    (¬Decides env o (input.attempts n) ∧ input.shutdown n = false ∧
      ∃ left, remaining = left + 1 ∧ retryLoop env input
        { s with db := s.db.startTransaction (input.attempts n).tick } (n + 1) left =
          (result, s')) := by
  obtain ⟨⟨r, s₁⟩, hatt⟩ : ∃ r, tryProcessOnce s env (input.attempts n) = r := ⟨_, rfl⟩
  unfold retryLoop at h
  rw [hatt] at h
  rcases tryProcessOnce_reserved henv ho hinv hkeys hnew hatt with
    (rfl | rfl) | ⟨rfl, hd, hv⟩ | ⟨rfl, hd, rfl⟩
  · cases h
    simp at hfinished
  · cases h
    simp at hfinished
  · cases h
    exact .inl ⟨hd, hv⟩
  · cases remaining with
    | zero =>
      cases h
      exact .inr (.inl ⟨hd, .inl rfl, rfl⟩)
    | succ left =>
      dsimp only at h
      split at h
      · rename_i hshutdown
        cases h
        exact .inr (.inl ⟨hd, .inr hshutdown, rfl⟩)
      · rename_i hshutdown
        exact .inr (.inr ⟨hd, by simpa using hshutdown, left, rfl, h⟩)

/-- How the attempts from number `n` on end on a new payment. -/
theorem retryLoop_reserved [SerdeJson.FixedWidthIds] {input : DeliveryEnv}
    {result : ProcessResult} {s' : ConsumerDb} (henv : env.eventType = .inventoryReserved)
    (ho : env.payload.orderId = some o) (hfinished : result = .success ∨ result = .sentToDlq)
    {remaining : Nat} {s : ConsumerDb} {n : Nat} (hinv : LedgerInv s.db) (hkeys : AuthKeys s.db)
    (hnew : s.db.paymentState o = .new) (h : retryLoop env input s n remaining = (result, s')) :
    HasVerdict s'.db o ↔ HasVerdict s.db o ∨ ∃ k, n ≤ k ∧ k ≤ n + remaining ∧
      (∀ m, n ≤ m → m < k → input.shutdown m = false) ∧ Decides env o (input.attempts k) := by
  induction remaining generalizing s n with
  | zero =>
    rcases retryLoop_step henv ho hfinished hinv hkeys hnew h with
      ⟨hd, hv⟩ | ⟨hd, -, hout⟩ | ⟨-, -, _, hleft, -⟩
    · exact iff_of_true hv (.inr ⟨n, le_refl _, le_refl _, fun m h₁ h₂ => by omega, hd⟩)
    · rw [HasVerdict, hout]
      refine (or_iff_left ?_).symm
      rintro ⟨k, hk, hk', -, hdk⟩
      obtain rfl : k = n := by omega
      exact hd hdk
    · exact nomatch hleft
  | succ remaining ih =>
    rcases retryLoop_step henv ho hfinished hinv hkeys hnew h with
      ⟨hd, hv⟩ | ⟨hd, hlast, hout⟩ | ⟨hd, hshutdown, _, ⟨⟩, h⟩
    · exact iff_of_true hv (.inr ⟨n, le_refl _, by omega, fun m h₁ h₂ => by omega, hd⟩)
    · -- the shutdown ends the attempts with this one
      have hshutdown := hlast.resolve_left (Nat.succ_ne_zero _)
      rw [HasVerdict, hout]
      refine (or_iff_left ?_).symm
      rintro ⟨k, hk, -, hbefore, hdk⟩
      rcases Nat.eq_or_lt_of_le hk with rfl | hlt
      · exact hd hdk
      · exact absurd hshutdown (by simp [hbefore n (le_refl _) hlt])
    · have hinv' := (hinv.startTransaction (input.attempts n).tick).1
      rw [ih (s := { s with db := s.db.startTransaction (input.attempts n).tick }) hinv' hkeys hnew
        h]
      refine or_congr Iff.rfl ⟨?_, ?_⟩
      · rintro ⟨k, hk, hk', hbefore, hdk⟩
        refine ⟨k, by omega, by omega, fun m h₁ h₂ => ?_, hdk⟩
        rcases Nat.eq_or_lt_of_le h₁ with rfl | hlt
        · exact hshutdown
        · exact hbefore m hlt h₂
      · rintro ⟨k, hk, hk', hbefore, hdk⟩
        rcases Nat.eq_or_lt_of_le hk with rfl | hlt
        · exact absurd hdk hd
        · exact ⟨k, hlt, by omega, fun m h₁ h₂ => hbefore m (by omega) h₂, hdk⟩

end Attempts

/-! ## Deliveries -/

/-- A handler that is not interrupted is the handler. -/
theorem handleInterrupted_ok {interruption : Option Interruption} {gateway : PaymentGateway}
    {env : EventEnvelope} {s t : TxState PaymentDb}
    (h : handleInterrupted interruption gateway env s = .ok () t) :
    handle gateway env s = .ok () t := by
  cases ht : env.eventType
  case inventoryReserved | orderConfirmed | orderCancelled | paymentCaptureRetryRequested =>
    simp only [handleInterrupted, ht, Tx.bind_ok, Tx.mapErr_ok, Tx.ofExcept_ok] at h
    obtain ⟨_, _, ⟨-, rfl⟩, h⟩ := h
    cases interruption with
    | none => exact h
    | some i => cases i <;> exact absurd h Tx.throw_ok
  all_goals
    simp only [handleInterrupted, ht] at h
    simp only [handle, ht]
    exact h

omit [SerdeJson] in
/-- Only what a handler has done that succeeded is committed. -/
theorem tryProcessOnce_done {processedEvents : List Uuid} {eventId : Uuid}
    {input : Consumer.AttemptInput} {result : AttemptResult}
    (h : Consumer.tryProcessOnce processedEvents eventId input = (result, true)) :
    input.verdict = .ok ∧ input.fault ≠ .mark := by
  obtain ⟨verdict, fault⟩ := input
  unfold Consumer.tryProcessOnce at h
  generalize processedEvents.contains eventId = processed at h
  cases processed <;> cases verdict <;> cases fault <;> cases h <;> simp

/-- What an attempt commits is what one handling commits. -/
theorem tryProcessOnce_refines (s : ConsumerDb) (env : EventEnvelope) (a : AttemptEnv) :
    ∃ hd : Handling, step s.db hd = some (tryProcessOnce s env a).2.db := by
  obtain ⟨⟨input, db⟩, hrun⟩ : ∃ r, runHandler env a (s.db.startTransaction a.tick) = r := ⟨_, rfl⟩
  obtain ⟨⟨result, done⟩, hresult⟩ :
      ∃ r, Consumer.tryProcessOnce s.processedEvents env.metadata.eventId input = r := ⟨_, rfl⟩
  -- an event of a type that is ignored takes time and changes nothing
  have hnothing : step s.db ⟨a.tick, a.gateway, { env with metadata.eventType := .orderCreated }⟩ =
      some (s.db.startTransaction a.tick) := rfl
  simp only [tryProcessOnce, hrun, hresult]
  cases done with
  | false => exact ⟨_, hnothing⟩
  | true =>
    obtain ⟨hverdict, hmark⟩ := tryProcessOnce_done hresult
    unfold runHandler at hrun
    split at hrun
    · rename_i u db₁ hattempt
      cases hrun
      obtain ⟨t, ht, hab, rfl⟩ := Tx.attempt_eq_committed.mp hattempt
      refine ⟨⟨a.tick, a.gateway, env⟩, ?_⟩
      have hcommitted := Tx.attempt_eq_committed.mpr ⟨t, handleInterrupted_ok ht, hab, rfl⟩
      simp only [step, hcommitted]
      rfl
    · cases hrun
      exact absurd rfl hmark
    · cases hrun
      exact nomatch hverdict
    · cases hrun
      exact nomatch hverdict

/-- The loop ends with an attempt, or goes on where the attempt has left it. -/
theorem retryLoop_eq (env : EventEnvelope) (input : DeliveryEnv) (remaining : Nat)
    (s : ConsumerDb) (n : Nat) :
    (retryLoop env input s n remaining).2 = (tryProcessOnce s env (input.attempts n)).2 ∨
    ∃ left, remaining = left + 1 ∧ retryLoop env input s n remaining =
      retryLoop env input (tryProcessOnce s env (input.attempts n)).2 (n + 1) left := by
  obtain ⟨⟨r, s₁⟩, hatt⟩ : ∃ r, tryProcessOnce s env (input.attempts n) = r := ⟨_, rfl⟩
  rw [retryLoop.eq_def, hatt]
  cases r with
  | committed | alreadyProcessed | dbError | permanentFailure => exact .inl rfl
  | transientFailure =>
    cases remaining with
    | zero => exact .inl rfl
    | succ left =>
      by_cases hshutdown : input.shutdown n = true
      · exact .inl (by simp only [hshutdown, if_true])
      · exact .inr ⟨left, rfl, by simp only [hshutdown, Bool.false_eq_true, if_false]⟩

theorem retryLoop_refines (env : EventEnvelope) (input : DeliveryEnv) (remaining : Nat)
    (s : ConsumerDb) (n : Nat) :
    ∃ hs : List Handling, Run.run step s.db hs = some (retryLoop env input s n remaining).2.db := by
  induction remaining generalizing s n with
  | zero =>
    obtain ⟨hd, hstep⟩ := tryProcessOnce_refines s env (input.attempts n)
    rcases retryLoop_eq env input 0 s n with heq | ⟨_, hleft, -⟩
    · exact ⟨[hd], by rw [heq, Run.run_cons hstep, Run.run_nil]⟩
    · exact nomatch hleft
  | succ remaining ih =>
    obtain ⟨hd, hstep⟩ := tryProcessOnce_refines s env (input.attempts n)
    rcases retryLoop_eq env input (remaining + 1) s n with heq | ⟨_, ⟨⟩, heq⟩
    · exact ⟨[hd], by rw [heq, Run.run_cons hstep, Run.run_nil]⟩
    · obtain ⟨hs, hrun⟩ := ih (tryProcessOnce s env (input.attempts n)).2 (n + 1)
      exact ⟨hd :: hs, by rw [heq, Run.run_cons hstep, hrun]⟩

/-- What the consumer commits for a sequence of deliveries is a run of handlings. -/
theorem deliver_refines {maxRetries : Nat} {ds : List Delivery} {s : ConsumerDb}
    (h : Run.run (deliver maxRetries) {} ds = some s) :
    ∃ hs : List Handling, Run.run step {} hs = some s.db := by
  have hstep : ∀ (s : ConsumerDb) (d : Delivery) (s' : ConsumerDb),
      (∃ hs : List Handling, Run.run step {} hs = some s.db) → deliver maxRetries s d = some s' →
      ∃ hs : List Handling, Run.run step {} hs = some s'.db := by
    rintro s d s' ⟨hs, hrun⟩ hdeliver
    cases hdeliver
    obtain ⟨hs', hrun'⟩ := retryLoop_refines d.env d.input maxRetries s 0
    refine ⟨hs ++ hs', ?_⟩
    rw [Run.run_append, hrun]
    exact hrun'
  exact Run.run_invariant hstep ⟨[], rfl⟩ h

theorem authKeys_run {db : PaymentDb} {hs : List Handling} (h : Run.run step {} hs = some db) :
    AuthKeys db := by
  have hinit : AuthKeys {} := by simp [AuthKeys]
  refine Run.run_invariant (fun db hd db' hkeys hstep => ?_) hinit h
  cases hstep
  rcases Tx.attempt_db_eq (keepsPool_handle hd.gateway hd.env) (db.startTransaction hd.tick) with
    ⟨_, hcommitted⟩ | hdb
  · rcases handle_committed hcommitted with heq | ⟨o, -, heffect⟩
    · rw [heq]
      exact hkeys
    · have hkeys' : AuthKeys (db.startTransaction hd.tick) := hkeys
      exact authKeys_effect hkeys' heffect
  · rw [hdb]
    exact hkeys

/-- Some attempt at the reservation that the loop gets to reaches a verdict. -/
def ReachesVerdict (maxRetries : Nat) (env : EventEnvelope) (o : Uuid) (input : DeliveryEnv) :
    Prop :=
  ∃ k ≤ maxRetries, (∀ m < k, input.shutdown m = false) ∧ Decides env o (input.attempts k)

/-- When a reservation that the consumer has finished with has a verdict. -/
theorem hasVerdict_iff [SerdeJson.FixedWidthIds] {maxRetries : Nat} {ds : List Delivery}
    {s s' : ConsumerDb} (h : Run.run (deliver maxRetries) {} ds = some s) {env : EventEnvelope}
    {o : Uuid} {input : DeliveryEnv} {result : ProcessResult}
    (henv : env.eventType = .inventoryReserved) (ho : env.payload.orderId = some o)
    (hnew : s.db.paymentState o = .new)
    (hprocess : processWithRetry maxRetries env input s = (result, s'))
    (hfinished : result = .success ∨ result = .sentToDlq) :
    HasVerdict s'.db o ↔ HasVerdict s.db o ∨ ReachesVerdict maxRetries env o input := by
  obtain ⟨hs, hrun⟩ := deliver_refines h
  rw [retryLoop_reserved henv ho hfinished (ledgerInv_run hrun) (authKeys_run hrun) hnew hprocess]
  refine or_congr Iff.rfl ⟨?_, ?_⟩
  · rintro ⟨k, -, hk, hbefore, hd⟩
    exact ⟨k, by omega, fun m hm => hbefore m (Nat.zero_le _) hm, hd⟩
  · rintro ⟨k, hk, hbefore, hd⟩
    exact ⟨k, Nat.zero_le _, by omega, fun m _ hm => hbefore m hm, hd⟩

end Verdict

/-- The lock is held during the first attempt; then the gateway approves. -/
def lockedOnce : DeliveryEnv where
  attempts n := ⟨0, approving, if n = 0 then some .lockHeld else none, .none⟩
  shutdown _ := false
  dlqOk := true

theorem hasVerdict_lockedOnce : ∃ s', processWithRetry 3 (sampleEnv .inventoryReserved ⟨0, 0⟩)
    lockedOnce {} = (.success, s') ∧ HasVerdict s'.db ⟨0, 0⟩ := by
  have hresult : (processWithRetry 3 (sampleEnv .inventoryReserved ⟨0, 0⟩) lockedOnce {}).1 =
    .success := by decide +kernel
  refine ⟨_, Prod.ext hresult rfl, ?_⟩
  have hfits : EventFits ⟨0, 0⟩ .paymentAuthorized
      { orderId := some ⟨0, 0⟩, paymentId := some ⟨0, 0⟩, gatewayReference := some "ref-1" } := by
    unfold EventFits
    decide +kernel
  have hvalid : validateAuthorization 20 "USD" .new = .ok () :=
    validateAuthorization_iff.mpr (by decide +kernel)
  have hrun : Run.run (deliver 3) {} [] = some {} := rfl
  refine (hasVerdict_iff hrun rfl rfl rfl rfl (.inl hresult)).mpr (.inr ?_)
  exact ⟨1, by decide, fun _ _ => rfl, rfl, 20, rfl, hvalid, rfl, ⟨"ref-1", rfl⟩, hfits⟩

/-- A gateway that approves half of what it is asked for. -/
def halving : PaymentGateway :=
  { approving with
    authorize := fun _ _ amount _ =>
      .ok { gatewayReference := "ref-1", approvedAmount := amount / 2 } }

/-- Every attempt finds the amount tampered with, and rolls its PaymentFailed back. -/
theorem no_verdict : ∃ s', processWithRetry 3 (sampleEnv .inventoryReserved ⟨0, 0⟩)
    { attempts := fun _ => ⟨0, halving, none, .none⟩, shutdown := fun _ => false, dlqOk := true }
    {} = (.sentToDlq, s') ∧ ({} : PaymentDb).paymentState ⟨0, 0⟩ = .new ∧
    ¬HasVerdict s'.db ⟨0, 0⟩ := by
  have hresult : (processWithRetry 3 (sampleEnv .inventoryReserved ⟨0, 0⟩)
      { attempts := fun _ => ⟨0, halving, none, .none⟩, shutdown := fun _ => false, dlqOk := true }
      {}).1 = .sentToDlq := by decide +kernel
  have houtbox : (processWithRetry 3 (sampleEnv .inventoryReserved ⟨0, 0⟩)
      { attempts := fun _ => ⟨0, halving, none, .none⟩, shutdown := fun _ => false, dlqOk := true }
      {}).2.db.outbox = [] := by decide +kernel
  refine ⟨_, Prod.ext hresult rfl, rfl, ?_⟩
  rintro ⟨ins, hins, -⟩
  rw [houtbox] at hins
  exact nomatch hins

end Koupang.Payment
