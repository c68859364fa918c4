import Koupang.Model.CircuitBreaker
import Koupang.Spec.OrderHistory
import Koupang.Spec.PaymentVerdict

/-!
# What trouble at the gateway does to an order

When a capture fails with an error that may be retried, it is retried. An
authorization makes no such difference: whatever error the gateway returns, and
be it that its circuit is open, a PaymentFailed event is left, on which the
order service cancels the order.

## Key results

- `leavesPaymentFailed_iff`: what an authorization must meet to leave PaymentFailed
- `failed_only_if_declined_iff`: when PaymentFailed says that the gateway has declined
-/

namespace Koupang.Payment

open LedgerRepo CircuitBreaker

/-- The gateway is asked for an authorization: no authorization of the order stands, and the
    rules admit a new one. -/
def Asked (db : PaymentDb) (o : Uuid) (amount : Decimal) (currency : String) : Prop :=
  (getTransactionByIdempotencyKey (.auth o) db).any (·.status ≠ .discarded) = false ∧
    validateAuthorization amount currency (db.paymentState o) = .ok ()

/-- The gateway's answer is an error that cannot be retried, as a decline is. -/
def Declined (answer : Except GatewayError GatewayAuthResult) : Prop :=
  ∃ e, answer = .error e ∧ e.isRetryable = false

/-- The gateway's answer is an error that may be retried. -/
def Troubled (answer : Except GatewayError GatewayAuthResult) : Prop :=
  ∃ e, answer = .error e ∧ e.isRetryable = true

section Breaker

variable {F : Type} {config : CircuitBreakerConfig F} {now : Nat} {state : BreakerState}

theorem preCall_error {e : GatewayError} (h : (preCall config now state).1 = .error e) :
    e.isRetryable = true := by
  unfold preCall at h
  generalize check config now state = checked at h
  obtain ⟨allowed, state'⟩ := checked
  cases allowed with
  | ok u => cases h
  | error open' =>
    cases h
    rfl

/-- Behind a breaker there is trouble when its circuit is open, or when the gateway has it. -/
theorem troubled_circuitBreakerGateway (inner : PaymentGateway) (key : IdempotencyKey) (o : Uuid)
    (amount : Decimal) (currency : String) :
    Troubled ((circuitBreakerGateway config now state inner).authorize key o amount currency) ↔
      (∃ e, (preCall config now state).1 = .error e) ∨
        Troubled (inner.authorize key o amount currency) := by
  unfold circuitBreakerGateway Troubled
  cases hpre : (preCall config now state).1 with
  | error e =>
    constructor
    · intro _
      exact .inl ⟨e, rfl⟩
    · intro _
      exact ⟨e, rfl, preCall_error hpre⟩
  | ok u =>
    constructor
    · intro h
      exact .inr h
    · intro h
      cases h with
      | inl h =>
        obtain ⟨e, h⟩ := h
        cases h
      | inr h => exact h

end Breaker

section Service

variable [SerdeJson]

/-- The event for an error of the gateway, as it is written to the outbox of `db`. -/
def failedEvent (db : PaymentDb) (o : Uuid) (e : GatewayError) : OutboxInsert :=
  db.event o .paymentFailed { orderId := some o, reason := some e.message }

/-- The transaction of an authorization leaves a PaymentFailed event for the order. -/
def LeavesPaymentFailed (gateway : PaymentGateway) (db : PaymentDb) (o : Uuid) (amount : Decimal)
    (currency : String) : Prop :=
  ∃ ins ∈ (Tx.attempt (authorizePaymentOnTx gateway o amount currency) db).db.outbox.drop
      db.outbox.length,
    IsEvent ins .paymentsEvents o .paymentFailed

variable {gateway : PaymentGateway} {db : PaymentDb} {o : Uuid} {amount : Decimal}
  {currency : String}

/-- An error of the gateway leaves its event, if the event can be written. -/
theorem attempt_authorize_error {e : GatewayError} (hasked : Asked db o amount currency)
    (hanswer : gateway.authorize (.auth o) o amount currency = .error e)
    (hfits : SerdeJson.payloadBytes (failedEvent db o e).envelope ≤ maxPayloadBytes) :
    ∃ db', Tx.attempt (authorizePaymentOnTx gateway o amount currency) db = .committed () db' ∧
      db'.outbox = db.outbox ++ [failedEvent db o e] := by
  obtain ⟨hnone, hvalid⟩ := hasked
  have hwrite : writeOutbox o .paymentFailed { orderId := some o, reason := some e.message }
      (Tx.begin db) = .ok () { Tx.begin db with
        db := (insertOutboxRow (failedEvent db o e) (nowV7 db).2).2 } :=
    writeOutbox_ok.mpr ⟨hfits, rfl, rfl⟩
  refine ⟨(insertOutboxRow (failedEvent db o e) (nowV7 db).2).2,
    Tx.attempt_eq_committed.mpr ⟨{ Tx.begin db with
      db := (insertOutboxRow (failedEvent db o e) (nowV7 db).2).2 }, ?_, rfl, rfl⟩, rfl⟩
  unfold authorizePaymentOnTx
  simp only [Tx.bind_ok, Tx.readPool_ok]
  refine ⟨db, _, ⟨rfl, rfl⟩, ?_⟩
  simp only [hnone, Bool.false_eq_true, if_false, Tx.bind_ok, Tx.ofExcept_ok]
  refine ⟨(), _, ⟨hvalid, rfl⟩, ?_⟩
  simp only [hanswer]
  exact hwrite

omit [SerdeJson] in
/-- A transaction that has emitted one event leaves no other one. -/
theorem eventType_of_left {db' : PaymentDb} {ins ins' : OutboxInsert} {t : EventType}
    (hout : db'.outbox = db.outbox ++ [ins']) (hevent : IsEvent ins' .paymentsEvents o t)
    (hins : ins ∈ db'.outbox.drop db.outbox.length)
    (hfailed : IsEvent ins .paymentsEvents o .paymentFailed) : t = .paymentFailed := by
  rw [hout, List.drop_left, List.mem_singleton] at hins
  subst hins
  exact hevent.eventType.symm.trans hfailed.eventType

/-- PaymentFailed is left exactly when the gateway is asked, answers with an error of whatever
    kind, and the event for it fits. -/
theorem leavesPaymentFailed_iff : LeavesPaymentFailed gateway db o amount currency ↔
    Asked db o amount currency ∧ ∃ e, gateway.authorize (.auth o) o amount currency = .error e ∧
      SerdeJson.payloadBytes (failedEvent db o e).envelope ≤ maxPayloadBytes := by
  constructor
  · intro hleaves
    obtain ⟨ins, hins, hfailed⟩ := hleaves
    have hkeeps := keepsPool_authorizePaymentOnTx gateway o amount currency
    cases Tx.attempt_db_eq hkeeps db with
    | inr hsame =>
      rw [hsame, List.drop_length] at hins
      cases hins
    | inl hcommitted =>
      obtain ⟨u, hcommitted⟩ := hcommitted
      obtain ⟨s, hs, -, hdb⟩ := Tx.attempt_eq_committed.mp hcommitted
      rw [← hdb] at hins
      simp only [authorizePaymentOnTx, Tx.bind_ok, Tx.readPool_ok] at hs
      obtain ⟨_, _, ⟨rfl, rfl⟩, hs⟩ := hs
      cases hexisting : (getTransactionByIdempotencyKey (.auth o) (Tx.begin db).pool).any
          (·.status ≠ .discarded) with
      | true =>
        rw [if_pos hexisting] at hs
        obtain ⟨-, rfl⟩ := Tx.pure_ok.mp hs
        rw [Tx.begin_db, List.drop_length] at hins
        cases hins
      | false =>
        simp only [hexisting, Bool.false_eq_true, if_false, Tx.bind_ok, Tx.ofExcept_ok] at hs
        obtain ⟨_, _, ⟨hvalid, rfl⟩, hs⟩ := hs
        refine ⟨⟨hexisting, hvalid⟩, ?_⟩
        cases hanswer : gateway.authorize (.auth o) o amount currency with
        | ok result =>
          simp only [hanswer] at hs
          by_cases htampered : result.approvedAmount ≠ amount
          · -- the event is rolled back with the error
            rw [if_pos htampered] at hs
            obtain ⟨_, _, -, hs⟩ := Tx.bind_ok.mp hs
            exact absurd hs Tx.throw_ok
          · rw [if_neg htampered, recordAuthorization_eq] at hs
            obtain ⟨db', rfl, hrecords⟩ := recordTransaction_ok (fun _ => rfl) hs
            obtain ⟨ins', hout, hevent⟩ := hrecords.outbox
            have h := eventType_of_left hout hevent hins hfailed
            cases h
        | error e =>
          simp only [hanswer] at hs
          obtain ⟨hfits, -⟩ := writeOutbox_ok.mp hs
          exact ⟨e, rfl, hfits⟩
  · intro hasks
    obtain ⟨hasked, e, hanswer, hfits⟩ := hasks
    obtain ⟨db', hcommitted, hout⟩ := attempt_authorize_error hasked hanswer hfits
    refine ⟨failedEvent db o e, ?_, ⟨rfl, rfl, rfl, rfl⟩⟩
    rw [hcommitted]
    show failedEvent db o e ∈ db'.outbox.drop db.outbox.length
    rw [hout, List.drop_left]
    exact List.mem_singleton_self _

/-- PaymentFailed is left only on a decline, unless the gateway is asked and in trouble, whether
    it has the trouble itself or its circuit is open. -/
theorem failed_only_if_declined_iff (gateway : PaymentGateway) (db : PaymentDb) (o : Uuid)
    (amount : Decimal) (currency : String) :
    ((LeavesPaymentFailed gateway db o amount currency →
        Declined (gateway.authorize (.auth o) o amount currency)) ↔
      ¬(Asked db o amount currency ∧
        ∃ e, gateway.authorize (.auth o) o amount currency = .error e ∧ e.isRetryable = true ∧
          SerdeJson.payloadBytes (failedEvent db o e).envelope ≤ maxPayloadBytes)) ∧
    ∀ {F : Type} (config : CircuitBreakerConfig F) (now : Nat) (state : BreakerState),
      Troubled ((circuitBreakerGateway config now state gateway).authorize (.auth o) o amount
        currency) ↔ (∃ e, (preCall config now state).1 = .error e) ∨
          Troubled (gateway.authorize (.auth o) o amount currency) := by
  constructor
  · constructor
    · intro honly ⟨hasked, e, hanswer, hretryable, hfits⟩
      have hleaves := leavesPaymentFailed_iff.mpr ⟨hasked, e, hanswer, hfits⟩
      obtain ⟨e', hanswer', hdeclined⟩ := honly hleaves
      rw [hanswer] at hanswer'
      cases hanswer'
      rw [hretryable] at hdeclined
      cases hdeclined
    · intro hno hleaves
      obtain ⟨hasked, e, hanswer, hfits⟩ := leavesPaymentFailed_iff.mp hleaves
      refine ⟨e, hanswer, ?_⟩
      by_contra hretryable
      exact hno ⟨hasked, e, hanswer, by simpa using hretryable, hfits⟩
  · intro F config now state
    exact troubled_circuitBreakerGateway gateway (.auth o) o amount currency

end Service

/-! ## An open circuit -/

/-- A gateway behind a breaker that has been tripped just now. -/
def tripped : PaymentGateway :=
  circuitBreakerGateway
    { windowSize := 10, failureThreshold := (1 : Rat) / 2, cooldown := 30000000 } 0
    { status := .opened, openedAt := some 0 } approving

/-- The error of an open circuit. -/
def circuitOpen : GatewayError where
  code := "CIRCUIT_OPEN"
  message := "Circuit breaker is open — gateway temporarily unavailable"
  isRetryable := true

/-- An order is placed, its stock is reserved, and the payment service tells what has become of
    its authorization. -/
def untilPayment : List Order.Op :=
  [.createOrder Order.sampleBuyer "key-1" Order.sampleReq,
   .handle (sampleEnv .inventoryReserved Order.firstOrder),
   .handle (failedEvent {} Order.firstOrder circuitOpen).envelope]

/-- The circuit is open while a new payment is authorized: PaymentFailed is left, and the order is
    cancelled. -/
theorem openCircuit_cancels_order :
    ({} : PaymentDb).paymentState Order.firstOrder = .new ∧
    tripped.authorize (.auth Order.firstOrder) Order.firstOrder 20 "USD" = .error circuitOpen ∧
    ¬(LeavesPaymentFailed tripped {} Order.firstOrder 20 "USD" →
      Declined (tripped.authorize (.auth Order.firstOrder) Order.firstOrder 20 "USD")) ∧
    (Run.run Order.step {} (untilPayment.take 2)).map (·.statusOf Order.firstOrder) =
      some (some .inventoryReserved) ∧
    (Run.run Order.step {} untilPayment).map (·.statusOf Order.firstOrder) =
      some (some .cancelled) := by
  have hanswer : tripped.authorize (.auth Order.firstOrder) Order.firstOrder 20 "USD" =
      .error circuitOpen := rfl
  have hvalid : validateAuthorization 20 "USD" .new = .ok () :=
    validateAuthorization_iff.mpr (by decide +kernel)
  refine ⟨rfl, hanswer, ?_, by decide +kernel, by decide +kernel⟩
  intro h
  have hleaves : LeavesPaymentFailed tripped {} Order.firstOrder 20 "USD" :=
    leavesPaymentFailed_iff.mpr ⟨⟨rfl, hvalid⟩, circuitOpen, hanswer, by decide +kernel⟩
  obtain ⟨e, he, hdeclined⟩ := h hleaves
  rw [hanswer] at he
  cases he
  cases hdeclined

end Koupang.Payment
