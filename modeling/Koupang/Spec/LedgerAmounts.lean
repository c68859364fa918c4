import Koupang.Spec.TrialBalance

/-!
# The amount that is booked

The gateway is asked for the amount of the event, and a different answer is
refused as tampering. What is stored in `ledger_entries` is that amount rounded to
four decimal places, and a capture or a void books what is stored.

## Key results

- `roundNumeric_eq_self_iff`: the amounts that are stored as they are
- `hasBooked_run`: an entry stays, whatever happens later
- `BookInv.sameAmount`: an order is booked with one amount
- `ledgerRecords_iff`: over every run, the ledger has the approved amount exactly if that has
  at most four decimal places
-/

namespace Koupang.Payment

open LedgerRepo

/-- At most four decimal places. -/
def FourDecimals (amount : Decimal) : Prop := ∃ units : ℤ, amount * 10000 = units

/-- The amounts that are stored as they are. -/
theorem roundNumeric_eq_self_iff {amount : Decimal} (hamount : 0 ≤ amount) :
    roundNumeric amount = amount ↔ FourDecimals amount := by
  have hunits : roundNumeric amount = amount ↔ (round (amount * 10000) : ℚ) = amount * 10000 := by
    rw [roundNumeric_eq_round hamount]
    constructor
    · intro h
      linarith
    · intro h
      rw [h]
      ring
  rw [hunits]
  constructor
  · intro h
    exact ⟨round (amount * 10000), h.symm⟩
  · intro ⟨units, h⟩
    rw [h, round_intCast]

/-! ## Entries stay -/

/-- An entry of a transaction of order `o` has the amount `amount`. -/
def HasBooked (db : PaymentDb) (o : Uuid) (amount : Decimal) : Prop :=
  ∃ e ∈ db.ledgerEntries, e.amount = amount ∧
    ∃ t ∈ db.ledgerTransactions.rows, t.id = e.transactionId ∧ t.orderId = o

theorem HasBooked.mono {db db' : PaymentDb} {o : Uuid} {amount : Decimal}
    (h : HasBooked db o amount) (hentries : ∀ e ∈ db.ledgerEntries, e ∈ db'.ledgerEntries)
    (htxs : ∀ t ∈ db.ledgerTransactions.rows, ∃ t' ∈ db'.ledgerTransactions.rows,
      t'.id = t.id ∧ t'.orderId = t.orderId) : HasBooked db' o amount := by
  obtain ⟨e, he, hamount, t, ht, hid, ho⟩ := h
  obtain ⟨t', ht', hid', ho'⟩ := htxs t ht
  exact ⟨e, hentries e he, hamount, t', ht', hid'.trans hid, ho'.trans ho⟩

theorem HasBooked.records {db db' : PaymentDb} {o o' : Uuid} {amount : Decimal}
    {type : TransactionType} {key : IdempotencyKey} {ref : Option String} {t : EventType}
    (h : HasBooked db o amount) (hrecords : Records db db' o' type key ref t) :
    HasBooked db' o amount := by
  obtain ⟨row, hrow, -, -, -, -, -, -, -, new, hnew, -⟩ := hrecords.row
  refine h.mono (fun e he => ?_) fun t ht => ⟨t, ?_, rfl, rfl⟩
  · rw [hnew]
    exact List.mem_append_left _ he
  · rw [hrow]
    exact List.mem_append_left _ ht

/-- Discarding an authorization leaves the entries, and the order of every transaction. -/
theorem HasBooked.discard {db : PaymentDb} {o : Uuid} {amount : Decimal}
    (h : HasBooked db o amount) (id : Uuid) : HasBooked (db.discard id) o amount := by
  refine h.mono (fun e he => he) fun t ht => ?_
  rw [PaymentDb.discard]
  by_cases hid : t.id = id
  · refine ⟨{ t with status := .discarded }, ?_, rfl, rfl⟩
    rw [Table.mem_modify]
    exact .inr ⟨t, ht, hid, rfl⟩
  · refine ⟨t, ?_, rfl, rfl⟩
    rw [Table.mem_modify]
    exact .inl ⟨ht, hid⟩

theorem HasBooked.effect {db db' : PaymentDb} {o o' : Uuid} {amount : Decimal} {t : EventType}
    (h : HasBooked db o amount) (heffect : Effect db db' o' t) : HasBooked db' o amount := by
  cases heffect with
  | failed _ he | retried _ he =>
    rw [he.frame]
    exact h
  | authorized _ _ ref hr => exact h.records hr
  | captured _ _ ref hr => exact h.records hr
  | voided _ _ auth _ _ _ hr => exact (h.discard auth.id).records hr

/-! ## One amount for an order -/

/-- The ledger has both entries of the authorization of an order, and every entry of the order
    has the amount. -/
structure LedgerRecords (db : PaymentDb) (o : Uuid) (amount : Decimal) : Prop where
  recorded : (db.bookings o .authorization).length = 2
  amounts : ∀ type, ∀ e ∈ db.bookings o type, e.amount = amount

theorem mem_bookings {db : PaymentDb} {o : Uuid} {type : TransactionType} {e : LedgerEntryEntity} :
    e ∈ db.bookings o type ↔
      ∃ t ∈ db.txsOf o, t.transactionType = type ∧ e ∈ db.entriesOf t.id := by
  simp [PaymentDb.bookings, and_assoc]

/-- The books of an order that has any are an authorization and at most one more transaction, all
    of the same amount. -/
theorem OrderBooks.sameAmount {db : PaymentDb} {o : Uuid} {txs : List LedgerTransactionEntity}
    {state : PaymentState} (h : OrderBooks db o txs state) (hne : txs ≠ []) :
    ∃ amount, (∀ t ∈ txs, ∀ e ∈ db.entriesOf t.id, e.amount = amount) ∧
      ((txs.filter (·.transactionType = .authorization)).flatMap fun t =>
        db.entriesOf t.id).length = 2 := by
  cases h with
  | new => exact absurd rfl hne
  | @authorized a currency amount ha hauth =>
    refine ⟨amount, ?_, ?_⟩
    · intro t ht
      cases List.mem_singleton.mp ht
      exact hauth.amounts
    · simp [(Prod.mk.inj ha).1, hauth.length]
  | @captured a c currency amount ha hc hauth hcapture =>
    refine ⟨amount, ?_, ?_⟩
    · intro t ht
      rcases List.mem_cons.mp ht with rfl | ht
      · exact hauth.amounts
      · cases List.mem_singleton.mp ht
        exact hcapture.amounts
    · simp [(Prod.mk.inj ha).1, (Prod.mk.inj hc).1, hauth.length]
  | @voided a v currency amount ha hv hauth hvoid =>
    refine ⟨amount, ?_, ?_⟩
    · intro t ht
      rcases List.mem_cons.mp ht with rfl | ht
      · exact hauth.amounts
      · cases List.mem_singleton.mp ht
        exact hvoid.amounts
    · simp [(Prod.mk.inj ha).1, (Prod.mk.inj hv).1, hauth.length]

/-- All that is booked for an order has the amount of any one of its entries. -/
theorem BookInv.ledgerRecords {db : PaymentDb} {o : Uuid} {amount : Decimal} (h : BookInv db)
    (hbooked : HasBooked db o amount) : LedgerRecords db o amount := by
  obtain ⟨e, he, rfl, t, ht, hid, ho⟩ := hbooked
  have htx : t ∈ db.txsOf o := List.mem_filter.mpr ⟨ht, decide_eq_true ho⟩
  have hentry : e ∈ db.entriesOf t.id := List.mem_filter.mpr ⟨he, decide_eq_true hid.symm⟩
  obtain ⟨state, hbooks⟩ := h.books o
  obtain ⟨amount, hamounts, hrecorded⟩ := hbooks.sameAmount (List.ne_nil_of_mem htx)
  refine ⟨hrecorded, fun type f hf => ?_⟩
  obtain ⟨u, hu, -, hf⟩ := mem_bookings.mp hf
  exact (hamounts u hu f hf).trans (hamounts t htx e hentry).symm

section Service

variable [SerdeJson]

/-- What one request leaves or performs, after its transaction has started. -/
theorem perform_touches {db db' : PaymentDb} {r : Request} (h : perform db r = some db') :
    ∃ o, Touches (db.startTransaction r.tick) db' o := by
  obtain ⟨tick, gateway, op⟩ := r
  cases op with
  | handle env =>
    cases h
    rcases Tx.attempt_db_eq (keepsPool_handle gateway env) (db.startTransaction tick) with
      ⟨_, hcommitted⟩ | hsame
    · rcases handle_performs hcommitted with hsame | ⟨o, s, -, hs, hperforms⟩
      · exact ⟨⟨0, 0⟩, .inl hsame⟩
      · exact ⟨o, .inr ⟨_, s, hs, hperforms⟩⟩
    · exact ⟨⟨0, 0⟩, .inl hsame⟩
  | authorizePayment o amount currency =>
    cases h
    exact ⟨o, authorizePayment_touches ..⟩
  | capturePayment o =>
    cases h
    exact ⟨o, capturePayment_touches ..⟩
  | voidPayment o =>
    cases h
    exact ⟨o, voidPayment_touches ..⟩

/-- An entry stays, whatever happens later. -/
theorem hasBooked_run {db db' : PaymentDb} {o : Uuid} {amount : Decimal} {rs : List Request}
    (h : HasBooked db o amount) (hrun : Run.run perform db rs = some db') :
    HasBooked db' o amount := by
  have hstep : ∀ db r db', HasBooked db o amount → perform db r = some db' →
      HasBooked db' o amount := by
    intro db r db' hbooked hperform
    have hstart : HasBooked (db.startTransaction r.tick) o amount := hbooked
    obtain ⟨o', hsame | ⟨t, s, hs, hperforms⟩⟩ := perform_touches hperform
    · rw [hsame]
      exact hstart
    · rw [← hs]
      exact hstart.effect hperforms.effect
  exact Run.run_invariant hstep h hrun

/-! ## The authorization -/

/-- The operation asks for the authorization of an order: an event does, or the pool-based
    API. -/
inductive AsksFor (o : Uuid) (amount : Decimal) (currency : String) : Operation → Prop
  | event {env : EventEnvelope} (htype : env.eventType = .inventoryReserved)
    (ho : env.payload.orderId = some o)
    (hamount : env.payload.totalAmount.bind DecimalText.parse = some amount)
    (hcurrency : env.payload.currency.getD "USD" = currency) :
    AsksFor o amount currency (.handle env)
  | api : AsksFor o amount currency (.authorizePayment o amount currency)

/-- What an approved authorization has recorded, if it has done anything. -/
theorem authorizePaymentOnTx_recorded {gateway : PaymentGateway} {o : Uuid} {amount : Decimal}
    {currency : String} {result : GatewayAuthResult} {db : PaymentDb} {s : TxState PaymentDb}
    (hanswer : gateway.authorize (.auth o) o amount currency = .ok result)
    (h : authorizePaymentOnTx gateway o amount currency (Tx.begin db) = .ok () s) :
    s.db = db ∨
      recordAuthorization o amount currency result.gatewayReference (Tx.begin db) = .ok () s := by
  simp only [authorizePaymentOnTx, Tx.bind_ok, Tx.readPool_ok] at h
  obtain ⟨_, _, ⟨rfl, rfl⟩, h⟩ := h
  -- the key is taken by an authorization that is not discarded: nothing is done
  split at h
  · obtain ⟨-, rfl⟩ := Tx.pure_ok.mp h
    exact .inl rfl
  simp only [Tx.bind_ok, Tx.ofExcept_ok] at h
  obtain ⟨_, _, ⟨-, rfl⟩, h⟩ := h
  simp only [hanswer] at h
  split at h
  · -- another amount was approved
    obtain ⟨_, _, -, h⟩ := Tx.bind_ok.mp h
    exact absurd h Tx.throw_ok
  · exact .inr h

theorem authorizePayment_recorded {gateway : PaymentGateway} {o : Uuid} {amount : Decimal}
    {currency : String} {result : GatewayAuthResult} {db : PaymentDb}
    (hvalid : validateAuthorization amount currency (db.paymentState o) = .ok ())
    (hanswer : gateway.authorize (.auth o) o amount currency = .ok result)
    (happroved : result.approvedAmount = amount) :
    (authorizePayment gateway o amount currency db).2 = db ∨
      ∃ s, recordAuthorization o amount currency result.gatewayReference (Tx.begin db) =
        .ok () s ∧ s.db = (authorizePayment gateway o amount currency db).2 := by
  unfold authorizePayment
  dsimp only
  split
  · exact .inl rfl
  · rw [hvalid, hanswer]
    dsimp only
    rw [if_neg (not_not.mpr happroved)]
    refine ownTransaction_db ?_ db
    rw [recordAuthorization_eq]
    exact keepsPool_recordTransaction _ _ _ _ _ _ _ _ _ _ _

/-- What a request for an authorization has recorded that the rules accept and the gateway
    approves. -/
theorem asksFor_recorded {db db' : PaymentDb} {r : Request} {o : Uuid} {amount : Decimal}
    {currency : String} {result : GatewayAuthResult} (hasks : AsksFor o amount currency r.operation)
    (hperform : perform db r = some db')
    (hvalid : validateAuthorization amount currency (db.paymentState o) = .ok ())
    (hanswer : r.gateway.authorize (.auth o) o amount currency = .ok result)
    (happroved : result.approvedAmount = amount) :
    db' = db.startTransaction r.tick ∨
      ∃ s, recordAuthorization o amount currency result.gatewayReference
        (Tx.begin (db.startTransaction r.tick)) = .ok () s ∧ s.db = db' := by
  obtain ⟨tick, gateway, op⟩ := r
  cases hasks with
  | api =>
    cases hperform
    exact authorizePayment_recorded hvalid hanswer happroved
  | @event env htype ho hamount hcurrency =>
    cases hperform
    rcases Tx.attempt_db_eq (keepsPool_handle gateway env) (db.startTransaction tick) with
      ⟨_, hcommitted⟩ | hsame
    · obtain ⟨s, hs, -, hdb⟩ := Tx.attempt_eq_committed.mp hcommitted
      simp only [handle, htype, Tx.bind_ok, Tx.mapErr_ok, Tx.ofExcept_ok, handleInventoryReserved,
        payloadOrderId_ok, ho, Option.some.injEq] at hs
      obtain ⟨_, _, ⟨-, rfl⟩, _, _, ⟨rfl, rfl⟩, hs⟩ := hs
      simp only [hamount, hcurrency] at hs
      rw [← hdb]
      exact (authorizePaymentOnTx_recorded hanswer hs).imp_right fun hrec => ⟨s, hrec, rfl⟩
    · exact .inl hsame

/-- What is booked is the amount, rounded. -/
theorem recordAuthorization_hasBooked {db : PaymentDb} {o : Uuid} {amount : Decimal}
    {currency ref : String} {state : PaymentState} {s : TxState PaymentDb} (h : BookInv db)
    (hvalid : validateAuthorization amount currency state = .ok ())
    (hrec : recordAuthorization o amount currency ref (Tx.begin db) = .ok () s) :
    HasBooked s.db o (roundNumeric amount) := by
  rw [recordAuthorization_eq] at hrec
  obtain ⟨db', rfl, hrecords⟩ := recordTransaction_ok (fun _ => rfl) hrec
  obtain ⟨row, hrow, -, ho, -⟩ := hrecords.row
  obtain ⟨-, -, hsupported, -⟩ := validateAuthorization_iff.mp hvalid
  have hfits : ∀ currency ∈ supportedCurrencies, currency.length ≤ 3 := by decide
  obtain ⟨-, -, m, hm, hbooked⟩ :=
    recordTransaction_booked (hfits _ hsupported) hrec h.refer hrow
  cases numeric19_4_ok hm
  obtain ⟨e, he⟩ := hbooked.ne_nil
  obtain ⟨hmem, hid⟩ := List.mem_filter.mp he
  refine ⟨e, hmem, hbooked.amounts e he, row, ?_, (of_decide_eq_true hid).symm, ho⟩
  rw [hrow]
  exact List.mem_append_right _ (List.mem_singleton_self _)

/-- Whenever an authorization that the rules accept and the gateway approves is recorded, the
    ledger has the approved amount, now and after whatever happens later, exactly if that has at
    most four decimal places. -/
theorem ledgerRecords_iff {rs rs' : List Request} {r : Request} {db db₁ db' : PaymentDb} {o : Uuid}
    {amount : Decimal} {currency : String} {result : GatewayAuthResult}
    (hrun : Run.run perform {} rs = some db) (hasks : AsksFor o amount currency r.operation)
    (hvalid : validateAuthorization amount currency (db.paymentState o) = .ok ())
    (hanswer : r.gateway.authorize (.auth o) o amount currency = .ok result)
    (happroved : result.approvedAmount = amount) (hperform : perform db r = some db₁)
    (hrecorded : db₁.bookings o .authorization ≠ [])
    (hlater : Run.run perform db₁ rs' = some db') :
    LedgerRecords db' o result.approvedAmount ↔ FourDecimals result.approvedAmount := by
  subst happroved
  have hinv := bookInv_requests hrun
  obtain ⟨hstart, -⟩ := hinv.toLedgerInv.startTransaction r.tick
  have hinv₀ : BookInv (db.startTransaction r.tick) := hinv.congr hstart rfl rfl rfl
  have hempty : db.txsOf o = [] := (hinv.txsOf_eq_nil (validateAuthorization_ok hvalid)).1
  have hbooked₁ : HasBooked db₁ o (roundNumeric result.approvedAmount) := by
    rcases asksFor_recorded hasks hperform hvalid hanswer rfl with hsame | ⟨s, hrec, rfl⟩
    · -- nothing was recorded before
      have hnone : (db.startTransaction r.tick).txsOf o = [] := hempty
      rw [hsame, PaymentDb.bookings, hnone] at hrecorded
      exact absurd rfl hrecorded
    · exact recordAuthorization_hasBooked hinv₀ hvalid hrec
  have hwhole : Run.run perform {} (rs ++ r :: rs') = some db' := by
    rw [Run.run_append, hrun, Option.bind_some, Run.run_cons hperform]
    exact hlater
  have hinv' : BookInv db' := bookInv_requests hwhole
  have hrecords := hinv'.ledgerRecords (hasBooked_run hbooked₁ hlater)
  have hnonneg : 0 ≤ result.approvedAmount := by
    have hmin := (validateAuthorization_iff.mp hvalid).1
    rw [minPaymentAmount] at hmin
    linarith
  rw [← roundNumeric_eq_self_iff hnonneg]
  constructor
  · intro h
    -- both amounts are those of one entry
    obtain ⟨e, he⟩ := List.exists_mem_of_length_pos (by rw [h.recorded]; decide)
    exact (hrecords.amounts .authorization e he).symm.trans (h.amounts .authorization e he)
  · intro h
    rw [h] at hrecords
    exact hrecords

end Service

/-! ## Runs -/

/-- The reservation of an order worth `amount`. -/
def reservedFor (amount : Decimal) : Request :=
  let env := sampleEnv .inventoryReserved ⟨0, 0⟩
  ⟨0, approving, .handle { env with payload.totalAmount := some (.decimal amount) }⟩

/-- The order is authorized for 20 USD and captured. -/
theorem ledgerRecords_captured : ∃ db, Run.run perform {}
    [reservedFor 20, ⟨0, approving, .capturePayment ⟨0, 0⟩⟩] = some db ∧
    LedgerRecords db ⟨0, 0⟩ 20 := by
  obtain ⟨db₁, hdb₁⟩ : ∃ db, perform {} (reservedFor 20) = some db := ⟨_, rfl⟩
  obtain ⟨db', hdb'⟩ : ∃ db, Run.run perform db₁ [⟨0, approving, .capturePayment ⟨0, 0⟩⟩] =
      some db := ⟨_, rfl⟩
  have hrecorded : (perform {} (reservedFor 20)).any (fun db =>
      db.bookings ⟨0, 0⟩ .authorization ≠ []) := by decide +kernel
  rw [hdb₁] at hrecorded
  have hvalid : validateAuthorization 20 "USD" (({} : PaymentDb).paymentState ⟨0, 0⟩) = .ok () := by
    decide +kernel
  have hasks : AsksFor ⟨0, 0⟩ 20 "USD" (reservedFor 20).operation := .event rfl rfl rfl rfl
  have hempty : Run.run perform {} [] = some ({} : PaymentDb) := rfl
  refine ⟨db', (Run.run_cons hdb₁).trans hdb', ?_⟩
  exact (ledgerRecords_iff hempty hasks hvalid rfl rfl hdb₁ (of_decide_eq_true hrecorded)
    hdb').mpr ⟨200000, by norm_num⟩

/-- The rules and the gateway accept 20.00005 USD, and 20.0001 USD is booked and captured. -/
theorem captured_rounded : ∃ db, Run.run perform {}
    [reservedFor (2000005 / 100000), ⟨0, approving, .capturePayment ⟨0, 0⟩⟩] = some db ∧
    validateAuthorization (2000005 / 100000) "USD" (({} : PaymentDb).paymentState ⟨0, 0⟩) =
      .ok () ∧
    (∀ type ∈ [TransactionType.authorization, .capture], ∀ e ∈ db.bookings ⟨0, 0⟩ type,
      e.amount = 200001 / 10000) ∧
    ¬ LedgerRecords db ⟨0, 0⟩ (2000005 / 100000) := by
  have hrun : (Run.run perform {}
      [reservedFor (2000005 / 100000), ⟨0, approving, .capturePayment ⟨0, 0⟩⟩]).any (fun db =>
        (db.bookings ⟨0, 0⟩ .authorization).length = 2 ∧
        ∀ type ∈ [TransactionType.authorization, .capture], ∀ e ∈ db.bookings ⟨0, 0⟩ type,
          e.amount = 200001 / 10000) := by decide +kernel
  obtain ⟨db, hdb, hboth⟩ := (Option.any_eq_true ..).mp hrun
  obtain ⟨hlength, hamounts⟩ := of_decide_eq_true hboth
  refine ⟨db, hdb, by decide +kernel, hamounts, fun hrecords => ?_⟩
  obtain ⟨e, he⟩ := List.exists_mem_of_length_pos (by rw [hlength]; decide)
  have hstored := hamounts .authorization (List.mem_cons_self ..) e he
  rw [hrecords.amounts .authorization e he] at hstored
  norm_num at hstored

end Koupang.Payment
