import Koupang.Spec.PaymentBooks

/-!
# Trial balance

Whatever the payment service is asked to do, through its consumer or through the
pool-based API, every ledger transaction stays a double entry: one debit and one
credit of the same amount, in one currency. The two columns of the view
`account_balances` therefore have the same sum in every currency.

## Key results

- `bookInv_perform`: every operation keeps the books
- `BookInv.doubleEntry`: a transaction of the books is a double entry
- `BookInv.columns_eq`: the columns of the view agree, grouping the entries by transaction
- `trial_balance`: both, over every run
-/

namespace Koupang.Payment

open LedgerRepo

/-! ## The pool-based API -/

section Api

variable [SerdeJson]

omit [SerdeJson] in
/-- A transaction of its own commits what the closure has done, or changes nothing. -/
theorem ownTransaction_db {msg : String} {x : Tx AppError PaymentDb Unit} (hx : Tx.KeepsPool x)
    (db : PaymentDb) : (ownTransaction msg x db).2 = db ∨
      ∃ s, x (Tx.begin db) = .ok () s ∧ s.db = (ownTransaction msg x db).2 := by
  unfold ownTransaction
  cases htx : withTransaction x db with
  | error e => exact .inl rfl
  | ok p =>
    obtain ⟨⟨⟩, db'⟩ := p
    have hcommit := withTransaction_ok hx htx
    rcases hcommit with hcommitted | hsame
    · obtain ⟨s, hs, -, hdb⟩ := Tx.attempt_eq_committed.mp hcommitted
      exact .inr ⟨s, hs, hdb⟩
    · exact .inl hsame

/-- An operation leaves the tables as they are, or performs a recording for its order. -/
def Touches (db db' : PaymentDb) (o : Uuid) : Prop :=
  db' = db ∨ ∃ t s, s.db = db' ∧ Performs db s o t

theorem ownTransaction_touches {msg : String} {x : Tx AppError PaymentDb Unit} {db : PaymentDb}
    {o : Uuid} {t : EventType} (hx : Tx.KeepsPool x)
    (hperforms : ∀ s, x (Tx.begin db) = .ok () s → Performs db s o t) :
    Touches db (ownTransaction msg x db).2 o := by
  rcases ownTransaction_db hx db with hsame | ⟨s, hs, hdb⟩
  · exact .inl hsame
  · exact .inr ⟨t, s, hdb, hperforms s hs⟩

theorem writePaymentFailed_touches {o : Uuid} {payload : Payload}
    (hpayload : payload.orderId = some o) (db : PaymentDb) :
    Touches db (writePaymentEvent o .paymentFailed payload db).2 o := by
  have hperforms : ∀ s, writeOutbox o .paymentFailed payload (Tx.begin db) = .ok () s →
      Performs db s o .inventoryReserved := by
    intro s hs
    obtain ⟨-, -, rfl⟩ := writeOutbox_ok.mp hs
    exact .failed (.inl rfl) (emits_event hpayload)
  exact ownTransaction_touches (keepsPool_writeOutbox o .paymentFailed payload) hperforms

/-- The event is committed, although the caller is answered with an error. -/
theorem handleTamperedAmount_touches (o : Uuid) (requested approved : Decimal) (db : PaymentDb) :
    Touches db (handleTamperedAmount o requested approved db).2 o := by
  have hdb : (handleTamperedAmount o requested approved db).2 =
      (writePaymentEvent o .paymentFailed
        { orderId := some o
          reason := some s!"Amount tampering: requested={requested}, approved={approved}" }
        db).2 := by
    unfold handleTamperedAmount
    split
    · rename_i hwrite
      rw [hwrite]
    · rename_i hwrite
      rw [hwrite]
  rw [hdb]
  exact writePaymentFailed_touches rfl db

theorem authorizePayment_touches (gateway : PaymentGateway) (o : Uuid) (amount : Decimal)
    (currency : String) (db : PaymentDb) :
    Touches db (authorizePayment gateway o amount currency db).2 o := by
  unfold authorizePayment
  dsimp only
  split
  · exact .inl rfl
  -- the rules, then the gateway, then the ledger
  cases hvalid : validateAuthorization amount currency (db.paymentState o) with
  | error e => exact .inl rfl
  | ok _ =>
    cases gateway.authorize (.auth o) o amount currency with
    | error gwErr => exact writePaymentFailed_touches rfl db
    | ok result =>
      dsimp only
      split
      · -- the gateway has approved another amount
        exact handleTamperedAmount_touches o amount result.approvedAmount db
      · have hkeeps : Tx.KeepsPool
            (recordAuthorization o amount currency result.gatewayReference) := by
          rw [recordAuthorization_eq]
          exact keepsPool_recordTransaction _ _ _ _ _ _ _ _ _ _ _
        exact ownTransaction_touches hkeeps fun s hs => .authorized rfl hvalid hs

theorem capturePayment_touches (gateway : PaymentGateway) (o : Uuid) (db : PaymentDb) :
    Touches db (capturePayment gateway o db).2 o := by
  unfold capturePayment
  cases hauth : findPostedAuthorization o PaymentState.validateForCapture db with
  | error e => exact .inl rfl
  | ok auth =>
    cases hcapture : gateway.capture auth.gatewayRef with
    | error e =>
      simp only [hcapture]
      exact .inl rfl
    | ok _ =>
      simp only [hcapture]
      have hkeeps : Tx.KeepsPool (recordCapture o auth.currency auth.amount (.capture o)
          auth.gatewayRef) := by
        rw [recordCapture_eq]
        exact keepsPool_recordTransaction _ _ _ _ _ _ _ _ _ _ _
      exact ownTransaction_touches hkeeps fun s hs => .captured (.inl rfl) hauth hs

theorem voidPayment_touches (gateway : PaymentGateway) (o : Uuid) (db : PaymentDb) :
    Touches db (voidPayment gateway o db).2 o := by
  unfold voidPayment
  cases hauth : findPostedAuthorization o PaymentState.validateForVoid db with
  | error e => exact .inl rfl
  | ok auth =>
    cases hvoid : gateway.void auth.gatewayRef with
    | error e =>
      simp only [hvoid]
      exact .inl rfl
    | ok _ =>
      simp only [hvoid]
      have hkeeps : Tx.KeepsPool (recordVoid o auth.authTxId auth.currency auth.amount
          (.void o)) := by
        rw [recordVoid_eq]
        exact Tx.keepsPool_bind (keepsPool_updateTransactionStatus _ _) fun _ =>
          keepsPool_recordTransaction _ _ _ _ _ _ _ _ _ _ _
      exact ownTransaction_touches hkeeps fun s hs => .voided rfl hauth hs

theorem BookInv.touches {db db' : PaymentDb} {o : Uuid} (h : BookInv db)
    (hnow : ∀ t ∈ db.ledgerTransactions.rows, t.createdAt < db.now)
    (htouches : Touches db db' o) : BookInv db' := by
  rcases htouches with rfl | ⟨t, s, rfl, hperforms⟩
  · exact h
  · exact bookInv_performs h hnow hperforms

/-- One operation keeps the books. -/
theorem bookInv_perform {db db' : PaymentDb} {r : Request} (h : BookInv db)
    (hstep : perform db r = some db') : BookInv db' := by
  obtain ⟨tick, gateway, op⟩ := r
  obtain ⟨hstart, hnow⟩ := h.toLedgerInv.startTransaction tick
  have hbooks : BookInv (db.startTransaction tick) := h.congr hstart rfl rfl rfl
  cases op with
  | handle env => exact bookInv_step (a := ⟨tick, gateway, env⟩) h hstep
  | authorizePayment o amount currency =>
    cases hstep
    exact hbooks.touches hnow (authorizePayment_touches ..)
  | capturePayment o =>
    cases hstep
    exact hbooks.touches hnow (capturePayment_touches ..)
  | voidPayment o =>
    cases hstep
    exact hbooks.touches hnow (voidPayment_touches ..)

theorem bookInv_requests {db : PaymentDb} {rs : List Request}
    (h : Run.run perform {} rs = some db) : BookInv db :=
  Run.run_invariant (fun _ _ _ hinv hstep => bookInv_perform hinv hstep) bookInv_empty h

end Api

/-! ## Double entries -/

/-- The entries of a ledger transaction: a debit and a credit of the same amount on two accounts
    of its order in the same currency. -/
structure DoubleEntry (db : PaymentDb) (t : LedgerTransactionEntity)
    (debit credit : LedgerEntryEntity) (a b : AccountEntity) : Prop where
  entries : db.entriesOf t.id = [debit, credit]
  directions : debit.direction = .debit ∧ credit.direction = .credit
  amounts : debit.amount = credit.amount
  positive : 0 < debit.amount
  accounts : a ∈ db.accounts.rows ∧ b ∈ db.accounts.rows
  booked : debit.accountId = a.id ∧ credit.accountId = b.id
  distinct : a.id ≠ b.id
  orders : a.referenceId = t.orderId ∧ b.referenceId = t.orderId
  currencies : a.currency = b.currency

section Balance

variable {db : PaymentDb}

theorem BookInv.doubleEntry (h : BookInv db) {t : LedgerTransactionEntity}
    (ht : t ∈ db.ledgerTransactions.rows) :
    ∃ debit credit a b, DoubleEntry db t debit credit a b := by
  obtain ⟨debitType, creditType, currency, amount, hne, hbooked⟩ := h.booked ht
  obtain ⟨a, ha, b, hb, haof, hbof, hentries⟩ := hbooked.entries
  obtain ⟨debit, rest, hlist, hdebit, hrest⟩ := List.map_eq_cons_iff.mp hentries
  obtain ⟨credit, rest', rfl, hcredit, hnil⟩ := List.map_eq_cons_iff.mp hrest
  rw [List.map_eq_nil_iff] at hnil
  subst hnil
  simp only [bookingOf, Prod.mk.injEq] at hdebit hcredit
  obtain ⟨hdid, hdir, hdamount⟩ := hdebit
  obtain ⟨hcid, hcdir, hcamount⟩ := hcredit
  refine ⟨debit, credit, a, b, ?_⟩
  exact {
    entries := hlist
    directions := ⟨hdir, hcdir⟩
    amounts := hdamount.trans hcamount.symm
    positive := by
      rw [hdamount]
      exact hbooked.stored.2
    accounts := ⟨ha, hb⟩
    booked := ⟨hdid, hcid⟩
    distinct := by
      intro hid
      -- one account has one type
      have hsame := db.accounts.eq_of_key_eq ha hb hid
      subst hsame
      exact hne (haof.accountType.symm.trans hbof.accountType)
    orders := ⟨haof.referenceId, hbof.referenceId⟩
    currencies := haof.currency.trans hbof.currency.symm }

/-! ## The columns of the view -/

/-- What an entry adds to the column of a direction. -/
def columnAmount (db : PaymentDb) (direction : EntryDirection) (e : LedgerEntryEntity) : Decimal :=
  if e.direction = direction && isPosted db e then e.amount else 0

/-- The view `account_balances`, for every account of a currency. -/
def PaymentDb.balancesIn (db : PaymentDb) (currency : String) : List AccountBalanceEntity :=
  (db.accounts.rows.map (accountBalance db)).filter (·.currency = currency)

/-- The entries that are booked on accounts of a currency. -/
def PaymentDb.entriesIn (db : PaymentDb) (currency : String) : List LedgerEntryEntity :=
  db.ledgerEntries.filter (db.currencyOf · = some currency)

/-- A column of the view adds up the entries on accounts of the currency. -/
theorem sum_column (currency : String) (direction : EntryDirection) :
    ((db.accounts.rows.filter (·.currency = currency)).map fun a =>
      ((db.ledgerEntries.filter (·.accountId = a.id)).map (columnAmount db direction)).sum).sum =
    ((db.entriesIn currency).map (columnAmount db direction)).sum := by
  have hrefer : ∀ e ∈ db.entriesIn currency,
      ∃ a ∈ (db.accounts.filter (·.currency = currency)).rows, a.id = e.accountId := by
    intro e he
    have hcurrency := (List.mem_filter.mp he).2
    simp only [PaymentDb.currencyOf, decide_eq_true_eq, Option.map_eq_some_iff] at hcurrency
    obtain ⟨a, ha, hac⟩ := hcurrency
    obtain ⟨hmem, hid⟩ := (db.accounts.find?_eq_some_iff _ a).mp ha
    exact ⟨a, (Table.mem_filter ..).mpr ⟨hmem, by simp [hac]⟩, hid⟩
  rw [Table.sum_by_ref _ (·.accountId) (columnAmount db direction) hrefer]
  refine congrArg List.sum (List.map_congr_left fun a ha => ?_)
  obtain ⟨hmem, hac⟩ := List.mem_filter.mp ha
  simp only [decide_eq_true_eq] at hac
  -- every entry of the account is in its currency
  have hall : (db.entriesIn currency).filter (·.accountId = a.id) =
      db.ledgerEntries.filter (·.accountId = a.id) := by
    rw [PaymentDb.entriesIn, List.filter_filter]
    refine List.filter_congr fun e _ => ?_
    by_cases hid : e.accountId = a.id
    · have hfind := (db.accounts.find?_eq_some_iff e.accountId a).mpr ⟨hmem, hid.symm⟩
      simp [hid, PaymentDb.currencyOf, hid ▸ hfind, hac]
    · simp [hid]
  rw [hall]

/-- A double entry adds the same to both columns. -/
theorem BookInv.transaction_columns (h : BookInv db) (currency : String)
    {t : LedgerTransactionEntity} (ht : t ∈ db.ledgerTransactions.rows) :
    (((db.entriesIn currency).filter (·.transactionId = t.id)).map
      (columnAmount db .debit)).sum =
    (((db.entriesIn currency).filter (·.transactionId = t.id)).map
      (columnAmount db .credit)).sum := by
  obtain ⟨debit, credit, a, b, hdouble⟩ := h.doubleEntry ht
  have hfilter : (db.entriesIn currency).filter (·.transactionId = t.id) =
      [debit, credit].filter (db.currencyOf · = some currency) := by
    rw [PaymentDb.entriesIn, List.filter_comm, ← PaymentDb.entriesOf, hdouble.entries]
  have hmem : debit ∈ db.entriesOf t.id ∧ credit ∈ db.entriesOf t.id := by
    simp [hdouble.entries]
  have htx : debit.transactionId = t.id ∧ credit.transactionId = t.id := by
    exact ⟨of_decide_eq_true (List.mem_filter.mp hmem.1).2,
      of_decide_eq_true (List.mem_filter.mp hmem.2).2⟩
  have hposted : isPosted db debit = isPosted db credit := by
    rw [isPosted, isPosted, htx.1, htx.2]
  have hcurrency : db.currencyOf debit = db.currencyOf credit := by
    have hfind₁ := (db.accounts.find?_eq_some_iff _ a).mpr ⟨hdouble.accounts.1, rfl⟩
    have hfind₂ := (db.accounts.find?_eq_some_iff _ b).mpr ⟨hdouble.accounts.2, rfl⟩
    rw [PaymentDb.currencyOf, PaymentDb.currencyOf, hdouble.booked.1, hdouble.booked.2, hfind₁,
      hfind₂, Option.map_some, Option.map_some, hdouble.currencies]
  rw [hfilter]
  by_cases hin : db.currencyOf credit = some currency
  · simp [hin, hcurrency, columnAmount, hdouble.directions.1, hdouble.directions.2, hposted,
      hdouble.amounts]
  · simp [hin, hcurrency]

/-- The columns of the view agree in every currency. -/
theorem BookInv.columns_eq (h : BookInv db) (currency : String) :
    ((db.balancesIn currency).map (·.totalDebits)).sum =
      ((db.balancesIn currency).map (·.totalCredits)).sum := by
  have hcolumn (column : AccountBalanceEntity → Decimal) :
      ((db.balancesIn currency).map column) =
        (db.accounts.rows.filter (·.currency = currency)).map fun a =>
          column (accountBalance db a) := by
    rw [PaymentDb.balancesIn, List.filter_map, List.map_map]
    rfl
  have hrefer : ∀ e ∈ db.entriesIn currency, ∃ t ∈ db.ledgerTransactions.rows,
      t.id = e.transactionId := fun e he => h.refer e (List.mem_of_mem_filter he)
  calc ((db.balancesIn currency).map (·.totalDebits)).sum
      = ((db.entriesIn currency).map (columnAmount db .debit)).sum := by
        rw [hcolumn]
        exact sum_column currency .debit
    _ = ((db.entriesIn currency).map (columnAmount db .credit)).sum := by
        -- grouped by their transaction
        rw [db.ledgerTransactions.sum_by_ref (·.transactionId) (columnAmount db .debit) hrefer,
          db.ledgerTransactions.sum_by_ref (·.transactionId) (columnAmount db .credit) hrefer]
        exact congrArg List.sum (List.map_congr_left fun t ht => h.transaction_columns currency ht)
    _ = ((db.balancesIn currency).map (·.totalCredits)).sum := by
        rw [hcolumn]
        exact (sum_column currency .credit).symm

/-- In every run, every transaction is a double entry and the books balance in every currency. -/
theorem trial_balance [SerdeJson] {rs : List Request} (h : Run.run perform {} rs = some db) :
    (∀ t ∈ db.ledgerTransactions.rows, ∃ debit credit a b, DoubleEntry db t debit credit a b) ∧
    ∀ currency, ((db.balancesIn currency).map (·.totalDebits)).sum =
      ((db.balancesIn currency).map (·.totalCredits)).sum :=
  have hbooks := bookInv_requests h
  ⟨fun _ ht => hbooks.doubleEntry ht, fun currency => hbooks.columns_eq currency⟩

/-- One order is authorized in EUR through the API and captured by its event; another is
    authorized in USD, voided, and captured too late. -/
def mixedRequests : List Request :=
  [⟨0, approving, .authorizePayment ⟨0, 0⟩ 20 "EUR"⟩,
   ⟨0, approving, .handle (sampleEnv .inventoryReserved ⟨0, 1⟩)⟩,
   ⟨0, approving, .handle (sampleEnv .orderConfirmed ⟨0, 0⟩)⟩,
   ⟨0, approving, .voidPayment ⟨0, 1⟩⟩, ⟨0, approving, .capturePayment ⟨0, 1⟩⟩]

theorem trial_balance_mixed : ∃ db, Run.run perform {} mixedRequests = some db ∧
    db.ledgerTransactions.rows.length = 4 ∧
    ∀ currency, ((db.balancesIn currency).map (·.totalDebits)).sum =
      ((db.balancesIn currency).map (·.totalCredits)).sum := by
  have hrun : (Run.run perform {} mixedRequests).map (·.ledgerTransactions.rows.length) =
    some 4 := by decide +kernel
  obtain ⟨db, hdb, hlength⟩ := Option.map_eq_some_iff.mp hrun
  exact ⟨db, hdb, hlength, (trial_balance hdb).2⟩

end Balance

end Koupang.Payment
