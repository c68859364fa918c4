import Mathlib.Tactic.Linarith
import Mathlib.Tactic.FieldSimp
import Koupang.Model.Payment
import Koupang.Spec.SharedCorrect

/-!
# What the payment service's operations do

An event that is handled and committed changes the ledger in one of four ways:
not at all, by recording an authorization, a capture or a void. Each recording
is the same sequence of statements (`recordTransaction`), so there is one lemma
about it.

## Key results

- `recordTransaction_ok`: what a recording leaves in the tables (`Records`)
- `recordTransaction_succeeds`: when it cannot fail
- `handle_performs`: the recording that the handler of an event makes (`Performs`)
- `handle_committed`: the effect of an event that is handled (`Effect`)
-/

namespace Koupang.Payment

open LedgerRepo

/-- Every identifier in the tables has been handed out by the generator. -/
structure Fresh (db : PaymentDb) : Prop where
  accounts : ∀ a ∈ db.accounts.rows, a.id.serial < db.uuids
  ledgerTransactions : ∀ t ∈ db.ledgerTransactions.rows, t.id.serial < db.uuids

/-- A table does not have the identifier that is handed out next. -/
theorem find?_next {α : Type} {key : α → Uuid} {t : Table key} {serial : Nat}
    (h : ∀ a ∈ t.rows, (key a).serial < serial) (node : Nat) : t.find? ⟨node, serial⟩ = none := by
  rw [Table.find?_eq_none_iff]
  intro a ha heq
  have hlt := h a ha
  rw [heq] at hlt
  exact absurd hlt (Nat.lt_irrefl _)

/-- An amount as it is stored in `ledger_entries`: rounded, in range and positive. -/
def Stored (amount : Decimal) : Prop := numeric19_4 amount = .ok amount ∧ 0 < amount

private theorem roundNumeric_nat (k : Nat) : roundNumeric ((k : ℚ) / 10000) = (k : ℚ) / 10000 := by
  have hnonneg : (0 : ℚ) ≤ (k : ℚ) / 10000 := by positivity
  have hfloor : ⌊(k : ℚ) / 10000 * 10000 + 1 / 2⌋ = (k : ℤ) := by
    rw [div_mul_cancel₀ _ (by norm_num), Int.floor_eq_iff]
    constructor <;> push_cast <;> linarith
  simp only [roundNumeric, hnonneg, if_true, hfloor, Int.cast_natCast]

private theorem roundNumeric_neg_nat (k : Nat) :
    roundNumeric (-((k : ℚ) / 10000)) = -((k : ℚ) / 10000) := by
  cases k with
  | zero => simpa using roundNumeric_nat 0
  | succ k =>
    -- a negative amount is rounded away from zero, through its absolute value
    have hneg : ¬ (0 : ℚ) ≤ -(((k + 1 : Nat) : ℚ) / 10000) := by
      have : (0 : ℚ) < ((k + 1 : Nat) : ℚ) / 10000 := by positivity
      linarith
    have hfloor : ⌊-(-(((k + 1 : Nat) : ℚ) / 10000)) * 10000 + 1 / 2⌋ = ((k + 1 : Nat) : ℤ) := by
      rw [neg_neg, div_mul_cancel₀ _ (by norm_num), Int.floor_eq_iff]
      constructor <;> push_cast <;> linarith
    simp only [roundNumeric, hneg, if_false, hfloor]
    push_cast
    ring

/-- Rounding twice is rounding once. -/
theorem roundNumeric_idem (d : Decimal) : roundNumeric (roundNumeric d) = roundNumeric d := by
  by_cases hd : 0 ≤ d
  · have hk : 0 ≤ ⌊d * 10000 + 1 / 2⌋ := Int.floor_nonneg.mpr (by linarith)
    obtain ⟨k, hk'⟩ := Int.eq_ofNat_of_zero_le hk
    have hr : roundNumeric d = (k : ℚ) / 10000 := by
      simp only [roundNumeric, hd, if_true, hk', Int.cast_natCast]
    rw [hr, roundNumeric_nat]
  · have hk : 0 ≤ ⌊-d * 10000 + 1 / 2⌋ := Int.floor_nonneg.mpr (by linarith)
    obtain ⟨k, hk'⟩ := Int.eq_ofNat_of_zero_le hk
    have hr : roundNumeric d = -((k : ℚ) / 10000) := by
      simp only [roundNumeric, hd, if_false, hk', Int.cast_neg, Int.cast_natCast]
      ring
    rw [hr, roundNumeric_neg_nat]

/-- A stored value fits its column. -/
theorem numeric19_4_idem {d r : Decimal} (h : numeric19_4 d = .ok r) : numeric19_4 r = .ok r := by
  unfold numeric19_4 at h
  dsimp only at h
  split at h
  · rename_i hr
    cases h
    simp only [numeric19_4, roundNumeric_idem, hr, and_self, if_true]
  · exact nomatch h

/-! ## Accounts -/

/-- `db'` is `db` with, possibly, more accounts. -/
structure AddsAccounts (db db' : PaymentDb) : Prop where
  ledgerTransactions : db'.ledgerTransactions = db.ledgerTransactions
  ledgerEntries : db'.ledgerEntries = db.ledgerEntries
  outbox : db'.outbox = db.outbox
  now : db'.now = db.now
  uuids : db.uuids ≤ db'.uuids
  fresh : Fresh db → Fresh db'
  accounts : ∀ a ∈ db.accounts.rows, a ∈ db'.accounts.rows

theorem AddsAccounts.refl (db : PaymentDb) : AddsAccounts db db :=
  ⟨rfl, rfl, rfl, rfl, Nat.le_refl _, id, fun _ h => h⟩

theorem AddsAccounts.trans {db db' db'' : PaymentDb} (h : AddsAccounts db db')
    (h' : AddsAccounts db' db'') : AddsAccounts db db'' :=
  ⟨h'.ledgerTransactions.trans h.ledgerTransactions, h'.ledgerEntries.trans h.ledgerEntries,
    h'.outbox.trans h.outbox, h'.now.trans h.now, h.uuids.trans h'.uuids,
    fun hf => h'.fresh (h.fresh hf), fun a ha => h'.accounts a (h.accounts a ha)⟩

theorem insertAccount_ok {accountType : AccountType} {o : Uuid} {currency : String}
    {db db' : PaymentDb} {account : Option AccountEntity}
    (h : insertAccount accountType o currency db = .ok (account, db')) :
    AddsAccounts db db' ∧ ∀ a ∈ account, a ∈ db'.accounts.rows := by
  simp only [insertAccount, Except.bind_eq_ok] at h
  obtain ⟨c, -, h⟩ := h
  split at h
  · -- ON CONFLICT DO NOTHING
    cases h
    exact ⟨.refl db, nofun⟩
  simp only [nowV7] at h
  split at h
  · exact absurd h Except.throw_ne_ok
  rename_i accounts hins
  cases h
  obtain ⟨-, hrows⟩ := (Table.insert_eq_some _ _ _).mp hins
  refine ⟨⟨rfl, rfl, rfl, rfl, Nat.le_succ _, fun hf => ⟨?_, ?_⟩, ?_⟩, ?_⟩
  · intro a ha
    rw [hrows, List.mem_append, List.mem_singleton] at ha
    rcases ha with ha | rfl
    · exact Nat.lt_succ_of_lt (hf.accounts a ha)
    · exact Nat.lt_succ_self _
  · exact fun t ht => Nat.lt_succ_of_lt (hf.ledgerTransactions t ht)
  · intro a ha
    rw [hrows]
    exact List.mem_append_left _ ha
  · rintro a ⟨⟩
    rw [hrows]
    exact List.mem_append_right _ (List.mem_singleton_self _)

theorem getOrCreateAccount_ok {accountType : AccountType} {o : Uuid} {currency : String}
    {s t : TxState PaymentDb} {account : AccountEntity}
    (h : getOrCreateAccount accountType o currency s = .ok account t) :
    ∃ db, t = { s with db } ∧ AddsAccounts s.db db ∧ account ∈ db.accounts.rows := by
  obtain ⟨r, u, hins, h⟩ := Tx.bind_ok.mp h
  obtain ⟨-, db, hdb, rfl⟩ := Tx.statement_ok.mp hins
  obtain ⟨hadds, hmem⟩ := insertAccount_ok hdb
  cases r with
  | some a =>
    obtain ⟨rfl, rfl⟩ := Tx.pure_ok.mp h
    exact ⟨db, rfl, hadds, hmem a rfl⟩
  | none =>
    -- the account was there: it is read back
    obtain ⟨-, hfind, rfl⟩ := Tx.fetchOne_ok.mp h
    exact ⟨db, rfl, hadds, List.mem_of_find?_eq_some hfind⟩

theorem createAccountPair_ok {o : Uuid} {currency : String} {debitType creditType : AccountType}
    {s t : TxState PaymentDb} {pair : Uuid × Uuid}
    (h : createAccountPair o currency debitType creditType s = .ok pair t) :
    ∃ db, t = { s with db } ∧ AddsAccounts s.db db := by
  simp only [createAccountPair, Tx.bind_ok, Tx.pure_ok] at h
  obtain ⟨a, s₁, h₁, b, s₂, h₂, -, rfl⟩ := h
  obtain ⟨db₁, rfl, hadds₁, -⟩ := getOrCreateAccount_ok h₁
  obtain ⟨db₂, rfl, hadds₂, -⟩ := getOrCreateAccount_ok h₂
  exact ⟨db₂, rfl, hadds₁.trans hadds₂⟩

/-! ## Ledger transactions and entries -/

theorem mapM_varchar_isSome {n : Nat} {r r' : Option String}
    (h : r.mapM (varchar n) = .ok r') : r'.isSome = r.isSome := by
  cases r with
  | none =>
    cases h
    rfl
  | some x =>
    simp only [Option.mapM_some, Functor.map] at h
    cases hv : varchar n x with
    | error e =>
      rw [hv] at h
      exact nomatch h
    | ok y =>
      rw [hv] at h
      cases h
      rfl

theorem insertTransaction_ok {o : Uuid} {type : TransactionType} {key : IdempotencyKey}
    {gatewayRef : Option String} {db db' : PaymentDb} {row : LedgerTransactionEntity}
    (h : insertTransaction o type key gatewayRef db = .ok (row, db')) :
    (∀ t ∈ db.ledgerTransactions.rows, t.idempotencyKey ≠ key) ∧
    db.ledgerTransactions.insert row = some db'.ledgerTransactions ∧
    db' = { db with ledgerTransactions := db'.ledgerTransactions, uuids := db.uuids + 1 } ∧
    row = { id := ⟨2, db.uuids⟩, createdAt := db.now, orderId := o, transactionType := type,
            status := .pending, idempotencyKey := key, gatewayReference := row.gatewayReference,
            metadataCurrency := none } ∧
    row.gatewayReference.isSome = gatewayRef.isSome := by
  simp only [insertTransaction, Except.bind_eq_ok] at h
  obtain ⟨ref, href, h⟩ := h
  -- idempotency_key is UNIQUE
  split at h
  · exact absurd h Except.throw_ne_ok
  rename_i habsent
  simp only [nowV7] at h
  split at h
  · exact absurd h Except.throw_ne_ok
  rename_i txs hins
  cases h
  exact ⟨by simpa using habsent, hins, rfl, rfl, mapM_varchar_isSome href⟩

/-- `db'` is `db` with entries for the ledger transaction `id`. -/
structure AddsEntries (db db' : PaymentDb) (id : Uuid) : Prop where
  entries : ∃ new, db'.ledgerEntries = db.ledgerEntries ++ new ∧ new ≠ [] ∧
    ∀ e ∈ new, e.transactionId = id ∧ Stored e.amount
  frame : db' = { db with ledgerEntries := db'.ledgerEntries, uuids := db'.uuids }
  uuids : db.uuids ≤ db'.uuids

theorem insertEntry_ok {id accountId : Uuid} {direction : EntryDirection} {amount : Decimal}
    {db db' : PaymentDb} {u : Unit}
    (h : insertEntry id accountId direction amount db = .ok (u, db')) : AddsEntries db db' id := by
  simp only [insertEntry, Except.bind_eq_ok] at h
  obtain ⟨a, ha, h⟩ := h
  split at h
  · exact absurd h Except.throw_ne_ok
  rename_i hpos
  -- the two foreign keys
  split at h
  · exact absurd h Except.throw_ne_ok
  split at h
  · exact absurd h Except.throw_ne_ok
  cases h
  refine ⟨⟨_, rfl, by simp, ?_⟩, rfl, Nat.le_succ _⟩
  intro e he
  rw [List.mem_singleton] at he
  subst he
  exact ⟨rfl, numeric19_4_idem ha, not_le.mp hpos⟩

theorem AddsEntries.trans {db db' db'' : PaymentDb} {id : Uuid} (h : AddsEntries db db' id)
    (h' : AddsEntries db' db'' id) : AddsEntries db db'' id := by
  obtain ⟨new, hnew, hne, hall⟩ := h.entries
  obtain ⟨new', hnew', -, hall'⟩ := h'.entries
  refine ⟨⟨new ++ new', ?_, by simp [hne], ?_⟩, ?_, h.uuids.trans h'.uuids⟩
  · rw [hnew', hnew, List.append_assoc]
  · exact fun e he => (List.mem_append.mp he).elim (hall e) (hall' e)
  · rw [h'.frame, h.frame]

theorem writeEntryPair_ok {id debit credit : Uuid} {amount : Decimal}
    {s t : TxState PaymentDb} {u : Unit}
    (h : writeEntryPair id debit credit amount s = .ok u t) :
    ∃ db, t = { s with db } ∧ AddsEntries s.db db id := by
  simp only [writeEntryPair, createEntry, Tx.bind_ok, Tx.statement_ok] at h
  obtain ⟨_, _, ⟨-, db₁, h₁, rfl⟩, -, db₂, h₂, rfl⟩ := h
  exact ⟨db₂, rfl, (insertEntry_ok h₁).trans (insertEntry_ok h₂)⟩

theorem updateTransactionStatus_ok {id : Uuid} {status : TransactionStatus}
    {s t : TxState PaymentDb} {u : Unit} :
    updateTransactionStatus id status s = .ok u t ↔
      s.aborted = false ∧ (s.db.ledgerTransactions.find? id).isSome ∧
        t = { s with db := { s.db with ledgerTransactions :=
          s.db.ledgerTransactions.modify id (fun t => { t with status }) fun _ => rfl } } := by
  simp only [updateTransactionStatus, Tx.bind_ok, Tx.statement_ok]
  cases h : s.db.ledgerTransactions.find? id with
  | none =>
    simp only [setTransactionStatus, h]
    constructor
    · rintro ⟨rows, t', ⟨hab, db, hdb, rfl⟩, ht⟩
      cases hdb
      exact absurd ht Tx.throw_ok
    · rintro ⟨-, hnone, -⟩
      simp at hnone
  | some order =>
    simp only [setTransactionStatus, h]
    constructor
    · rintro ⟨rows, t', ⟨hab, db, hdb, rfl⟩, ht⟩
      cases hdb
      obtain ⟨-, rfl⟩ := Tx.pure_ok.mp ht
      exact ⟨hab, rfl, rfl⟩
    · rintro ⟨hab, -, rfl⟩
      exact ⟨1, _, ⟨hab, _, rfl, rfl⟩, Tx.pure_ok.mpr ⟨rfl, rfl⟩⟩

/-! ## Recordings -/

/-- `db'` is `db` with one more event in the outbox. -/
structure Emits (db db' : PaymentDb) (o : Uuid) (t : EventType) : Prop where
  outbox : ∃ ins, db'.outbox = db.outbox ++ [ins] ∧ IsEvent ins .paymentsEvents o t
  frame : db' = { db with outbox := db'.outbox, uuids := db.uuids + 1 }

/-- `db'` is `db` with one more posted ledger transaction, its entries, and an event. -/
structure Records (db db' : PaymentDb) (o : Uuid) (type : TransactionType)
    (key : IdempotencyKey) (gatewayRef : Option String) (t : EventType) : Prop where
  absent : ∀ tx ∈ db.ledgerTransactions.rows, tx.idempotencyKey ≠ key
  row : ∃ row, db'.ledgerTransactions.rows = db.ledgerTransactions.rows ++ [row] ∧
    row.createdAt = db.now ∧ row.orderId = o ∧ row.transactionType = type ∧
    row.status = .posted ∧ row.idempotencyKey = key ∧
    row.gatewayReference.isSome = gatewayRef.isSome ∧ row.metadataCurrency = none ∧
    ∃ new, db'.ledgerEntries = db.ledgerEntries ++ new ∧ new ≠ [] ∧
      ∀ e ∈ new, e.transactionId = row.id ∧ Stored e.amount
  outbox : ∃ ins, db'.outbox = db.outbox ++ [ins] ∧ IsEvent ins .paymentsEvents o t
  now : db'.now = db.now
  fresh : Fresh db → Fresh db'
  uuids : db.uuids ≤ db'.uuids

section Service

variable [SerdeJson]

/-- The outbox row that `write_outbox` inserts. -/
def PaymentDb.event (db : PaymentDb) (o : Uuid) (t : EventType)
    (payload : Payload) : OutboxInsert :=
  let metadata : EventMetadata :=
    { eventId := (nowV7 db).1, eventType := t, aggregateType := .payment, aggregateId := o,
      sourceService := .payment }
  { topic := .paymentsEvents, envelope := { metadata, payload } }

theorem writeOutbox_ok {o : Uuid} {t : EventType} {payload : Payload}
    {s s' : TxState PaymentDb} {u : Unit} :
    writeOutbox o t payload s = .ok u s' ↔
      SerdeJson.payloadBytes (s.db.event o t payload).envelope ≤ maxPayloadBytes ∧
        s.aborted = false ∧
        s' = { s with db := (insertOutboxRow (s.db.event o t payload) (nowV7 s.db).2).2 } := by
  simp only [writeOutbox, Tx.bind_ok, Tx.client_ok, insertOutboxEvent_ok]
  constructor
  · rintro ⟨id, v, ⟨rfl, rfl⟩, hfits, hab, rfl⟩
    exact ⟨hfits, hab, rfl⟩
  · rintro ⟨hfits, hab, rfl⟩
    exact ⟨_, _, ⟨rfl, rfl⟩, hfits, hab, rfl⟩

omit [SerdeJson] in
theorem emits_event {db : PaymentDb} {o : Uuid} {t : EventType} {payload : Payload}
    (hpayload : payload.orderId = some o) :
    Emits db (insertOutboxRow (db.event o t payload) (nowV7 db).2).2 o t :=
  ⟨⟨_, rfl, ⟨rfl, rfl, hpayload, rfl⟩⟩, rfl⟩

/-- The sequence of statements that the three recordings share. -/
def recordTransaction (o : Uuid) (currency : String) (debitType creditType : AccountType)
    (type : TransactionType) (key : IdempotencyKey) (gatewayRef : Option String) (swap : Bool)
    (amount : Decimal) (t : EventType) (payload : Uuid → Payload) :
    Tx AppError PaymentDb Unit := do
  let (debit, credit) ← createAccountPair o currency debitType creditType
  let ledgerTx ← createTransaction o type key gatewayRef
  writeEntryPair ledgerTx.id (bif swap then credit else debit) (bif swap then debit else credit)
    amount
  postTransaction ledgerTx.id
  writeOutbox o t (payload ledgerTx.id)

theorem recordAuthorization_eq (o : Uuid) (amount : Decimal) (currency gatewayRef : String) :
    recordAuthorization o amount currency gatewayRef =
      recordTransaction o currency .buyer .gatewayHolding .authorization (.auth o)
        (some gatewayRef) true amount .paymentAuthorized
        (fun id => { orderId := some o, paymentId := some id,
                     gatewayReference := some gatewayRef }) := rfl

theorem recordCapture_eq (o : Uuid) (currency : String) (amount : Decimal) (key : IdempotencyKey)
    (gatewayRef : String) :
    recordCapture o currency amount key gatewayRef =
      recordTransaction o currency .gatewayHolding .platformRevenue .capture key
        (some gatewayRef) true amount .paymentCaptured (fun _ => { orderId := some o }) := rfl

theorem recordVoid_eq (o authTxId : Uuid) (currency : String) (amount : Decimal)
    (key : IdempotencyKey) :
    recordVoid o authTxId currency amount key = (do
      updateTransactionStatus authTxId .discarded
      recordTransaction o currency .buyer .gatewayHolding .void key none false amount
        .paymentVoided (fun _ => { orderId := some o })) := rfl

theorem recordTransaction_ok {o : Uuid} {currency : String} {debitType creditType : AccountType}
    {type : TransactionType} {key : IdempotencyKey} {gatewayRef : Option String} {swap : Bool}
    {amount : Decimal} {t : EventType} {payload : Uuid → Payload}
    (hpayload : ∀ id, (payload id).orderId = some o) {s s' : TxState PaymentDb} {u : Unit}
    (h : recordTransaction o currency debitType creditType type key gatewayRef swap amount t
      payload s = .ok u s') :
    ∃ db, s' = { s with db } ∧ Records s.db db o type key gatewayRef t := by
  simp only [recordTransaction, createTransaction, postTransaction, Tx.bind_ok, Tx.statement_ok,
    updateTransactionStatus_ok, writeOutbox_ok] at h
  obtain ⟨pair, s₁, hpair, row, _, ⟨-, db₂, hins, rfl⟩, _, s₃, hentries, _, _, ⟨-, -, rfl⟩,
    -, -, rfl⟩ := h
  obtain ⟨db₁, rfl, hadds⟩ := createAccountPair_ok hpair
  obtain ⟨habsent, hinsert, hframe, hrow, hsome⟩ := insertTransaction_ok hins
  obtain ⟨db₃, rfl, hadds₃⟩ := writeEntryPair_ok hentries
  obtain ⟨new, hnew, hne, hall⟩ := hadds₃.entries
  have htx₃ : db₃.ledgerTransactions = db₂.ledgerTransactions := by rw [hadds₃.frame]
  -- the row is inserted as pending, and posted when its entries are there
  have hrows : (db₃.ledgerTransactions.modify row.id
      (fun t => { t with status := .posted }) fun _ => rfl).rows =
      s.db.ledgerTransactions.rows ++ [{ row with status := .posted }] := by
    rw [htx₃, ← hadds.ledgerTransactions]
    exact Table.rows_modify_insert hinsert _ _
  have huuids : s.db.uuids ≤ db₁.uuids := hadds.uuids
  have huuids₂ : db₂.uuids = db₁.uuids + 1 := by rw [hframe]
  have huuids₃ : db₂.uuids ≤ db₃.uuids := hadds₃.uuids
  refine ⟨_, rfl, ?_, ?_, ?_, ?_, ?_, ?_⟩
  · rw [← hadds.ledgerTransactions]
    exact habsent
  · refine ⟨_, hrows, ?_, ?_, ?_, rfl, ?_, hsome, ?_, new, ?_, hne, hall⟩
    · rw [hrow]
      exact hadds.now
    · rw [hrow]
    · rw [hrow]
    · rw [hrow]
    · rw [hrow]
    · have hentries₂ : db₂.ledgerEntries = s.db.ledgerEntries := by
        rw [hframe]
        exact hadds.ledgerEntries
      rw [← hentries₂, ← hnew]
      rfl
  · obtain ⟨ins, hins, hevent⟩ := (emits_event (hpayload row.id)).outbox
    refine ⟨ins, hins.trans ?_, hevent⟩
    rw [← hadds.outbox, ← show db₃.outbox = db₁.outbox by rw [hadds₃.frame, hframe]]
  · rw [← hadds.now, ← show db₃.now = db₁.now by rw [hadds₃.frame, hframe]]
    rfl
  · -- every row that was added has an identifier that was handed out for it
    intro hf
    have hf₁ := hadds.fresh hf
    refine ⟨fun a ha => ?_, fun tx htx => ?_⟩
    · have ha₁ : a ∈ db₁.accounts.rows := by
        have : db₃.accounts = db₁.accounts := by rw [hadds₃.frame, hframe]
        rw [← this]
        exact ha
      have := hf₁.accounts a ha₁
      change a.id.serial < db₃.uuids + 1
      omega
    · change tx.id.serial < db₃.uuids + 1
      rcases List.mem_append.mp (hrows ▸ htx : tx ∈ _ ++ [_]) with htx | htx
      · have := hf.ledgerTransactions tx htx
        omega
      · have : row.id.serial = db₁.uuids := by rw [hrow]
        rw [List.mem_singleton.mp htx]
        change row.id.serial < _
        omega
  · change s.db.uuids ≤ db₃.uuids + 1
    omega

/-! ## Recordings that cannot fail -/

omit [SerdeJson] in
theorem getOrCreateAccount_succeeds (accountType : AccountType) (o : Uuid) {currency : String}
    {s : TxState PaymentDb} (hab : s.aborted = false) (hfresh : Fresh s.db)
    (hcurrency : currency.length ≤ 3) :
    ∃ account db, getOrCreateAccount accountType o currency s = .ok account { s with db } := by
  have hvarchar : varchar 3 currency = .ok currency := if_pos hcurrency
  let p (a : AccountEntity) : Bool :=
    decide (a.referenceId = o) && decide (a.accountType = accountType) &&
      decide (a.currency = currency)
  -- insert the account, or read back the one that is there
  cases hany : s.db.accounts.rows.any p with
  | true =>
    obtain ⟨account, haccount⟩ := Option.isSome_iff_exists.mp
      (List.find?_isSome.mpr (List.any_eq_true.mp hany))
    refine ⟨account, s.db, Tx.bind_ok.mpr ⟨none, s, Tx.statement_ok.mpr ⟨hab, s.db, ?_, rfl⟩, ?_⟩⟩
    · simp only [insertAccount, hvarchar]
      exact if_pos hany
    · exact Tx.fetchOne_ok.mpr ⟨hab, haccount, rfl⟩
  | false =>
    let row : AccountEntity :=
      { id := ⟨2, s.db.uuids⟩, accountType, normalBalance := accountType.normalBalance,
        referenceId := o, currency }
    obtain ⟨accounts, hins⟩ := s.db.accounts.exists_insert (a := row) (find?_next hfresh.accounts 2)
    refine ⟨row, { s.db with accounts, uuids := s.db.uuids + 1 },
      Tx.bind_ok.mpr ⟨some row, _, Tx.statement_ok.mpr ⟨hab, _, ?_, rfl⟩,
        Tx.pure_ok.mpr ⟨rfl, rfl⟩⟩⟩
    simp only [insertAccount, hvarchar]
    refine (if_neg (by rw [hany]; decide)).trans ?_
    simp only [nowV7, HasOutbox.node, HasOutbox.uuids, HasOutbox.setUuids]
    rw [hins]
    rfl

omit [SerdeJson] in
theorem createAccountPair_succeeds (o : Uuid) {currency : String}
    (debitType creditType : AccountType) {s : TxState PaymentDb} (hab : s.aborted = false)
    (hfresh : Fresh s.db) (hcurrency : currency.length ≤ 3) :
    ∃ debit credit db, createAccountPair o currency debitType creditType s =
        .ok (debit, credit) { s with db } ∧ AddsAccounts s.db db ∧
      (db.accounts.find? debit).isSome ∧ (db.accounts.find? credit).isSome := by
  have hsome {db : PaymentDb} {a : AccountEntity} (ha : a ∈ db.accounts.rows) :
      (db.accounts.find? a.id).isSome :=
    Option.isSome_of_eq_some ((db.accounts.find?_eq_some_iff _ _).mpr ⟨ha, rfl⟩)
  obtain ⟨a, db₁, h₁⟩ := getOrCreateAccount_succeeds debitType o hab hfresh hcurrency
  -- the second account is created where the first one is, and both stay
  obtain ⟨_, heq₁, hadds₁, ha⟩ := getOrCreateAccount_ok h₁
  cases heq₁
  obtain ⟨b, db₂, h₂⟩ := getOrCreateAccount_succeeds creditType o (s := { s with db := db₁ }) hab
    (hadds₁.fresh hfresh) hcurrency
  obtain ⟨_, heq₂, hadds₂, hb⟩ := getOrCreateAccount_ok h₂
  cases heq₂
  refine ⟨a.id, b.id, db₂, ?_, hadds₁.trans hadds₂, hsome (hadds₂.accounts a ha), hsome hb⟩
  simp only [createAccountPair, Tx.bind_ok, Tx.pure_ok]
  exact ⟨a, _, h₁, b, _, h₂, rfl, rfl⟩

omit [SerdeJson] in
theorem insertEntry_succeeds {id accountId : Uuid} (direction : EntryDirection)
    {amount stored : Decimal} {db : PaymentDb} (hamount : numeric19_4 amount = .ok stored)
    (hpos : 0 < stored) (htx : (db.ledgerTransactions.find? id).isSome)
    (haccount : (db.accounts.find? accountId).isSome) :
    ∃ db', insertEntry id accountId direction amount db = .ok ((), db') := by
  let row : LedgerEntryEntity :=
    { id := ⟨2, db.uuids⟩, createdAt := db.now, transactionId := id, accountId, direction,
      amount := stored }
  refine ⟨{ db with uuids := db.uuids + 1, ledgerEntries := db.ledgerEntries ++ [row] }, ?_⟩
  simp only [insertEntry, hamount]
  refine (if_neg (not_le.mpr hpos)).trans ?_
  refine (if_neg (by simpa using Option.isSome_iff_ne_none.mp htx)).trans ?_
  refine (if_neg (by simpa using Option.isSome_iff_ne_none.mp haccount)).trans ?_
  rfl

omit [SerdeJson] in
theorem writeEntryPair_succeeds {id debit credit : Uuid} {amount stored : Decimal}
    {s : TxState PaymentDb} (hab : s.aborted = false) (hamount : numeric19_4 amount = .ok stored)
    (hpos : 0 < stored) (htx : (s.db.ledgerTransactions.find? id).isSome)
    (hdebit : (s.db.accounts.find? debit).isSome) (hcredit : (s.db.accounts.find? credit).isSome) :
    ∃ db, writeEntryPair id debit credit amount s = .ok () { s with db } := by
  obtain ⟨db₁, h₁⟩ := insertEntry_succeeds .debit hamount hpos htx hdebit
  have hframe := (insertEntry_ok h₁).frame
  have htx₁ : (db₁.ledgerTransactions.find? id).isSome := by
    rw [hframe]
    exact htx
  have hcredit₁ : (db₁.accounts.find? credit).isSome := by
    rw [hframe]
    exact hcredit
  obtain ⟨db₂, h₂⟩ := insertEntry_succeeds .credit hamount hpos htx₁ hcredit₁
  refine ⟨db₂, ?_⟩
  simp only [writeEntryPair, createEntry, Tx.bind_ok, Tx.statement_ok]
  exact ⟨(), _, ⟨hab, db₁, h₁, rfl⟩, hab, db₂, h₂, rfl⟩

omit [SerdeJson] in
theorem insertTransaction_succeeds (o : Uuid) (type : TransactionType) {key : IdempotencyKey}
    {gatewayRef stored : Option String} {db : PaymentDb} (hfresh : Fresh db)
    (href : gatewayRef.mapM (varchar 255) = .ok stored)
    (habsent : ∀ t ∈ db.ledgerTransactions.rows, t.idempotencyKey ≠ key) :
    ∃ row db', insertTransaction o type key gatewayRef db = .ok (row, db') := by
  let row : LedgerTransactionEntity :=
    { id := ⟨2, db.uuids⟩, createdAt := db.now, orderId := o, transactionType := type,
      status := .pending, idempotencyKey := key, gatewayReference := stored,
      metadataCurrency := none }
  obtain ⟨txs, hins⟩ := db.ledgerTransactions.exists_insert (a := row)
    (find?_next hfresh.ledgerTransactions 2)
  refine ⟨row, { db with ledgerTransactions := txs, uuids := db.uuids + 1 }, ?_⟩
  unfold insertTransaction
  rw [href]
  refine (if_neg (by simpa using habsent)).trans ?_
  simp only [HasOutbox.node, HasOutbox.uuids, HasOutbox.setUuids]
  rw [hins]
  rfl

/-- A recording succeeds, if its key is not taken and what it stores fits. -/
theorem recordTransaction_succeeds {o : Uuid} {currency : String}
    {debitType creditType : AccountType} {type : TransactionType} {key : IdempotencyKey}
    {gatewayRef storedRef : Option String} {swap : Bool} {amount stored : Decimal} {t : EventType}
    {payload : Uuid → Payload} {s : TxState PaymentDb} (hab : s.aborted = false)
    (hfresh : Fresh s.db) (hcurrency : currency.length ≤ 3)
    (habsent : ∀ tx ∈ s.db.ledgerTransactions.rows, tx.idempotencyKey ≠ key)
    (href : gatewayRef.mapM (varchar 255) = .ok storedRef)
    (hamount : numeric19_4 amount = .ok stored) (hpos : 0 < stored)
    (hfits : ∀ (db : PaymentDb) id,
      SerdeJson.payloadBytes (db.event o t (payload id)).envelope ≤ maxPayloadBytes) :
    ∃ db, recordTransaction o currency debitType creditType type key gatewayRef swap amount t
      payload s = .ok () { s with db } := by
  obtain ⟨debit, credit, db₁, hpair, hadds, hdebit, hcredit⟩ :=
    createAccountPair_succeeds o debitType creditType hab hfresh hcurrency
  obtain ⟨row, db₂, hinsert⟩ := insertTransaction_succeeds o type
    (hadds.fresh hfresh) href (by rw [hadds.ledgerTransactions]; exact habsent)
  obtain ⟨-, htable, hframe, -⟩ := insertTransaction_ok hinsert
  have haccounts : db₂.accounts = db₁.accounts := by rw [hframe]
  -- what the foreign keys of the entries need
  have hrow : (db₂.ledgerTransactions.find? row.id).isSome := by
    rw [Table.find?_of_insert htable, if_pos rfl]
    rfl
  have hdebit₂ : (db₂.accounts.find? (bif swap then credit else debit)).isSome := by
    cases swap <;> simpa [haccounts]
  have hcredit₂ : (db₂.accounts.find? (bif swap then debit else credit)).isSome := by
    cases swap <;> simpa [haccounts]
  obtain ⟨db₃, hentries⟩ := writeEntryPair_succeeds (s := { s with db := db₂ }) hab hamount
    hpos hrow hdebit₂ hcredit₂
  obtain ⟨_, heq, hadds₃⟩ := writeEntryPair_ok hentries
  cases heq
  simp only [recordTransaction, createTransaction, postTransaction, Tx.bind_ok, Tx.statement_ok,
    updateTransactionStatus_ok, writeOutbox_ok]
  refine ⟨_, _, _, hpair, row, _, ⟨hab, db₂, hinsert, rfl⟩, (), _, hentries, (), _,
    ⟨hab, ?_, rfl⟩, hfits _ _, hab, rfl⟩
  rw [hadds₃.frame]
  exact hrow

/-! ## Operations -/

omit [SerdeJson] in
theorem requireAuthorized_ok {operation : String} {state : PaymentState} {u : Unit} :
    PaymentState.requireAuthorized operation state = .ok u ↔ state = .authorized := by
  cases state <;> simp [PaymentState.requireAuthorized]

omit [SerdeJson] in
theorem findPostedAuthorization_ok {o : Uuid} {operation : String} {pool : PaymentDb}
    {auth : PostedAuthorization} :
    findPostedAuthorization o (PaymentState.requireAuthorized operation) pool = .ok auth ↔
      pool.paymentState o = .authorized ∧
      ∃ tx, (listTransactionsByOrder o pool).find? (fun t =>
          t.transactionType = .authorization && t.status = .posted) = some tx ∧
        ∃ ref, tx.gatewayReference = some ref ∧
          auth = { authTxId := tx.id, gatewayRef := ref
                   currency := tx.metadataCurrency.getD "USD"
                   amount := ((listEntriesByTransaction tx.id pool).head?.map
                     (·.amount)).getD 0 } := by
  simp only [findPostedAuthorization, PaymentDb.paymentState]
  constructor
  · intro h
    split at h
    · exact absurd h Except.throw_ne_ok
    rename_i hstate
    split at h
    · exact absurd h Except.throw_ne_ok
    rename_i tx htx
    split at h
    · exact absurd h Except.throw_ne_ok
    rename_i ref href
    cases h
    exact ⟨requireAuthorized_ok.mp hstate, tx, htx, ref, href, rfl⟩
  · rintro ⟨hstate, tx, htx, ref, href, rfl⟩
    have hvalid : PaymentState.requireAuthorized operation
        (derivePaymentState (listTransactionsByOrder o pool)) = .ok () :=
      requireAuthorized_ok.mpr hstate
    simp only [htx, href, hvalid]
    rfl

omit [SerdeJson] in
/-- What the authorization rules check. -/
theorem validateAuthorization_iff {amount : Decimal} {currency : String} {state : PaymentState} :
    validateAuthorization amount currency state = .ok () ↔
      minPaymentAmount ≤ amount ∧ amount ≤ maxPaymentAmount ∧ currency ∈ supportedCurrencies ∧
        (state = .new ∨ state = .failed) := by
  have hpassed : (authorizationRules.evaluateDetailed
      (evalAuthorization { amount, currency, paymentState := state })).passed = true ↔
      minPaymentAmount ≤ amount ∧ amount ≤ maxPaymentAmount ∧ currency ∈ supportedCurrencies ∧
        (state = .new ∨ state = .failed) := by
    rw [authorizationRules, Rule.passed_all_check]
    simp [evalAuthorization]
  rw [← hpassed]
  unfold validateAuthorization
  dsimp only
  split
  · rename_i hfailed
    refine iff_of_false nofun ?_
    simpa using hfailed
  · rename_i hok
    refine iff_of_true rfl ?_
    simpa using hok

omit [SerdeJson] in
theorem validateAuthorization_ok {amount : Decimal} {currency : String} {state : PaymentState}
    {u : Unit} (h : validateAuthorization amount currency state = .ok u) :
    state = .new ∨ state = .failed :=
  (validateAuthorization_iff.mp h).2.2.2

/-- The tables after the authorization `id` is discarded. -/
def PaymentDb.discard (db : PaymentDb) (id : Uuid) : PaymentDb :=
  { db with ledgerTransactions :=
      db.ledgerTransactions.modify id (fun t => { t with status := .discarded }) fun _ => rfl }

/-- What handling an event of type `t` does for order `o`, where it does anything. -/
inductive Effect (db db' : PaymentDb) (o : Uuid) (t : EventType) : Prop
  | failed (ht : t = .inventoryReserved ∨ t = .orderConfirmed ∨ t = .paymentCaptureRetryRequested)
    (h : Emits db db' o .paymentFailed)
  | retried (ht : t = .orderConfirmed ∨ t = .paymentCaptureRetryRequested)
    (h : Emits db db' o .paymentCaptureRetryRequested)
  | authorized (ht : t = .inventoryReserved)
    (hstate : db.paymentState o = .new ∨ db.paymentState o = .failed) (ref : String)
    (h : Records db db' o .authorization (.auth o) (some ref) .paymentAuthorized)
  | captured (ht : t = .orderConfirmed ∨ t = .paymentCaptureRetryRequested)
    (hstate : db.paymentState o = .authorized) (ref : String)
    (h : Records db db' o .capture (.capture o) (some ref) .paymentCaptured)
  | voided (ht : t = .orderCancelled) (hstate : db.paymentState o = .authorized)
    (auth : LedgerTransactionEntity) (hauth : auth ∈ listTransactionsByOrder o db)
    (htype : auth.transactionType = .authorization) (hposted : auth.status = .posted)
    (h : Records (db.discard auth.id) db' o .void (.void o) none .paymentVoided)

/-- What a handler of an event of type `t` has done for order `o` when it ends in `s`, where it
    has done anything: the recording it made, with what it has read before. -/
inductive Performs (db : PaymentDb) (s : TxState PaymentDb) (o : Uuid) (t : EventType) : Prop
  | failed (ht : t = .inventoryReserved ∨ t = .orderConfirmed ∨ t = .paymentCaptureRetryRequested)
    (h : Emits db s.db o .paymentFailed)
  | retried (ht : t = .orderConfirmed ∨ t = .paymentCaptureRetryRequested)
    (h : Emits db s.db o .paymentCaptureRetryRequested)
  | authorized (ht : t = .inventoryReserved) {amount : Decimal} {currency ref : String}
    (hvalid : validateAuthorization amount currency (db.paymentState o) = .ok ())
    (h : recordAuthorization o amount currency ref (Tx.begin db) = .ok () s)
  | captured (ht : t = .orderConfirmed ∨ t = .paymentCaptureRetryRequested)
    {auth : PostedAuthorization}
    (hauth : findPostedAuthorization o PaymentState.validateForCapture db = .ok auth)
    (h : recordCapture o auth.currency auth.amount (.capture o) auth.gatewayRef (Tx.begin db) =
      .ok () s)
  | voided (ht : t = .orderCancelled) {auth : PostedAuthorization}
    (hauth : findPostedAuthorization o PaymentState.validateForVoid db = .ok auth)
    (h : recordVoid o auth.authTxId auth.currency auth.amount (.void o) (Tx.begin db) = .ok () s)

theorem authorizePaymentOnTx_performs {gateway : PaymentGateway} {o : Uuid} {amount : Decimal}
    {currency : String} {db : PaymentDb} {s : TxState PaymentDb} {u : Unit}
    (h : authorizePaymentOnTx gateway o amount currency (Tx.begin db) = .ok u s) :
    s.db = db ∨ Performs db s o .inventoryReserved := by
  simp only [authorizePaymentOnTx, Tx.bind_ok, Tx.readPool_ok] at h
  obtain ⟨_, _, ⟨rfl, rfl⟩, h⟩ := h
  -- the key is taken by an authorization that is not discarded: nothing is done
  split at h
  · obtain ⟨-, rfl⟩ := Tx.pure_ok.mp h
    exact .inl rfl
  simp only [Tx.bind_ok, Tx.ofExcept_ok] at h
  obtain ⟨_, _, ⟨hvalid, rfl⟩, h⟩ := h
  cases hresult : gateway.authorize (.auth o) o amount currency with
  | ok result =>
    simp only [hresult] at h
    split at h
    · -- another amount was approved: PaymentFailed is rolled back with the error
      obtain ⟨_, _, -, h⟩ := Tx.bind_ok.mp h
      exact absurd h Tx.throw_ok
    · exact .inr (.authorized rfl hvalid h)
  | error gwErr =>
    simp only [hresult] at h
    obtain ⟨-, -, rfl⟩ := writeOutbox_ok.mp h
    exact .inr (.failed (.inl rfl) (emits_event rfl))

theorem captureOnTx_performs {gateway : PaymentGateway} {o : Uuid} {retryCount : Nat}
    {declined : String} {db : PaymentDb} {s : TxState PaymentDb} {u : Unit} {t : EventType}
    (ht : t = .orderConfirmed ∨ t = .paymentCaptureRetryRequested)
    (h : captureOnTx gateway o retryCount declined (Tx.begin db) = .ok u s) :
    Performs db s o t := by
  simp only [captureOnTx, Tx.bind_ok, Tx.readPool_ok, Tx.ofExcept_ok] at h
  obtain ⟨_, _, ⟨rfl, rfl⟩, auth, _, ⟨hauth, rfl⟩, h⟩ := h
  cases hresult : gateway.capture auth.gatewayRef with
  | ok _ =>
    simp only [hresult] at h
    exact .captured ht hauth h
  | error gwErr =>
    -- a retry is requested while the gateway's error allows one
    simp only [hresult] at h
    split at h
    · obtain ⟨-, -, rfl⟩ := writeOutbox_ok.mp h
      exact .retried ht (emits_event rfl)
    · obtain ⟨-, -, rfl⟩ := writeOutbox_ok.mp h
      exact .failed (.inr ht) (emits_event rfl)

theorem voidPaymentOnTx_performs {gateway : PaymentGateway} {o : Uuid} {db : PaymentDb}
    {s : TxState PaymentDb} {u : Unit} (h : voidPaymentOnTx gateway o (Tx.begin db) = .ok u s) :
    Performs db s o .orderCancelled := by
  simp only [voidPaymentOnTx, Tx.bind_ok, Tx.readPool_ok, Tx.ofExcept_ok] at h
  obtain ⟨_, _, ⟨rfl, rfl⟩, auth, _, ⟨hauth, rfl⟩, h⟩ := h
  cases hresult : gateway.void auth.gatewayRef with
  | error e =>
    simp only [hresult] at h
    exact absurd h Tx.throw_ok
  | ok _ =>
    simp only [hresult] at h
    exact .voided rfl hauth h

/-- What a handler has done has one of the effects. -/
theorem Performs.effect {db : PaymentDb} {s : TxState PaymentDb} {o : Uuid} {t : EventType}
    (h : Performs db s o t) : Effect db s.db o t := by
  cases h with
  | failed ht h => exact .failed ht h
  | retried ht h => exact .retried ht h
  | authorized ht hvalid h =>
    rw [recordAuthorization_eq] at h
    obtain ⟨db', rfl, hrec⟩ := recordTransaction_ok (fun _ => rfl) h
    exact .authorized ht (validateAuthorization_ok hvalid) _ hrec
  | captured ht hauth h =>
    rw [recordCapture_eq] at h
    obtain ⟨db', rfl, hrec⟩ := recordTransaction_ok (fun _ => rfl) h
    exact .captured ht (findPostedAuthorization_ok.mp hauth).1 _ hrec
  | voided ht hauth h =>
    obtain ⟨hstate, tx, htx, ref, -, rfl⟩ := findPostedAuthorization_ok.mp hauth
    -- the authorization is discarded before the void is recorded
    simp only [recordVoid_eq, Tx.bind_ok, updateTransactionStatus_ok] at h
    obtain ⟨_, _, ⟨-, -, rfl⟩, h⟩ := h
    obtain ⟨db', rfl, hrec⟩ := recordTransaction_ok (fun _ => rfl) h
    have hprop := List.find?_some htx
    simp only [Bool.and_eq_true, decide_eq_true_eq] at hprop
    exact .voided ht hstate tx (List.mem_of_find?_eq_some htx) hprop.1 hprop.2 hrec

/-- An event that is handled and committed: what its handler has done, if anything. -/
theorem handle_performs {gateway : PaymentGateway} {env : EventEnvelope} {db db' : PaymentDb}
    (h : Tx.attempt (handle gateway env) db = .committed () db') :
    db' = db ∨ ∃ o s, env.payload.orderId = some o ∧ s.db = db' ∧
      Performs db s o env.eventType := by
  obtain ⟨s, hs, -, rfl⟩ := Tx.attempt_eq_committed.mp h
  cases henv : env.eventType <;> simp only [handle, henv] at hs
  case inventoryReserved =>
    simp only [Tx.bind_ok, Tx.mapErr_ok, Tx.ofExcept_ok, handleInventoryReserved,
      payloadOrderId_ok] at hs
    obtain ⟨_, _, ⟨-, rfl⟩, o, _, ⟨ho, rfl⟩, hs⟩ := hs
    cases hamount : env.payload.totalAmount.bind DecimalText.parse with
    | none =>
      simp only [hamount] at hs
      exact absurd hs Tx.throw_ok
    | some amount =>
      simp only [hamount] at hs
      exact (authorizePaymentOnTx_performs hs).imp_right fun he => ⟨o, s, ho, rfl, he⟩
  case orderConfirmed =>
    simp only [Tx.bind_ok, Tx.mapErr_ok, Tx.ofExcept_ok, handleOrderConfirmed,
      payloadOrderId_ok] at hs
    obtain ⟨_, _, ⟨-, rfl⟩, o, _, ⟨ho, rfl⟩, hs⟩ := hs
    exact .inr ⟨o, s, ho, rfl, captureOnTx_performs (.inl rfl) hs⟩
  case orderCancelled =>
    simp only [Tx.bind_ok, Tx.mapErr_ok, Tx.ofExcept_ok, handleOrderCancelled, Tx.readPool_ok,
      payloadOrderId_ok] at hs
    obtain ⟨_, _, ⟨-, rfl⟩, o, _, ⟨ho, rfl⟩, _, _, ⟨rfl, rfl⟩, hs⟩ := hs
    rw [Tx.begin_pool] at hs
    cases hstate : db.paymentState o <;> simp only [hstate] at hs
    case authorized => exact .inr ⟨o, s, ho, rfl, voidPaymentOnTx_performs hs⟩
    -- in every other state the cancellation is acknowledged without a trace
    all_goals
      obtain ⟨-, rfl⟩ := Tx.pure_ok.mp hs
      exact .inl rfl
  case paymentCaptureRetryRequested =>
    simp only [Tx.bind_ok, Tx.mapErr_ok, Tx.ofExcept_ok, handleCaptureRetry,
      payloadOrderId_ok] at hs
    obtain ⟨_, _, ⟨-, rfl⟩, o, _, ⟨ho, rfl⟩, hs⟩ := hs
    split at hs
    · -- the retries are used up
      obtain ⟨-, -, rfl⟩ := writeOutbox_ok.mp hs
      exact .inr ⟨o, _, ho, rfl, .failed (.inr (.inr rfl)) (emits_event rfl)⟩
    · exact .inr ⟨o, s, ho, rfl, captureOnTx_performs (.inr rfl) hs⟩
  -- the other events are ignored
  all_goals
    obtain ⟨-, rfl⟩ := Tx.pure_ok.mp hs
    exact .inl rfl

/-- An event that is handled and committed has one of the effects, or changes nothing. -/
theorem handle_committed {gateway : PaymentGateway} {env : EventEnvelope} {db db' : PaymentDb}
    (h : Tx.attempt (handle gateway env) db = .committed () db') :
    db' = db ∨ ∃ o, env.payload.orderId = some o ∧ Effect db db' o env.eventType := by
  refine (handle_performs h).imp_right ?_
  rintro ⟨o, s, ho, rfl, hperforms⟩
  exact ⟨o, ho, hperforms.effect⟩

/-! ## Failing leaves the tables as they are -/

theorem keepsPool_writeOutbox (o : Uuid) (t : EventType) (payload : Payload) :
    Tx.KeepsPool (writeOutbox o t payload) :=
  Tx.keepsPool_bind (Tx.keepsPool_client _) fun _ => keepsPool_insertOutboxEvent _

omit [SerdeJson] in
theorem keepsPool_updateTransactionStatus (id : Uuid) (status : TransactionStatus) :
    Tx.KeepsPool (updateTransactionStatus id status) := by
  refine Tx.keepsPool_bind (Tx.keepsPool_statement _ _) fun rows => ?_
  split
  · exact Tx.keepsPool_throw _
  · exact Tx.keepsPool_pure _

omit [SerdeJson] in
theorem keepsPool_getOrCreateAccount (accountType : AccountType) (o : Uuid) (currency : String) :
    Tx.KeepsPool (getOrCreateAccount accountType o currency) := by
  refine Tx.keepsPool_bind (Tx.keepsPool_statement _ _) fun account => ?_
  cases account with
  | some a => exact Tx.keepsPool_pure _
  | none => exact Tx.keepsPool_fetchOne _ _ _

theorem keepsPool_recordTransaction (o : Uuid) (currency : String)
    (debitType creditType : AccountType) (type : TransactionType) (key : IdempotencyKey)
    (gatewayRef : Option String) (swap : Bool) (amount : Decimal) (t : EventType)
    (payload : Uuid → Payload) :
    Tx.KeepsPool (recordTransaction o currency debitType creditType type key gatewayRef swap
      amount t payload) := by
  refine Tx.keepsPool_bind ?_ fun pair => Tx.keepsPool_bind (Tx.keepsPool_statement _ _) fun tx =>
    Tx.keepsPool_bind ?_ fun _ => Tx.keepsPool_bind (keepsPool_updateTransactionStatus _ _)
      fun _ => keepsPool_writeOutbox _ _ _
  · exact Tx.keepsPool_bind (keepsPool_getOrCreateAccount _ _ _) fun _ =>
      Tx.keepsPool_bind (keepsPool_getOrCreateAccount _ _ _) fun _ => Tx.keepsPool_pure _
  · exact Tx.keepsPool_bind (Tx.keepsPool_statement _ _) fun _ => Tx.keepsPool_statement _ _

theorem keepsPool_authorizePaymentOnTx (gateway : PaymentGateway) (o : Uuid) (amount : Decimal)
    (currency : String) : Tx.KeepsPool (authorizePaymentOnTx gateway o amount currency) := by
  refine Tx.keepsPool_bind Tx.keepsPool_readPool fun pool => ?_
  dsimp only
  split
  · exact Tx.keepsPool_pure _
  refine Tx.keepsPool_bind (Tx.keepsPool_ofExcept _) fun _ => ?_
  split
  · split
    · exact Tx.keepsPool_bind (keepsPool_writeOutbox _ _ _) fun _ => Tx.keepsPool_throw _
    · rw [recordAuthorization_eq]
      exact keepsPool_recordTransaction _ _ _ _ _ _ _ _ _ _ _
  · exact keepsPool_writeOutbox _ _ _

theorem keepsPool_captureOnTx (gateway : PaymentGateway) (o : Uuid) (retryCount : Nat)
    (declined : String) : Tx.KeepsPool (captureOnTx gateway o retryCount declined) := by
  refine Tx.keepsPool_bind Tx.keepsPool_readPool fun pool =>
    Tx.keepsPool_bind (Tx.keepsPool_ofExcept _) fun auth => ?_
  split
  · rw [recordCapture_eq]
    exact keepsPool_recordTransaction _ _ _ _ _ _ _ _ _ _ _
  · split <;> exact keepsPool_writeOutbox _ _ _

theorem keepsPool_voidPaymentOnTx (gateway : PaymentGateway) (o : Uuid) :
    Tx.KeepsPool (voidPaymentOnTx gateway o) := by
  refine Tx.keepsPool_bind Tx.keepsPool_readPool fun pool =>
    Tx.keepsPool_bind (Tx.keepsPool_ofExcept _) fun auth => ?_
  split
  · exact Tx.keepsPool_throw _
  · rw [recordVoid_eq]
    exact Tx.keepsPool_bind (keepsPool_updateTransactionStatus _ _) fun _ =>
      keepsPool_recordTransaction _ _ _ _ _ _ _ _ _ _ _

theorem keepsPool_handle (gateway : PaymentGateway) (env : EventEnvelope) :
    Tx.KeepsPool (handle gateway env) := by
  cases henv : env.eventType <;> simp only [handle, henv, Tx.keepsPool_pure] <;>
    refine Tx.keepsPool_bind (Tx.keepsPool_mapErr (Tx.keepsPool_ofExcept _)) fun _ =>
      Tx.keepsPool_mapErr (Tx.keepsPool_bind (Tx.keepsPool_ofExcept _) fun o => ?_)
  case inventoryReserved =>
    split
    · exact Tx.keepsPool_throw _
    · exact keepsPool_authorizePaymentOnTx _ _ _ _
  case orderConfirmed => exact keepsPool_captureOnTx _ _ _ _
  case orderCancelled =>
    refine Tx.keepsPool_bind Tx.keepsPool_readPool fun pool => ?_
    split
    · exact keepsPool_voidPaymentOnTx _ _
    · exact Tx.keepsPool_pure _
  case paymentCaptureRetryRequested =>
    dsimp only
    split
    · exact keepsPool_writeOutbox _ _ _
    · exact keepsPool_captureOnTx _ _ _ _

/-- Handling an event has one of the effects, or leaves the tables as they are. -/
theorem handle_db (gateway : PaymentGateway) (env : EventEnvelope) (db : PaymentDb) :
    (Tx.attempt (handle gateway env) db).db = db ∨
      ∃ o, env.payload.orderId = some o ∧
        Effect db (Tx.attempt (handle gateway env) db).db o env.eventType := by
  rcases Tx.attempt_db_eq (keepsPool_handle gateway env) db with ⟨_, h⟩ | h
  · exact handle_committed h
  · exact .inl h

end Service

end Koupang.Payment
