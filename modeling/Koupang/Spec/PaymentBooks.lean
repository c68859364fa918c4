import Koupang.Spec.PaymentLedger

/-!
# The books of an order

A recording books its amount on two accounts of the order: a debit on one and a
credit on the other. The books of an order are what its ledger transactions have
booked, in the four shapes that a ledger can have, and the view `account_balances`
sums up those of them that are posted.

The currency of a capture or a void is read from `metadata`, which nothing
writes, so both are booked in USD. A void discards the authorization and posts
the reverse of it.

## Key results

- `recordTransaction_booked`: the pair of entries that a recording books
- `bookInv_run`: the books of every order, over every run (`OrderBooks`)
- `balance_eq`: the view, as the sum of what the posted transactions have booked
-/

namespace Koupang.Payment

open LedgerRepo

/-! ## Accounts -/

/-- The account of a type and currency for an order. -/
structure AccountEntity.IsOf (a : AccountEntity) (o : Uuid) (type : AccountType)
    (currency : String) : Prop where
  referenceId : a.referenceId = o
  accountType : a.accountType = type
  currency : a.currency = currency

/-- An order has one account of a type and currency (`uq_accounts`). -/
structure AccountRows (db : PaymentDb) : Prop where
  normal : ∀ a ∈ db.accounts.rows, a.normalBalance = a.accountType.normalBalance
  unique : ∀ a ∈ db.accounts.rows, ∀ b ∈ db.accounts.rows,
    b.IsOf a.referenceId a.accountType a.currency → a = b

theorem AccountRows.congr {db db' : PaymentDb} (h : AccountRows db)
    (hacc : db'.accounts = db.accounts) : AccountRows db' :=
  ⟨hacc ▸ h.normal, hacc ▸ h.unique⟩

theorem AccountRows.insert {db db' : PaymentDb} {a : AccountEntity} (h : AccountRows db)
    (hins : db.accounts.insert a = some db'.accounts)
    (hnormal : a.normalBalance = a.accountType.normalBalance)
    (hnew : ∀ b ∈ db.accounts.rows, ¬b.IsOf a.referenceId a.accountType a.currency) :
    AccountRows db' := by
  obtain ⟨-, hrows⟩ := (Table.insert_eq_some _ _ _).mp hins
  have hmem (b : AccountEntity) : b ∈ db'.accounts.rows ↔ b ∈ db.accounts.rows ∨ b = a := by
    rw [hrows, List.mem_append, List.mem_singleton]
  refine ⟨fun b hb => ?_, fun b hb c hc hslot => ?_⟩
  · rcases (hmem b).mp hb with hb | rfl
    · exact h.normal b hb
    · exact hnormal
  · rcases (hmem b).mp hb with hb | rfl
    · rcases (hmem c).mp hc with hc | rfl
      · exact h.unique b hb c hc hslot
      · exact absurd ⟨hslot.referenceId.symm, hslot.accountType.symm, hslot.currency.symm⟩
          (hnew b hb)
    · rcases (hmem c).mp hc with hc | rfl
      · exact absurd hslot (hnew c hc)
      · rfl

theorem getOrCreateAccount_isOf {accountType : AccountType} {o : Uuid} {currency : String}
    (hcurrency : currency.length ≤ 3) {s t : TxState PaymentDb} {account : AccountEntity}
    (h : getOrCreateAccount accountType o currency s = .ok account t) :
    account.IsOf o accountType currency ∧ (AccountRows s.db → AccountRows t.db) := by
  obtain ⟨r, u, hins, h⟩ := Tx.bind_ok.mp h
  obtain ⟨-, db, hdb, rfl⟩ := Tx.statement_ok.mp hins
  have hvarchar : varchar 3 currency = .ok currency := if_pos hcurrency
  simp only [insertAccount, hvarchar, Except.bind_eq_ok] at hdb
  obtain ⟨_, ⟨⟩, hdb⟩ := hdb
  split at hdb
  · -- the account was there: it is read back
    cases hdb
    obtain ⟨-, hfind, rfl⟩ := Tx.fetchOne_ok.mp h
    have hslot := List.find?_some hfind
    simp only [Bool.and_eq_true, decide_eq_true_eq] at hslot
    exact ⟨⟨hslot.1.1, hslot.1.2, hslot.2⟩, id⟩
  · rename_i habsent
    simp only [nowV7] at hdb
    split at hdb
    · exact absurd hdb Except.throw_ne_ok
    · rename_i accounts hinsert
      cases hdb
      obtain ⟨rfl, rfl⟩ := Tx.pure_ok.mp h
      refine ⟨⟨rfl, rfl, rfl⟩, fun hrows => hrows.insert hinsert rfl fun b hb hslot => ?_⟩
      refine habsent (List.any_eq_true.mpr ⟨b, hb, ?_⟩)
      simp [hslot.referenceId, hslot.accountType, hslot.currency]

theorem createAccountPair_isOf {o : Uuid} {currency : String} {debitType creditType : AccountType}
    (hcurrency : currency.length ≤ 3) {s t : TxState PaymentDb} {pair : Uuid × Uuid}
    (h : createAccountPair o currency debitType creditType s = .ok pair t) :
    (∃ debit ∈ t.db.accounts.rows, debit.id = pair.1 ∧ debit.IsOf o debitType currency) ∧
    (∃ credit ∈ t.db.accounts.rows, credit.id = pair.2 ∧ credit.IsOf o creditType currency) ∧
    (AccountRows s.db → AccountRows t.db) := by
  simp only [createAccountPair, Tx.bind_ok, Tx.pure_ok] at h
  obtain ⟨a, s₁, h₁, b, s₂, h₂, rfl, rfl⟩ := h
  obtain ⟨db₁, rfl, -, ha⟩ := getOrCreateAccount_ok h₁
  obtain ⟨db₂, rfl, hadds₂, hb⟩ := getOrCreateAccount_ok h₂
  obtain ⟨haof, hrows₁⟩ := getOrCreateAccount_isOf hcurrency h₁
  obtain ⟨hbof, hrows₂⟩ := getOrCreateAccount_isOf hcurrency h₂
  exact ⟨⟨a, hadds₂.accounts a ha, rfl, haof⟩, ⟨b, hb, rfl, hbof⟩, fun h => hrows₂ (hrows₁ h)⟩

/-! ## Entries -/

/-- What an entry books: the account, the direction and the amount. -/
abbrev bookingOf (e : LedgerEntryEntity) : Uuid × EntryDirection × Decimal :=
  (e.accountId, e.direction, e.amount)

/-- The entries of a ledger transaction. -/
def PaymentDb.entriesOf (db : PaymentDb) (id : Uuid) : List LedgerEntryEntity :=
  db.ledgerEntries.filter (·.transactionId = id)

/-- The ledger transaction `id` of order `o` has booked `amount` on two accounts of the order. -/
structure Booked (db : PaymentDb) (o id : Uuid) (debitType creditType : AccountType)
    (currency : String) (amount : Decimal) : Prop where
  stored : Stored amount
  entries : ∃ debit ∈ db.accounts.rows, ∃ credit ∈ db.accounts.rows,
    debit.IsOf o debitType currency ∧ credit.IsOf o creditType currency ∧
    (db.entriesOf id).map bookingOf = [(debit.id, .debit, amount), (credit.id, .credit, amount)]

/-- The entries of a transaction are read in the order of their times. -/
theorem perm_listEntriesByTransaction (id : Uuid) (db : PaymentDb) :
    (listEntriesByTransaction id db).Perm (db.entriesOf id) :=
  List.perm_insertionSort _ _

theorem Booked.length {db : PaymentDb} {o id : Uuid} {debitType creditType : AccountType}
    {currency : String} {amount : Decimal}
    (h : Booked db o id debitType creditType currency amount) : (db.entriesOf id).length = 2 := by
  obtain ⟨debit, -, credit, -, -, -, hentries⟩ := h.entries
  simpa using congrArg List.length hentries

/-- Both entries carry the amount. -/
theorem Booked.amounts {db : PaymentDb} {o id : Uuid} {debitType creditType : AccountType}
    {currency : String} {amount : Decimal}
    (h : Booked db o id debitType creditType currency amount) :
    ∀ e ∈ db.entriesOf id, e.amount = amount := by
  obtain ⟨debit, -, credit, -, -, -, hentries⟩ := h.entries
  intro e he
  have hb := List.mem_map_of_mem (f := bookingOf) he
  rw [hentries] at hb
  simp only [List.mem_cons, List.not_mem_nil, or_false, bookingOf, Prod.mk.injEq] at hb
  rcases hb with ⟨-, -, hb⟩ | ⟨-, -, hb⟩
  · exact hb
  · exact hb

theorem insertEntry_booking {id accountId : Uuid} {direction : EntryDirection} {amount : Decimal}
    {db db' : PaymentDb} {u : Unit}
    (h : insertEntry id accountId direction amount db = .ok (u, db')) :
    ∃ e, db'.ledgerEntries = db.ledgerEntries ++ [e] ∧ e.transactionId = id ∧
      e.accountId = accountId ∧ e.direction = direction ∧ numeric19_4 amount = .ok e.amount ∧
      0 < e.amount := by
  simp only [insertEntry, Except.bind_eq_ok] at h
  obtain ⟨a, ha, h⟩ := h
  split at h
  · exact absurd h Except.throw_ne_ok
  rename_i hpos
  split at h
  · exact absurd h Except.throw_ne_ok
  split at h
  · exact absurd h Except.throw_ne_ok
  cases h
  exact ⟨_, rfl, rfl, rfl, rfl, ha, not_le.mp hpos⟩

theorem writeEntryPair_booking {id debit credit : Uuid} {amount : Decimal}
    {s t : TxState PaymentDb} {u : Unit} (h : writeEntryPair id debit credit amount s = .ok u t) :
    ∃ new m, t.db.ledgerEntries = s.db.ledgerEntries ++ new ∧ (∀ e ∈ new, e.transactionId = id) ∧
      new.map bookingOf = [(debit, .debit, m), (credit, .credit, m)] ∧
      numeric19_4 amount = .ok m ∧ Stored m := by
  simp only [writeEntryPair, createEntry, Tx.bind_ok, Tx.statement_ok] at h
  obtain ⟨_, _, ⟨-, db₁, h₁, rfl⟩, -, db₂, h₂, rfl⟩ := h
  obtain ⟨e, he, hid, hacc, hdir, hamount, hpos⟩ := insertEntry_booking h₁
  obtain ⟨f, hf, hid', hacc', hdir', hamount', -⟩ := insertEntry_booking h₂
  have hsame : e.amount = f.amount := Except.ok.inj (hamount.symm.trans hamount')
  refine ⟨[e, f], e.amount, ?_, ?_, ?_, hamount, numeric19_4_idem hamount, hpos⟩
  · rw [hf, he, List.append_assoc]
    rfl
  · simp [hid, hid']
  · simp [bookingOf, hacc, hdir, hacc', hdir', hsame]

/-- Every entry belongs to a ledger transaction. -/
def EntriesRefer (db : PaymentDb) : Prop :=
  ∀ e ∈ db.ledgerEntries, ∃ t ∈ db.ledgerTransactions.rows, t.id = e.transactionId

/-- `db'` is `db` with more accounts, and with entries for the ledger transaction `id`. -/
structure Extends (db db' : PaymentDb) (id : Uuid) : Prop where
  accounts : ∀ a ∈ db.accounts.rows, a ∈ db'.accounts.rows
  entries : ∃ new, db'.ledgerEntries = db.ledgerEntries ++ new ∧
    ∀ e ∈ new, e.transactionId = id

/-- What other transactions have booked stays booked. -/
theorem Booked.extends {db db' : PaymentDb} {o id id' : Uuid} {debitType creditType : AccountType}
    {currency : String} {amount : Decimal}
    (h : Booked db o id debitType creditType currency amount) (hext : Extends db db' id')
    (hne : id ≠ id') : Booked db' o id debitType creditType currency amount := by
  obtain ⟨debit, hdebit, credit, hcredit, hd, hc, hentries⟩ := h.entries
  obtain ⟨new, hnew, hall⟩ := hext.entries
  have hnone : new.filter (·.transactionId = id) = [] := by
    rw [List.filter_eq_nil_iff]
    intro e he
    simp [hall e he, Ne.symm hne]
  refine ⟨h.stored, debit, hext.accounts _ hdebit, credit, hext.accounts _ hcredit, hd, hc, ?_⟩
  rw [← hentries, PaymentDb.entriesOf, hnew, List.filter_append, hnone, List.append_nil]
  rfl

section Service

variable [SerdeJson]

/-- The pair of entries that a recording books, and what it leaves alone. -/
theorem recordTransaction_booked {o : Uuid} {currency : String}
    {debitType creditType : AccountType} {type : TransactionType} {key : IdempotencyKey}
    {gatewayRef : Option String} {swap : Bool} {amount : Decimal} {t : EventType}
    {payload : Uuid → Payload} (hcurrency : currency.length ≤ 3) {s s' : TxState PaymentDb}
    {u : Unit} (h : recordTransaction o currency debitType creditType type key gatewayRef swap
      amount t payload s = .ok u s') (hrefer : EntriesRefer s.db)
    {row : LedgerTransactionEntity}
    (hrow : s'.db.ledgerTransactions.rows = s.db.ledgerTransactions.rows ++ [row]) :
    Extends s.db s'.db row.id ∧ (AccountRows s.db → AccountRows s'.db) ∧
    ∃ m, numeric19_4 amount = .ok m ∧
      Booked s'.db o row.id (bif swap then creditType else debitType)
        (bif swap then debitType else creditType) currency m := by
  simp only [recordTransaction, createTransaction, postTransaction, Tx.bind_ok, Tx.statement_ok,
    updateTransactionStatus_ok, writeOutbox_ok] at h
  obtain ⟨pair, s₁, hpair, tx, _, ⟨-, db₂, hins, rfl⟩, _, s₃, hentries, _, _, ⟨-, -, rfl⟩,
    -, -, rfl⟩ := h
  obtain ⟨db₁, rfl, hadds⟩ := createAccountPair_ok hpair
  obtain ⟨⟨debit, hdebit, hdid, hdof⟩, ⟨credit, hcredit, hcid, hcof⟩, haccounts⟩ :=
    createAccountPair_isOf hcurrency hpair
  obtain ⟨-, hinsert, hframe, -⟩ := insertTransaction_ok hins
  obtain ⟨db₃, rfl, hadds₃⟩ := writeEntryPair_ok hentries
  obtain ⟨new, m, hnew, hall, hbooking, hamount, hstored⟩ := writeEntryPair_booking hentries
  have htx₃ : db₃.ledgerTransactions = db₂.ledgerTransactions := by rw [hadds₃.frame]
  have hacc₃ : db₃.accounts = db₁.accounts := by rw [hadds₃.frame, hframe]
  have hentries₃ : db₃.ledgerEntries = s.db.ledgerEntries ++ new := by
    rw [hnew, hframe, ← hadds.ledgerEntries]
  -- the row that was added is that of the entries
  have hid : row.id = tx.id := by
    have hrows := Table.rows_modify_insert hinsert
      (fun t : LedgerTransactionEntity => { t with status := .posted }) fun _ => rfl
    rw [← htx₃, hadds.ledgerTransactions] at hrows
    have hsame := List.append_cancel_left (hrow.symm.trans hrows)
    rw [List.cons.injEq] at hsame
    rw [hsame.1]
  have hfresh : ∀ t ∈ s.db.ledgerTransactions.rows, t.id ≠ row.id := by
    rw [hid, ← hadds.ledgerTransactions]
    exact (Table.find?_eq_none_iff ..).mp ((Table.insert_eq_some _ _ _).mp hinsert).1
  refine ⟨⟨fun a ha => ?_, new, hentries₃, fun e he => (hall e he).trans hid.symm⟩,
    fun hrows => (haccounts hrows).congr hacc₃, m, hamount, hstored, ?_⟩
  · exact hacc₃ ▸ hadds.accounts a ha
  · have hold : s.db.ledgerEntries.filter (·.transactionId = row.id) = [] := by
      rw [List.filter_eq_nil_iff]
      intro e he
      obtain ⟨tx', htx', heq⟩ := hrefer e he
      simpa [← heq] using hfresh tx' htx'
    have hown : new.filter (·.transactionId = row.id) = new := by
      rw [List.filter_eq_self]
      intro e he
      simp [hall e he, hid]
    have hof : (s.db.ledgerEntries ++ new).filter (·.transactionId = row.id) = new := by
      rw [List.filter_append, hold, hown, List.nil_append]
    rw [← hentries₃] at hof
    rw [← hdid, ← hcid] at hbooking
    cases swap with
    | false =>
      exact ⟨debit, hacc₃ ▸ hdebit, credit, hacc₃ ▸ hcredit, hdof, hcof,
        (congrArg (List.map bookingOf) hof).trans hbooking⟩
    | true =>
      exact ⟨credit, hacc₃ ▸ hcredit, debit, hacc₃ ▸ hdebit, hcof, hdof,
        (congrArg (List.map bookingOf) hof).trans hbooking⟩

end Service

/-! ## The books of an order -/

/-- What the ledger transactions of an order have booked, in the shapes that its ledger can
    have. A capture or a void is booked in USD, whatever the authorization was booked in. -/
inductive OrderBooks (db : PaymentDb) (o : Uuid) :
    List LedgerTransactionEntity → PaymentState → Prop
  | new : OrderBooks db o [] .new
  | authorized {a : LedgerTransactionEntity} {currency : String} {amount : Decimal}
    (ha : kindOf a = (.authorization, .posted))
    (hauth : Booked db o a.id .gatewayHolding .buyer currency amount) :
    OrderBooks db o [a] .authorized
  | captured {a c : LedgerTransactionEntity} {currency : String} {amount : Decimal}
    (ha : kindOf a = (.authorization, .posted)) (hc : kindOf c = (.capture, .posted))
    (hauth : Booked db o a.id .gatewayHolding .buyer currency amount)
    (hcapture : Booked db o c.id .platformRevenue .gatewayHolding "USD" amount) :
    OrderBooks db o [a, c] .captured
  | voided {a v : LedgerTransactionEntity} {currency : String} {amount : Decimal}
    (ha : kindOf a = (.authorization, .discarded)) (hv : kindOf v = (.void, .posted))
    (hauth : Booked db o a.id .gatewayHolding .buyer currency amount)
    (hvoid : Booked db o v.id .buyer .gatewayHolding "USD" amount) :
    OrderBooks db o [a, v] .voided

theorem OrderBooks.shape {db : PaymentDb} {o : Uuid} {txs : List LedgerTransactionEntity}
    {state : PaymentState} (h : OrderBooks db o txs state) :
    LedgerShape (txs.map kindOf) state := by
  cases h with
  | new => exact .new
  | authorized ha =>
    rw [List.map_singleton, ha]
    exact .authorized
  | captured ha hc =>
    rw [List.map_cons, List.map_singleton, ha, hc]
    exact .captured
  | voided ha hv =>
    rw [List.map_cons, List.map_singleton, ha, hv]
    exact .voided

structure BookInv (db : PaymentDb) : Prop extends LedgerInv db, AccountRows db where
  refer : EntriesRefer db
  books : ∀ o, ∃ state, OrderBooks db o (db.txsOf o) state

/-- The books of an order are those of its state. -/
theorem BookInv.books_state {db : PaymentDb} (h : BookInv db) (o : Uuid) :
    OrderBooks db o (db.txsOf o) (db.paymentState o) := by
  obtain ⟨state, hbooks⟩ := h.books o
  rwa [paymentState_eq h.toLedgerRows hbooks.shape]

/-- The books depend on what the transactions in them have booked. -/
theorem OrderBooks.mono {db db' : PaymentDb} {o : Uuid} {txs : List LedgerTransactionEntity}
    {state : PaymentState} (h : OrderBooks db o txs state)
    (hbooked : ∀ t ∈ txs, ∀ {debitType creditType : AccountType} {currency : String}
      {amount : Decimal}, Booked db o t.id debitType creditType currency amount →
        Booked db' o t.id debitType creditType currency amount) : OrderBooks db' o txs state := by
  cases h with
  | new => exact .new
  | authorized ha hauth => exact .authorized ha (hbooked _ (by simp) hauth)
  | captured ha hc hauth hcapture =>
    exact .captured ha hc (hbooked _ (by simp) hauth) (hbooked _ (by simp) hcapture)
  | voided ha hv hauth hvoid =>
    exact .voided ha hv (hbooked _ (by simp) hauth) (hbooked _ (by simp) hvoid)

theorem bookInv_empty : BookInv {} where
  toLedgerInv := ledgerInv_empty
  normal := by simp
  unique := by simp
  refer := by simp [EntriesRefer]
  books _ := ⟨.new, .new⟩

/-- Tables with the same accounts, transactions and entries. -/
theorem BookInv.congr {db db' : PaymentDb} (h : BookInv db) (hinv : LedgerInv db')
    (haccounts : db'.accounts = db.accounts)
    (htxs : db'.ledgerTransactions = db.ledgerTransactions)
    (hentries : db'.ledgerEntries = db.ledgerEntries) : BookInv db' where
  toLedgerInv := hinv
  toAccountRows := h.toAccountRows.congr haccounts
  refer := by
    unfold EntriesRefer
    rw [hentries, htxs]
    exact h.refer
  books o := by
    have hsame : db'.txsOf o = db.txsOf o := by rw [PaymentDb.txsOf, htxs]; rfl
    rw [hsame]
    refine (h.books o).imp fun _ hbooks => hbooks.mono fun t _ _ _ _ _ hb => ⟨hb.stored, ?_⟩
    have hof : db'.entriesOf t.id = db.entriesOf t.id := by
      rw [PaymentDb.entriesOf, hentries]
      rfl
    rw [hof, haccounts]
    exact hb.entries

/-- The authorization of an order that is Authorized, as it is found: its amount is the one
    that was booked, and its currency is the default. -/
theorem findPostedAuthorization_booked {db : PaymentDb} {o : Uuid} {operation : String}
    {auth : PostedAuthorization} (h : BookInv db)
    (hauth : findPostedAuthorization o (PaymentState.requireAuthorized operation) db = .ok auth) :
    ∃ a currency, db.txsOf o = [a] ∧ a.id = auth.authTxId ∧
      kindOf a = (.authorization, .posted) ∧ auth.currency = "USD" ∧
      Booked db o a.id .gatewayHolding .buyer currency auth.amount := by
  obtain ⟨hstate, tx, htx, ref, -, rfl⟩ := findPostedAuthorization_ok.mp hauth
  have hmem := List.mem_of_find?_eq_some htx
  rw [listTransactionsByOrder_eq h.toLedgerRows, List.mem_reverse] at hmem
  have hrow : tx ∈ db.ledgerTransactions.rows := List.mem_of_mem_filter hmem
  have hbooks := h.books_state o
  rw [hstate] at hbooks
  generalize htxs : db.txsOf o = txs at hbooks hmem
  cases hbooks with
  | @authorized _ currency amount ha hbooked =>
    cases List.mem_singleton.mp hmem
    -- both entries carry the amount, so it does not matter which one comes first
    have hamount : ((listEntriesByTransaction tx.id db).head?.map (·.amount)).getD 0 = amount := by
      cases hlist : listEntriesByTransaction tx.id db with
      | nil =>
        have hperm := perm_listEntriesByTransaction tx.id db
        rw [hlist] at hperm
        exact nomatch hbooked.length.symm.trans hperm.symm.length_eq
      | cons e es =>
        refine hbooked.amounts e ((perm_listEntriesByTransaction tx.id db).mem_iff.mp ?_)
        rw [hlist]
        exact List.mem_cons_self ..
    refine ⟨tx, currency, rfl, rfl, ha, by rw [h.metadata tx hrow]; rfl, ?_⟩
    rw [hamount]
    exact hbooked

theorem ne_of_rows_append {base db : PaymentDb} {row : LedgerTransactionEntity}
    (hrow : db.ledgerTransactions.rows = base.ledgerTransactions.rows ++ [row]) :
    ∀ t ∈ base.ledgerTransactions.rows, t.id ≠ row.id := by
  intro t ht heq
  have hnodup := db.ledgerTransactions.nodup
  rw [hrow, List.map_append, List.nodup_append] at hnodup
  exact hnodup.2.2 t.id (List.mem_map_of_mem ht) row.id (by simp) heq

theorem txsOf_append {base db : PaymentDb} {row : LedgerTransactionEntity}
    (hrow : db.ledgerTransactions.rows = base.ledgerTransactions.rows ++ [row]) (o : Uuid) :
    db.txsOf o = base.txsOf o ++ if row.orderId = o then [row] else [] := by
  rw [PaymentDb.txsOf, hrow, List.filter_append]
  by_cases ho : row.orderId = o <;> simp [ho, PaymentDb.txsOf]

/-- The books after one more transaction of order `o` was recorded in `base`. -/
theorem bookInv_of_extends {base db : PaymentDb} {o : Uuid} {row : LedgerTransactionEntity}
    (hinv : LedgerInv db) (hrows : AccountRows db) (hrefer : EntriesRefer base)
    (hext : Extends base db row.id)
    (hrow : db.ledgerTransactions.rows = base.ledgerTransactions.rows ++ [row])
    (ho : row.orderId = o)
    (hself : ∃ state, OrderBooks db o (base.txsOf o ++ [row]) state)
    (hothers : ∀ o', o' ≠ o → ∃ state, OrderBooks base o' (base.txsOf o') state) :
    BookInv db where
  toLedgerInv := hinv
  toAccountRows := hrows
  refer := by
    obtain ⟨new, hnew, hall⟩ := hext.entries
    intro e he
    rw [hnew, List.mem_append] at he
    rw [hrow]
    rcases he with he | he
    · obtain ⟨t, ht, hid⟩ := hrefer e he
      exact ⟨t, List.mem_append_left _ ht, hid⟩
    · exact ⟨row, List.mem_append_right _ (List.mem_singleton_self _), (hall e he).symm⟩
  books o' := by
    rw [txsOf_append hrow]
    by_cases ho' : row.orderId = o'
    · rw [if_pos ho', ← ho', ho]
      exact hself
    · rw [if_neg ho', List.append_nil]
      obtain ⟨state', hbooks⟩ := hothers o' fun h => ho' (ho.trans h.symm)
      refine ⟨state', hbooks.mono fun t ht _ _ _ _ hb => ?_⟩
      exact hb.extends hext (ne_of_rows_append hrow t (List.mem_of_mem_filter ht))

section Service

variable [SerdeJson]

/-- What a handler has done keeps the books. -/
theorem bookInv_performs {db : PaymentDb} {s : TxState PaymentDb} {o : Uuid} {t : EventType}
    (h : BookInv db) (hnow : ∀ t ∈ db.ledgerTransactions.rows, t.createdAt < db.now)
    (hperforms : Performs db s o t) : BookInv s.db := by
  obtain ⟨hinv, -⟩ := ledgerInv_effect h.toLedgerInv hnow hperforms.effect
  cases hperforms with
  | failed ht he =>
    exact h.congr hinv (by rw [he.frame]) (by rw [he.frame]) (by rw [he.frame])
  | retried ht he =>
    exact h.congr hinv (by rw [he.frame]) (by rw [he.frame]) (by rw [he.frame])
  | authorized ht hvalid hrec =>
    rw [recordAuthorization_eq] at hrec
    obtain ⟨db', rfl, hrecords⟩ := recordTransaction_ok (fun _ => rfl) hrec
    obtain ⟨row, hrow, -, ho, htype, hposted, -⟩ := hrecords.row
    obtain ⟨-, -, hsupported, hstate⟩ := validateAuthorization_iff.mp hvalid
    -- the supported currencies fit the column
    have hfits : ∀ currency ∈ supportedCurrencies, currency.length ≤ 3 := by decide
    obtain ⟨hext, hrows, m, -, hbooked⟩ :=
      recordTransaction_booked (hfits _ hsupported) hrec h.refer hrow
    refine bookInv_of_extends hinv (hrows h.toAccountRows) h.refer hext hrow ho ?_
      fun o' _ => h.books o'
    rw [(h.txsOf_eq_nil hstate).1]
    exact ⟨_, .authorized (Prod.ext htype hposted) hbooked⟩
  | captured ht hauth hrec =>
    rw [recordCapture_eq] at hrec
    obtain ⟨db', rfl, hrecords⟩ := recordTransaction_ok (fun _ => rfl) hrec
    obtain ⟨row, hrow, -, ho, htype, hposted, -⟩ := hrecords.row
    obtain ⟨a, currency, htxs, -, ha, husd, hbooked⟩ := findPostedAuthorization_booked h hauth
    obtain ⟨hext, hrows, m, hm, hcapture⟩ :=
      recordTransaction_booked (by rw [husd]; decide) hrec h.refer hrow
    cases hbooked.stored.1.symm.trans hm
    refine bookInv_of_extends hinv (hrows h.toAccountRows) h.refer hext hrow ho ?_
      fun o' _ => h.books o'
    have hmem : a ∈ db.txsOf o := by simp [htxs]
    rw [htxs]
    rw [husd] at hcapture
    refine ⟨_, .captured ha (Prod.ext htype hposted) (hbooked.extends hext ?_) hcapture⟩
    exact ne_of_rows_append hrow a (List.mem_of_mem_filter hmem)
  | voided ht hauth hrec =>
    obtain ⟨a, currency, htxs, hid, ha, husd, hbooked⟩ := findPostedAuthorization_booked h hauth
    simp only [recordVoid_eq, Tx.bind_ok, updateTransactionStatus_ok, ← hid] at hrec
    obtain ⟨_, _, ⟨-, -, rfl⟩, hrec⟩ := hrec
    obtain ⟨db', rfl, hrecords⟩ := recordTransaction_ok (fun _ => rfl) hrec
    obtain ⟨row, hrow, -, ho, htype, hposted, -⟩ := hrecords.row
    have hmem : a ∈ db.txsOf o := by simp [htxs]
    obtain ⟨harow, hao⟩ := List.mem_filter.mp hmem
    simp only [decide_eq_true_eq] at hao
    -- discarding the authorization leaves its entries where they are
    have hrefer : EntriesRefer (db.discard a.id) := by
      intro e he
      obtain ⟨tx, htx, hid⟩ := h.refer e he
      obtain ⟨tx', htx', hid'⟩ := db.ledgerTransactions.exists_mem_modify a.id
        (fun t => { t with status := .discarded }) (fun _ => rfl) htx
      exact ⟨tx', htx', hid'.trans hid⟩
    obtain ⟨hext, hrows, m, hm, hvoid⟩ :=
      recordTransaction_booked (by rw [husd]; decide) hrec hrefer hrow
    cases hbooked.stored.1.symm.trans hm
    have hself := discard_txsOf_self htxs
    refine bookInv_of_extends hinv (hrows (h.toAccountRows.congr rfl)) hrefer hext hrow ho ?_
      fun o' ho' => ?_
    · have hmem' : { a with status := .discarded } ∈ (db.discard a.id).txsOf o := by simp [hself]
      have hdiscarded : Booked (db.discard a.id) o a.id .gatewayHolding .buyer currency _ :=
        ⟨hbooked.stored, hbooked.entries⟩
      rw [hself]
      rw [husd] at hvoid
      refine ⟨_, .voided (Prod.ext (Prod.mk.inj ha).1 rfl) (Prod.ext htype hposted)
        (hdiscarded.extends hext ?_) hvoid⟩
      exact ne_of_rows_append hrow { a with status := .discarded } (List.mem_of_mem_filter hmem')
    · rw [discard_txsOf_other harow (by rw [hao]; exact ho'.symm)]
      exact (h.books o').imp fun _ hbooks => hbooks.mono fun t _ _ _ _ _ hb =>
        ⟨hb.stored, hb.entries⟩

/-- One handling keeps the books. -/
theorem bookInv_step {db db' : PaymentDb} {a : Handling} (h : BookInv db)
    (hstep : step db a = some db') : BookInv db' := by
  cases hstep
  obtain ⟨hstart, hnow⟩ := h.toLedgerInv.startTransaction a.tick
  have hbooks : BookInv (db.startTransaction a.tick) := h.congr hstart rfl rfl rfl
  rcases Tx.attempt_db_eq (keepsPool_handle a.gateway a.env) (db.startTransaction a.tick) with
    ⟨_, hcommitted⟩ | hdb
  · rcases handle_performs hcommitted with heq | ⟨o, s, -, heq, hperforms⟩
    · rw [heq]
      exact hbooks
    · rw [← heq]
      exact bookInv_performs hbooks hnow hperforms
  · -- ignored, or failed and rolled back
    rw [hdb]
    exact hbooks

theorem bookInv_run {db : PaymentDb} {as : List Handling} (h : Run.run step {} as = some db) :
    BookInv db :=
  Run.run_invariant (fun _ _ _ hinv hstep => bookInv_step hinv hstep) bookInv_empty h

end Service

/-! ## Balances -/

/-- The side on which an amount increases the balance. -/
def NormalBalance.side : NormalBalance → EntryDirection
  | .debit => .debit
  | .credit => .credit

/-- An amount booked in `direction`, on an account that `side` increases. -/
def sideAmount (side direction : EntryDirection) (amount : Decimal) : Decimal :=
  if direction = side then amount else -amount

/-- What a ledger transaction contributes to the balance of an account, if it is posted. -/
def contribution (db : PaymentDb) (a : AccountEntity) (id : Uuid) : Decimal :=
  (((db.entriesOf id).filter (·.accountId = a.id)).map (signedAmount a.normalBalance.side)).sum

instance (a : AccountEntity) (o : Uuid) (type : AccountType) (currency : String) :
    Decidable (a.IsOf o type currency) :=
  decidable_of_iff (a.referenceId = o ∧ a.accountType = type ∧ a.currency = currency)
    ⟨fun h => ⟨h.1, h.2.1, h.2.2⟩, fun h => ⟨h.referenceId, h.accountType, h.currency⟩⟩

section Balance

variable {db : PaymentDb} {o : Uuid} {a : AccountEntity}

/-- A booking contributes to the two accounts that it is booked on. -/
theorem Booked.contribution_eq {id : Uuid} {debitType creditType : AccountType}
    {currency : String} {amount : Decimal}
    (h : Booked db o id debitType creditType currency amount) (hrows : AccountRows db)
    (ha : a ∈ db.accounts.rows) : contribution db a id =
      (if a.IsOf o debitType currency then sideAmount a.normalBalance.side .debit amount else 0) +
      (if a.IsOf o creditType currency then sideAmount a.normalBalance.side .credit amount else 0)
      := by
  obtain ⟨debit, hdebit, credit, hcredit, hd, hc, hentries⟩ := h.entries
  have hid {b : AccountEntity} (hb : b ∈ db.accounts.rows) {type : AccountType}
      (hof : b.IsOf o type currency) : b.id = a.id ↔ a.IsOf o type currency := by
    constructor
    · intro heq
      cases db.accounts.eq_of_key_eq hb ha heq
      exact hof
    · intro hof'
      refine congrArg AccountEntity.id (hrows.unique b hb a ha ?_)
      rw [hof.referenceId, hof.accountType, hof.currency]
      exact hof'
  have hsum : contribution db a id = ((((db.entriesOf id).map bookingOf).filter (·.1 = a.id)).map
      fun b => sideAmount a.normalBalance.side b.2.1 b.2.2).sum := by
    rw [List.filter_map, List.map_map]
    rfl
  rw [hsum, hentries]
  by_cases h₁ : debit.id = a.id <;> by_cases h₂ : credit.id = a.id <;>
    simp [h₁, h₂, ← hid hdebit hd, ← hid hcredit hc]

theorem OrderBooks.booked {txs : List LedgerTransactionEntity} {state : PaymentState}
    (h : OrderBooks db o txs state) :
    ∀ t ∈ txs, ∃ debitType creditType currency amount, debitType ≠ creditType ∧
      Booked db o t.id debitType creditType currency amount := by
  cases h with
  | new => exact List.forall_mem_nil _
  | authorized ha hauth =>
    rw [List.forall_mem_singleton]
    exact ⟨_, _, _, _, by decide, hauth⟩
  | captured ha hc hauth hcapture =>
    rw [List.forall_mem_cons, List.forall_mem_singleton]
    exact ⟨⟨_, _, _, _, by decide, hauth⟩, _, _, _, _, by decide, hcapture⟩
  | voided ha hv hauth hvoid =>
    rw [List.forall_mem_cons, List.forall_mem_singleton]
    exact ⟨⟨_, _, _, _, by decide, hauth⟩, _, _, _, _, by decide, hvoid⟩

/-- A ledger transaction books on two types of accounts of its order. -/
theorem BookInv.booked (h : BookInv db) {t : LedgerTransactionEntity}
    (ht : t ∈ db.ledgerTransactions.rows) : ∃ debitType creditType currency amount,
      debitType ≠ creditType ∧ Booked db t.orderId t.id debitType creditType currency amount :=
  (h.books_state t.orderId).booked t (List.mem_filter.mpr ⟨ht, by simp⟩)

/-- The view `account_balances`, as the sum of what the posted transactions of the account's
    order have booked. -/
theorem balance_eq (h : BookInv db) (ha : a ∈ db.accounts.rows) :
    (accountBalance db a).balance = ((db.txsOf a.referenceId).map fun t =>
      if t.status = .posted then contribution db a t.id else 0).sum := by
  let posted (e : LedgerEntryEntity) : Decimal :=
    if isPosted db e then signedAmount a.normalBalance.side e else 0
  have hbalance : (accountBalance db a).balance =
      ((db.ledgerEntries.filter (·.accountId = a.id)).map posted).sum := by
    simp only [accountBalance, posted]
    cases a.normalBalance <;> rfl
  -- the entries of the account, grouped by their transaction
  rw [hbalance, db.ledgerTransactions.sum_by_ref (·.transactionId) posted
    fun e he => h.refer e (List.mem_of_mem_filter he)]
  have hgroup : ∀ t ∈ db.ledgerTransactions.rows,
      (((db.ledgerEntries.filter (·.accountId = a.id)).filter (·.transactionId = t.id)).map
        posted).sum = if t.status = .posted then contribution db a t.id else 0 := by
    intro t ht
    have hfind := (db.ledgerTransactions.find?_eq_some_iff t.id t).mpr ⟨ht, rfl⟩
    rw [List.filter_comm]
    have hposted : ∀ e ∈ (db.entriesOf t.id).filter (·.accountId = a.id),
        posted e = if t.status = .posted then signedAmount a.normalBalance.side e else 0 := by
      intro e he
      have hid := (List.mem_filter.mp (List.mem_of_mem_filter he)).2
      simp only [decide_eq_true_eq] at hid
      simp only [posted, isPosted, hid, hfind, Option.any_some, decide_eq_true_eq]
    rw [← PaymentDb.entriesOf, List.map_congr_left hposted]
    split
    · rfl
    · simp
  rw [List.map_congr_left hgroup]
  -- the transactions of other orders are booked on their own accounts
  refine Table.sum_filter_of_zero fun t ht ho => ?_
  obtain ⟨debitType, creditType, currency, amount, -, hbooked⟩ := h.booked ht
  have hne : ∀ type, ¬a.IsOf t.orderId type currency := fun type hof => by
    simp [hof.referenceId] at ho
  rw [hbooked.contribution_eq h.toAccountRows ha, if_neg (hne _), if_neg (hne _), add_zero,
    ite_self]

end Balance

/-! ## What the view reports -/

/-- The entries of the order's transactions of a type. -/
def PaymentDb.bookings (db : PaymentDb) (o : Uuid) (type : TransactionType) :
    List LedgerEntryEntity :=
  ((db.txsOf o).filter (·.transactionType = type)).flatMap fun t => db.entriesOf t.id

/-- The currency of the account that an entry is booked on. -/
def PaymentDb.currencyOf (db : PaymentDb) (e : LedgerEntryEntity) : Option String :=
  (db.accounts.find? e.accountId).map (·.currency)

section Reports

variable {db : PaymentDb} {o : Uuid}

theorem Booked.ne_nil {id : Uuid} {debitType creditType : AccountType} {currency : String}
    {amount : Decimal} (h : Booked db o id debitType creditType currency amount) :
    ∃ e, e ∈ db.entriesOf id :=
  List.exists_mem_of_length_pos (by rw [h.length]; decide)

/-- Both entries are booked on accounts of the currency. -/
theorem Booked.currencyOf {id : Uuid} {debitType creditType : AccountType} {currency : String}
    {amount : Decimal} (h : Booked db o id debitType creditType currency amount) :
    ∀ e ∈ db.entriesOf id, db.currencyOf e = some currency := by
  obtain ⟨debit, hdebit, credit, hcredit, hd, hc, hentries⟩ := h.entries
  intro e he
  have hb := List.mem_map_of_mem (f := bookingOf) he
  rw [hentries] at hb
  simp only [List.mem_cons, List.not_mem_nil, or_false, bookingOf, Prod.mk.injEq] at hb
  rcases hb with ⟨hid, -⟩ | ⟨hid, -⟩
  · rw [PaymentDb.currencyOf, hid, (db.accounts.find?_eq_some_iff _ debit).mpr ⟨hdebit, rfl⟩]
    exact congrArg some hd.currency
  · rw [PaymentDb.currencyOf, hid, (db.accounts.find?_eq_some_iff _ credit).mpr ⟨hcredit, rfl⟩]
    exact congrArg some hc.currency

/-- The authorization of the order is booked on accounts of `currency` and worth `amount`. -/
structure PaymentDb.AuthorizedFor (db : PaymentDb) (o : Uuid) (currency : String)
    (amount : Decimal) : Prop where
  recorded : db.bookings o .authorization ≠ []
  entries : ∀ e ∈ db.bookings o .authorization, db.currencyOf e = some currency ∧
    e.amount = amount

instance (db : PaymentDb) (o : Uuid) (currency : String) (amount : Decimal) :
    Decidable (db.AuthorizedFor o currency amount) :=
  decidable_of_iff (db.bookings o .authorization ≠ [] ∧
      ∀ e ∈ db.bookings o .authorization, db.currencyOf e = some currency ∧ e.amount = amount)
    ⟨fun h => ⟨h.1, h.2⟩, fun h => ⟨h.recorded, h.entries⟩⟩

theorem PaymentDb.AuthorizedFor.eq_booked {currency currency' : String} {amount amount' : Decimal}
    {id : Uuid} {debitType creditType : AccountType} (h : db.AuthorizedFor o currency amount)
    (hbookings : db.bookings o .authorization = db.entriesOf id)
    (hbooked : Booked db o id debitType creditType currency' amount') :
    currency' = currency ∧ amount' = amount := by
  obtain ⟨e, he⟩ := hbooked.ne_nil
  obtain ⟨hcurrency, hamount⟩ := h.entries e (hbookings ▸ he)
  have hbooked' := hbooked.currencyOf e he
  rw [hcurrency] at hbooked'
  exact ⟨(Option.some.inj hbooked').symm, (hbooked.amounts e he).symm.trans hamount⟩

/-- The view has a row for every account of the order. -/
theorem mem_getAccountBalances {b : AccountBalanceEntity} :
    b ∈ getAccountBalances o db ↔
      ∃ a ∈ db.accounts.rows, a.referenceId = o ∧ b = accountBalance db a := by
  simp only [getAccountBalances, List.mem_filter, List.mem_map, decide_eq_true_eq]
  constructor
  · rintro ⟨⟨a, ha, rfl⟩, ho⟩
    exact ⟨a, ha, ho, rfl⟩
  · rintro ⟨a, ha, ho, rfl⟩
    exact ⟨⟨a, ha, rfl⟩, ho⟩

/-- The two transactions of a captured order and what they have booked. -/
theorem BookInv.captured {currency : String} {amount : Decimal} (h : BookInv db)
    (hauth : db.AuthorizedFor o currency amount) (hstate : db.paymentState o = .captured) :
    ∃ a c, db.txsOf o = [a, c] ∧ a.status = .posted ∧ c.status = .posted ∧
      db.bookings o .capture = db.entriesOf c.id ∧
      Booked db o a.id .gatewayHolding .buyer currency amount ∧
      Booked db o c.id .platformRevenue .gatewayHolding "USD" amount := by
  have hbooks := h.books_state o
  rw [hstate] at hbooks
  generalize htxs : db.txsOf o = txs at hbooks
  cases hbooks with
  | @captured a c currency' amount' ha hc hbooked hcapture =>
    obtain ⟨hatype, hastatus⟩ := Prod.mk.inj ha
    obtain ⟨hctype, hcstatus⟩ := Prod.mk.inj hc
    have hbookings : db.bookings o .authorization = db.entriesOf a.id := by
      simp [PaymentDb.bookings, htxs, hatype, hctype]
    obtain ⟨rfl, rfl⟩ := hauth.eq_booked hbookings hbooked
    refine ⟨a, c, rfl, hastatus, hcstatus, ?_, hbooked, hcapture⟩
    simp [PaymentDb.bookings, htxs, hatype, hctype]

/-- The two transactions of a voided order and what they have booked. -/
theorem BookInv.voided {currency : String} {amount : Decimal} (h : BookInv db)
    (hauth : db.AuthorizedFor o currency amount) (hstate : db.paymentState o = .voided) :
    ∃ a v, db.txsOf o = [a, v] ∧ a.status = .discarded ∧ v.status = .posted ∧
      db.bookings o .void = db.entriesOf v.id ∧
      Booked db o a.id .gatewayHolding .buyer currency amount ∧
      Booked db o v.id .buyer .gatewayHolding "USD" amount := by
  have hbooks := h.books_state o
  rw [hstate] at hbooks
  generalize htxs : db.txsOf o = txs at hbooks
  cases hbooks with
  | @voided a v currency' amount' ha hv hbooked hvoid =>
    obtain ⟨hatype, hastatus⟩ := Prod.mk.inj ha
    obtain ⟨hvtype, hvstatus⟩ := Prod.mk.inj hv
    have hbookings : db.bookings o .authorization = db.entriesOf a.id := by
      simp [PaymentDb.bookings, htxs, hatype, hvtype]
    obtain ⟨rfl, rfl⟩ := hauth.eq_booked hbookings hbooked
    refine ⟨a, v, rfl, hastatus, hvstatus, ?_, hbooked, hvoid⟩
    simp [PaymentDb.bookings, htxs, hatype, hvtype]

/-- What one transaction has booked on the account of the debit. -/
theorem Booked.contribution_debit {id : Uuid} {debitType creditType : AccountType}
    {currency : String} {amount : Decimal} {a : AccountEntity}
    (h : Booked db o id debitType creditType currency amount) (hrows : AccountRows db)
    (ha : a ∈ db.accounts.rows) (hof : a.IsOf o debitType currency)
    (hne : debitType ≠ creditType) :
    contribution db a id = sideAmount debitType.normalBalance.side .debit amount := by
  have hother : ¬a.IsOf o creditType currency := fun hc =>
    hne (hof.accountType.symm.trans hc.accountType)
  rw [h.contribution_eq hrows ha, if_pos hof, if_neg hother, add_zero, hrows.normal a ha,
    hof.accountType]

/-- What one transaction has booked on the account of the credit. -/
theorem Booked.contribution_credit {id : Uuid} {debitType creditType : AccountType}
    {currency : String} {amount : Decimal} {a : AccountEntity}
    (h : Booked db o id debitType creditType currency amount) (hrows : AccountRows db)
    (ha : a ∈ db.accounts.rows) (hof : a.IsOf o creditType currency)
    (hne : debitType ≠ creditType) :
    contribution db a id = sideAmount creditType.normalBalance.side .credit amount := by
  have hother : ¬a.IsOf o debitType currency := fun hd =>
    hne (hd.accountType.symm.trans hof.accountType)
  rw [h.contribution_eq hrows ha, if_pos hof, if_neg hother, zero_add, hrows.normal a ha,
    hof.accountType]

/-- A transaction books nothing on other accounts. -/
theorem Booked.contribution_other {id : Uuid} {debitType creditType : AccountType}
    {currency : String} {amount : Decimal} {a : AccountEntity}
    (h : Booked db o id debitType creditType currency amount) (hrows : AccountRows db)
    (ha : a ∈ db.accounts.rows) (hd : ¬a.IsOf o debitType currency)
    (hc : ¬a.IsOf o creditType currency) : contribution db a id = 0 := by
  rw [h.contribution_eq hrows ha, if_neg hd, if_neg hc, add_zero]

/-- The reservation of the order, worth 20 in `currency`, and then the event `t`, each of them
    delivered twice. -/
def deliveredTwice (currency : String) (t : EventType) : List Handling :=
  let reserved := sampleEnv .inventoryReserved ⟨0, 0⟩
  let first := { reserved with payload.currency := some currency }
  [⟨0, approving, first⟩, ⟨0, approving, first⟩, ⟨0, approving, sampleEnv t ⟨0, 0⟩⟩,
   ⟨0, approving, sampleEnv t ⟨0, 0⟩⟩]

/-- After a void the amount stands on the buyer's account and is missing from the holding
    account: the authorization is discarded, so only its reverse counts. -/
theorem void_leaves_amount [SerdeJson] {as : List Handling} (h : Run.run step {} as = some db)
    {currency : String} {amount : Decimal} (hauth : db.AuthorizedFor o currency amount)
    (hstate : db.paymentState o = .voided) :
    0 < amount ∧
    (∃ b ∈ getAccountBalances o db, b.accountType = .buyer ∧ b.balance = amount) ∧
    (∃ b ∈ getAccountBalances o db, b.accountType = .gatewayHolding ∧ b.balance = -amount) ∧
    ¬∀ b ∈ getAccountBalances o db, b.balance = 0 := by
  have hinv := bookInv_run h
  obtain ⟨a, v, htxs, hastatus, hvstatus, -, -, hvoid⟩ := hinv.voided hauth hstate
  obtain ⟨buyer, hbuyer, holding, hholding, hbof, hhof, -⟩ := hvoid.entries
  have hbalance {acc : AccountEntity} (hacc : acc ∈ db.accounts.rows) (ho : acc.referenceId = o) :
      (accountBalance db acc).balance = contribution db acc v.id := by
    simp [balance_eq hinv hacc, ho, htxs, hastatus, hvstatus]
  have hbuyer' : (accountBalance db buyer).balance = amount := by
    rw [hbalance hbuyer hbof.referenceId,
      hvoid.contribution_debit hinv.toAccountRows hbuyer hbof nofun]
    rfl
  have hholding' : (accountBalance db holding).balance = -amount := by
    rw [hbalance hholding hhof.referenceId,
      hvoid.contribution_credit hinv.toAccountRows hholding hhof nofun]
    rfl
  have hrow := mem_getAccountBalances.mpr ⟨buyer, hbuyer, hbof.referenceId, rfl⟩
  refine ⟨hvoid.stored.2, ⟨_, hrow, hbof.accountType, hbuyer'⟩, ⟨_, mem_getAccountBalances.mpr
    ⟨holding, hholding, hhof.referenceId, rfl⟩, hhof.accountType, hholding'⟩, fun hzero => ?_⟩
  exact hvoid.stored.2.ne' (hbuyer'.symm.trans (hzero _ hrow))

theorem void_leaves_amount_krw : ∃ db, Run.run step {} (deliveredTwice "KRW" .orderCancelled) =
    some db ∧ db.AuthorizedFor ⟨0, 0⟩ "KRW" 20 ∧
    ∃ b ∈ getAccountBalances ⟨0, 0⟩ db, b.accountType = .buyer ∧ b.balance = 20 := by
  have hrun : (Run.run step {} (deliveredTwice "KRW" .orderCancelled)).any (fun db =>
      db.AuthorizedFor ⟨0, 0⟩ "KRW" 20 ∧ db.paymentState ⟨0, 0⟩ = .voided) := by decide +kernel
  obtain ⟨db, hdb, hboth⟩ := (Option.any_eq_true ..).mp hrun
  obtain ⟨hauth, hstate⟩ := of_decide_eq_true hboth
  exact ⟨db, hdb, hauth, (void_leaves_amount hdb hauth hstate).2.1⟩

/-- An authorization of 20 USD is voided, and the view does not report zero. -/
theorem balances_after_void : ∃ db, Run.run step {} (deliveredTwice "USD" .orderCancelled) =
    some db ∧ db.AuthorizedFor ⟨0, 0⟩ "USD" 20 ∧ db.paymentState ⟨0, 0⟩ = .voided ∧
    ¬∀ b ∈ getAccountBalances ⟨0, 0⟩ db, b.balance = 0 := by
  have hrun : (Run.run step {} (deliveredTwice "USD" .orderCancelled)).any (fun db =>
      db.AuthorizedFor ⟨0, 0⟩ "USD" 20 ∧ db.paymentState ⟨0, 0⟩ = .voided ∧
      ¬∀ b ∈ getAccountBalances ⟨0, 0⟩ db, b.balance = 0) := by decide +kernel
  obtain ⟨db, hdb, hall⟩ := (Option.any_eq_true ..).mp hrun
  exact ⟨db, hdb, of_decide_eq_true hall⟩

/-- The captured amount has left the holding accounts of the order and is the balance of its
    revenue account. -/
def MovedToRevenue (db : PaymentDb) (o : Uuid) (amount : Decimal) : Prop :=
  ∀ b ∈ getAccountBalances o db, (b.accountType = .gatewayHolding → b.balance = 0) ∧
    (b.accountType = .platformRevenue → b.balance = amount)

instance (db : PaymentDb) (o : Uuid) (amount : Decimal) : Decidable (MovedToRevenue db o amount) :=
  inferInstanceAs (Decidable (∀ b ∈ getAccountBalances o db,
    (b.accountType = .gatewayHolding → b.balance = 0) ∧
      (b.accountType = .platformRevenue → b.balance = amount)))

/-- A capture in the currency of the authorization empties the holding accounts, and it debits
    the revenue account, which is credit-normal. -/
theorem capture_lowers_revenue [SerdeJson] {as : List Handling} (h : Run.run step {} as = some db)
    {currency : String} {amount : Decimal} (hauth : db.AuthorizedFor o currency amount)
    (hstate : db.paymentState o = .captured)
    (hsame : ∀ e ∈ db.bookings o .capture, db.currencyOf e = some currency) :
    0 < amount ∧
    (∀ b ∈ getAccountBalances o db, b.accountType = .gatewayHolding → b.balance = 0) ∧
    (∃ b ∈ getAccountBalances o db, b.accountType = .platformRevenue ∧ b.currency = currency ∧
      b.balance = -amount) ∧
    ¬MovedToRevenue db o amount := by
  have hinv := bookInv_run h
  have hrows := hinv.toAccountRows
  obtain ⟨a, c, htxs, hastatus, hcstatus, hbookings, hbooked, hcapture⟩ :=
    hinv.captured hauth hstate
  obtain ⟨e, he⟩ := hcapture.ne_nil
  obtain rfl : "USD" = currency := by
    have husd := hsame e (hbookings ▸ he)
    rw [hcapture.currencyOf e he] at husd
    exact Option.some.inj husd
  have hbalance {acc : AccountEntity} (hacc : acc ∈ db.accounts.rows) (ho : acc.referenceId = o) :
      (accountBalance db acc).balance = contribution db acc a.id + contribution db acc c.id := by
    simp [balance_eq hinv hacc, ho, htxs, hastatus, hcstatus]
  have hholding : ∀ b ∈ getAccountBalances o db, b.accountType = .gatewayHolding →
      b.balance = 0 := by
    intro b hb htype
    obtain ⟨acc, hacc, ho, rfl⟩ := mem_getAccountBalances.mp hb
    rw [hbalance hacc ho]
    by_cases husd : acc.currency = "USD"
    · have hof : acc.IsOf o .gatewayHolding "USD" := ⟨ho, htype, husd⟩
      rw [hbooked.contribution_debit hrows hacc hof nofun,
        hcapture.contribution_credit hrows hacc hof nofun]
      exact add_neg_cancel amount
    · have hno (type : AccountType) : ¬acc.IsOf o type "USD" := fun hof => husd hof.currency
      rw [hbooked.contribution_other hrows hacc (hno _) (hno _),
        hcapture.contribution_other hrows hacc (hno _) (hno _), add_zero]
  obtain ⟨revenue, hrevenue, -, -, hrof, -, -⟩ := hcapture.entries
  have hrevenue' : (accountBalance db revenue).balance = -amount := by
    have hno {type : AccountType} (hne : type ≠ .platformRevenue) : ¬revenue.IsOf o type "USD" :=
      fun hof => hne (hof.accountType.symm.trans hrof.accountType)
    rw [hbalance hrevenue hrof.referenceId,
      hbooked.contribution_other hrows hrevenue (hno nofun) (hno nofun),
      hcapture.contribution_debit hrows hrevenue hrof nofun, zero_add]
    rfl
  have hrow := mem_getAccountBalances.mpr ⟨revenue, hrevenue, hrof.referenceId, rfl⟩
  refine ⟨hcapture.stored.2, hholding, ⟨_, hrow, hrof.accountType, hrof.currency, hrevenue'⟩,
    fun hmoved => ?_⟩
  have heq := hrevenue'.symm.trans ((hmoved _ hrow).2 hrof.accountType)
  exact (neg_lt_self hcapture.stored.2).ne heq

theorem capture_lowers_revenue_usd : ∃ db, Run.run step {} (deliveredTwice "USD" .orderConfirmed) =
    some db ∧ db.AuthorizedFor ⟨0, 0⟩ "USD" 20 ∧ db.paymentState ⟨0, 0⟩ = .captured ∧
    ∃ b ∈ getAccountBalances ⟨0, 0⟩ db, b.accountType = .platformRevenue ∧ b.currency = "USD" ∧
      b.balance = -20 := by
  have hrun : (Run.run step {} (deliveredTwice "USD" .orderConfirmed)).any (fun db =>
      db.AuthorizedFor ⟨0, 0⟩ "USD" 20 ∧ db.paymentState ⟨0, 0⟩ = .captured ∧
      ∀ e ∈ db.bookings ⟨0, 0⟩ .capture, db.currencyOf e = some "USD") := by decide +kernel
  obtain ⟨db, hdb, hall⟩ := (Option.any_eq_true ..).mp hrun
  obtain ⟨hauth, hstate, hsame⟩ := of_decide_eq_true hall
  exact ⟨db, hdb, hauth, hstate, (capture_lowers_revenue hdb hauth hstate hsame).2.2.1⟩

/-- An authorization of 20 USD is captured, and the view reports a revenue of -20. -/
theorem revenue_after_capture : ∃ db, Run.run step {} (deliveredTwice "USD" .orderConfirmed) =
    some db ∧ db.AuthorizedFor ⟨0, 0⟩ "USD" 20 ∧ db.paymentState ⟨0, 0⟩ = .captured ∧
    (∀ e ∈ db.bookings ⟨0, 0⟩ .capture, db.currencyOf e = some "USD") ∧
    ¬MovedToRevenue db ⟨0, 0⟩ 20 := by
  have hrun : (Run.run step {} (deliveredTwice "USD" .orderConfirmed)).any (fun db =>
      db.AuthorizedFor ⟨0, 0⟩ "USD" 20 ∧ db.paymentState ⟨0, 0⟩ = .captured ∧
      (∀ e ∈ db.bookings ⟨0, 0⟩ .capture, db.currencyOf e = some "USD") ∧
      ¬MovedToRevenue db ⟨0, 0⟩ 20) := by decide +kernel
  obtain ⟨db, hdb, hall⟩ := (Option.any_eq_true ..).mp hrun
  exact ⟨db, hdb, of_decide_eq_true hall⟩

/-- Captures and voids are booked in the currency of the authorization just when that is the
    default currency, or when there are none. -/
theorem currency_kept_iff [SerdeJson] {as : List Handling} (h : Run.run step {} as = some db)
    {currency : String} {amount : Decimal} (hauth : db.AuthorizedFor o currency amount) :
    (∀ type ∈ [TransactionType.capture, .void], ∀ e ∈ db.bookings o type,
      db.currencyOf e = some currency) ↔
    currency = "USD" ∨ (db.paymentState o ≠ .captured ∧ db.paymentState o ≠ .voided) := by
  have hinv := bookInv_run h
  constructor
  · intro hkept
    rw [or_iff_not_imp_right, not_and_or, not_not, not_not]
    rintro (hstate | hstate)
    · obtain ⟨a, c, -, -, -, hbookings, -, hcapture⟩ := hinv.captured hauth hstate
      obtain ⟨e, he⟩ := hcapture.ne_nil
      have hc := hkept .capture (by simp) e (hbookings ▸ he)
      rw [hcapture.currencyOf e he] at hc
      exact (Option.some.inj hc).symm
    · obtain ⟨a, v, -, -, -, hbookings, -, hvoid⟩ := hinv.voided hauth hstate
      obtain ⟨e, he⟩ := hvoid.ne_nil
      have hc := hkept .void (by simp) e (hbookings ▸ he)
      rw [hvoid.currencyOf e he] at hc
      exact (Option.some.inj hc).symm
  · intro hwhen type htype e he
    obtain ⟨t, ht, he⟩ := List.mem_flatMap.mp he
    obtain ⟨ht, hkind⟩ := List.mem_filter.mp ht
    simp only [decide_eq_true_eq] at hkind
    have hbooks := hinv.books_state o
    generalize db.txsOf o = txs at hbooks ht
    generalize db.paymentState o = state at hbooks hwhen
    cases hbooks with
    | new => exact nomatch ht
    | authorized ha =>
      obtain rfl := List.mem_singleton.mp ht
      rw [← hkind, (Prod.mk.inj ha).1] at htype
      simp at htype
    | captured ha hc hbooked hcapture =>
      rcases List.mem_cons.mp ht with rfl | ht
      · rw [← hkind, (Prod.mk.inj ha).1] at htype
        simp at htype
      · obtain rfl := List.mem_singleton.mp ht
        rw [hcapture.currencyOf e he, hwhen.resolve_right fun hno => hno.1 rfl]
    | voided ha hv hbooked hvoid =>
      rcases List.mem_cons.mp ht with rfl | ht
      · rw [← hkind, (Prod.mk.inj ha).1] at htype
        simp at htype
      · obtain rfl := List.mem_singleton.mp ht
        rw [hvoid.currencyOf e he, hwhen.resolve_right fun hno => hno.2 rfl]

theorem currency_kept_usd : ∃ db, Run.run step {} (deliveredTwice "USD" .orderConfirmed) =
    some db ∧ db.paymentState ⟨0, 0⟩ = .captured ∧
    ∀ type ∈ [TransactionType.capture, .void], ∀ e ∈ db.bookings ⟨0, 0⟩ type,
      db.currencyOf e = some "USD" := by
  have hrun : (Run.run step {} (deliveredTwice "USD" .orderConfirmed)).any (fun db =>
      db.AuthorizedFor ⟨0, 0⟩ "USD" 20 ∧ db.paymentState ⟨0, 0⟩ = .captured) := by decide +kernel
  obtain ⟨db, hdb, hboth⟩ := (Option.any_eq_true ..).mp hrun
  obtain ⟨hauth, hstate⟩ := of_decide_eq_true hboth
  exact ⟨db, hdb, hstate, (currency_kept_iff hdb hauth).mpr (.inl rfl)⟩

/-- An authorization of 20 KRW is captured in USD. -/
theorem krw_captured_in_usd : ∃ db, Run.run step {} (deliveredTwice "KRW" .orderConfirmed) =
    some db ∧ db.AuthorizedFor ⟨0, 0⟩ "KRW" 20 ∧
    ¬∀ type ∈ [TransactionType.capture, .void], ∀ e ∈ db.bookings ⟨0, 0⟩ type,
      db.currencyOf e = some "KRW" := by
  have hrun : (Run.run step {} (deliveredTwice "KRW" .orderConfirmed)).any (fun db =>
      db.AuthorizedFor ⟨0, 0⟩ "KRW" 20 ∧
      ¬∀ type ∈ [TransactionType.capture, .void], ∀ e ∈ db.bookings ⟨0, 0⟩ type,
        db.currencyOf e = some "KRW") := by decide +kernel
  obtain ⟨db, hdb, hall⟩ := (Option.any_eq_true ..).mp hrun
  exact ⟨db, hdb, of_decide_eq_true hall⟩

end Reports

end Koupang.Payment
