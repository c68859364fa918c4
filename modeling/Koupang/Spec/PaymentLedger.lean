import Koupang.ForStd.Run
import Koupang.Spec.PaymentCorrect

/-!
# The payment state machine

The state of a payment is not stored: it is derived from the newest posted
ledger transaction. Over every sequence of handlings the ledger of an order has
one of four shapes (`LedgerShape`), and the derived state is the shape's.

## Key results

- `paymentState_eq`: the derived state is that of the shape
- `ledgerInv_effect`: an effect keeps the invariant and moves along the state machine
- `payment_state_machine`: the ledger and its state, over every run
-/

namespace Koupang.Payment

open LedgerRepo

/-- The ledger transactions of an order, oldest first. -/
def PaymentDb.txsOf (db : PaymentDb) (o : Uuid) : List LedgerTransactionEntity :=
  db.ledgerTransactions.rows.filter (·.orderId = o)

/-- Type and status of a ledger transaction. -/
abbrev kindOf (t : LedgerTransactionEntity) : TransactionType × TransactionStatus :=
  (t.transactionType, t.status)

/-- The ledgers an order can have, with the state each of them means. -/
inductive LedgerShape : List (TransactionType × TransactionStatus) → PaymentState → Prop
  | new : LedgerShape [] .new
  | authorized : LedgerShape [(.authorization, .posted)] .authorized
  | captured : LedgerShape [(.authorization, .posted), (.capture, .posted)] .captured
  | voided : LedgerShape [(.authorization, .discarded), (.void, .posted)] .voided

/-- The moves of the payment state machine. -/
inductive PaymentMove : PaymentState → PaymentState → Prop
  | authorize : PaymentMove .new .authorized
  | capture : PaymentMove .authorized .captured
  | void : PaymentMove .authorized .voided

/-- What handling an event does to the state of the payment, and the event it emits. -/
inductive StateEffect : EventType → PaymentState → PaymentState → EventType → Prop
  | failed {t : EventType} {state : PaymentState} (h : t = .inventoryReserved ∨
      t = .orderConfirmed ∨ t = .paymentCaptureRetryRequested) :
    StateEffect t state state .paymentFailed
  | retried {t : EventType} {state : PaymentState}
    (h : t = .orderConfirmed ∨ t = .paymentCaptureRetryRequested) :
    StateEffect t state state .paymentCaptureRetryRequested
  | authorized : StateEffect .inventoryReserved .new .authorized .paymentAuthorized
  | captured {t : EventType} (h : t = .orderConfirmed ∨ t = .paymentCaptureRetryRequested) :
    StateEffect t .authorized .captured .paymentCaptured
  | voided : StateEffect .orderCancelled .authorized .voided .paymentVoided

theorem StateEffect.move {t t' : EventType} {state state' : PaymentState}
    (h : StateEffect t state state' t') : state' = state ∨ PaymentMove state state' := by
  cases h with
  | failed => exact .inl rfl
  | retried => exact .inl rfl
  | authorized => exact .inr .authorize
  | captured => exact .inr .capture
  | voided => exact .inr .void

/-- What holds of the rows of the ledger, whatever orders they belong to. -/
structure LedgerRows (db : PaymentDb) : Prop where
  fresh : Fresh db
  increasing : (db.ledgerTransactions.rows.map (·.createdAt)).Pairwise (· < ·)
  past : ∀ t ∈ db.ledgerTransactions.rows, t.createdAt ≤ db.now
  /-- an authorization can be found again: it has a reference and entries -/
  authorizations : ∀ t ∈ db.ledgerTransactions.rows, t.transactionType = .authorization →
    t.gatewayReference.isSome ∧ ∃ e ∈ db.ledgerEntries, e.transactionId = t.id
  amounts : ∀ e ∈ db.ledgerEntries, Stored e.amount
  voidKeys : ∀ t ∈ db.ledgerTransactions.rows, ∀ o, t.idempotencyKey = .void o →
    t.orderId = o ∧ t.transactionType = .void
  /-- the column `metadata` is never written -/
  metadata : ∀ t ∈ db.ledgerTransactions.rows, t.metadataCurrency = none

structure LedgerInv (db : PaymentDb) : Prop extends LedgerRows db where
  shape : ∀ o, ∃ state, LedgerShape ((db.txsOf o).map kindOf) state

/-! ## The derived state -/

/-- Sorting a list of increasing times in descending order reverses it. -/
theorem insertionSort_eq_reverse {l : List LedgerTransactionEntity}
    (h : (l.map (·.createdAt)).Pairwise (· < ·)) :
    l.insertionSort (fun t u => u.createdAt ≤ t.createdAt) = l.reverse := by
  induction l with
  | nil => rfl
  | cons a l ih =>
    rw [List.map_cons, List.pairwise_cons] at h
    rw [List.insertionSort_cons, ih h.2, List.reverse_cons]
    -- `a` is older than everything in `l`, so it goes to the end
    have hlast : ∀ b ∈ l.reverse, ¬ b.createdAt ≤ a.createdAt := fun b hb =>
      Nat.not_le.mpr (h.1 _ (List.mem_map_of_mem (List.mem_reverse.mp hb)))
    clear h ih
    -- induction on the newer ones that `a` passes
    generalize l.reverse = older at hlast
    induction older with
    | nil => rfl
    | cons b bs ihb =>
      rw [List.orderedInsert_cons, if_neg (hlast b (List.mem_cons_self ..)),
        ihb fun c hc => hlast c (List.mem_cons_of_mem _ hc), List.cons_append]

theorem listTransactionsByOrder_eq {db : PaymentDb} (h : LedgerRows db) (o : Uuid) :
    listTransactionsByOrder o db = (db.txsOf o).reverse :=
  insertionSort_eq_reverse
    (h.increasing.sublist (List.Sublist.map _ (List.filter_sublist ..)))

/-- The rows of a ledger of one of the four shapes. -/
theorem LedgerShape.rows {txs : List LedgerTransactionEntity} {state : PaymentState}
    (h : LedgerShape (txs.map kindOf) state) :
    (txs = [] ∧ state = .new) ∨
    (∃ a, txs = [a] ∧ kindOf a = (.authorization, .posted) ∧ state = .authorized) ∨
    (∃ a c, txs = [a, c] ∧ kindOf a = (.authorization, .posted) ∧
      kindOf c = (.capture, .posted) ∧ state = .captured) ∨
    (∃ a v, txs = [a, v] ∧ kindOf a = (.authorization, .discarded) ∧
      kindOf v = (.void, .posted) ∧ state = .voided) := by
  generalize hk : txs.map kindOf = kinds at h
  cases h with
  | new => exact .inl ⟨List.map_eq_nil_iff.mp hk, rfl⟩
  | authorized =>
    obtain ⟨a, txs, rfl, ha, htl⟩ := List.map_eq_cons_iff.mp hk
    cases List.map_eq_nil_iff.mp htl
    exact .inr (.inl ⟨a, rfl, ha, rfl⟩)
  | captured =>
    obtain ⟨a, txs, rfl, ha, htl⟩ := List.map_eq_cons_iff.mp hk
    obtain ⟨c, txs, rfl, hc, htl⟩ := List.map_eq_cons_iff.mp htl
    cases List.map_eq_nil_iff.mp htl
    exact .inr (.inr (.inl ⟨a, c, rfl, ha, hc, rfl⟩))
  | voided =>
    obtain ⟨a, txs, rfl, ha, htl⟩ := List.map_eq_cons_iff.mp hk
    obtain ⟨v, txs, rfl, hv, htl⟩ := List.map_eq_cons_iff.mp htl
    cases List.map_eq_nil_iff.mp htl
    exact .inr (.inr (.inr ⟨a, v, rfl, ha, hv, rfl⟩))

/-- The state derived from a ledger is the state that its shape means. -/
theorem derivePaymentState_eq {txs : List LedgerTransactionEntity} {state : PaymentState}
    (h : LedgerShape (txs.map kindOf) state) : derivePaymentState txs.reverse = state := by
  rcases h.rows with ⟨rfl, rfl⟩ | ⟨a, rfl, ha, rfl⟩ | ⟨a, c, rfl, ha, hc, rfl⟩ |
    ⟨a, v, rfl, ha, hv, rfl⟩
  · rfl
  · simp_all [derivePaymentState]
  · simp_all [derivePaymentState]
  · -- the discarded authorization is passed over
    simp_all [derivePaymentState]

theorem paymentState_eq {db : PaymentDb} (h : LedgerRows db) {o : Uuid} {state : PaymentState}
    (hshape : LedgerShape ((db.txsOf o).map kindOf) state) : db.paymentState o = state := by
  rw [PaymentDb.paymentState, listTransactionsByOrder_eq h]
  exact derivePaymentState_eq hshape

/-- The ledger of an order has the shape that its state means. -/
theorem LedgerInv.shape_state {db : PaymentDb} (h : LedgerInv db) (o : Uuid) :
    LedgerShape ((db.txsOf o).map kindOf) (db.paymentState o) := by
  obtain ⟨state, hshape⟩ := h.shape o
  rwa [paymentState_eq h.toLedgerRows hshape]

/-- The state of an order depends on its transactions only. -/
theorem LedgerInv.paymentState_congr {db db' : PaymentDb} (h : LedgerInv db) (h' : LedgerInv db')
    {o : Uuid} (htxs : db'.txsOf o = db.txsOf o) : db'.paymentState o = db.paymentState o := by
  refine paymentState_eq h'.toLedgerRows ?_
  rw [htxs]
  exact h.shape_state o

/-! ## Invariant -/

theorem ledgerInv_empty : LedgerInv {} where
  fresh := ⟨by simp, by simp⟩
  increasing := .nil
  past := by simp
  shape _ := ⟨.new, .new⟩
  authorizations := by simp
  amounts := by simp
  voidKeys := by simp
  metadata := by simp

theorem LedgerInv.startTransaction {db : PaymentDb} (h : LedgerInv db) (tick : Nat) :
    LedgerInv (db.startTransaction tick) ∧
      ∀ t ∈ db.ledgerTransactions.rows, t.createdAt < (db.startTransaction tick).now := by
  have hnow : (db.startTransaction tick).now = db.now + tick + 1 := rfl
  refine ⟨{ fresh := ⟨h.fresh.accounts, h.fresh.ledgerTransactions⟩
            increasing := h.increasing, past := ?_, shape := h.shape
            authorizations := h.authorizations, amounts := h.amounts, voidKeys := h.voidKeys
            metadata := h.metadata }, ?_⟩
  · intro t ht
    have := h.past t ht
    omega
  · intro t ht
    have := h.past t ht
    omega

theorem LedgerInv.emits {db db' : PaymentDb} {o : Uuid} {t : EventType} (h : LedgerInv db)
    (he : Emits db db' o t) : LedgerInv db' := by
  rw [he.frame]
  exact { fresh := ⟨fun a ha => Nat.lt_succ_of_lt (h.fresh.accounts a ha),
            fun t ht => Nat.lt_succ_of_lt (h.fresh.ledgerTransactions t ht)⟩
          increasing := h.increasing, past := h.past, shape := h.shape
          authorizations := h.authorizations, amounts := h.amounts, voidKeys := h.voidKeys
          metadata := h.metadata }

theorem Emits.txsOf {db db' : PaymentDb} {o : Uuid} {t : EventType} (h : Emits db db' o t)
    (o' : Uuid) : db'.txsOf o' = db.txsOf o' := by
  rw [h.frame]
  rfl

section Records

variable {db db' : PaymentDb} {o : Uuid} {type : TransactionType} {key : IdempotencyKey}
  {gatewayRef : Option String} {t : EventType}

/-- A recording adds one posted transaction to the order's ledger. -/
theorem Records.txsOf_self (h : Records db db' o type key gatewayRef t) :
    (db'.txsOf o).map kindOf = (db.txsOf o).map kindOf ++ [(type, .posted)] := by
  obtain ⟨row, hrows, -, ho, htype, hstatus, -⟩ := h.row
  simp [PaymentDb.txsOf, hrows, ho, htype, hstatus, kindOf]

theorem Records.txsOf_other (h : Records db db' o type key gatewayRef t) {o' : Uuid}
    (ho' : o' ≠ o) : db'.txsOf o' = db.txsOf o' := by
  obtain ⟨row, hrows, -, ho, -⟩ := h.row
  simp [PaymentDb.txsOf, hrows, ho, Ne.symm ho']

theorem LedgerRows.records (hrows : LedgerRows db)
    (hnow : ∀ t ∈ db.ledgerTransactions.rows, t.createdAt < db.now)
    (h : Records db db' o type key gatewayRef t)
    (hsome : type = .authorization → gatewayRef.isSome)
    (hkey : ∀ o', key = .void o' → o = o' ∧ type = .void) : LedgerRows db' := by
  obtain ⟨row, hrow, hcreated, ho, htype, -, hrkey, href, hmeta, new, hnew, hne, hall⟩ := h.row
  have hmem : ∀ tx, tx ∈ db'.ledgerTransactions.rows ↔
      tx ∈ db.ledgerTransactions.rows ∨ tx = row := by
    intro tx
    rw [hrow, List.mem_append, List.mem_singleton]
  refine ⟨h.fresh hrows.fresh, ?_, ?_, ?_, ?_, ?_, ?_⟩
  · -- the new row is younger than every other
    rw [hrow, List.map_append, List.pairwise_append]
    refine ⟨hrows.increasing, by simp, ?_⟩
    intro a ha b hb
    obtain ⟨tx, htx, rfl⟩ := List.mem_map.mp ha
    rw [List.map_singleton, List.mem_singleton] at hb
    rw [hb, hcreated]
    exact hnow tx htx
  · intro tx htx
    rw [h.now]
    rcases (hmem tx).mp htx with htx | rfl
    · exact hrows.past tx htx
    · exact hcreated.le
  · intro tx htx hauth
    rcases (hmem tx).mp htx with htx | rfl
    · obtain ⟨href', e, he, hid⟩ := hrows.authorizations tx htx hauth
      exact ⟨href', e, by rw [hnew]; exact List.mem_append_left _ he, hid⟩
    · obtain ⟨e, he⟩ := List.exists_mem_of_ne_nil new hne
      refine ⟨href.trans (hsome (htype ▸ hauth)), e, ?_, (hall e he).1⟩
      rw [hnew]
      exact List.mem_append_right _ he
  · intro e he
    rw [hnew, List.mem_append] at he
    exact he.elim (hrows.amounts e) fun he => (hall e he).2
  · intro tx htx o' hk
    rcases (hmem tx).mp htx with htx | rfl
    · exact hrows.voidKeys tx htx o' hk
    · rw [ho, htype]
      exact hkey o' (hrkey ▸ hk)
  · intro tx htx
    rcases (hmem tx).mp htx with htx | rfl
    · exact hrows.metadata tx htx
    · exact hmeta

end Records

section Discard

variable {db : PaymentDb} {auth : LedgerTransactionEntity}

/-- Discarding a transaction changes its status and nothing else. -/
theorem discard_split (hauth : auth ∈ db.ledgerTransactions.rows) :
    ∃ pre post, db.ledgerTransactions.rows = pre ++ auth :: post ∧
      (db.discard auth.id).ledgerTransactions.rows =
        pre ++ { auth with status := .discarded } :: post := by
  have hfind := (db.ledgerTransactions.find?_eq_some_iff auth.id auth).mpr ⟨hauth, rfl⟩
  obtain ⟨pre, post, hrows, hmodify⟩ := db.ledgerTransactions.exists_split hfind
  exact ⟨pre, post, hrows, hmodify (fun t => { t with status := .discarded }) fun _ => rfl⟩

theorem discard_txsOf_other (hauth : auth ∈ db.ledgerTransactions.rows) {o : Uuid}
    (ho : auth.orderId ≠ o) : (db.discard auth.id).txsOf o = db.txsOf o := by
  obtain ⟨pre, post, hrows, hrows'⟩ := discard_split hauth
  simp [PaymentDb.txsOf, hrows, hrows', ho]

theorem discard_txsOf_self {o : Uuid} (htxs : db.txsOf o = [auth]) :
    (db.discard auth.id).txsOf o = [{ auth with status := .discarded }] := by
  have hmem : auth ∈ db.txsOf o := by simp [htxs]
  obtain ⟨hauth, ho⟩ := List.mem_filter.mp hmem
  obtain ⟨pre, post, hrows, hrows'⟩ := discard_split hauth
  simp only [decide_eq_true_eq] at ho
  simp only [PaymentDb.txsOf, hrows, List.filter_append, List.filter_cons, ho, decide_true,
    if_true] at htxs
  simp only [PaymentDb.txsOf, hrows', List.filter_append, List.filter_cons, ho, decide_true,
    if_true]
  -- no other row is of the order
  have hlen := congrArg List.length htxs
  simp only [List.length_append, List.length_cons, List.length_nil] at hlen
  rw [List.length_eq_zero_iff.mp (show (pre.filter (·.orderId = o)).length = 0 by omega),
    List.length_eq_zero_iff.mp (show (post.filter (·.orderId = o)).length = 0 by omega)]
  rfl

theorem LedgerRows.discard (h : LedgerRows db) (hauth : auth ∈ db.ledgerTransactions.rows) :
    LedgerRows (db.discard auth.id) ∧
      ∀ t ∈ (db.discard auth.id).ledgerTransactions.rows, ∃ u ∈ db.ledgerTransactions.rows,
        t.createdAt = u.createdAt := by
  obtain ⟨pre, post, hrows, hrows'⟩ := discard_split hauth
  -- a row of the new ledger is one of the old, up to its status
  have hmem : ∀ t ∈ (db.discard auth.id).ledgerTransactions.rows,
      ∃ u ∈ db.ledgerTransactions.rows, ∃ status, t = { u with status } := by
    intro t ht
    rw [hrows', List.mem_append, List.mem_cons] at ht
    rcases ht with ht | rfl | ht
    · exact ⟨t, by rw [hrows]; exact List.mem_append_left _ ht, t.status, rfl⟩
    · exact ⟨auth, hauth, _, rfl⟩
    · exact ⟨t, by rw [hrows]; exact List.mem_append_right _ (List.mem_cons_of_mem _ ht),
        t.status, rfl⟩
  refine ⟨⟨⟨h.fresh.accounts, ?_⟩, ?_, ?_, ?_, h.amounts, ?_, ?_⟩, ?_⟩
  · intro t ht
    obtain ⟨u, hu, _, rfl⟩ := hmem t ht
    exact h.fresh.ledgerTransactions u hu
  · have := h.increasing
    rw [hrows] at this
    rw [hrows']
    simpa using this
  · intro t ht
    obtain ⟨u, hu, _, rfl⟩ := hmem t ht
    exact h.past u hu
  · intro t ht
    obtain ⟨u, hu, _, rfl⟩ := hmem t ht
    exact h.authorizations u hu
  · intro t ht
    obtain ⟨u, hu, _, rfl⟩ := hmem t ht
    exact h.voidKeys u hu
  · intro t ht
    obtain ⟨u, hu, _, rfl⟩ := hmem t ht
    exact h.metadata u hu
  · intro t ht
    obtain ⟨u, hu, _, rfl⟩ := hmem t ht
    exact ⟨u, hu, rfl⟩

end Discard

/-- The invariant from the rows and the shape of the one order that has changed. -/
theorem LedgerRows.toInv {db db' : PaymentDb} {o : Uuid} {state : PaymentState}
    (hrows : LedgerRows db') (hinv : ∀ o, ∃ state, LedgerShape ((db.txsOf o).map kindOf) state)
    (hshape : LedgerShape ((db'.txsOf o).map kindOf) state)
    (hother : ∀ o', o' ≠ o → db'.txsOf o' = db.txsOf o') : LedgerInv db' := by
  refine { hrows with shape := fun o' => ?_ }
  by_cases ho : o' = o
  · exact ⟨state, ho ▸ hshape⟩
  · rw [hother o' ho]
    exact hinv o'

/-- An order whose state is Authorized has a single transaction. -/
theorem LedgerShape.rows_of_authorized {txs : List LedgerTransactionEntity}
    (h : LedgerShape (txs.map kindOf) .authorized) :
    ∃ a, txs = [a] ∧ kindOf a = (.authorization, .posted) := by
  rcases h.rows with ⟨-, h⟩ | ⟨a, htxs, ha, -⟩ | ⟨a, c, -, -, -, h⟩ | ⟨a, v, -, -, -, h⟩
  · exact nomatch h
  · exact ⟨a, htxs, ha⟩
  · exact nomatch h
  · exact nomatch h

/-- A ledger whose state is New or Failed is empty. -/
theorem LedgerInv.txsOf_eq_nil {db : PaymentDb} (h : LedgerInv db) {o : Uuid}
    (hstate : db.paymentState o = .new ∨ db.paymentState o = .failed) :
    db.txsOf o = [] ∧ db.paymentState o = .new := by
  rcases (h.shape_state o).rows with ⟨htxs, hnew⟩ | ⟨_, -, -, h⟩ | ⟨_, _, -, -, -, h⟩ |
    ⟨_, _, -, -, -, h⟩
  · exact ⟨htxs, hnew⟩
  all_goals
    rw [h] at hstate
    exact absurd hstate (by decide)

/-- An effect keeps the invariant, moves the order along the state machine and emits one
    event; every other order's ledger is untouched. -/
theorem ledgerInv_effect {db db' : PaymentDb} {o : Uuid} {t : EventType} (hinv : LedgerInv db)
    (hnow : ∀ t ∈ db.ledgerTransactions.rows, t.createdAt < db.now) (h : Effect db db' o t) :
    LedgerInv db' ∧ (∀ o', o' ≠ o → db'.txsOf o' = db.txsOf o') ∧
      ∃ t' ins, db'.outbox = db.outbox ++ [ins] ∧ IsEvent ins .paymentsEvents o t' ∧
        StateEffect t (db.paymentState o) (db'.paymentState o) t' := by
  have hshape := hinv.shape_state o
  cases h with
  | failed ht h =>
    obtain ⟨ins, hout, hevent⟩ := h.outbox
    refine ⟨hinv.emits h, fun o' _ => h.txsOf o', _, ins, hout, hevent, ?_⟩
    rw [paymentState_eq (hinv.emits h).toLedgerRows (by rwa [h.txsOf])]
    exact .failed ht
  | retried ht h =>
    obtain ⟨ins, hout, hevent⟩ := h.outbox
    refine ⟨hinv.emits h, fun o' _ => h.txsOf o', _, ins, hout, hevent, ?_⟩
    rw [paymentState_eq (hinv.emits h).toLedgerRows (by rwa [h.txsOf])]
    exact .retried ht
  | authorized ht hstate ref h =>
    have hrows := hinv.toLedgerRows.records hnow h (fun _ => rfl) nofun
    obtain ⟨ins, hout, hevent⟩ := h.outbox
    have hnew := hinv.txsOf_eq_nil hstate
    have hshape' : LedgerShape ((db'.txsOf o).map kindOf) .authorized := by
      rw [h.txsOf_self, hnew.1]
      exact .authorized
    refine ⟨hrows.toInv hinv.shape hshape' fun o' ho' => h.txsOf_other ho',
      fun o' ho' => h.txsOf_other ho', _, ins, hout, hevent, ?_⟩
    rw [paymentState_eq hrows hshape', hnew.2, ht]
    exact .authorized
  | captured ht hstate ref h =>
    -- the authorization stays posted under the capture
    have hrows := hinv.toLedgerRows.records hnow h (fun _ => rfl) nofun
    obtain ⟨ins, hout, hevent⟩ := h.outbox
    rw [hstate] at hshape
    obtain ⟨a, htxs, ha⟩ := hshape.rows_of_authorized
    have hshape' : LedgerShape ((db'.txsOf o).map kindOf) .captured := by
      rw [h.txsOf_self, htxs, List.map_singleton, ha]
      exact .captured
    refine ⟨hrows.toInv hinv.shape hshape' fun o' ho' => h.txsOf_other ho',
      fun o' ho' => h.txsOf_other ho', _, ins, hout, hevent, ?_⟩
    rw [paymentState_eq hrows hshape', hstate]
    exact .captured ht
  | voided ht hstate auth hauth htype hposted h =>
    obtain ⟨ins, hout, hevent⟩ := h.outbox
    rw [hstate] at hshape
    obtain ⟨a, htxs, ha⟩ := hshape.rows_of_authorized
    -- the only transaction of the order is the authorization that is voided
    rw [listTransactionsByOrder_eq hinv.toLedgerRows, htxs, List.reverse_singleton,
      List.mem_singleton] at hauth
    subst hauth
    obtain ⟨hmem, ho⟩ := List.mem_filter.mp (by simp [htxs] : auth ∈ db.txsOf o)
    simp only [decide_eq_true_eq] at ho
    obtain ⟨hdrows, hdcreated⟩ := hinv.toLedgerRows.discard hmem
    have hdnow : ∀ t ∈ (db.discard auth.id).ledgerTransactions.rows, t.createdAt < db.now := by
      intro t ht
      obtain ⟨u, hu, htu⟩ := hdcreated t ht
      exact htu ▸ hnow u hu
    -- the void is recorded in the ledger without the authorization
    have hrows := hdrows.records hdnow h nofun (by rintro o' ⟨⟩; exact ⟨rfl, rfl⟩)
    have hshape' : LedgerShape ((db'.txsOf o).map kindOf) .voided := by
      rw [h.txsOf_self, discard_txsOf_self htxs, List.map_singleton, kindOf, htype]
      exact .voided
    have hother : ∀ o', o' ≠ o → db'.txsOf o' = db.txsOf o' := fun o' ho' => by
      rw [h.txsOf_other ho', discard_txsOf_other hmem (by rw [ho]; exact ho'.symm)]
    refine ⟨hrows.toInv hinv.shape hshape' hother, hother, _, ins, hout, hevent, ?_⟩
    rw [paymentState_eq hrows hshape', hstate, ht]
    exact .voided

/-! ## Runs -/

section Service

variable [SerdeJson]

/-- One handling keeps the invariant and moves along the state machine, or stays. -/
theorem ledgerInv_step {db db' : PaymentDb} {a : Handling} (hinv : LedgerInv db)
    (h : step db a = some db') :
    LedgerInv db' ∧ ∀ o, db'.paymentState o = db.paymentState o ∨
      PaymentMove (db.paymentState o) (db'.paymentState o) := by
  cases h
  obtain ⟨hstart, hnow⟩ := hinv.startTransaction a.tick
  rcases handle_db a.gateway a.env (db.startTransaction a.tick) with heq | ⟨o, -, heffect⟩
  · -- ignored, or failed and rolled back
    rw [heq]
    exact ⟨hstart, fun o => .inl rfl⟩
  · obtain ⟨hinv', hother, _, _, -, -, heffect⟩ := ledgerInv_effect hstart hnow heffect
    refine ⟨hinv', fun o' => ?_⟩
    by_cases ho : o' = o
    · exact ho ▸ heffect.move
    · exact .inl (hinv.paymentState_congr hinv' (hother o' ho))

theorem ledgerInv_run {db : PaymentDb} {as : List Handling}
    (h : Run.run step {} as = some db) : LedgerInv db :=
  Run.run_invariant (fun _ _ _ hinv hstep => (ledgerInv_step hinv hstep).1) ledgerInv_empty h

/-- Captured and Voided are final. -/
theorem final_run {db db' : PaymentDb} {as : List Handling} {o : Uuid} (hinv : LedgerInv db)
    (hfinal : db.paymentState o = .captured ∨ db.paymentState o = .voided)
    (h : Run.run step db as = some db') : db'.paymentState o = db.paymentState o := by
  have hstep : ∀ db₁ a db₂, LedgerInv db₁ ∧ db₁.paymentState o = db.paymentState o →
      step db₁ a = some db₂ → LedgerInv db₂ ∧ db₂.paymentState o = db.paymentState o := by
    rintro db₁ a db₂ ⟨hinv₁, hstate⟩ hhandle
    obtain ⟨hinv₂, hmoves⟩ := ledgerInv_step hinv₁ hhandle
    refine ⟨hinv₂, ?_⟩
    rcases hmoves o with heq | hmove
    · exact heq.trans hstate
    · rw [hstate] at hmove
      rcases hfinal with hf | hf <;> rw [hf] at hmove <;> exact nomatch hmove
  exact (Run.run_invariant hstep ⟨hinv, rfl⟩ h).2

omit [SerdeJson] in
/-- The authorization of an order that is Authorized is found, with what a void needs. -/
theorem findPostedAuthorization_authorized {db : PaymentDb} {o : Uuid} (hinv : LedgerInv db)
    (hstate : db.paymentState o = .authorized) (operation : String) :
    ∃ tx auth, findPostedAuthorization o (PaymentState.requireAuthorized operation) db = .ok auth ∧
      db.txsOf o = [tx] ∧ tx.transactionType = .authorization ∧ auth.authTxId = tx.id ∧
      auth.currency = "USD" ∧ Stored auth.amount := by
  have hshape := hinv.shape_state o
  rw [hstate] at hshape
  obtain ⟨tx, htxs, hkind⟩ := hshape.rows_of_authorized
  obtain ⟨htype, hposted⟩ := Prod.mk.inj hkind
  obtain ⟨hmem, -⟩ := List.mem_filter.mp (by simp [htxs] : tx ∈ db.txsOf o)
  obtain ⟨href, e, he, hid⟩ := hinv.authorizations tx hmem htype
  obtain ⟨ref, href⟩ := Option.isSome_iff_exists.mp href
  -- the search from the newest on meets the authorization first, as it is alone
  have hfound : (listTransactionsByOrder o db).find? (fun t =>
      t.transactionType = .authorization && t.status = .posted) = some tx := by
    rw [listTransactionsByOrder_eq hinv.toLedgerRows, htxs]
    simp [htype, hposted]
  refine ⟨tx, _, findPostedAuthorization_ok.mpr ⟨hstate, tx, hfound, ref, href, rfl⟩, htxs, htype,
    rfl, by rw [hinv.metadata tx hmem]; rfl, ?_⟩
  -- the amount is that of the first entry, and there is one
  have he' : e ∈ listEntriesByTransaction tx.id db :=
    (List.mem_insertionSort _).mpr (List.mem_filter.mpr ⟨he, by simpa using hid⟩)
  cases hentries : listEntriesByTransaction tx.id db with
  | nil =>
    rw [hentries] at he'
    exact nomatch he'
  | cons e₁ es =>
    have he₁ : e₁ ∈ listEntriesByTransaction tx.id db := by
      rw [hentries]
      exact List.mem_cons_self ..
    exact hinv.amounts e₁ (List.mem_of_mem_filter ((List.mem_insertionSort _).mp he₁))

/-- Voiding the authorization of an order cannot fail, if the gateway agrees. -/
theorem voidPaymentOnTx_succeeds {gateway : PaymentGateway} {db : PaymentDb} {o : Uuid}
    (hinv : LedgerInv db) (hstate : db.paymentState o = .authorized)
    (hvoid : ∀ ref, gateway.void ref = .ok ()) :
    ∃ t, voidPaymentOnTx gateway o (Tx.begin db) = .ok () t ∧ t.aborted = false := by
  obtain ⟨tx, auth, hauth, htxs, htype, hid, hcurrency, hamount⟩ :=
    findPostedAuthorization_authorized hinv hstate "void"
  obtain ⟨hmem, -⟩ := List.mem_filter.mp (by simp [htxs] : tx ∈ db.txsOf o)
  obtain ⟨hdrows, -⟩ := hinv.toLedgerRows.discard hmem
  -- a void of the order would be a second transaction in its ledger
  have habsent : ∀ v ∈ (db.discard tx.id).ledgerTransactions.rows, v.idempotencyKey ≠ .void o := by
    intro v hv hkey
    obtain ⟨hvo, hvtype⟩ := hdrows.voidKeys v hv o hkey
    have hv' : v ∈ (db.discard tx.id).txsOf o := List.mem_filter.mpr ⟨hv, by simpa using hvo⟩
    rw [discard_txsOf_self htxs, List.mem_singleton] at hv'
    rw [hv'] at hvtype
    exact nomatch htype.symm.trans hvtype
  have hrecord : ∃ db', recordTransaction o auth.currency .buyer .gatewayHolding .void (.void o)
      none false auth.amount .paymentVoided (fun _ => { orderId := some o })
      { Tx.begin db with db := db.discard tx.id } = .ok () { Tx.begin db with db := db' } :=
    recordTransaction_succeeds rfl hdrows.fresh (by rw [hcurrency]; decide) habsent rfl hamount.1
      hamount.2 fun _ _ => SerdeJson.payloadBytes_short _ ⟨rfl, rfl, rfl, rfl, rfl⟩
  obtain ⟨db', hrecord⟩ := hrecord
  have htx : (db.ledgerTransactions.find? auth.authTxId).isSome := Option.isSome_of_eq_some
    ((db.ledgerTransactions.find?_eq_some_iff _ tx).mpr ⟨hmem, hid.symm⟩)
  refine ⟨{ Tx.begin db with db := db' }, ?_, rfl⟩
  simp only [voidPaymentOnTx, Tx.bind_ok, Tx.readPool_ok, Tx.ofExcept_ok]
  refine ⟨db, _, ⟨rfl, rfl⟩, auth, _, ⟨hauth, rfl⟩, ?_⟩
  simp only [hvoid, recordVoid_eq, Tx.bind_ok, updateTransactionStatus_ok]
  refine ⟨(), _, ⟨rfl, htx, rfl⟩, ?_⟩
  rw [← hrecord, hid]
  rfl

/-- OrderCancelled voids the payment of an order that is Authorized, if the gateway agrees. -/
theorem handle_orderCancelled_voids {gateway : PaymentGateway} {env : EventEnvelope}
    {db : PaymentDb} {o : Uuid} (hinv : LedgerInv db) (henv : env.eventType = .orderCancelled)
    (ho : env.payload.orderId = some o) (hstate : db.paymentState o = .authorized)
    (hvoid : ∀ ref, gateway.void ref = .ok ()) :
    ∃ db', Tx.attempt (handle gateway env) db = .committed () db' ∧
      Effect db db' o .orderCancelled := by
  obtain ⟨t, ht, hab⟩ := voidPaymentOnTx_succeeds hinv hstate hvoid
  refine ⟨t.db, Tx.attempt_eq_committed.mpr ⟨t, ?_, hab, rfl⟩, (voidPaymentOnTx_performs ht).effect⟩
  simp only [handle, henv, Tx.bind_ok, Tx.mapErr_ok, Tx.ofExcept_ok, handleOrderCancelled,
    Tx.readPool_ok, payloadOrderId_ok]
  refine ⟨o, _, ⟨ho, rfl⟩, o, _, ⟨ho, rfl⟩, db, _, ⟨rfl, rfl⟩, ?_⟩
  simp only [hstate]
  exact ht

/-- The payment state machine, over every sequence of handlings. -/
theorem payment_state_machine (as : List Handling) {db : PaymentDb}
    (h : Run.run step {} as = some db) (o : Uuid) :
    (∀ type ∈ [TransactionType.authorization, .capture, .void],
      (db.txsOf o).countP (·.transactionType = type) ≤ 1) ∧
    ¬ ((∃ c ∈ db.txsOf o, kindOf c = (.capture, .posted)) ∧
      ∃ v ∈ db.txsOf o, kindOf v = (.void, .posted)) ∧
    ({} : PaymentDb).paymentState o = .new ∧
    (∀ pre a post db₁ db₂, as = pre ++ a :: post → Run.run step {} pre = some db₁ →
      step db₁ a = some db₂ → db₂.paymentState o = db₁.paymentState o ∨
        PaymentMove (db₁.paymentState o) (db₂.paymentState o)) ∧
    (∀ pre post db₁, as = pre ++ post → Run.run step {} pre = some db₁ →
      db₁.paymentState o = .captured ∨ db₁.paymentState o = .voided →
      db.paymentState o = db₁.paymentState o) := by
  have hshape := (ledgerInv_run h).shape_state o
  refine ⟨?_, ?_, rfl, ?_, ?_⟩
  · -- in each of the four shapes no type occurs twice
    intro type htype
    rcases hshape.rows with ⟨htxs, -⟩ | ⟨a, htxs, -, -⟩ | ⟨a, c, htxs, ha, hc, -⟩ |
      ⟨a, v, htxs, ha, hv, -⟩
    · simp [htxs]
    · rw [htxs]
      exact List.countP_le_length
    · obtain ⟨ha, -⟩ := Prod.mk.inj ha
      obtain ⟨hc, -⟩ := Prod.mk.inj hc
      cases type <;> simp [htxs, ha, hc]
    · obtain ⟨ha, -⟩ := Prod.mk.inj ha
      obtain ⟨hv, -⟩ := Prod.mk.inj hv
      cases type <;> simp [htxs, ha, hv]
  · -- no shape has both
    rintro ⟨⟨c, hc, hck⟩, v, hv, hvk⟩
    have hc' := List.mem_map_of_mem (f := kindOf) hc
    have hv' := List.mem_map_of_mem (f := kindOf) hv
    rw [hck] at hc'
    rw [hvk] at hv'
    generalize (db.txsOf o).map kindOf = kinds at hshape hc' hv'
    generalize db.paymentState o = state at hshape
    cases hshape <;> revert hc' hv' <;> decide
  · intro pre a post db₁ db₂ has hpre hstep
    exact (ledgerInv_step (ledgerInv_run hpre) hstep).2 o
  · intro pre post db₁ has hpre hfinal
    rw [has, Run.run_append, hpre, Option.bind_some] at h
    exact final_run (ledgerInv_run hpre) hfinal h

end Service

/-! ## A run -/

/-- A gateway that approves everything. -/
def approving : PaymentGateway where
  authorize _ _ amount _ := .ok { gatewayReference := "ref-1", approvedAmount := amount }
  capture _ := .ok ()
  void _ := .ok ()

/-- An event about order `o` worth 20 USD, as the other services write it. -/
def sampleEnv (t : EventType) (o : Uuid) : EventEnvelope where
  metadata := { eventId := ⟨1, 0⟩, eventType := t, aggregateType := .inventory, aggregateId := o,
                sourceService := .catalog }
  payload := { orderId := some o, totalAmount := some (.decimal 20), currency := some "USD" }

/-- An order is authorized, captured, and cancelled too late. -/
def capturedRun : List Handling :=
  [⟨0, approving, sampleEnv .inventoryReserved ⟨0, 0⟩⟩,
   ⟨0, approving, sampleEnv .orderConfirmed ⟨0, 0⟩⟩,
   ⟨0, approving, sampleEnv .orderCancelled ⟨0, 0⟩⟩]

theorem payment_state_machine_captured : ∃ db, Run.run step {} capturedRun = some db ∧
    db.paymentState ⟨0, 0⟩ = .captured ∧
    (db.txsOf ⟨0, 0⟩).countP (·.transactionType = .capture) ≤ 1 := by
  have hrun : (Run.run step {} capturedRun).map (·.paymentState ⟨0, 0⟩) = some .captured := by
    decide +kernel
  obtain ⟨db, hdb, hstate⟩ := Option.map_eq_some_iff.mp hrun
  exact ⟨db, hdb, hstate, (payment_state_machine capturedRun hdb ⟨0, 0⟩).1 .capture (by decide)⟩

end Koupang.Payment
