import Mathlib.Algebra.Order.Round
import Koupang.Model.Shared

/-!
# Spec lemmas of the shared functions

Columns of money, `insert_outbox_event` and `with_transaction`, which every service
uses.
-/

namespace Koupang

/-- The event that an outbox row carries is of type `t` and about order `o`. -/
structure IsEvent (ins : OutboxInsert) (topic : Topic) (o : Uuid) (t : EventType) : Prop where
  eventType : ins.envelope.eventType = t
  aggregateId : ins.envelope.metadata.aggregateId = o
  orderId : ins.envelope.payload.orderId = some o
  topic : ins.topic = topic

theorem payloadOrderId_ok {env : EventEnvelope} {o : Uuid} :
    env.payloadOrderId = .ok o ↔ env.payload.orderId = some o := by
  unfold EventEnvelope.payloadOrderId
  cases env.payload.orderId <;> simp

/-! ## `NUMERIC(19, 4)` -/

/-- Storing an amount is rounding it, in units of 0.0001. -/
theorem roundNumeric_eq_round {d : Decimal} (hd : 0 ≤ d) :
    roundNumeric d = (round (d * 10000) : ℚ) / 10000 := by
  rw [roundNumeric, if_pos hd, round_eq]

theorem numeric19_4_ok {d r : Decimal} (h : numeric19_4 d = .ok r) : r = roundNumeric d := by
  unfold numeric19_4 at h
  dsimp only at h
  split at h
  · cases h
    rfl
  · cases h

/-! ## `with_transaction` -/

/-- The closure that `with_transaction` has run. -/
theorem withTransaction_run {α σ : Type} {x : Tx AppError σ α} {db db' : σ} {a : α}
    (h : withTransaction x db = .ok (a, db')) :
    ∃ s, x (Tx.begin db) = .ok a s ∧ db' = if s.aborted then s.pool else s.db := by
  unfold withTransaction Tx.attempt at h
  cases hrun : x (Tx.begin db) with
  | error e s =>
    rw [hrun] at h
    cases h
  | ok b s =>
    rw [hrun] at h
    dsimp only at h
    cases hab : s.aborted with
    | true =>
      rw [hab] at h
      cases h
      exact ⟨s, rfl, by rw [if_pos hab]⟩
    | false =>
      rw [hab] at h
      cases h
      exact ⟨s, rfl, by rw [if_neg (by simp [hab])]⟩

/-- A closure that keeps the pool: `with_transaction` commits it or changes nothing. -/
theorem withTransaction_ok {α σ : Type} {x : Tx AppError σ α} (hx : Tx.KeepsPool x)
    {db db' : σ} {a : α} (h : withTransaction x db = .ok (a, db')) :
    Tx.attempt x db = .committed a db' ∨ db' = db := by
  unfold withTransaction at h
  split at h
  · rename_i b u hatt
    cases h
    exact .inl hatt
  · rename_i b u hatt
    cases h
    rcases Tx.attempt_db_eq hx db with ⟨c, hc⟩ | hdb
    · rw [hatt] at hc
      exact nomatch hc
    · rw [hatt] at hdb
      exact .inr hdb
  · exact nomatch h

/-- What the closure keeps is kept, whether it is committed or rolled back. -/
theorem withTransaction_keeps {α σ : Type} {P : σ → Prop} {x : Tx AppError σ α}
    (hpool : Tx.KeepsPool x) (hx : Tx.Keeps P x) {db db' : σ} {a : α}
    (h : withTransaction x db = .ok (a, db')) (hdb : P db) : P db' := by
  rcases withTransaction_ok hpool h with hcommitted | rfl
  · obtain ⟨s, hs, -, rfl⟩ := Tx.attempt_eq_committed.mp hcommitted
    exact hx _ _ _ hs hdb
  · exact hdb

/-! ### Transactions of one statement -/

section Statement

variable {α τ : Type} {onError : String → AppError} {db db' : τ}

theorem withTransaction_statement {f : τ → Except String (α × τ)} {a : α}
    (h : withTransaction (Tx.statement onError f) db = .ok (a, db')) : f db = .ok (a, db') := by
  obtain ⟨s, hs, rfl⟩ := withTransaction_run h
  obtain ⟨-, db', hf, rfl⟩ := Tx.statement_ok.mp hs
  exact hf

/-- A statement whose transaction fails when it has affected no row. -/
theorem withTransaction_affected {f : τ → Except String (Nat × τ)} {e : AppError} {u : Unit}
    (h : withTransaction (do
      let rowsAffected ← Tx.statement onError f
      if rowsAffected = 0 then throw e) db = .ok (u, db')) :
    ∃ rowsAffected, f db = .ok (rowsAffected, db') ∧ rowsAffected ≠ 0 := by
  obtain ⟨s, hs, rfl⟩ := withTransaction_run h
  obtain ⟨rowsAffected, t, ht, hrest⟩ := Tx.bind_ok.mp hs
  obtain ⟨-, db', hf, rfl⟩ := Tx.statement_ok.mp ht
  by_cases hzero : rowsAffected = 0
  · rw [if_pos hzero] at hrest
    exact absurd hrest Tx.throw_ok
  · rw [if_neg hzero] at hrest
    obtain ⟨-, rfl⟩ := Tx.pure_ok.mp hrest
    exact ⟨rowsAffected, hf, hzero⟩

theorem withTransaction_of_affected {f : τ → Except String (Nat × τ)} {e : AppError}
    {rowsAffected : Nat} (h : f db = .ok (rowsAffected, db')) (haffected : rowsAffected ≠ 0) :
    withTransaction (do
      let rowsAffected ← Tx.statement onError f
      if rowsAffected = 0 then throw e) db = .ok ((), db') := by
  have hstatement : Tx.statement onError f (Tx.begin db) =
      .ok rowsAffected { Tx.begin db with db := db' } :=
    Tx.statement_ok.mpr ⟨Tx.begin_aborted db, db', h, rfl⟩
  have hcommitted : Tx.attempt (do
      let rowsAffected ← Tx.statement onError f
      if rowsAffected = 0 then throw e) db = .committed () db' :=
    Tx.attempt_eq_committed.mpr ⟨_, Tx.bind_ok.mpr ⟨rowsAffected, _, hstatement, by
      rw [if_neg haffected]
      rfl⟩, rfl, rfl⟩
  unfold withTransaction
  rw [hcommitted]

end Statement

/-! ## `insert_outbox_event` -/

variable {σ : Type} [HasOutbox σ] [SerdeJson]

/-- An outbox insert succeeds exactly when the payload fits. -/
theorem insertOutboxEvent_ok {ins : OutboxInsert} {s t : TxState σ} {u : Unit} :
    insertOutboxEvent ins s = .ok u t ↔
      SerdeJson.payloadBytes ins.envelope ≤ maxPayloadBytes ∧ s.aborted = false ∧
        t = { s with db := (insertOutboxRow ins s.db).2 } := by
  unfold insertOutboxEvent
  by_cases hsize : SerdeJson.payloadBytes ins.envelope ≤ maxPayloadBytes
  · simp [Nat.not_lt.mpr hsize, Tx.statement_ok, hsize, insertOutboxRow]
  · simp [Nat.lt_of_not_le hsize, Tx.bind_ok, Tx.throw_ok, hsize]

@[simp] theorem keepsPool_insertOutboxEvent (ins : OutboxInsert) :
    Tx.KeepsPool (insertOutboxEvent ins : Tx AppError σ Unit) := by
  unfold insertOutboxEvent
  dsimp only
  split
  · exact Tx.keepsPool_bind (Tx.keepsPool_throw _) fun _ => Tx.keepsPool_statement _ _
  · exact Tx.keepsPool_statement _ _

end Koupang
