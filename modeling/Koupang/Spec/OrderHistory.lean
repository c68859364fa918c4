import Mathlib.Data.List.Chain
import Koupang.ForStd.Run
import Koupang.Spec.OrderCorrect

/-!
# Order event discipline

Over every sequence of operations executed one after the other, the status
history of each order is a path of `transition_to`, and the events in the
outbox match it.

## Key results

- `Disciplined.append`: one operation keeps the discipline, on histories and event lists
- `orderInv_step`: the same on the tables
- `frozen_run`: nothing changes for an order that is cancelled
- `event_discipline`: all of it, over every run
-/

namespace Koupang.Order

/-- `target` follows `status` in a path of `transition_to`. -/
def Follows (status target : OrderStatus) : Prop := status.transitionTo target = .ok target

instance (status target : OrderStatus) : Decidable (Follows status target) :=
  inferInstanceAs (Decidable (_ = _))

/-- A path of `transition_to` that starts at Pending. -/
def IsStatusPath (history : List OrderStatus) : Prop :=
  (∀ s ∈ history.head?, s = .pending) ∧ history.IsChain Follows

/-! ## The discipline, on a history and the events emitted along it -/

structure Disciplined (history : List OrderStatus) (events : List EventType) : Prop where
  path : IsStatusPath history
  confirmed : events.count .orderConfirmed = if .confirmed ∈ history then 1 else 0
  settled : .confirmed ∈ history →
    history.getLast? = some .confirmed ∨ history.getLast? = some .cancelled
  cancelled_le : events.count .orderCancelled ≤ 1
  not_cancelled : history.getLast? ≠ some .cancelled → events.count .orderCancelled = 0

theorem Disciplined.nil : Disciplined [] [] :=
  ⟨⟨by simp, .nil⟩, by simp, by simp, by simp, by simp⟩

/-- The first write of a history, and the event that goes with it. -/
theorem Disciplined.created : Disciplined [.pending] [.orderCreated] :=
  ⟨⟨by simp, .singleton _⟩, by decide, by decide, by decide, by decide⟩

/-- The shapes an operation's effect can have, whatever the operation. -/
inductive Move : OrderStatus → List OrderStatus → List EventType → Prop
  | reserve : Move .pending [.inventoryReserved] []
  | confirm : Move .inventoryReserved [.paymentAuthorized, .confirmed] [.orderConfirmed]
  | cancel {status : OrderStatus} {evs : List EventType} (h : status.canCancel = true)
    (hevs : evs = [] ∨ evs = [.orderCancelled]) : Move status [.cancelled] evs

theorem Effect.move {t : EventType} {status : OrderStatus} {ws : List OrderStatus}
    {evs : List EventType} (h : Effect t status ws evs) : Move status ws evs := by
  cases h with
  | inventoryReserved => exact .reserve
  | inventoryReservationFailed h => exact .cancel h (.inl rfl)
  | paymentAuthorized => exact .confirm
  | paymentFailed h => exact .cancel h (.inr rfl)
  | paymentTimedOut h => exact .cancel h (.inr rfl)

theorem OpEffect.move {op : Op} {status : OrderStatus} {ws : List OrderStatus}
    {evs : List EventType} (h : OpEffect op status ws evs) : Move status ws evs := by
  cases h with
  | cancelOrder h => exact .cancel h (.inr rfl)
  | handle h => exact h.move

theorem Move.path {status : OrderStatus} {ws : List OrderStatus} {evs : List EventType}
    (h : Move status ws evs) : (status :: ws).IsChain Follows := by
  cases h with
  | reserve => exact List.isChain_pair.mpr rfl
  -- the second write is not checked by the handler
  | confirm => exact .cons_cons rfl (List.isChain_pair.mpr rfl)
  | cancel h => exact List.isChain_pair.mpr (transitionTo_cancelled.mpr h)

/-- No operation has an effect on a cancelled order. -/
theorem Move.status_ne {status : OrderStatus} {ws : List OrderStatus} {evs : List EventType}
    (h : Move status ws evs) : status ≠ .cancelled := by
  cases h with
  | reserve => decide
  | confirm => decide
  | cancel h =>
    rintro rfl
    exact nomatch h

/-- A path is continued by a path from its last status. -/
theorem IsStatusPath.append {history ws : List OrderStatus} {status : OrderStatus}
    (h : IsStatusPath history) (hlast : history.getLast? = some status)
    (hws : (status :: ws).IsChain Follows) : IsStatusPath (history ++ ws) := by
  refine ⟨?_, List.isChain_append.mpr ⟨h.2, hws.tail, fun x hx y hy => ?_⟩⟩
  · cases history with
    | nil => exact nomatch hlast
    | cons s ss => exact h.1
  · -- where the two paths meet
    rw [hlast] at hx
    cases hx
    cases ws with
    | nil => exact nomatch hy
    | cons w ws =>
      cases hy
      exact (List.isChain_cons_cons.mp hws).1

/-- One operation keeps the discipline. -/
theorem Disciplined.append {history ws : List OrderStatus} {events evs : List EventType}
    {status : OrderStatus} (h : Disciplined history events)
    (hlast : history.getLast? = some status) (hmove : Move status ws evs) :
    Disciplined (history ++ ws) (events ++ evs) := by
  have hpath := h.path.append hlast hmove.path
  -- before the move the order is not cancelled, so no OrderCancelled has been emitted
  have hnone : events.count .orderCancelled = 0 :=
    h.not_cancelled (by rw [hlast]; simpa using hmove.status_ne)
  cases hmove with
  | reserve =>
    -- a history with Confirmed in it does not end at Pending
    have hconf : .confirmed ∉ history := fun hc => by
      rcases h.settled hc with h' | h' <;> rw [hlast] at h' <;> cases h'
    exact ⟨hpath, by simp [h.confirmed, hconf], by simp [hconf], by simp [hnone],
      by simp [hnone]⟩
  | confirm =>
    -- nor at InventoryReserved: this is the first OrderConfirmed
    have hconf : .confirmed ∉ history := fun hc => by
      rcases h.settled hc with h' | h' <;> rw [hlast] at h' <;> cases h'
    exact ⟨hpath, by simp [h.confirmed, hconf], by simp, by simp [hnone], by simp [hnone]⟩
  | cancel hcan hevs =>
    rcases hevs with rfl | rfl
    · exact ⟨hpath, by simp [h.confirmed], by simp, by simp [hnone], by simp⟩
    · exact ⟨hpath, by simp [h.confirmed], by simp, by simp [hnone], by simp⟩

/-! ## The discipline, on the tables -/

/-- The number of events of a type in the outbox rows of an order. -/
def OrderDb.countEvents (db : OrderDb) (o : Uuid) (t : EventType) : Nat :=
  ((db.eventsOf o).map eventTypeOf).count t

structure OrderInv (db : OrderDb) (o : Uuid) : Prop where
  statusOf : db.statusOf o = (db.history o).getLast?
  disciplined : Disciplined (db.history o) ((db.eventsOf o).map eventTypeOf)
  unknown : db.history o = [] → db.eventsOf o = []

theorem orderInv_empty (o : Uuid) : OrderInv {} o := ⟨rfl, .nil, fun _ => rfl⟩

/-- An order that a step does not write keeps its invariant. -/
theorem OrderInv.of_other {db db' : OrderDb} {o o' : Uuid} {ws : List OrderStatus}
    {new : List OutboxInsert} (h : OrderInv db o') (hw : Wrote db db' o ws new) (ho : o' ≠ o) :
    OrderInv db' o' := by
  refine ⟨?_, ?_, ?_⟩
  · rw [hw.statusOf_other ho, hw.history_other ho, h.statusOf]
  · rw [hw.history_other ho, hw.eventsOf_other ho]
    exact h.disciplined
  · rw [hw.history_other ho, hw.eventsOf_other ho]
    exact h.unknown

/-- Writes that end a longer history: the status is the last of them. -/
theorem getLast?_or_append {history ws : List OrderStatus} :
    ws.getLast?.or history.getLast? = (history ++ ws).getLast? := by
  rw [List.getLast?_append]

section Service

variable [SerdeJson]

/-- One operation keeps the invariant of every order. -/
theorem orderInv_step {db db' : OrderDb} {op : Op} (hinv : ∀ o, OrderInv db o)
    (h : step db op = some db') (o' : Uuid) : OrderInv db' o' := by
  rcases step_cases h with rfl | ⟨o, hcreated⟩ | ⟨o, order, ws, new, hfind, hw, -, heffect⟩
  · exact hinv o'
  · obtain ⟨ins, rows, items, hw, htype, -⟩ := hcreated.wrote
    by_cases ho : o' = o
    · subst ho
      -- an order that did not exist has neither a history nor events
      have hnil : db.history o' = [] := by
        have := (hinv o').statusOf
        rw [OrderDb.statusOf, hcreated.fresh, Option.map_none, eq_comm,
          List.getLast?_eq_none_iff] at this
        exact this
      have hevents := (hinv o').unknown hnil
      refine ⟨?_, ?_, ?_⟩
      · rw [hw.statusOf, hw.history, (hinv o').statusOf, getLast?_or_append]
      · rw [hw.history, hw.eventsOf, hnil, hevents]
        simpa [htype] using Disciplined.created
      · simp [hw.history, hnil]
    · exact (hinv o').of_other hw ho
  · -- an operation on the order `o`, which may be `o'`
    by_cases ho : o' = o
    · subst ho
      have hlast : (db.history o').getLast? = some order.status := by
        rw [← (hinv o').statusOf, OrderDb.statusOf, hfind, Option.map_some]
      refine ⟨?_, ?_, ?_⟩
      · rw [hw.statusOf, hw.history, (hinv o').statusOf, getLast?_or_append]
      · rw [hw.history, hw.eventsOf, List.map_append]
        exact (hinv o').disciplined.append hlast heffect.move
      · intro hnil
        rw [hw.history, List.append_eq_nil_iff] at hnil
        simp [hnil.1] at hlast
    · exact (hinv o').of_other hw ho

theorem orderInv_run {db : OrderDb} {ops : List Op} (h : Run.run step {} ops = some db)
    (o : Uuid) : OrderInv db o := by
  have hstep : ∀ db op db', (∀ o, OrderInv db o) → step db op = some db' → ∀ o, OrderInv db' o :=
    fun _ _ _ hinv hop => orderInv_step hinv hop
  exact Run.run_invariant hstep orderInv_empty h o

/-- A step changes nothing of an order that is cancelled. -/
theorem frozen_step {db db' : OrderDb} {op : Op} {o : Uuid}
    (hcancelled : db.statusOf o = some .cancelled) (h : step db op = some db') :
    db'.find? o = db.find? o ∧ db'.eventsOf o = db.eventsOf o := by
  rcases step_cases h with rfl | ⟨o', hcreated⟩ | ⟨o', order, ws, new, hfind, hw, -, heffect⟩
  · exact ⟨rfl, rfl⟩
  · obtain ⟨ins, rows, items, hw, -⟩ := hcreated.wrote
    have ho : o ≠ o' := by
      rintro rfl
      simp [OrderDb.statusOf, hcreated.fresh] at hcancelled
    exact ⟨hw.find?_other o ho, hw.eventsOf_other ho⟩
  · -- no operation has an effect on an order that is cancelled
    have ho : o ≠ o' := by
      rintro rfl
      simp only [OrderDb.statusOf, hfind, Option.map_some, Option.some.injEq] at hcancelled
      exact heffect.move.status_ne hcancelled
    exact ⟨hw.find?_other o ho, hw.eventsOf_other ho⟩

theorem frozen_run {db db' : OrderDb} {ops : List Op} {o : Uuid}
    (hcancelled : db.statusOf o = some .cancelled) (h : Run.run step db ops = some db') :
    db'.find? o = db.find? o ∧ db'.eventsOf o = db.eventsOf o := by
  have hstep : ∀ db₁ op db₂, db₁.find? o = db.find? o ∧ db₁.eventsOf o = db.eventsOf o →
      step db₁ op = some db₂ → db₂.find? o = db.find? o ∧ db₂.eventsOf o = db.eventsOf o := by
    rintro db₁ op db₂ ⟨hrow, hevents⟩ hop
    have hc : db₁.statusOf o = some .cancelled := by
      rw [OrderDb.statusOf, hrow]
      exact hcancelled
    obtain ⟨hrow', hevents'⟩ := frozen_step hc hop
    exact ⟨hrow'.trans hrow, hevents'.trans hevents⟩
  exact Run.run_invariant hstep ⟨rfl, rfl⟩ h

/-- The operation is the handling of InventoryReservationFailed. -/
def Op.IsReservationFailure : Op → Prop
  | .handle env => env.eventType = .inventoryReservationFailed
  | _ => False

/-- Any other operation that cancels an order emits OrderCancelled. -/
theorem cancel_emits {db db' : OrderDb} {op : Op} {o : Uuid} (hinv : OrderInv db o)
    (hop : ¬ op.IsReservationFailure) (h : step db op = some db')
    (hbefore : db.statusOf o ≠ some .cancelled) (hafter : db'.statusOf o = some .cancelled) :
    db'.countEvents o .orderCancelled = 1 := by
  have hnone : ((db.eventsOf o).map eventTypeOf).count .orderCancelled = 0 :=
    hinv.disciplined.not_cancelled (by rwa [← hinv.statusOf])
  rcases step_cases h with rfl | ⟨o', hcreated⟩ | ⟨o', order, ws, new, hfind, hw, -, heffect⟩
  · exact absurd hafter hbefore
  · obtain ⟨ins, rows, items, hw, -⟩ := hcreated.wrote
    by_cases ho : o = o'
    · subst ho
      rw [hw.statusOf] at hafter
      cases hafter
    · exact absurd (hw.statusOf_other ho ▸ hafter) hbefore
  · by_cases ho : o = o'
    · subst ho
      rw [OrderDb.countEvents, hw.eventsOf, List.map_append, List.count_append, hnone]
      rw [hw.statusOf] at hafter
      generalize new.map eventTypeOf = evs at heffect ⊢
      generalize order.status = status at heffect
      -- the effects that cancel the order, apart from the one that is excluded, emit
      cases heffect with
      | cancelOrder hcan => decide
      | @handle env _ _ _ heff =>
        simp only [Op.IsReservationFailure] at hop
        generalize env.eventType = t at heff hop
        cases heff with
        | inventoryReserved => exact nomatch hafter
        | inventoryReservationFailed hcan => exact absurd rfl hop
        | paymentAuthorized => exact nomatch hafter
        | paymentFailed hcan => decide
        | paymentTimedOut hcan => decide
    · exact absurd (hw.statusOf_other ho ▸ hafter) hbefore

/-- Order event discipline, over every sequence of operations. -/
theorem event_discipline (ops : List Op) {db : OrderDb} (h : Run.run step {} ops = some db)
    (o : Uuid) :
    (db.find? o).map OrderEntity.status = (db.history o).getLast? ∧
    IsStatusPath (db.history o) ∧
    db.countEvents o .orderConfirmed = (if .confirmed ∈ db.history o then 1 else 0) ∧
    db.countEvents o .orderCancelled ≤ 1 ∧
    (∀ pre op post db₁ db₂, ops = pre ++ op :: post → Run.run step {} pre = some db₁ →
      step db₁ op = some db₂ → db₁.statusOf o ≠ some .cancelled →
      db₂.statusOf o = some .cancelled → ¬ op.IsReservationFailure →
      db.countEvents o .orderCancelled = 1) ∧
    (∀ pre post db₁, ops = pre ++ post → Run.run step {} pre = some db₁ →
      db₁.statusOf o = some .cancelled →
      db.find? o = db₁.find? o ∧ db.eventsOf o = db₁.eventsOf o) := by
  have hinv := orderInv_run h o
  refine ⟨hinv.statusOf, hinv.disciplined.path, hinv.disciplined.confirmed,
    hinv.disciplined.cancelled_le, ?_, ?_⟩
  · intro pre op post db₁ db₂ hops hpre hstep hbefore hafter hop
    rw [hops, Run.run_append, hpre, Option.bind_some, Run.run_cons hstep] at h
    -- the event is emitted by that operation, and the rest of the run adds none
    have hone := cancel_emits (orderInv_run hpre o) hop hstep hbefore hafter
    rwa [OrderDb.countEvents, (frozen_run hafter h).2]
  · intro pre post db₁ hops hpre hcancelled
    rw [hops, Run.run_append, hpre, Option.bind_some] at h
    exact frozen_run hcancelled h

end Service

/-! ## A run -/

/-- An order of two pieces at 10 USD each. -/
def sampleReq : CreateOrderReq :=
  { items := [{ productId := ⟨9, 0⟩, skuId := ⟨1, 0⟩, productName := "Mug", skuCode := "MUG-1",
                quantity := 2, sellerId := ⟨9, 1⟩, unitPrice := 10 }]
    currency := none
    shippingAddress := { street := "1 Main St", city := "Seoul", state := "", postalCode := "04524",
                         country := "KR" } }

def sampleBuyer : CurrentUser := { id := ⟨9, 2⟩, role := .buyer }

/-- The identifier that the first order gets. -/
def firstOrder : Uuid := ⟨0, 0⟩

/-- The first order is created and then cancelled by its buyer. -/
def cancelledOps : List Op :=
  [.createOrder sampleBuyer "key-1" sampleReq, .cancelOrder sampleBuyer firstOrder none]

theorem event_discipline_cancelled : ∃ db, Run.run step {} cancelledOps = some db ∧
    db.history firstOrder = [.pending, .cancelled] ∧
    IsStatusPath (db.history firstOrder) ∧ db.countEvents firstOrder .orderCancelled = 1 := by
  have hhist : (Run.run step {} cancelledOps).map (·.history firstOrder) =
      some [.pending, .cancelled] := by decide +kernel
  obtain ⟨db, hdb, hdb'⟩ := Option.map_eq_some_iff.mp hhist
  have hpre : (Run.run step {} (cancelledOps.take 1)).map (·.statusOf firstOrder) =
      some (some .pending) := by decide +kernel
  obtain ⟨db₁, hdb₁, hstatus⟩ := Option.map_eq_some_iff.mp hpre
  obtain ⟨hlast, hpath, -, -, hone, -⟩ := event_discipline cancelledOps hdb firstOrder
  refine ⟨db, hdb, hdb', hpath, ?_⟩
  refine hone (cancelledOps.take 1) (.cancelOrder sampleBuyer firstOrder none) [] db₁ db rfl hdb₁
    ?_ ?_ ?_ id
  · obtain ⟨t, ht, hstep⟩ : ∃ t, Run.run step {} (cancelledOps.take 1) = some t ∧
        step t (.cancelOrder sampleBuyer firstOrder none) = some db := Run.run_concat_some hdb
    rw [hdb₁, Option.some.injEq] at ht
    rwa [ht]
  · simp [hstatus]
  · rw [OrderDb.statusOf, hlast, hdb']
    rfl

end Koupang.Order
