import Koupang.Spec.OrderHistory
import Koupang.Spec.SagaRefinement

/-!
# Compensation

What is left of an order when nothing about it is in flight any more, over every
run of the three services and for every number of retries. A cancelled order has
no reservation. Two further guarantees need a condition on the run, because
events on different topics can overtake each other: a cancelled order has no
authorization, and an order whose money is held is settled.

## Key results

- `reservations_compensated`: a cancelled order has no reservation left
- `authorization_compensated`: a cancelled order has no authorization left, if
  InventoryReserved does not reach the payment service after OrderCancelled
- `no_stranded_order`: an authorized order is settled, if PaymentAuthorized is
  not given up while the order is Pending
-/

namespace Koupang.Saga

open Koupang.Order (OrderStatus sampleReq sampleBuyer firstOrder)
open Koupang.Payment (PaymentState approving)

/-! ## Quiet orders -/

/-- Nothing about the order is in flight. -/
def System.Quiet (s : System) (o : Uuid) : Prop :=
  ∀ service topic, s.queues ⟨service, topic, o⟩ = []

instance (s : System) (o : Uuid) : Decidable (s.Quiet o) :=
  decidable_of_iff (∀ service ∈ [Service.order, .catalog, .payment],
      ∀ topic ∈ [Topic.ordersEvents, .catalogEvents, .paymentsEvents],
        s.queues ⟨service, topic, o⟩ = [])
    ⟨fun h service topic =>
        h service (by cases service <;> decide) topic (by cases topic <;> decide),
      fun h service _ topic _ => h service topic⟩

theorem System.Quiet.inFlight {s : System} {o : Uuid} (h : s.Quiet o) (service : Service)
    (topic : Topic) : s.inFlight service topic o = [] := by
  rw [System.inFlight, h service topic, List.map_nil]

/-! ## Runs of one order -/

/-- A service receives the next event of the first order on a topic; the gateway approves
    everything. -/
def receives (service : Service) (topic : Topic) : Label :=
  .deliver ⟨service, topic, firstOrder⟩ 0 approving

/-- The first order is created, and the catalog reserves it. -/
def placed : List Label :=
  [.request (.stock (.createSku 5)), .request (.createOrder sampleBuyer "key-1" sampleReq),
   receives .catalog .ordersEvents]

/-- The buyer cancels before the payment service has handled InventoryReserved. -/
def cancelledEarly : List Label :=
  placed ++ [.request (.cancelOrder sampleBuyer firstOrder none), receives .payment .ordersEvents]

/-- What the other services receive of an order that was authorized and cancelled. -/
def drained : List Label :=
  [receives .catalog .ordersEvents, receives .order .catalogEvents, receives .order .paymentsEvents,
   receives .payment .paymentsEvents]

/-- The payment is authorized before OrderCancelled reaches the payment service. -/
def voidedRun : List Label :=
  cancelledEarly ++ [receives .payment .catalogEvents, receives .payment .ordersEvents] ++
    drained ++ [receives .order .paymentsEvents, receives .payment .paymentsEvents]

/-- OrderCancelled overtakes InventoryReserved. -/
def overtakenRun : List Label :=
  cancelledEarly ++ [receives .payment .ordersEvents, receives .payment .catalogEvents] ++ drained

/-- The payment is authorized before the order service has handled InventoryReserved, and it
    rejects PaymentAuthorized `n` times. -/
def rejectedRun (n : Nat) : List Label :=
  placed ++ [receives .payment .catalogEvents] ++
    List.replicate n (receives .order .paymentsEvents) ++ [receives .order .catalogEvents]

/-- PaymentAuthorized is handled again, and the payment is captured. -/
def confirmedRun : List Label :=
  rejectedRun 3 ++ [receives .order .paymentsEvents, receives .payment .ordersEvents,
    receives .payment .ordersEvents, receives .payment .paymentsEvents,
    receives .payment .paymentsEvents, receives .order .paymentsEvents,
    receives .catalog .ordersEvents]

/-- PaymentAuthorized is given up. -/
def strandedRun : List Label :=
  rejectedRun 4 ++ [receives .payment .ordersEvents, receives .payment .paymentsEvents]

/-! ## Invariants of the runs -/

structure SagaInv (s : System) (o : Uuid) : Prop where
  sys : SysInv s
  coherent : Coherent (s.view o)

theorem sagaInv_empty (o : Uuid) : SagaInv {} o := ⟨sysInv_empty, coherent_initial⟩

section Service

variable [SerdeJson] {maxRetries : Nat} {s t : System} {l : Label} {o : Uuid}

theorem sagaInv_step (hinv : SagaInv s o) (h : step maxRetries s l = some t) : SagaInv t o :=
  ⟨sysInv_step hinv.sys h, coherent_step hinv.coherent (step_refines hinv.sys h o)⟩

/-! ## The reservation of a cancelled order -/

/-- A cancelled order has no reservation left once nothing about it is in flight. -/
theorem reservations_compensated (maxRetries : Nat) (ls : List Label) {s : System}
    (hrun : Run.run (step maxRetries) {} ls = some s) (o : Uuid)
    (hcancelled : s.services.order.statusOf o = some .cancelled) (hquiet : s.Quiet o) :
    ∀ r ∈ s.services.catalog.inventoryReservations.rows, r.orderId = o → r.status ≠ .reserved := by
  have hstep : ∀ s l t, SagaInv s o ∧ Released (s.view o) → step maxRetries s l = some t →
      SagaInv t o ∧ Released (t.view o) := by
    rintro s l t ⟨hinv, hrel⟩ h
    exact ⟨sagaInv_step hinv h, released_step hinv.coherent hrel (step_refines hinv.sys h o)⟩
  obtain ⟨-, hrel⟩ := Run.run_invariant hstep ⟨sagaInv_empty o, released_initial⟩ hrun
  -- an open reservation would have an OrderCancelled coming
  intro r hr ho hreserved
  have hmem : r ∈ Catalog.Repository.findAllReserved o s.services.catalog := by
    simp [Catalog.Repository.findAllReserved, hr, ho, hreserved]
  have hholds : holdsReservation s.services.catalog o = true := by
    simp only [holdsReservation, Bool.not_eq_true', List.isEmpty_eq_false_iff]
    exact List.ne_nil_of_mem hmem
  have hcoming := hrel hcancelled (.inl hholds)
  rw [show (s.view o).catalogOrders = [] from hquiet.inFlight _ _] at hcoming
  simp at hcoming

end Service

theorem reservations_compensated_voided : ∃ s, Run.run (step 0) {} voidedRun = some s ∧
    s.services.order.statusOf firstOrder = some .cancelled ∧ s.Quiet firstOrder ∧
    s.services.catalog.inventoryReservations.rows.map (·.orderId) = [firstOrder] ∧
    ∀ r ∈ s.services.catalog.inventoryReservations.rows, r.orderId = firstOrder →
      r.status ≠ .reserved := by
  obtain ⟨s, hrun, hcancelled, hquiet, hrows⟩ : ∃ s, Run.run (step 0) {} voidedRun = some s ∧
      s.services.order.statusOf firstOrder = some .cancelled ∧ s.Quiet firstOrder ∧
      s.services.catalog.inventoryReservations.rows.map (·.orderId) = [firstOrder] :=
    Run.run_decide (by decide +kernel)
  exact ⟨s, hrun, hcancelled, hquiet, hrows,
    reservations_compensated 0 voidedRun hrun firstOrder hcancelled hquiet⟩

/-! ## The authorization of a cancelled order -/

/-- The gateway agrees to every void. -/
def Label.Voids : Label → Prop
  | .deliver _ _ gateway => ∀ ref, gateway.void ref = .ok ()
  | _ => True

/-- When the payment service handles InventoryReserved of an order that is Cancelled already, it
    has yet to receive its OrderCancelled. -/
def AwaitsCancellation (o : Uuid) (s : System) : Label → Prop
  | .deliver c _ _ => c = ⟨.payment, .catalogEvents, o⟩ →
    (s.inFlight .payment .catalogEvents o).head? = some .inventoryReserved →
    s.services.order.statusOf o = some .cancelled →
    .orderCancelled ∈ s.inFlight .payment .ordersEvents o
  | _ => True

instance (o : Uuid) (s : System) : ∀ l, Decidable (AwaitsCancellation o s l)
  | .deliver _ _ _ => inferInstanceAs (Decidable (_ → _ → _ → _))
  | .request _ | .timeOut _ => .isTrue trivial

section Service

variable {maxRetries : Nat} {s : System} {l : Label} {o : Uuid}

theorem voids_action (h : l.Voids) : (l.action maxRetries s o).Voids := by
  cases l with
  | deliver c tick gateway =>
    simp only [Label.action]
    split
    · exact h
    · trivial
  | request r => trivial
  | timeOut env => trivial

theorem notOvertaken_action (h : AwaitsCancellation o s l) :
    NotOvertaken (s.view o) (l.action maxRetries s o) := by
  cases l with
  | deliver c tick gateway =>
    obtain ⟨service, topic, o'⟩ := c
    simp only [Label.action]
    split
    · rename_i ho
      subst ho
      -- the condition is about one channel only
      cases service <;> cases topic <;> try trivial
      exact h rfl
    · trivial
  | request r => trivial
  | timeOut env => trivial

variable [SerdeJson]

/-- A cancelled order has no authorization left once nothing about it is in flight. -/
theorem authorization_compensated (maxRetries : Nat) (ls : List Label) {s : System}
    (hvoids : ∀ l ∈ ls, l.Voids) (o : Uuid)
    (hmeets : Run.Meets (step maxRetries) (AwaitsCancellation o) {} ls)
    (hrun : Run.run (step maxRetries) {} ls = some s)
    (hcancelled : s.services.order.statusOf o = some .cancelled) (hquiet : s.Quiet o) :
    s.services.payment.paymentState o ≠ .authorized := by
  have hstep : ∀ s l t, SagaInv s o ∧ Voided (s.view o) → AwaitsCancellation o s l ∧ l.Voids →
      step maxRetries s l = some t → SagaInv t o ∧ Voided (t.view o) := by
    rintro s l t ⟨hinv, hvoid⟩ ⟨hcond, hl⟩ h
    exact ⟨sagaInv_step hinv h, voided_step hinv.coherent hvoid (voids_action hl)
      (notOvertaken_action hcond) (step_refines hinv.sys h o)⟩
  obtain ⟨-, hvoid⟩ := Run.run_invariant_of_meets hstep ⟨sagaInv_empty o, voided_initial⟩
    (hmeets.and_label hvoids) hrun
  -- an authorization would have an OrderCancelled coming
  intro hauthorized
  have hcoming := hvoid hcancelled hauthorized
  rw [show (s.view o).paymentOrders = [] from hquiet.inFlight _ _] at hcoming
  simp at hcoming

end Service

theorem authorization_compensated_voided : ∃ s, Run.run (step 0) {} voidedRun = some s ∧
    s.services.order.statusOf firstOrder = some .cancelled ∧ s.Quiet firstOrder ∧
    s.services.payment.paymentState firstOrder ≠ .authorized := by
  have hvoids : ∀ l ∈ voidedRun, l.Voids := by
    simp [voidedRun, cancelledEarly, placed, drained, receives, approving, Label.Voids]
  have hmeets : Run.Meets (step 0) (AwaitsCancellation firstOrder) {} voidedRun := by
    decide +kernel
  obtain ⟨s, hrun, hcancelled, hquiet⟩ : ∃ s, Run.run (step 0) {} voidedRun = some s ∧
      s.services.order.statusOf firstOrder = some .cancelled ∧ s.Quiet firstOrder :=
    Run.run_decide (by decide +kernel)
  exact ⟨s, hrun, hcancelled, hquiet, authorization_compensated 0 voidedRun hvoids firstOrder
    hmeets hrun hcancelled hquiet⟩

/-- The payment service authorizes an order whose cancellation it has already seen. -/
theorem authorization_outlives_cancellation : ∃ s, Run.run (step 0) {} overtakenRun = some s ∧
    (∀ l ∈ overtakenRun, l.Voids) ∧ s.services.order.statusOf firstOrder = some .cancelled ∧
    s.Quiet firstOrder ∧ s.services.payment.paymentState firstOrder = .authorized := by
  have hvoids : ∀ l ∈ overtakenRun, l.Voids := by
    simp [overtakenRun, cancelledEarly, placed, drained, receives, approving, Label.Voids]
  obtain ⟨s, hrun, hcancelled, hquiet, hpay⟩ : ∃ s, Run.run (step 0) {} overtakenRun = some s ∧
      s.services.order.statusOf firstOrder = some .cancelled ∧ s.Quiet firstOrder ∧
      s.services.payment.paymentState firstOrder = .authorized :=
    Run.run_decide (by decide +kernel)
  exact ⟨s, hrun, hvoids, hcancelled, hquiet, hpay⟩

/-! ## The order of an authorized payment -/

/-- The order service does not make its last attempt at PaymentAuthorized while the order is
    Pending. -/
def AwaitsReservation (maxRetries : Nat) (o : Uuid) (s : System) : Label → Prop
  | .deliver c _ _ => c = ⟨.order, .paymentsEvents, o⟩ →
    ∀ m ∈ (s.queues c).head?, m.eventType = .paymentAuthorized →
      s.services.order.statusOf o = some .pending → m.failures < maxRetries
  | _ => True

instance (maxRetries : Nat) (o : Uuid) (s : System) :
    ∀ l, Decidable (AwaitsReservation maxRetries o s l)
  | .deliver c _ _ => inferInstanceAs (Decidable (_ → ∀ m ∈ (s.queues c).head?, _ → _ → _))
  | .request _ | .timeOut _ => .isTrue trivial

section Service

variable {maxRetries : Nat} {s : System} {l : Label} {o : Uuid}

theorem notDropped_action (h : AwaitsReservation maxRetries o s l) :
    NotDropped (s.view o) (l.action maxRetries s o) := by
  cases l with
  | deliver c tick gateway =>
    obtain ⟨service, topic, o'⟩ := c
    simp only [Label.action]
    split
    · rename_i ho
      subst ho
      -- the condition is about one channel only
      cases service <;> cases topic <;> try trivial
      intro hhead hpending hlast
      obtain ⟨m, hm, htype⟩ : ∃ m, (s.queues ⟨.order, .paymentsEvents, o'⟩).head? = some m ∧
          m.eventType = .paymentAuthorized := by
        rw [show (s.view o').orderPayments = List.map _ _ from rfl, List.head?_map] at hhead
        exact Option.map_eq_some_iff.mp hhead
      exact absurd (hlast m hm) (Nat.not_le_of_lt (h rfl m hm htype hpending))
    · trivial
  | request r => trivial
  | timeOut env => trivial

variable [SerdeJson]

/-- An order whose payment is authorized or captured is Confirmed or Cancelled once nothing
    about it is in flight. -/
theorem no_stranded_order (maxRetries : Nat) (ls : List Label) {s : System} (o : Uuid)
    (hmeets : Run.Meets (step maxRetries) (AwaitsReservation maxRetries o) {} ls)
    (hrun : Run.run (step maxRetries) {} ls = some s) (hquiet : s.Quiet o)
    (hpay : s.services.payment.paymentState o = .authorized ∨
      s.services.payment.paymentState o = .captured) :
    s.services.order.statusOf o = some .confirmed ∨
      s.services.order.statusOf o = some .cancelled := by
  have hstep : ∀ s l t, SagaInv s o ∧ Settled (s.view o) → AwaitsReservation maxRetries o s l →
      step maxRetries s l = some t → SagaInv t o ∧ Settled (t.view o) := by
    rintro s l t ⟨hinv, hset⟩ hcond h
    exact ⟨sagaInv_step hinv h, settled_step hinv.coherent hset (notDropped_action hcond)
      (step_refines hinv.sys h o)⟩
  obtain ⟨-, hset⟩ := Run.run_invariant_of_meets hstep
    ⟨sagaInv_empty o, settled_initial⟩ hmeets hrun
  rcases hset hpay with hsettled | hcoming
  · exact hsettled
  · rw [show (s.view o).orderPayments = [] from hquiet.inFlight _ _] at hcoming
    simp at hcoming

end Service

theorem no_stranded_order_confirmed : ∃ s, Run.run (step 3) {} confirmedRun = some s ∧
    s.Quiet firstOrder ∧ s.services.payment.paymentState firstOrder = .captured ∧
    (s.services.order.statusOf firstOrder = some .confirmed ∨
      s.services.order.statusOf firstOrder = some .cancelled) := by
  have hmeets : Run.Meets (step 3) (AwaitsReservation 3 firstOrder) {} confirmedRun := by
    decide +kernel
  obtain ⟨s, hrun, hquiet, hpay⟩ : ∃ s, Run.run (step 3) {} confirmedRun = some s ∧
      s.Quiet firstOrder ∧ s.services.payment.paymentState firstOrder = .captured :=
    Run.run_decide (by decide +kernel)
  exact ⟨s, hrun, hquiet, hpay,
    no_stranded_order 3 confirmedRun firstOrder hmeets hrun hquiet (.inr hpay)⟩

/-- PaymentAuthorized reaches the dead-letter queue before InventoryReserved reaches the order. -/
theorem stranded_order : ∃ s, Run.run (step 3) {} strandedRun = some s ∧ s.Quiet firstOrder ∧
    s.services.payment.paymentState firstOrder = .authorized ∧
    s.services.order.statusOf firstOrder = some .inventoryReserved :=
  Run.run_decide (by decide +kernel)

end Koupang.Saga
