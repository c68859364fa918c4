import Koupang.Model.Saga
import Koupang.Spec.OrderCorrect
import Koupang.Spec.PaymentLedger

/-!
# The saga as one order sees it

Orders do not interfere, so the saga of one order is a small transition system:
the order's status, the state of its payment, whether it holds a reservation,
and the types of the events in flight on the six channels. The compensation
guarantees are invariants of this system.

## Key results

- `coherent_step`: what holds in every saga
- `released_step`: a cancelled order's reservation has an OrderCancelled coming
- `voided_step`: so has its authorization, as long as OrderCancelled is not overtaken
- `settled_step`: an authorized order is settled, or PaymentAuthorized is coming
-/

namespace Koupang.Saga

open Koupang.Order (OrderStatus)
open Koupang.Payment (PaymentState StateEffect)

/-- What the services know about one order, and the events of it in flight, oldest first. -/
structure View where
  status : Option OrderStatus
  pay : PaymentState
  /-- the catalog holds an open reservation for the order -/
  reserved : Bool
  /-- from `orders.events` to the catalog -/
  catalogOrders : List EventType
  /-- from `orders.events` to the payment service -/
  paymentOrders : List EventType
  /-- from `catalog.events` to the order service -/
  orderCatalog : List EventType
  /-- from `catalog.events` to the payment service -/
  paymentCatalog : List EventType
  /-- from `payments.events` to the order service -/
  orderPayments : List EventType
  /-- from `payments.events` to the payment service -/
  paymentPayments : List EventType

namespace View

/-- Before the order exists. -/
def initial : View where
  status := none
  pay := .new
  reserved := false
  catalogOrders := []
  paymentOrders := []
  orderCatalog := []
  paymentCatalog := []
  orderPayments := []
  paymentPayments := []

variable (v : View)

def publishOrders (ts : List EventType) : View :=
  { v with catalogOrders := v.catalogOrders ++ ts, paymentOrders := v.paymentOrders ++ ts }

def publishCatalog (ts : List EventType) : View :=
  { v with orderCatalog := v.orderCatalog ++ ts, paymentCatalog := v.paymentCatalog ++ ts }

def publishPayments (ts : List EventType) : View :=
  { v with orderPayments := v.orderPayments ++ ts, paymentPayments := v.paymentPayments ++ ts }

end View

/-- A step, as the order sees it. -/
inductive Action where
  | other
  /-- `last`: the event is dropped if it is rejected; `voids`: the gateway agrees to a void -/
  | deliver (service : Service) (topic : Topic) (last voids : Prop)

/-- The steps of the saga of one order. -/
inductive ViewStep : View → Action → View → Prop
  | stutter {v : View} {a : Action} : ViewStep v a v
  | create {v : View} (h : v.status = none) :
    ViewStep v .other ({ v with status := some .pending }.publishOrders [.orderCreated])
  | cancel {v : View} {status : OrderStatus} (h : v.status = some status)
    (hcancel : status.canCancel = true) :
    ViewStep v .other ({ v with status := some .cancelled }.publishOrders [.orderCancelled])
  | timeOut {v : View} : ViewStep v .other (v.publishPayments [.paymentTimedOut])
  | orderReserved {v : View} {last voids : Prop} {q : List EventType}
    (hq : v.orderCatalog = .inventoryReserved :: q) (h : v.status = some .pending) :
    ViewStep v (.deliver .order .catalogEvents last voids)
      { v with orderCatalog := q, status := some .inventoryReserved }
  | orderRefused {v : View} {last voids : Prop} {q : List EventType} {status : OrderStatus}
    (hq : v.orderCatalog = .inventoryReservationFailed :: q) (h : v.status = some status)
    (hcancel : status.canCancel = true) :
    ViewStep v (.deliver .order .catalogEvents last voids)
      { v with orderCatalog := q, status := some .cancelled }
  | orderSkipsCatalog {v : View} {last voids : Prop} {t : EventType} {q : List EventType}
    (hq : v.orderCatalog = t :: q) :
    ViewStep v (.deliver .order .catalogEvents last voids) { v with orderCatalog := q }
  | orderConfirmed {v : View} {last voids : Prop} {q : List EventType}
    (hq : v.orderPayments = .paymentAuthorized :: q) (h : v.status = some .inventoryReserved) :
    ViewStep v (.deliver .order .paymentsEvents last voids)
      ({ v with orderPayments := q, status := some .confirmed }.publishOrders [.orderConfirmed])
  | orderFailed {v : View} {last voids : Prop} {t : EventType} {q : List EventType}
    {status : OrderStatus} (hq : v.orderPayments = t :: q)
    (ht : t = .paymentFailed ∨ t = .paymentTimedOut) (h : v.status = some status)
    (hcancel : status.canCancel = true) :
    ViewStep v (.deliver .order .paymentsEvents last voids)
      ({ v with orderPayments := q, status := some .cancelled }.publishOrders [.orderCancelled])
  | orderSkipsPayments {v : View} {last voids : Prop} {t : EventType} {q : List EventType}
    (hq : v.orderPayments = t :: q)
    (h : t = .paymentAuthorized → v.status ≠ some .inventoryReserved ∧ last) :
    ViewStep v (.deliver .order .paymentsEvents last voids) { v with orderPayments := q }
  | catalogReserves {v : View} {last voids : Prop} {q : List EventType} (reserved : Bool)
    (hq : v.catalogOrders = .orderCreated :: q) :
    ViewStep v (.deliver .catalog .ordersEvents last voids)
      ({ v with catalogOrders := q, reserved }.publishCatalog [.inventoryReserved])
  | catalogRefuses {v : View} {last voids : Prop} {q ts : List EventType}
    (hq : v.catalogOrders = .orderCreated :: q)
    (hts : ts = [] ∨ ts = [.inventoryReservationFailed]) :
    ViewStep v (.deliver .catalog .ordersEvents last voids)
      ({ v with catalogOrders := q }.publishCatalog ts)
  | catalogReleases {v : View} {last voids : Prop} {q : List EventType}
    (hq : v.catalogOrders = .orderCancelled :: q) :
    ViewStep v (.deliver .catalog .ordersEvents last voids)
      { v with catalogOrders := q, reserved := false }
  | catalogIgnores {v : View} {last voids : Prop} {t : EventType} {q : List EventType}
    (hq : v.catalogOrders = t :: q) (ht : t ≠ .orderCreated) (ht' : t ≠ .orderCancelled) :
    ViewStep v (.deliver .catalog .ordersEvents last voids) { v with catalogOrders := q }
  | paymentCatalog {v : View} {last voids : Prop} {t t' : EventType} {q : List EventType}
    {pay : PaymentState} (hq : v.paymentCatalog = t :: q)
    (heffect : StateEffect t v.pay pay t') :
    ViewStep v (.deliver .payment .catalogEvents last voids)
      ({ v with paymentCatalog := q, pay }.publishPayments [t'])
  | paymentSkipsCatalog {v : View} {last voids : Prop} {t : EventType} {q : List EventType}
    (hq : v.paymentCatalog = t :: q) :
    ViewStep v (.deliver .payment .catalogEvents last voids) { v with paymentCatalog := q }
  | paymentOrders {v : View} {last voids : Prop} {t t' : EventType} {q : List EventType}
    {pay : PaymentState} (hq : v.paymentOrders = t :: q) (ht : t ≠ .inventoryReserved)
    (heffect : StateEffect t v.pay pay t') :
    ViewStep v (.deliver .payment .ordersEvents last voids)
      ({ v with paymentOrders := q, pay }.publishPayments [t'])
  | paymentSkipsOrders {v : View} {last voids : Prop} {t : EventType} {q : List EventType}
    (hq : v.paymentOrders = t :: q) (h : t = .orderCancelled → voids → v.pay ≠ .authorized) :
    ViewStep v (.deliver .payment .ordersEvents last voids) { v with paymentOrders := q }
  | paymentPayments {v : View} {last voids : Prop} {t t' : EventType} {q : List EventType}
    {pay : PaymentState} (hq : v.paymentPayments = t :: q) (ht : t ≠ .inventoryReserved)
    (heffect : StateEffect t v.pay pay t') :
    ViewStep v (.deliver .payment .paymentsEvents last voids)
      ({ v with paymentPayments := q, pay }.publishPayments [t'])
  | paymentSkipsPayments {v : View} {last voids : Prop} {t : EventType} {q : List EventType}
    (hq : v.paymentPayments = t :: q) :
    ViewStep v (.deliver .payment .paymentsEvents last voids) { v with paymentPayments := q }

/-! ## What holds in every saga -/

/-- The catalog has not decided about the order. -/
structure View.Undecided (v : View) : Prop where
  pay : v.pay = .new
  reserved : v.reserved = false
  notReserved : .inventoryReserved ∉ v.paymentCatalog
  notRefused : .inventoryReservationFailed ∉ v.orderCatalog

/-- The catalog has refused the order. -/
structure View.Refused (v : View) : Prop where
  decided : .orderCreated ∉ v.catalogOrders
  pay : v.pay = .new
  reserved : v.reserved = false
  notReserved : .inventoryReserved ∉ v.paymentCatalog

structure Coherent (v : View) : Prop where
  statuses : v.status ∈ [none, some .pending, some .inventoryReserved, some .confirmed,
    some .cancelled]
  unborn : v.status = none → v.catalogOrders = [] ∧ v.Undecided
  /-- OrderCreated is the first event of the order that the catalog sees -/
  created : .orderCreated ∉ v.catalogOrders.tail
  undecided : .orderCreated ∈ v.catalogOrders → v.Undecided
  refused : .inventoryReservationFailed ∈ v.orderCatalog → v.Refused

theorem coherent_initial : Coherent View.initial :=
  ⟨by decide, fun _ => ⟨rfl, rfl, rfl, nofun, nofun⟩, nofun, nofun, nofun⟩

theorem mem_of_rest {ts q : List EventType} {t : EventType} (hq : ts = t :: q) :
    ∀ t' ∈ q, t' ∈ ts :=
  fun _ h => hq ▸ List.mem_cons_of_mem _ h

theorem mem_rest {ts q : List EventType} {t t' : EventType} (hq : ts = t :: q) (hmem : t' ∈ ts)
    (hne : t' ≠ t) : t' ∈ q := by
  rw [hq] at hmem
  exact (List.mem_cons.mp hmem).resolve_left hne

/-- What every step keeps in which the order is not created and the catalog does not decide. -/
structure Keeps (v v' : View) : Prop where
  statuses : v'.status ∈ [none, some .pending, some .inventoryReserved, some .confirmed,
    some .cancelled]
  born : v'.status = none → v.status = none
  pay : v.pay = .new → .inventoryReserved ∉ v.paymentCatalog → v'.pay = .new
  reserved : v.reserved = false → v'.reserved = false
  catalogOrders : ∀ t ∈ v'.catalogOrders,
    t ∈ v.catalogOrders ∨ t ≠ .orderCreated ∧ v'.status ≠ none
  tail : .orderCreated ∉ v.catalogOrders.tail → .orderCreated ∉ v'.catalogOrders.tail
  paymentCatalog : ∀ t ∈ v'.paymentCatalog, t ∈ v.paymentCatalog
  orderCatalog : ∀ t ∈ v'.orderCatalog, t ∈ v.orderCatalog

theorem Keeps.refl {v : View} (hv : Coherent v) : Keeps v v :=
  ⟨hv.statuses, id, fun h _ => h, id, fun _ => .inl, id, fun _ => id, fun _ => id⟩

theorem Coherent.keeps {v v' : View} (hv : Coherent v) (h : Keeps v v') : Coherent v' := by
  -- the catalog does not decide in this step
  have hund : v.Undecided → v'.Undecided := fun hu =>
    ⟨h.pay hu.pay hu.notReserved, h.reserved hu.reserved,
      fun hmem => hu.notReserved (h.paymentCatalog _ hmem),
      fun hmem => hu.notRefused (h.orderCatalog _ hmem)⟩
  have hcreated : .orderCreated ∈ v'.catalogOrders → .orderCreated ∈ v.catalogOrders :=
    fun hmem => (h.catalogOrders _ hmem).resolve_right fun hne => hne.1 rfl
  refine ⟨h.statuses, fun hnone => ?_, h.tail hv.created,
    fun hmem => hund (hv.undecided (hcreated hmem)), fun hmem => ?_⟩
  · obtain ⟨hnil, hu⟩ := hv.unborn (h.born hnone)
    refine ⟨List.eq_nil_iff_forall_not_mem.mpr fun t ht => ?_, hund hu⟩
    rcases h.catalogOrders t ht with ht | ht
    · rw [hnil] at ht
      exact nomatch ht
    · exact ht.2 hnone
  · obtain ⟨hdecided, hpay, hreserved, hnot⟩ := hv.refused (h.orderCatalog _ hmem)
    exact ⟨fun hc => hdecided (hcreated hc), h.pay hpay hnot, h.reserved hreserved,
      fun hr => hnot (h.paymentCatalog _ hr)⟩

/-- The order service writes a status and publishes an event. -/
theorem Keeps.publishOrders {v : View} (hv : Coherent v) {status : OrderStatus}
    (hstatus : some status ∈ [none, some .pending, some .inventoryReserved, some .confirmed,
      some .cancelled])
    {t : EventType} (ht : t ≠ .orderCreated) {orderPayments : List EventType} :
    Keeps v ({ v with status := some status, orderPayments }.publishOrders [t]) := by
  refine { Keeps.refl hv with
    statuses := hstatus, born := nofun, catalogOrders := fun t' ht' => ?_, tail := fun hnot => ?_ }
  · rcases List.mem_append.mp ht' with ht' | ht'
    · exact .inl ht'
    · cases List.mem_singleton.mp ht'
      exact .inr ⟨ht, nofun⟩
  · simp only [View.publishOrders]
    cases hq : v.catalogOrders with
    | nil => simp
    | cons x q =>
      rw [hq] at hnot
      simpa [ht.symm] using hnot

/-- The payment service handles an event. -/
theorem Keeps.payment {v : View} (hv : Coherent v) {t t' : EventType} {pay : PaymentState}
    (heffect : StateEffect t v.pay pay t')
    (ht : t = .inventoryReserved → .inventoryReserved ∈ v.paymentCatalog)
    {paymentOrders paymentCatalog paymentPayments : List EventType}
    (hsub : ∀ t ∈ paymentCatalog, t ∈ v.paymentCatalog) :
    Keeps v
      ({ v with pay, paymentOrders, paymentCatalog, paymentPayments }.publishPayments [t']) := by
  refine { Keeps.refl hv with pay := fun hnew hnot => ?_, paymentCatalog := hsub }
  -- only InventoryReserved takes the payment out of New
  show pay = .new
  rw [hnew] at heffect
  cases heffect with
  | failed => rfl
  | retried => rfl
  | authorized => exact absurd (ht rfl) hnot

/-- A channel to the order service is read, and the status is written. -/
theorem Keeps.order {v : View} (hv : Coherent v) {status : Option OrderStatus}
    (hstatus : status ∈ [some .pending, some .inventoryReserved, some .confirmed, some .cancelled] ∨
      status = v.status)
    {orderCatalog orderPayments : List EventType}
    (hsub : ∀ t ∈ orderCatalog, t ∈ v.orderCatalog) :
    Keeps v { v with status, orderCatalog, orderPayments } := by
  refine { Keeps.refl hv with
    statuses := ?_, born := ?_, catalogOrders := fun _ => .inl, orderCatalog := hsub }
  · rcases hstatus with h | rfl
    · exact List.mem_cons_of_mem _ h
    · exact hv.statuses
  · rintro rfl
    rcases hstatus with h | h
    · simp at h
    · exact h.symm

/-- The catalog reads an event and does not decide about the order. -/
theorem Keeps.catalog {v : View} (hv : Coherent v) {t : EventType} {q : List EventType}
    (hq : v.catalogOrders = t :: q) {reserved : Bool}
    (hreserved : v.reserved = false → reserved = false) :
    Keeps v { v with catalogOrders := q, reserved } := by
  refine { Keeps.refl hv with
    reserved := hreserved, catalogOrders := fun t' ht' => .inl ?_, tail := fun hnot => ?_ }
  · exact mem_of_rest hq t' ht'
  · rw [hq] at hnot
    exact fun hmem => hnot (List.mem_of_mem_tail hmem)

/-- When OrderCreated reaches the catalog, it has not decided, and no other OrderCreated follows. -/
theorem Coherent.decides {v : View} (hv : Coherent v) {q : List EventType}
    (hq : v.catalogOrders = .orderCreated :: q) :
    v.status ≠ none ∧ .orderCreated ∉ q ∧ v.Undecided := by
  refine ⟨fun hnone => ?_, ?_, hv.undecided (by simp [hq])⟩
  · have hnil := (hv.unborn hnone).1
    simp [hq] at hnil
  · have hcreated := hv.created
    rwa [hq] at hcreated

theorem coherent_step {v v' : View} {a : Action} (hv : Coherent v) (h : ViewStep v a v') :
    Coherent v' := by
  cases h with
  | stutter => exact hv
  | create h =>
    -- OrderCreated goes to an empty channel
    obtain ⟨hnil, hund⟩ := hv.unborn h
    refine ⟨by simp [View.publishOrders], nofun, by simp [View.publishOrders, hnil], fun _ => ?_,
      fun hmem => absurd hmem hund.notRefused⟩
    exact ⟨hund.pay, hund.reserved, hund.notReserved, hund.notRefused⟩
  | cancel => exact hv.keeps (Keeps.publishOrders hv (by simp) (by decide))
  | timeOut => exact hv.keeps { Keeps.refl hv with }
  | orderReserved hq => exact hv.keeps (Keeps.order hv (.inl (by simp)) (mem_of_rest hq))
  | orderRefused hq => exact hv.keeps (Keeps.order hv (.inl (by simp)) (mem_of_rest hq))
  | orderSkipsCatalog hq => exact hv.keeps (Keeps.order hv (.inr rfl) (mem_of_rest hq))
  | orderConfirmed => exact hv.keeps (Keeps.publishOrders hv (by simp) (by decide))
  | orderFailed => exact hv.keeps (Keeps.publishOrders hv (by simp) (by decide))
  | orderSkipsPayments => exact hv.keeps (Keeps.order hv (.inr rfl) fun _ => id)
  | catalogReserves reserved hq =>
    obtain ⟨hborn, hnot, hund⟩ := hv.decides hq
    refine ⟨hv.statuses, fun hnone => absurd hnone hborn,
      fun hmem => hnot (List.mem_of_mem_tail hmem), fun hmem => absurd hmem hnot, fun hmem => ?_⟩
    exact absurd hmem (by simpa [View.publishCatalog] using hund.notRefused)
  | catalogRefuses hq hts =>
    obtain ⟨hborn, hnot, hund⟩ := hv.decides hq
    refine ⟨hv.statuses, fun hnone => absurd hnone hborn,
      fun hmem => hnot (List.mem_of_mem_tail hmem), fun hmem => absurd hmem hnot,
      fun _ => ⟨hnot, hund.pay, hund.reserved, fun hmem => ?_⟩⟩
    rcases hts with rfl | rfl
    · exact hund.notReserved (by simpa [View.publishCatalog] using hmem)
    · exact hund.notReserved (by simpa [View.publishCatalog] using hmem)
  | catalogReleases hq => exact hv.keeps (Keeps.catalog hv hq fun _ => rfl)
  | catalogIgnores hq => exact hv.keeps (Keeps.catalog hv hq id)
  | paymentCatalog hq heffect =>
    exact hv.keeps (Keeps.payment hv heffect (fun ht => by simp [hq, ht]) (mem_of_rest hq))
  | paymentSkipsCatalog hq =>
    exact hv.keeps { Keeps.refl hv with paymentCatalog := mem_of_rest hq }
  | paymentOrders hq ht heffect =>
    exact hv.keeps (Keeps.payment hv heffect (fun h => absurd h ht) fun _ => id)
  | paymentSkipsOrders => exact hv.keeps { Keeps.refl hv with }
  | paymentPayments hq ht heffect =>
    exact hv.keeps (Keeps.payment hv heffect (fun h => absurd h ht) fun _ => id)
  | paymentSkipsPayments => exact hv.keeps { Keeps.refl hv with }

/-! ## The reservation of a cancelled order -/

/-- The catalog will hear of the cancellation of an order that it has reserved or may reserve. -/
def Released (v : View) : Prop :=
  v.status = some .cancelled → v.reserved = true ∨ .orderCreated ∈ v.catalogOrders →
    .orderCancelled ∈ v.catalogOrders

theorem released_initial : Released View.initial := fun hstatus => absurd hstatus (by decide)

theorem released_step {v v' : View} {a : Action} (hv : Coherent v) (hrel : Released v)
    (h : ViewStep v a v') : Released v' := by
  intro hstatus hcases
  cases h with
  | stutter => exact hrel hstatus hcases
  | create => exact nomatch hstatus
  | cancel => exact List.mem_append_right _ (List.mem_singleton_self _)
  | timeOut => exact hrel hstatus hcases
  | orderReserved => exact nomatch hstatus
  | orderRefused hq =>
    -- no OrderCancelled follows, but an order that was refused has no reservation
    have href := hv.refused (by simp [hq])
    rcases hcases with hres | hmem
    · exact absurd href.reserved (by simpa using hres)
    · exact absurd hmem href.decided
  | orderSkipsCatalog => exact hrel hstatus hcases
  | orderConfirmed => exact nomatch hstatus
  | orderFailed => exact List.mem_append_right _ (List.mem_singleton_self _)
  | orderSkipsPayments => exact hrel hstatus hcases
  | catalogReserves reserved hq =>
    -- the order was cancelled before OrderCreated was read: OrderCancelled follows it
    exact mem_rest hq (hrel hstatus (.inr (by simp [hq]))) (by decide)
  | catalogRefuses hq =>
    exact mem_rest hq (hrel hstatus (.inr (by simp [hq]))) (by decide)
  | catalogReleases hq =>
    -- OrderCreated was read before, so nothing can be reserved again
    have hcreated := hv.created
    rw [hq] at hcreated
    exact absurd hcases (by simpa using hcreated)
  | catalogIgnores hq ht ht' =>
    exact mem_rest hq (hrel hstatus (hcases.imp id (mem_of_rest hq _))) ht'.symm
  | paymentCatalog => exact hrel hstatus hcases
  | paymentSkipsCatalog => exact hrel hstatus hcases
  | paymentOrders => exact hrel hstatus hcases
  | paymentSkipsOrders => exact hrel hstatus hcases
  | paymentPayments => exact hrel hstatus hcases
  | paymentSkipsPayments => exact hrel hstatus hcases

/-! ## The authorization of a cancelled order -/

/-- The payment service will hear of the cancellation of an order that it has authorized. -/
def Voided (v : View) : Prop :=
  v.status = some .cancelled → v.pay = .authorized → .orderCancelled ∈ v.paymentOrders

theorem voided_initial : Voided View.initial := fun hstatus => absurd hstatus (by decide)

/-- The gateway agrees to a void. -/
def Action.Voids : Action → Prop
  | .other => True
  | .deliver _ _ _ voids => voids

/-- InventoryReserved does not reach the payment service after OrderCancelled. -/
def NotOvertaken (v : View) : Action → Prop
  | .deliver .payment .catalogEvents _ _ => v.paymentCatalog.head? = some .inventoryReserved →
    v.status = some .cancelled → .orderCancelled ∈ v.paymentOrders
  | _ => True

theorem voided_step {v v' : View} {a : Action} (hv : Coherent v) (hvoid : Voided v)
    (hvoids : a.Voids) (hcond : NotOvertaken v a) (h : ViewStep v a v') : Voided v' := by
  intro hstatus hpay
  cases h with
  | stutter => exact hvoid hstatus hpay
  | create => exact nomatch hstatus
  | cancel => exact List.mem_append_right _ (List.mem_singleton_self _)
  | timeOut => exact hvoid hstatus hpay
  | orderReserved => exact nomatch hstatus
  | orderRefused hq =>
    -- an order that was refused is never authorized
    have hnew := (hv.refused (by simp [hq])).pay
    exact nomatch hnew.symm.trans hpay
  | orderSkipsCatalog => exact hvoid hstatus hpay
  | orderConfirmed => exact nomatch hstatus
  | orderFailed => exact List.mem_append_right _ (List.mem_singleton_self _)
  | orderSkipsPayments => exact hvoid hstatus hpay
  | catalogReserves => exact hvoid hstatus hpay
  | catalogRefuses => exact hvoid hstatus hpay
  | catalogReleases => exact hvoid hstatus hpay
  | catalogIgnores => exact hvoid hstatus hpay
  | paymentCatalog hq heffect =>
    cases hpay
    generalize hp : v.pay = pay at heffect
    cases heffect with
    | failed => exact hvoid hstatus hp
    | retried => exact hvoid hstatus hp
    | authorized => exact hcond (by simp [hq]) hstatus
  | paymentSkipsCatalog => exact hvoid hstatus hpay
  | paymentOrders hq ht heffect =>
    -- the event that is read is not OrderCancelled, as the payment is Authorized after it
    cases hpay
    generalize hp : v.pay = pay at heffect
    cases heffect with
    | failed h =>
      have hmem := hvoid hstatus hp
      rcases h with rfl | rfl | rfl
      · exact absurd rfl ht
      · exact mem_rest hq hmem (by decide)
      · exact mem_rest hq hmem (by decide)
    | retried h =>
      have hmem := hvoid hstatus hp
      rcases h with rfl | rfl
      · exact mem_rest hq hmem (by decide)
      · exact mem_rest hq hmem (by decide)
    | authorized => exact absurd rfl ht
  | paymentSkipsOrders hq h =>
    -- nor is OrderCancelled skipped while the payment is Authorized
    exact mem_rest hq (hvoid hstatus hpay) fun ht => h ht.symm hvoids hpay
  | paymentPayments hq ht heffect =>
    cases hpay
    generalize hp : v.pay = pay at heffect
    cases heffect with
    | failed => exact hvoid hstatus hp
    | retried => exact hvoid hstatus hp
    | authorized => exact absurd rfl ht
  | paymentSkipsPayments => exact hvoid hstatus hpay

/-! ## The order of an authorized payment -/

/-- The order service has settled an order whose money is held, or will hear of the payment. -/
def Settled (v : View) : Prop :=
  v.pay = .authorized ∨ v.pay = .captured →
    (v.status = some .confirmed ∨ v.status = some .cancelled) ∨
      .paymentAuthorized ∈ v.orderPayments

theorem settled_initial : Settled View.initial := fun hpay => absurd hpay (by decide)

/-- PaymentAuthorized is not dropped while the order is still Pending. -/
def NotDropped (v : View) : Action → Prop
  | .deliver .order .paymentsEvents last _ => v.orderPayments.head? = some .paymentAuthorized →
    v.status = some .pending → ¬ last
  | _ => True

/-- No money is held for an order that does not exist. -/
theorem Coherent.born {v : View} (hv : Coherent v)
    (hpay : v.pay = .authorized ∨ v.pay = .captured) : v.status ≠ none := by
  intro hnone
  rw [(hv.unborn hnone).2.pay] at hpay
  exact absurd hpay (by decide)

/-- The payment service handles an event. -/
theorem Settled.payment {v v' : View} (hset : Settled v) {t t' : EventType}
    (heffect : StateEffect t v.pay v'.pay t') (hstatus : v'.status = v.status)
    (hq : v'.orderPayments = v.orderPayments ++ [t']) : Settled v' := by
  intro hpay
  rw [hstatus, hq, List.mem_append]
  generalize hp : v.pay = p, v'.pay = p' at heffect hpay
  cases heffect with
  | failed => exact (hset (hp ▸ hpay)).imp id .inl
  | retried => exact (hset (hp ▸ hpay)).imp id .inl
  | authorized => exact .inr (.inr (List.mem_singleton_self _))
  | captured => exact (hset (.inl hp)).imp id .inl
  | voided => exact absurd hpay (by decide)

theorem settled_step {v v' : View} {a : Action} (hv : Coherent v) (hset : Settled v)
    (hcond : NotDropped v a) (h : ViewStep v a v') : Settled v' := by
  cases h with
  | stutter => exact hset
  | create h =>
    exact fun hpay => absurd h (hv.born hpay)
  | cancel => exact fun _ => .inl (.inr rfl)
  | timeOut => exact fun hpay => (hset hpay).imp id (List.mem_append_left _)
  | orderReserved hq h =>
    -- the order was Pending, so PaymentAuthorized is still to come
    intro hpay
    have hsettled := hset hpay
    rw [h] at hsettled
    exact .inr (hsettled.resolve_left (by decide))
  | orderRefused => exact fun _ => .inl (.inr rfl)
  | orderSkipsCatalog => exact hset
  | orderConfirmed => exact fun _ => .inl (.inl rfl)
  | orderFailed => exact fun _ => .inl (.inr rfl)
  | orderSkipsPayments hq h =>
    intro hpay
    rcases hset hpay with hset | hmem
    · exact .inl hset
    rw [hq] at hmem
    rcases List.mem_cons.mp hmem with ht | hmem
    · -- PaymentAuthorized is dropped: the order is neither Pending nor InventoryReserved
      obtain ⟨hnot, hlast⟩ := h ht.symm
      have hpending : v.status ≠ some .pending := fun hp => hcond (by simp [hq, ht]) hp hlast
      have hstatuses := hv.statuses
      simp only [List.mem_cons, hnot, hpending, hv.born hpay, List.not_mem_nil, false_or,
        or_false] at hstatuses
      exact .inl hstatuses
    · exact .inr hmem
  | catalogReserves => exact hset
  | catalogRefuses => exact hset
  | catalogReleases => exact hset
  | catalogIgnores => exact hset
  | paymentCatalog hq heffect => exact hset.payment heffect rfl rfl
  | paymentSkipsCatalog => exact hset
  | paymentOrders hq ht heffect => exact hset.payment heffect rfl rfl
  | paymentSkipsOrders => exact hset
  | paymentPayments hq ht heffect => exact hset.payment heffect rfl rfl
  | paymentSkipsPayments => exact hset

end Koupang.Saga
