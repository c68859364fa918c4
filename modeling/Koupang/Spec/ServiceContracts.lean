import Koupang.Spec.CreateOrder
import Koupang.Spec.SagaCausality

/-!
# What the services assume of each other

The order service and the payment service judge an order by rule trees of their
own, and the amounts and items of an order travel between three services as JSON
that each of them reads with its own defaults.

## Key results

- `admission_agreement`: an order that is created is rejected by the payment rules only for
  being too large
- `payload_round_trip`: what the catalog and the payment service decode is what was validated
-/

namespace Koupang.Saga

open Koupang.Order (Admitted CreateOrderReq OrderDb OrderEntity ValidCreateOrderReq
  ValidCreateOrderItem createOrder creationContext creationRules evalCreation eventTypeOf
  sampleReq sampleBuyer)
open Koupang.Catalog (CatalogDb parseItems)
open Koupang.Payment (PaymentGateway PaymentState authorizePaymentOnTx maxPaymentAmount
  validateAuthorization validateAuthorization_iff)

/-! ## Admission -/

/-- What the creation rules check. -/
theorem passed_creationRules {valid : ValidCreateOrderReq} :
    (creationRules.evaluateDetailed (evalCreation (creationContext valid))).passed = true ↔
      (creationContext valid).itemCount > 0 ∧
      (creationContext valid).itemCount ≤ Order.maxItemsPerOrder ∧
      valid.totalAmount ≥ Order.minOrderAmount ∧ valid.currency ∈ Order.supportedCurrencies ∧
      (creationContext valid).shippingComplete = true ∧
      (creationContext valid).allPricesPositive = true := by
  rw [creationRules, Rule.passed_all_check]
  simp [evalCreation, creationContext]

/-- An admitted order passes the payment rules in state New exactly up to their maximum: the
    other service sets a higher minimum, supports the same currencies and has no maximum. -/
theorem admission_agreement {key : String} {req : CreateOrderReq} {valid : ValidCreateOrderReq}
    (h : Admitted key req valid) :
    validateAuthorization valid.totalAmount valid.currency .new = .ok () ↔
      valid.totalAmount ≤ maxPaymentAmount := by
  obtain ⟨-, -, htotal, hcurrency, -, -⟩ := passed_creationRules.mp h.passed
  have hmin : Payment.minPaymentAmount ≤ valid.totalAmount := by
    have hle : Payment.minPaymentAmount ≤ Order.minOrderAmount := by
      norm_num [Payment.minPaymentAmount, Order.minOrderAmount]
    exact hle.trans htotal
  rw [validateAuthorization_iff]
  constructor
  · intro hpayment
    exact hpayment.2.1
  · intro hmax
    exact ⟨hmin, hmax, hcurrency, .inl rfl⟩

/-- Ten pieces at 10,001 USD each. -/
def hugeReq : CreateOrderReq :=
  { sampleReq with items := sampleReq.items.map fun i =>
      { i with quantity := 10, unitPrice := 10001 } }

/-- The order service accepts an order that the payment service will refuse. -/
theorem admitted_too_large : ∃ order db, createOrder sampleBuyer "key-1" hugeReq {} =
    .ok (order, db) ∧ order.totalAmount = 100010 ∧
    validateAuthorization order.totalAmount order.currency .new ≠ .ok () := by
  have hrun : ((createOrder sampleBuyer "key-1" hugeReq {}).map fun p =>
      p.1.totalAmount).toOption = some 100010 := by decide +kernel
  cases hcreated : createOrder sampleBuyer "key-1" hugeReq {} with
  | error e =>
    rw [hcreated] at hrun
    cases hrun
  | ok p =>
    obtain ⟨order, db⟩ := p
    rw [hcreated] at hrun
    have htotal : order.totalAmount = 100010 := Option.some.inj hrun
    refine ⟨order, db, rfl, htotal, ?_⟩
    rw [Ne, validateAuthorization_iff]
    intro hpayment
    have hmax := hpayment.2.1
    rw [htotal] at hmax
    norm_num [maxPaymentAmount] at hmax

/-- The sample order is small enough. -/
theorem admission_agreement_sample : ∃ valid, Admitted "key-1" sampleReq valid ∧
    validateAuthorization valid.totalAmount valid.currency .new = .ok () := by
  have hrun : ((ValidCreateOrderReq.new "key-1" sampleReq).map fun valid =>
      decide ((creationRules.evaluateDetailed (evalCreation (creationContext valid))).passed = true
        ∧ valid.totalAmount ≤ maxPaymentAmount)).toOption = some true := by decide +kernel
  cases hvalid : ValidCreateOrderReq.new "key-1" sampleReq with
  | error e =>
    rw [hvalid] at hrun
    cases hrun
  | ok valid =>
    rw [hvalid] at hrun
    obtain ⟨hpassed, hmax⟩ := of_decide_eq_true (Option.some.inj hrun)
    exact ⟨valid, ⟨hvalid, hpassed⟩, (admission_agreement ⟨hvalid, hpassed⟩).mpr hmax⟩

/-! ## Payloads -/

theorem quantity_bounds {item : Order.CreateOrderItemReq} {valid : ValidCreateOrderItem}
    (h : ValidCreateOrderItem.new item = .ok valid) :
    0 < valid.quantity ∧ valid.quantity ≤ Order.maxOrderQuantity := by
  obtain ⟨rfl, hquantity, -⟩ := Order.validItem_new_iff.mp h
  exact hquantity

/-- A validated quantity fits an `i32`. -/
theorem quantity_inRange {item : Order.CreateOrderItemReq} {valid : ValidCreateOrderItem}
    (h : ValidCreateOrderItem.new item = .ok valid) : asI32 valid.quantity = valid.quantity := by
  obtain ⟨hpos, hmax⟩ := quantity_bounds h
  have hbound : Order.maxOrderQuantity = 9999 := rfl
  exact asI32_of_inRange (by omega) (by omega)

section Service

variable [SerdeJson]

/-- The event about reserved items carries the amounts that it was given. -/
theorem doReserveAndWriteEvent_payload {o buyerId : Uuid} {totalAmount : DecimalText}
    {currency : String} {items : List Catalog.ReservationItem} {s t : TxState CatalogDb} {u : Unit}
    (h : Catalog.doReserveAndWriteEvent o buyerId totalAmount currency items s = .ok u t) :
    ∃ ins, t.db.outbox = s.db.outbox ++ [ins] ∧ eventTypeOf ins = .inventoryReserved ∧
      ins.envelope.payload.orderId = some o ∧
      ins.envelope.payload.totalAmount = some totalAmount ∧
      ins.envelope.payload.currency = some currency := by
  simp only [Catalog.doReserveAndWriteEvent, Catalog.newMetadata, Tx.bind_ok, Tx.client_ok,
    Tx.pure_ok, insertOutboxEvent_ok] at h
  obtain ⟨_, _, hitems, _, _, ⟨_, _, ⟨rfl, rfl⟩, rfl, rfl⟩, -, -, rfl⟩ := h
  obtain ⟨db, rfl, -, hout⟩ := Catalog.forM_reserveInventory_ok hitems
  exact ⟨_, congrArg (· ++ [_]) hout, rfl, rfl, rfl, rfl⟩

theorem reserveForOrderOnTx_ok {o buyerId : Uuid} {totalAmount : DecimalText}
    {currency : String} {items : List Catalog.ReservationItem} {s t : TxState CatalogDb} {u : Unit}
    (h : Catalog.reserveForOrderOnTx o buyerId totalAmount currency items s = .ok u t) :
    Catalog.doReserveAndWriteEvent o buyerId totalAmount currency items s = .ok u t := by
  unfold Catalog.reserveForOrderOnTx at h
  split at h
  · rename_i hdo
    rw [hdo, h]
  · -- a failed reservation is reported, whether its event was written or not
    obtain ⟨_, _, -, h⟩ := Tx.bind_ok.mp h
    exact absurd h Tx.throw_ok

/-- The event that the catalog writes when it has reserved the items of an order. -/
theorem handle_orderCreated_payload {env : EventEnvelope} {db db' : CatalogDb}
    (henv : env.eventType = .orderCreated)
    (h : Tx.attempt (Catalog.handle env) db = .committed () db') :
    ∃ ins, db'.outbox = db.outbox ++ [ins] ∧ eventTypeOf ins = .inventoryReserved ∧
      ins.envelope.payload.orderId = env.payload.orderId ∧
      ins.envelope.payload.totalAmount = some (env.payload.totalAmount.getD (.decimal 0)) ∧
      ins.envelope.payload.currency = some (env.payload.currency.getD "USD") := by
  obtain ⟨s, hs, -, rfl⟩ := Tx.attempt_eq_committed.mp h
  simp only [Catalog.handle, henv, Catalog.handleOrderCreated, Tx.bind_ok, Tx.mapErr_ok,
    Tx.ofExcept_ok, payloadOrderId_ok] at hs
  obtain ⟨o, _, ⟨ho, rfl⟩, buyerId, _, ⟨-, rfl⟩, items, _, ⟨-, rfl⟩, hreserve⟩ := hs
  obtain ⟨ins, hout, htype, hid, hamount, hcurrency⟩ :=
    doReserveAndWriteEvent_payload (reserveForOrderOnTx_ok hreserve)
  exact ⟨ins, hout, htype, hid.trans ho.symm, hamount, hcurrency⟩

/-- The payment service is asked for what an InventoryReserved event says. -/
theorem handleInventoryReserved_eq {env : EventEnvelope} {o : Uuid} {amount : Decimal}
    {currency : String} (ho : env.payload.orderId = some o)
    (hamount : env.payload.totalAmount = some (.decimal amount))
    (hcurrency : env.payload.currency = some currency) (gateway : PaymentGateway) :
    Payment.handleInventoryReserved gateway env =
      authorizePaymentOnTx gateway o amount currency := by
  have hid : env.payloadOrderId = .ok o := payloadOrderId_ok.mpr ho
  unfold Payment.handleInventoryReserved
  rw [hid, hamount, hcurrency]
  rfl

/-- The event `ins` carries the validated order through the catalog to the payment service: the
    catalog decodes the items, and the payment service is asked for the total. -/
structure RoundTrips (o : Uuid) (valid : ValidCreateOrderReq) (ins : OutboxInsert) : Prop where
  eventType : eventTypeOf ins = .orderCreated
  /-- `parse_items` on the payload of OrderCreated -/
  items : parseItems ins.envelope.payload =
    .ok (valid.items.map fun i => (i.skuId, i.quantity))
  /-- `handle_inventory_reserved` on the payload that the catalog writes on its behalf -/
  amounts : ∀ env, env.eventType = .orderCreated → env.payload = ins.envelope.payload →
    ∀ catalog catalog' : CatalogDb, Tx.attempt (Catalog.handle env) catalog =
      .committed () catalog' →
    ∃ reserved, catalog'.outbox = catalog.outbox ++ [reserved] ∧
      eventTypeOf reserved = .inventoryReserved ∧
      ∀ env', env'.payload = reserved.envelope.payload →
        env'.payload.totalAmount.bind DecimalText.parse = some valid.totalAmount ∧
        env'.payload.currency.getD "USD" = valid.currency ∧
        ∀ gateway, Payment.handleInventoryReserved gateway env' =
          authorizePaymentOnTx gateway o valid.totalAmount valid.currency

theorem orderCreated_roundTrips {key : String} {req : CreateOrderReq}
    {valid : ValidCreateOrderReq} {o buyerId : Uuid} {ins : OutboxInsert}
    (hvalid : ValidCreateOrderReq.new key req = .ok valid)
    (htype : eventTypeOf ins = .orderCreated)
    (hpayload : ins.envelope.payload = Order.orderCreatedPayload o buyerId valid) :
    RoundTrips o valid ins where
  eventType := htype
  items := by
    have hrange : ∀ i ∈ valid.items, asI32 i.quantity = i.quantity :=
      Except.forall_of_mapM_ok (fun _ _ h => quantity_inRange h) (Order.validated_ok hvalid).2.1
    exact parseItems_ok (by rw [hpayload]; rfl) hrange
  amounts := by
    intro env henv heq catalog catalog' hcommitted
    obtain ⟨reserved, hout, hreserved, ho, hamount, hcurrency⟩ :=
      handle_orderCreated_payload henv hcommitted
    rw [heq, hpayload] at ho hamount hcurrency
    refine ⟨reserved, hout, hreserved, fun env' henv' => ?_⟩
    rw [← henv'] at ho hamount hcurrency
    refine ⟨?_, ?_, fun gateway => handleInventoryReserved_eq ho hamount hcurrency gateway⟩
    · rw [hamount]
      rfl
    · rw [hcurrency]
      rfl

/-- An accepted request writes nothing, when its key is known, or exactly one event, and that
    event round-trips. -/
theorem payload_round_trip {user : CurrentUser} {key : String} {req : CreateOrderReq}
    {db db' : OrderDb} {order : OrderEntity}
    (h : createOrder user key req db = .ok (order, db')) :
    ∃ valid, Admitted key req valid ∧
      ((Order.Repository.getOrderByIdempotencyKey valid.idempotencyKey db = some order ∧
        db' = db) ∨
      ∃ ins, db'.outbox = db.outbox ++ [ins] ∧ RoundTrips order.id valid ins) := by
  obtain ⟨valid, hadmitted, hcases⟩ := Order.createOrder_ok_iff.mp h
  refine ⟨valid, hadmitted, ?_⟩
  rcases hcases with hexisting | ⟨hnew, -⟩
  · exact .inl hexisting
  · obtain ⟨ins, hcreated⟩ := Order.createOrder_new h hadmitted hnew
    exact .inr ⟨ins, hcreated.outbox,
      orderCreated_roundTrips hadmitted.validated hcreated.eventType hcreated.payload⟩

end Service

theorem payload_round_trip_sample : ∃ order db valid ins,
    createOrder sampleBuyer "key-1" sampleReq {} = .ok (order, db) ∧ db.outbox = [ins] ∧
    RoundTrips order.id valid ins := by
  have hrun : (createOrder sampleBuyer "key-1" sampleReq {}).toOption.isSome = true := by
    decide +kernel
  cases hcreated : createOrder sampleBuyer "key-1" sampleReq {} with
  | error e =>
    rw [hcreated] at hrun
    cases hrun
  | ok p =>
    obtain ⟨order, db⟩ := p
    obtain ⟨valid, -, hcases⟩ := payload_round_trip hcreated
    rcases hcases with ⟨hexisting, -⟩ | ⟨ins, houtbox, hround⟩
    · -- there are no orders yet
      cases hexisting
    · exact ⟨order, db, valid, ins, rfl, houtbox, hround⟩

end Koupang.Saga
