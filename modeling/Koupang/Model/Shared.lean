import Mathlib.Data.Rat.Floor
import Koupang.ForStd.Tx
import Koupang.Model.Text

/-!
# Shared types of the services

Errors, identifiers, money and the event envelope of `shared/`, together with
`insert_outbox_event`, which every service calls inside its own transaction.

A JSON payload is modelled by what the handlers look up in it: a field is
`none` when it is missing or does not have the shape the handler asks for
(`payload["reason"].as_str()` and the like).
-/

namespace Koupang

/-! ## Identifiers, money, errors -/

/-- A version 7 UUID: who generated it, and that generator's serial number. -/
structure Uuid where
  node : Nat
  serial : Nat
deriving DecidableEq, Repr

instance : ToString Uuid := ⟨fun u => s!"{u.node}-{u.serial}"⟩

/-- The value of a `rust_decimal::Decimal`. -/
abbrev Decimal := ℚ

/-- The text form of a decimal in a payload: either it parses to a value, or it does not. -/
inductive DecimalText where
  | decimal (d : Decimal)
  | other (text : String)
deriving DecidableEq

/-- `s.parse::<Decimal>().ok()` -/
def DecimalText.parse : DecimalText → Option Decimal
  | .decimal d => some d
  | .other _ => none

/-- Storing a value in a `NUMERIC(19, 4)` column rounds it, halves away from zero. -/
def roundNumeric (d : Decimal) : Decimal :=
  let units : ℤ := if 0 ≤ d then ⌊d * 10000 + 1 / 2⌋ else -⌊-d * 10000 + 1 / 2⌋
  (units : ℚ) / 10000

/-- `NUMERIC(19, 4)` holds values of absolute value below 10^15. -/
def numeric19_4 (d : Decimal) : Except String Decimal :=
  let r := roundNumeric d
  if -1000000000000000 < r ∧ r < 1000000000000000 then .ok r
  else .error "numeric field overflow"

/-- Storing text in a `VARCHAR(n)` column: overlong text is rejected unless only
    spaces are cut off. -/
def varchar (n : Nat) (s : String) : Except String String :=
  if s.length ≤ n then .ok s
  else if (s.toList.drop n).all (· = ' ') then .ok (String.ofList (s.toList.take n))
  else .error s!"value too long for type character varying({n})"

/-- A 32-bit `INTEGER` column. -/
def int4 (i : Int) : Except String Int :=
  if -2147483648 ≤ i ∧ i ≤ 2147483647 then .ok i else .error "integer out of range"

/-- Rust's `as i32` on a wider integer. -/
def asI32 (i : Int) : Int := Int.bmod i 4294967296

/-- Rust's `as u32` on a wider unsigned integer. -/
def asU32 (n : Nat) : Nat := n % 4294967296

inductive AppError where
  | notFound (msg : String)
  | forbidden (msg : String)
  | unauthorized (msg : String)
  | alreadyExists (msg : String)
  | internalServerError (msg : String)
  | badRequest (msg : String)
deriving DecidableEq, Repr

def AppError.toString : AppError → String
  | .notFound m => s!"Not found: {m}"
  | .forbidden m => s!"Forbidden: {m}"
  | .unauthorized m => s!"Unauthorized: {m}"
  | .alreadyExists m => s!"Already exists: {m}"
  | .internalServerError m => s!"Internal server error: {m}"
  | .badRequest m => s!"Bad request: {m}"

instance : ToString AppError := ⟨AppError.toString⟩

/-- Error of an `EventHandler`: `transient` is retried, `permanent` goes straight to the DLQ. -/
inductive HandlerError where
  | transient (msg : String)
  | permanent (msg : String)
deriving DecidableEq, Repr

def HandlerError.isTransient : HandlerError → Bool
  | .transient _ => true
  | .permanent _ => false

/-- What sqlx reports when `fetch_one` finds no row. -/
def rowNotFound : String :=
  "no rows returned by a query that expected to return at least one row"

/-- `validated_name!`: a trimmed text that is not empty and not too long. -/
def validatedName (display : String) (maxLen : Nat) (input : String) : Except AppError String :=
  let trimmed := Text.trim input
  if trimmed.isEmpty then .error (.badRequest s!"{display} must not be empty")
  else if Text.len trimmed > maxLen then
    .error (.badRequest s!"{display} must not exceed {maxLen} characters")
  else .ok trimmed

/-! ## Callers -/

inductive Role where
  | buyer
  | seller
  | admin
deriving DecidableEq, Repr

structure CurrentUser where
  id : Uuid
  role : Role
deriving DecidableEq, Repr

def CurrentUser.canAccess (user : CurrentUser) (targetUserId : Uuid) : Bool :=
  user.id = targetUserId || user.role = .admin

def requireAccess (user : CurrentUser) (resourceOwnerId : Uuid) : Except AppError Unit :=
  if user.canAccess resourceOwnerId then .ok ()
  else .error (.forbidden "You don't have permission to access this resource")

/-! ## Events -/

inductive SourceService where
  | identity
  | catalog
  | cart
  | order
  | payment
  | shipping
  | notification
deriving DecidableEq, Repr

inductive AggregateType where
  | order
  | payment
  | inventory
deriving DecidableEq, Repr

inductive EventType where
  | orderCreated
  | orderConfirmed
  | orderCancelled
  | inventoryReserved
  | inventoryReservationFailed
  | inventoryReleased
  | paymentAuthorized
  | paymentFailed
  | paymentCaptured
  | paymentVoided
  | paymentTimedOut
  | paymentCaptureRetryRequested
deriving DecidableEq, Repr

/-- The PascalCase name on the wire. -/
def EventType.toString : EventType → String
  | .orderCreated => "OrderCreated"
  | .orderConfirmed => "OrderConfirmed"
  | .orderCancelled => "OrderCancelled"
  | .inventoryReserved => "InventoryReserved"
  | .inventoryReservationFailed => "InventoryReservationFailed"
  | .inventoryReleased => "InventoryReleased"
  | .paymentAuthorized => "PaymentAuthorized"
  | .paymentFailed => "PaymentFailed"
  | .paymentCaptured => "PaymentCaptured"
  | .paymentVoided => "PaymentVoided"
  | .paymentTimedOut => "PaymentTimedOut"
  | .paymentCaptureRetryRequested => "PaymentCaptureRetryRequested"

instance : ToString EventType := ⟨EventType.toString⟩

structure EventMetadata where
  eventId : Uuid
  eventType : EventType
  aggregateType : AggregateType
  aggregateId : Uuid
  sourceService : SourceService
  causationId : Option Uuid := none
deriving DecidableEq, Repr

/-- One element of a payload's `items` array. -/
structure ItemPayload where
  productId : Option Uuid := none
  skuId : Option Uuid := none
  quantity : Option Int := none
  unitPrice : Option DecimalText := none
deriving DecidableEq

/-- The fields the services write into and look up in a JSON payload. -/
structure Payload where
  orderId : Option Uuid := none
  buyerId : Option Uuid := none
  totalAmount : Option DecimalText := none
  currency : Option String := none
  items : Option (List ItemPayload) := none
  reason : Option String := none
  retryCount : Option Nat := none
  paymentId : Option Uuid := none
  gatewayReference : Option String := none
deriving DecidableEq

structure EventEnvelope where
  metadata : EventMetadata
  payload : Payload
deriving DecidableEq

namespace EventEnvelope

abbrev eventType (env : EventEnvelope) : EventType := env.metadata.eventType

/-- `payload_uuid("order_id")` -/
def payloadOrderId (env : EventEnvelope) : Except AppError Uuid :=
  match env.payload.orderId with
  | some id => .ok id
  | none => .error (.badRequest s!"Missing or invalid order_id in {env.eventType} payload")

/-- `payload_uuid("buyer_id")` -/
def payloadBuyerId (env : EventEnvelope) : Except AppError Uuid :=
  match env.payload.buyerId with
  | some id => .ok id
  | none => .error (.badRequest s!"Missing or invalid buyer_id in {env.eventType} payload")

/-- A payload without free text and without an item list, so of bounded length. -/
def IsShort (env : EventEnvelope) : Prop :=
  env.payload.reason = none ∧ env.payload.items = none ∧ env.payload.gatewayReference = none ∧
    env.payload.totalAmount = none ∧ env.payload.currency = none

end EventEnvelope

inductive Topic where
  | ordersEvents
  | catalogEvents
  | paymentsEvents
deriving DecidableEq, Repr

/-! ## Transactional outbox -/

/-- `MAX_PAYLOAD_BYTES` -/
def maxPayloadBytes : Nat := 900000

/-- The text that `serde_json` renders an envelope to; only its length matters here.
    An envelope that carries identifiers and constants only has a few hundred bytes. -/
class SerdeJson where
  payloadBytes : EventEnvelope → Nat
  payloadBytes_short : ∀ env, env.IsShort → payloadBytes env ≤ maxPayloadBytes

/-- An estimate of the rendered size from above: the keys and the fixed-width fields, and
    six bytes (an escape) for every byte of text. -/
def EventEnvelope.renderedBytes (env : EventEnvelope) : Nat :=
  let text (s : Option String) : Nat := (s.map fun t => 6 * t.utf8ByteSize).getD 0
  let amount : Nat := match env.payload.totalAmount with
    | some (.other t) => 6 * t.utf8ByteSize
    | _ => 40
  1000 + text env.payload.reason + text env.payload.currency +
    text env.payload.gatewayReference + amount + 250 * (env.payload.items.getD []).length

instance : SerdeJson where
  payloadBytes := EventEnvelope.renderedBytes
  payloadBytes_short env h := by
    obtain ⟨hreason, hitems, hgateway, hamount, hcurrency⟩ := h
    simp [EventEnvelope.renderedBytes, hreason, hitems, hgateway, hamount, hcurrency,
      maxPayloadBytes]

/-- The envelope with the nil UUID in place of every identifier. -/
def EventEnvelope.blankIds (env : EventEnvelope) : EventEnvelope :=
  let nil : Uuid := ⟨0, 0⟩
  let blank (id : Option Uuid) : Option Uuid := id.map fun _ => nil
  let item (i : ItemPayload) : ItemPayload :=
    { i with productId := blank i.productId, skuId := blank i.skuId }
  { metadata := { env.metadata with eventId := nil, aggregateId := nil
                                    causationId := blank env.metadata.causationId }
    payload := { env.payload with orderId := blank env.payload.orderId
                                  buyerId := blank env.payload.buyerId
                                  items := env.payload.items.map (·.map item)
                                  paymentId := blank env.payload.paymentId } }

/-- Every UUID is rendered in the same width. -/
class SerdeJson.FixedWidthIds [SerdeJson] : Prop where
  payloadBytes_blankIds : ∀ env : EventEnvelope, payloadBytes env.blankIds = payloadBytes env

instance : SerdeJson.FixedWidthIds where
  payloadBytes_blankIds env := by
    simp only [SerdeJson.payloadBytes, EventEnvelope.renderedBytes, EventEnvelope.blankIds]
    cases env.payload.items <;> simp

/-- A text of a hundred bytes adds at most six bytes (an escape) for each of them. -/
class SerdeJson.ShortTexts [SerdeJson] : Prop where
  payloadBytes_reason : ∀ (env : EventEnvelope) (reason : String), env.IsShort →
    reason.utf8ByteSize ≤ 100 →
    payloadBytes { env with payload := { env.payload with reason := some reason } } ≤
      maxPayloadBytes

instance : SerdeJson.ShortTexts where
  payloadBytes_reason env reason h hreason := by
    obtain ⟨-, hitems, hgateway, hamount, hcurrency⟩ := h
    simp only [SerdeJson.payloadBytes, EventEnvelope.renderedBytes, hitems, hgateway, hamount,
      hcurrency, maxPayloadBytes, Option.map_some, Option.map_none, Option.getD_some,
      Option.getD_none, List.length_nil]
    omega

/-- The estimate is one: no field is rendered wider. -/
class SerdeJson.Estimated [SerdeJson] : Prop where
  payloadBytes_le : ∀ env : EventEnvelope, payloadBytes env ≤ env.renderedBytes

instance : SerdeJson.Estimated where
  payloadBytes_le env := Nat.le_refl env.renderedBytes

/-- A row to insert into `outbox_events`. The other columns of `OutboxInsert` are
    copies of the envelope's metadata. -/
structure OutboxInsert where
  topic : Topic
  envelope : EventEnvelope
deriving DecidableEq

/-- Tables of a service that has an `outbox_events` table and its UUID generator. -/
class HasOutbox (σ : Type) where
  outbox : σ → List OutboxInsert
  setOutbox : σ → List OutboxInsert → σ
  /-- generator of this service, and how many UUIDs it has handed out -/
  node : Nat
  uuids : σ → Nat
  setUuids : σ → Nat → σ

section Outbox

variable {σ : Type} [HasOutbox σ]

/-- `Uuid::now_v7()`, and `DEFAULT uuidv7()` of the tables. -/
def nowV7 (db : σ) : Uuid × σ :=
  (⟨HasOutbox.node σ, HasOutbox.uuids db⟩, HasOutbox.setUuids db (HasOutbox.uuids db + 1))

/-- The `INSERT` of `insert_outbox_event`. -/
def insertOutboxRow (insert : OutboxInsert) (db : σ) : Unit × σ :=
  ((), HasOutbox.setOutbox db (HasOutbox.outbox db ++ [insert]))

variable [SerdeJson]

/-- Insert an event into the outbox, rejecting payloads over the size limit. -/
def insertOutboxEvent (insert : OutboxInsert) : Tx AppError σ Unit := do
  let payloadBytes := SerdeJson.payloadBytes insert.envelope
  if payloadBytes > maxPayloadBytes then
    throw (.badRequest
      s!"Outbox payload too large: {payloadBytes} bytes exceeds {maxPayloadBytes} byte limit")
  Tx.statement .internalServerError fun db => .ok (insertOutboxRow insert db)

end Outbox

/-- `with_transaction`: run the closure in a transaction of its own. Committing an
    aborted transaction succeeds, as a rollback. -/
def withTransaction {σ α : Type} (x : Tx AppError σ α) (db : σ) : Except String (α × σ) :=
  match Tx.attempt x db with
  | .committed a db => .ok (a, db)
  | .aborted a db => .ok (a, db)
  | .failed e _ => .error (toString e)

end Koupang
