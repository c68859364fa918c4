import Mathlib.Data.List.DropRight
import Koupang.Model.Payment

/-!
# Circuit breaker

The model of `shared/src/circuit_breaker.rs`, and of the decorator of the payment
gateway in `payment/src/gateway/circuit_breaker.rs`. The mutex makes each call on
the breaker atomic; between `pre_call` and `record_outcome` of a gateway call
anything can happen, and the call may be dropped before it is answered.

The threshold and the ratio are `f64` in the source. The breaker only divides and
compares them, so their type is a parameter.
-/

namespace Koupang.CircuitBreaker

open Payment (GatewayError)

/-! ## Breaker -/

/-- Durations are in microseconds. -/
structure CircuitBreakerConfig (F : Type) where
  /-- Number of recent calls tracked in the sliding window. -/
  windowSize : Nat
  /-- Fraction of failures (0.0–1.0) that trips the breaker. -/
  failureThreshold : F
  /-- How long the breaker stays open before allowing a probe. -/
  cooldown : Nat

instance {F : Type} [OfScientific F] : Inhabited (CircuitBreakerConfig F) where
  default := { windowSize := 10, failureThreshold := 0.5, cooldown := 30000000 }

/-- `opened` is the status `Open`. -/
inductive BreakerStatus where
  | closed
  | opened
  | halfOpen
deriving DecidableEq, Repr

structure BreakerState where
  status : BreakerStatus := .closed
  /-- true = success, false = retryable failure; the oldest outcome comes first -/
  window : List Bool := []
  openedAt : Option Nat := none

structure CircuitOpenError where

variable {F : Type} (config : CircuitBreakerConfig F)

/-- Check whether a call should be allowed. If the circuit is open and the cooldown has
    elapsed, transitions to half-open and allows a probe. -/
def check (now : Nat) (state : BreakerState) : Except CircuitOpenError Unit × BreakerState :=
  match state.status with
  | .closed | .halfOpen => (.ok (), state)
  | .opened =>
    match state.openedAt with
    | some openedAt =>
      if now - openedAt ≥ config.cooldown then (.ok (), { state with status := .halfOpen })
      else (.error {}, state)
    | none => (.ok (), { state with status := .halfOpen })

def pushResult (success : Bool) (state : BreakerState) : BreakerState :=
  let window := if state.window.length ≥ config.windowSize then state.window.tail else state.window
  { state with window := window ++ [success] }

/-- `failures / len`, for a window that is not empty -/
def failureRatio [NatCast F] [Div F] (window : List Bool) : F :=
  (window.count false : F) / (window.length : F)

def shouldTrip [NatCast F] [Div F] [LE F] [DecidableLE F] (state : BreakerState) : Bool :=
  if state.window.length < config.windowSize then false
  else failureRatio state.window ≥ config.failureThreshold

/-- Record a successful call. Closes the breaker if in half-open state. -/
def recordSuccess (state : BreakerState) : BreakerState :=
  let state := pushResult config true state
  if state.status = .halfOpen then { state with status := .closed, openedAt := none } else state

/-- Record a retryable failure. May trip the breaker. -/
def recordRetryableFailure [NatCast F] [Div F] [LE F] [DecidableLE F] (now : Nat)
    (state : BreakerState) : BreakerState :=
  let state := pushResult config false state
  match state.status with
  | .halfOpen => { state with status := .opened, openedAt := some now }
  | .closed =>
    if shouldTrip config state then { state with status := .opened, openedAt := some now }
    else state
  | .opened => state

/-! ## Calls on the breaker -/

/-- `recorded` holds all the outcomes, the oldest first; nothing reads it. -/
structure State where
  now : Nat := 0
  breaker : BreakerState := {}
  recorded : List Bool := []

inductive Label where
  | check
  | recordSuccess
  | recordRetryableFailure
  | tick (duration : Nat)

/-- One call on the breaker; all of them are always possible. -/
def step [NatCast F] [Div F] [LE F] [DecidableLE F] (s : State) : Label → Option State
  | .check => some { s with breaker := (check config s.now s.breaker).2 }
  | .recordSuccess =>
    some { s with breaker := recordSuccess config s.breaker
                  recorded := s.recorded ++ [true] }
  | .recordRetryableFailure =>
    some { s with breaker := recordRetryableFailure config s.now s.breaker
                  recorded := s.recorded ++ [false] }
  | .tick duration => some { s with now := s.now + duration }

/-! ## Gateway -/

/-- The calls of the gateway, with their arguments. -/
inductive GatewayCall where
  | authorize (idempotencyKey : String) (orderId : Uuid) (amount : Decimal) (currency : String)
  | capture (gatewayReference : String)
  | void (gatewayReference : String)
  | refund (gatewayReference : String) (amount : Decimal)
deriving DecidableEq

/-- The status is checked; an open circuit is an error of the gateway. -/
def preCall (now : Nat) (state : BreakerState) : Except GatewayError Unit × BreakerState :=
  let (allowed, state) := check config now state
  (allowed.mapError fun _ =>
    { code := "CIRCUIT_OPEN"
      message := "Circuit breaker is open — gateway temporarily unavailable"
      isRetryable := true }, state)

def recordOutcome [NatCast F] [Div F] [LE F] [DecidableLE F] (now : Nat)
    (err : Option GatewayError) (state : BreakerState) : BreakerState :=
  match err with
  | none => recordSuccess config state
  | some e =>
    -- a business decline is not recorded
    if e.isRetryable then recordRetryableFailure config now state else state

/-- `CircuitBreakerGateway` in front of `inner`, as the one call sees it that a handler makes at
    `now`, when it finds the breaker in `state`. `Gateway.step` says what its calls make of the
    breaker. -/
def circuitBreakerGateway (now : Nat) (state : BreakerState) (inner : Payment.PaymentGateway) :
    Payment.PaymentGateway where
  authorize idempotencyKey orderId amount currency := do
    (preCall config now state).1
    inner.authorize idempotencyKey orderId amount currency
  capture gatewayReference := do
    (preCall config now state).1
    inner.capture gatewayReference
  void gatewayReference := do
    (preCall config now state).1
    inner.void gatewayReference

namespace Gateway

inductive Event where
  | halfOpened
  /-- the inner gateway is called -/
  | letThrough (call : GatewayCall)
  | recorded
deriving DecidableEq

/-- Where a call is: with the inner gateway, or ended, with the error that it returned. -/
inductive Pc where
  | inner
  | returned (err : Option GatewayError)
  | dropped

structure State where
  now : Nat := 0
  breaker : BreakerState := {}
  calls : List Pc := []
  /-- newest first; nothing reads it -/
  trace : List Event := []

inductive Label where
  | tick (duration : Nat)
  | start (call : GatewayCall)
  /-- the inner gateway answers call `i` -/
  | answer (i : Nat) (err : Option GatewayError)
  /-- the caller no longer waits for call `i` -/
  | drop (i : Nat)

/-- `authorize`, `capture`, `void` and `refund` up to the call of the inner gateway, and from its
    answer on. They differ in nothing but the inner call. -/
def step [NatCast F] [Div F] [LE F] [DecidableLE F] (s : State) : Label → Option State
  | .tick duration => some { s with now := s.now + duration }
  | .start call =>
    match preCall config s.now s.breaker with
    | (.ok (), breaker) =>
      let halfOpened := if s.breaker.status ≠ .halfOpen ∧ breaker.status = .halfOpen
        then [Event.halfOpened] else []
      some { s with breaker, calls := s.calls ++ [.inner]
                    trace := .letThrough call :: halfOpened ++ s.trace }
    | (.error e, breaker) => some { s with breaker, calls := s.calls ++ [.returned (some e)] }
  | .answer i err =>
    match s.calls[i]? with
    | some .inner =>
      let recorded := match err with
        | none => [Event.recorded]
        | some e => if e.isRetryable then [Event.recorded] else []
      some { s with breaker := recordOutcome config s.now err s.breaker
                    calls := s.calls.set i (.returned err)
                    trace := recorded ++ s.trace }
    | _ => none
  | .drop i =>
    match s.calls[i]? with
    | some .inner => some { s with calls := s.calls.set i .dropped }
    | _ => none

end Gateway

end Koupang.CircuitBreaker
