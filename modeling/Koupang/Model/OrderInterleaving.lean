import Mathlib.Logic.Function.Basic
import Koupang.Model.Order

/-!
# Operations on one order, statement by statement

`cancel_order` and the event handlers read the status of the order, check the
transition on what they have read, and only later run `UPDATE orders SET
status = .. WHERE id = ..` and commit. Here any number of such operations on one
order interleave. Reads are under READ COMMITTED and take no lock, so they see
the last committed status. An `UPDATE` takes the lock of the row and waits
while another transaction holds it; its `WHERE` clause does not mention the
status, so once it has the lock it overwrites whatever was committed.
-/

namespace Koupang.Order.Interleaving

inductive Operation where
  | cancelOrder
  | handleInventoryReserved
  | handleInventoryReservationFailed
  | handlePaymentAuthorized
  | handlePaymentFailed
  | handlePaymentTimedOut
deriving DecidableEq, Repr

/-- The status that the operation checks the transition to. -/
def Operation.target : Operation → OrderStatus
  | .handleInventoryReserved => .inventoryReserved
  | .handlePaymentAuthorized => .paymentAuthorized
  | .cancelOrder | .handleInventoryReservationFailed | .handlePaymentFailed
  | .handlePaymentTimedOut => .cancelled

/-- The checks on the status that was read; a failing one ends the operation. -/
def Operation.check (op : Operation) (status : OrderStatus) : Bool :=
  match op with
  | .cancelOrder =>
    (cancellationRules.evaluateDetailed (evalCancellation { currentStatus := status })).passed &&
      (status.transitionTo .cancelled).isOk
  | op => (checkTransition status op.target).isOk

/-- The statuses that the `UPDATE` statements write. -/
def Operation.writes : Operation → List OrderStatus
  -- Auto-transition: PaymentAuthorized → Confirmed
  | .handlePaymentAuthorized => [.paymentAuthorized, .confirmed]
  | op => [op.target]

/-- An operation that has read the status and not yet ended. -/
structure Running where
  op : Operation
  readStatus : OrderStatus
  /-- written in its transaction, not yet committed -/
  written : List OrderStatus
  remaining : List OrderStatus
deriving DecidableEq, Repr

structure State where
  /-- the committed status of the order -/
  status : OrderStatus := .pending
  /-- status writes of committed transactions, in commit order -/
  history : List OrderStatus := [.pending]
  /-- the operation that holds the row's lock -/
  lock : Option Nat := none
  running : Nat → Option Running := fun _ => none

inductive Label where
  /-- operation `i` starts: it reads the status and checks it -/
  | read (i : Nat) (op : Operation)
  /-- the next `UPDATE` of operation `i` -/
  | update (i : Nat)
  | commit (i : Nat)
  /-- operation `i` fails, or its process dies -/
  | rollback (i : Nat)
deriving DecidableEq, Repr

def State.setRunning (s : State) (i : Nat) (r : Option Running) : State :=
  { s with running := Function.update s.running i r }

/-- Release the row's lock if operation `i` holds it. -/
def State.unlock (s : State) (i : Nat) : State :=
  { s with lock := if s.lock = some i then none else s.lock }

def step (s : State) : Label → Option State
  | .read i op =>
    if (s.running i).isSome then none
    else if op.check s.status then
      some (s.setRunning i
        (some { op, readStatus := s.status, written := [], remaining := op.writes }))
    else some s
  | .update i =>
    match s.running i with
    | some { op, readStatus, written, remaining := w :: remaining } =>
      if s.lock = none ∨ s.lock = some i then
        some ({ s with lock := some i }.setRunning i
          (some { op, readStatus, written := written ++ [w], remaining }))
      else none
    | _ => none
  | .commit i =>
    match s.running i with
    | some { written, remaining := [], .. } =>
      let committed : State :=
        { s with status := written.getLastD s.status, history := s.history ++ written }
      some ((committed.unlock i).setRunning i none)
    | _ => none
  | .rollback i =>
    match s.running i with
    | some _ => some ((s.unlock i).setRunning i none)
    | none => none

end Koupang.Order.Interleaving
