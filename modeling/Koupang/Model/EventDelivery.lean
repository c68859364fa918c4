import Koupang.Model.Consumer
import Koupang.Model.Outbox

/-!
# From the outbox to the consumers

The relays of an outbox, the topics they publish to, and the consumer groups on these
topics, put together: every step of the whole is a step of the relays or of one
consumer.

A producer that reports a failure may have written its record all the same. The
rows of `processed_events` are those of one group; here each partition has its own,
as an event is only ever in one partition.
-/

namespace Koupang.Delivery

structure Config where
  relays : Nat → Outbox.RelayConfig
  /-- `max_retries` of a consumer group -/
  maxRetries : Nat → Nat
  /-- the partition that an event goes to, of the topic it is for: the key of its record is the
      identifier of its aggregate -/
  partition : Uuid → Nat

structure State where
  outbox : Outbox.State := {}
  /-- the records of the topics, oldest first -/
  log : List Uuid := []
  /-- the consumer of each group on each partition -/
  consumers : Nat → Nat → Consumer.State := fun _ _ => {}

inductive Label where
  /-- a step of a relay or of the tables; when `publish` fails, the record may be `written` -/
  | outbox (label : Outbox.Label) (written : Bool)
  | consumer (group partition : Nat) (label : Consumer.Label)

/-- The messages of a partition. -/
def State.messages (config : Config) (s : State) (partition : Nat) : List Consumer.Message :=
  (s.log.filter (config.partition · = partition)).map some

/-- The records that a step of a relay adds to the topics. -/
def sends (s : Outbox.State) (label : Outbox.Label) (written : Bool) : List Uuid :=
  match label with
  | .publish r ok =>
    match s.relays r with
    | .working event .publish _ => if ok || written then [event.eventId] else []
    | _ => []
  | _ => []

def State.setConsumer (s : State) (group partition : Nat) (consumer : Consumer.State) : State :=
  let consumers := Function.update (s.consumers group) partition consumer
  { s with consumers := Function.update s.consumers group consumers }

def step (config : Config) (s : State) : Label → Option State
  | .outbox label written =>
    (Outbox.step config.relays s.outbox label).map fun outbox =>
      { s with outbox, log := s.log ++ sends s.outbox label written }
  | .consumer group partition label =>
    (Consumer.step (config.maxRetries group) (s.messages config partition)
      (s.consumers group partition) label).map (s.setConsumer group partition)

end Koupang.Delivery
