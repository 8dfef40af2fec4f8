import MinuteWindow.Ingest.Pipeline
/-! The event channel between the sources and the consumer.

Any number of producers (the line reader on standard input, one reader per TCP connection, a
posted batch) each hold a sender of one bounded channel and send their events into it in
order; the one consumer receives them first in, first out and records each with its timestamp
text. The channel holds at most `capacity` events. A send waits while the channel is full, and
fails, delivering nothing, once the consumer has ended. A receive takes the oldest event; on an
empty channel it waits while some producer still holds its sender, and otherwise ends the
consumer, which returns how many events it recorded.

The parties move one at a time. `Channel.step` is one move, `none` when the party cannot make
it now: a send into a full channel, a receive from an empty channel that a sender still holds
open, a move of a producer that has dropped its sender or of a consumer that has ended.
`Channel.run` makes the moves of a schedule in order, so each interleaving of the parties is one
schedule.

Each queued event carries the producer that sent it, and each producer keeps the events its
sends delivered. The parties never read either: they are what statements about delivery are
written in. -/
namespace MinuteWindow.Ingest
open Window Telemetry

/-- An event in the channel, with the producer that sent it. -/
structure Envelope where
  sender : Nat
  event : Event
  deriving DecidableEq, Repr

/-- A producer: whether it still holds its sender, and the events its sends delivered. -/
structure Producer where
  holding : Bool := true
  delivered : List Event := []
  deriving DecidableEq, Repr

/-- The consumer: the aggregator it records into with its counters, how many events it has
recorded, what it returned once it ended, and the events it received, in order. -/
structure Consumer where
  aggregator : Aggregator
  counters : Counters
  recorded : Nat := 0
  result : Option Nat := none
  received : List Envelope := []

/-- The consumer records one received event. -/
def Consumer.take (k : Consumer) (env : Envelope) : Consumer :=
  let r := (k.aggregator.recordText env.event.category env.event.timestamp).run k.counters
  { k with aggregator := r.1, counters := r.2, recorded := k.recorded + 1, received := k.received ++ [env] }

/-- The channel with its producers, in order, and its consumer. -/
structure Channel where
  capacity : Nat
  queue : List Envelope := []
  producers : List Producer
  consumer : Consumer

/-- One move of a party. -/
inductive Move where
  /-- producer `p` sends an event -/
  | send (p : Nat) (e : Event)
  /-- producer `p` drops its sender -/
  | release (p : Nat)
  /-- the consumer receives -/
  | receive
  deriving DecidableEq, Repr

namespace Channel

/-- A channel of `capacity` events with `n` producers, each holding its sender, and a consumer
recording into `a`. -/
def start (capacity n : Nat) (a : Aggregator) (cs : Counters) : Channel :=
  { capacity, producers := List.replicate n {}, consumer := { aggregator := a, counters := cs } }

/-- Whether some producer still holds its sender. -/
def held (c : Channel) : Bool := c.producers.any (·.holding)

/-- The events producer `p`'s sends delivered. -/
def deliveredBy (c : Channel) (p : Nat) : List Event := (c.producers[p]?.map (·.delivered)).getD []

/-- How many events the sends of all producers delivered. -/
def deliveredCount (c : Channel) : Nat := (c.producers.map (·.delivered.length)).foldr (· + ·) 0

/-- One move, or `none` when the party cannot make it now. -/
def step (c : Channel) : Move → Option Channel
  | .send p e =>
    match c.producers[p]? with
    | none => none
    | some pr =>
      if !pr.holding then none
      -- the consumer has ended: the send fails and delivers nothing
      else if c.consumer.result.isSome then some c
      else if c.queue.length < c.capacity then
        some { c with queue := c.queue ++ [⟨p, e⟩],
                      producers := c.producers.set p { pr with delivered := pr.delivered ++ [e] } }
      else none
  | .release p =>
    match c.producers[p]? with
    | none => none
    | some pr =>
      if pr.holding then some { c with producers := c.producers.set p { pr with holding := false } }
      else none
  | .receive =>
    if c.consumer.result.isSome then none
    else match c.queue with
      | env :: rest => some { c with queue := rest, consumer := c.consumer.take env }
      | [] =>
        if c.held then none
        else some { c with consumer := { c.consumer with result := some c.consumer.recorded } }

/-- Makes the moves in order; `none` if one of them cannot be made when its turn comes. -/
def run (c : Channel) : List Move → Option Channel
  | [] => some c
  | m :: ms => (c.step m).bind fun c' => c'.run ms

end Channel
end MinuteWindow.Ingest
