import DeviceFeed.Channel

/-!
# Publishers

A publisher is where the events of a decoder go, one at a time and in order.
Events may be collected, handed to a function, or sent through a bounded
channel. Whatever becomes of an event, the decoder does not hear of it.
-/

namespace DeviceFeed

/-- A place where events go. -/
class Publisher (P : Type) where
  publish : P → Event → P × List Message
  /-- What the receiving side does, with the events that it takes. -/
  receive : P → Receipt → P × List Event

structure Collector where
  events : Array Event := #[]

namespace Collector

/-- The receiving side of a collector may take the oldest events. -/
def receive (c : Collector) : Receipt → Collector × List Event
  | .take count => (⟨c.events.extract count c.events.size⟩, (c.events.extract 0 count).toList)
  | _ => (c, [])

instance : Publisher Collector where
  publish c event := (⟨c.events.push event⟩, [])
  receive := Collector.receive

end Collector

/-- A function that is called for every event and changes a state. -/
structure Callback (σ : Type) where
  state : σ
  react : σ → Event → σ

instance (σ : Type) : Publisher (Callback σ) where
  publish c event := ({ c with state := c.react c.state event }, [])
  receive c _ := (c, [])

instance : Publisher Channel where
  publish := Channel.publish
  receive := Channel.receive

/-- A channel whose receiver works on its own: before each event arrives, it
does what its schedule says for that moment. -/
structure Attended where
  channel : Channel
  /-- What the receiver does before each event, by the number of the event. -/
  schedule : Nat → List Receipt
  clock : Nat := 0
  taken : Array Event := #[]

namespace Attended

def attend (a : Attended) (receipt : Receipt) : Attended :=
  let (channel, events) := a.channel.receive receipt
  { a with channel := channel, taken := a.taken ++ events }

/-- Lets the receiver do what is due and hands over an event. -/
def publish (a : Attended) (event : Event) : Attended × List Message :=
  let attended := (a.schedule a.clock).foldl attend a
  let (channel, messages) := attended.channel.publish event
  ({ attended with channel := channel, clock := a.clock + 1 }, messages)

instance : Publisher Attended where
  publish := publish
  receive a receipt := (a.attend receipt, (a.channel.receive receipt).2)

end Attended

end DeviceFeed
