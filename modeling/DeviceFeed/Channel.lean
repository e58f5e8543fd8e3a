import DeviceFeed.Event
import DeviceFeed.Message

/-!
# Bounded channels

A channel passes events to a receiver through a fixed number of slots. Nobody
waits: an event that finds no free slot, or no receiver, is lost and counted. A
receiver may refuse further events and still take those in the slots, or it may
leave and discard them.
-/

namespace DeviceFeed

/-- What the receiving side of a publisher does. -/
inductive Receipt where
  /-- Takes at most so many waiting events. -/
  | take (count : Nat)
  | close
  /-- Leaves, with whatever is still waiting. -/
  | leave
  deriving DecidableEq, Repr

/-- The state of the receiving side of a channel. -/
inductive Receiver where
  | listening
  | closed
  | gone
  deriving DecidableEq, Repr

/-- A channel with its waiting events, the oldest first. -/
structure Channel where
  capacity : Nat
  waiting : List Event := []
  receiver : Receiver := .listening
  /-- How many events were refused so far. -/
  lost : Nat := 0
  deriving DecidableEq, Repr

inductive CapacityError where
  | noSlots
  | tooManySlots
  deriving DecidableEq, Repr

def CapacityError.message : CapacityError → String
  | .noSlots => "mpsc bounded channel requires buffer > 0"
  | .tooManySlots =>
    "a semaphore may not have more than MAX_PERMITS permits (2305843009213693951)"

namespace Channel

def maxCapacity : Nat := 0x1FFFFFFFFFFFFFFF

/-- An empty channel with the given number of slots. -/
def new (capacity : Nat) : Except CapacityError Channel :=
  if capacity = 0 then .error .noSlots
  else if maxCapacity < capacity then .error .tooManySlots
  else .ok { capacity := capacity }

def isClosed (c : Channel) : Bool :=
  c.receiver != .listening

def free (c : Channel) : Nat :=
  c.capacity - c.waiting.length

/-- Counts an event that was refused. -/
def lose (c : Channel) : Channel :=
  { c with lost := c.lost + 1 }

def publish (c : Channel) (event : Event) : Channel × List Message :=
  if c.isClosed then
    (c.lose, [.channelClosed event.kind])
  else if c.free = 0 then
    (c.lose, [.channelFull event.kind])
  else
    ({ c with waiting := c.waiting ++ [event] }, [])

/-- What the receiver does, with the events that it takes. -/
def receive (c : Channel) : Receipt → Channel × List Event
  | .take count => ({ c with waiting := c.waiting.drop count }, c.waiting.take count)
  | .close =>
    (match c.receiver with
      | .listening => { c with receiver := .closed }
      | _ => c, [])
  | .leave => ({ c with waiting := [], receiver := .gone }, [])

end Channel

end DeviceFeed
