import DeviceFeed.Message

/-!
# Traces

Whatever the decoder does, it leaves messages for the log and, for those who
want them, debug records. This file joins what several pieces of work leave
behind, and says where a record goes.

A listener stands for any sink that is attached, whatever it makes of records.
It gets each record once and gives nothing back, so all that reaches it is the
records of the traces, in order, and its state is a fold over them.
-/

namespace DeviceFeed

/-- What a piece of work leaves behind beside its result. -/
structure Trace where
  messages : List Message := []
  /-- The records that a listener gets. -/
  records : List Record := []
  deriving DecidableEq, Repr

namespace Trace

def append (first second : Trace) : Trace :=
  ⟨first.messages ++ second.messages, first.records ++ second.records⟩

instance : Append Trace := ⟨append⟩

def say (message : Message) : Trace := ⟨[message], []⟩

end Trace

/-- Where debug records go. -/
inductive Sink where
  /-- Nowhere: none are made. -/
  | nowhere
  | log
  /-- To a sink that was attached. -/
  | listener
  deriving DecidableEq, Repr

/-- What a sink makes of a record. -/
def Sink.trace (sink : Sink) (record : Record) : Trace :=
  match sink with
  | .nowhere => {}
  | .log => ⟨[.recorded record], []⟩
  | .listener => ⟨[], [record]⟩

end DeviceFeed
