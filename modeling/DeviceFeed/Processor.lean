import DeviceFeed.Dispatch
import DeviceFeed.Publisher

/-!
# Processing received frames

A processor takes received bytes, one frame at a time. It refuses a frame that
is too short, too long, or not text where text is due. It publishes the events
of every other frame, in order, before it returns. Beside that it keeps
counters and leaves messages and records.
-/

namespace DeviceFeed

structure Stats where
  frames : Nat := 0
  malformed : Nat := 0
  /-- Frames whose body should have been text. -/
  invalidEncoding : Nat := 0
  /-- Frames with a code that the table does not assign. -/
  unknownCommands : Nat := 0
  suppressed : Nat := 0
  /-- Events that were handed to the publisher. -/
  events : Nat := 0
  deriving DecidableEq, Repr

namespace Stats

def dropped (s : Stats) : Nat :=
  s.malformed + s.invalidEncoding

def reject (s : Stats) : Rejection → Stats
  | .notText _ => { s with invalidEncoding := s.invalidEncoding + 1 }
  | _ => { s with malformed := s.malformed + 1 }

def accept (s : Stats) (d : Dispatched) : Stats :=
  { s with
    frames := s.frames + 1
    unknownCommands := s.unknownCommands + (if d.command.isUnknown then 1 else 0)
    suppressed := s.suppressed + (if d.suppressed then 1 else 0)
    events := s.events + d.events.length }

def json (s : Stats) : String :=
  Json.object
    [("frames", Json.nat s.frames), ("malformed", Json.nat s.malformed),
      ("invalid_encoding", Json.nat s.invalidEncoding),
      ("unknown_commands", Json.nat s.unknownCommands), ("suppressed", Json.nat s.suppressed),
      ("events", Json.nat s.events)]

end Stats

/-- The record of a dropped frame. A frame without a readable header counts as
command zero with message id zero. -/
def Rejection.record (why : Rejection) (header : Option Header) : Record :=
  let header := header.getD ⟨0, 0⟩
  { label := "Dropped"
    command := header.command
    messageId := header.messageId
    error := some why.message }

/-- Handles frames and publishes their events. -/
structure Processor (P : Type) where
  dispatcher : Dispatcher
  /-- The length of the longest body that is not refused. -/
  maxBody : Nat
  publisher : P
  stats : Stats := {}

/-- What comes of one frame. -/
structure Processed (P : Type) where
  processor : Processor P
  /-- The number of published events, or why the frame was dropped. -/
  result : Except Rejection Nat
  trace : Trace

def publishAll {P : Type} [Publisher P] (publisher : P) (events : List Event) :
    P × List Message :=
  events.foldl
    (fun (p, messages) event =>
      let (q, more) := Publisher.publish p event
      (q, messages ++ .publishing event.kind :: more))
    (publisher, [])

namespace Processor

variable {P : Type}

def reject (p : Processor P) (header : Option Header) (why : Rejection) (trace : Trace) :
    Processed P :=
  { processor := { p with stats := p.stats.reject why }
    result := .error why
    trace := trace ++ p.dispatcher.sink.trace (why.record header) }

/-- Publishes the events of a frame. -/
def accept [Publisher P] (p : Processor P) (header : Header) (tracking : Tracking)
    (d : Dispatched) (trace : Trace) : Processed P :=
  let held : Trace :=
    if d.suppressed then Trace.say (.suppressed header.messageId tracking.deviceId) else {}
  let (publisher, messages) := publishAll p.publisher d.events
  { processor := { p with publisher := publisher, stats := p.stats.accept d }
    result := .ok d.events.length
    trace := trace ++ held ++ ⟨messages, []⟩ }

/-- Handles received bytes under the tracking of this moment. -/
def process [Publisher P] (p : Processor P) (tracking : Tracking) (raw : Bytes) :
    Processed P :=
  match Frame.parse raw with
  | .error why => p.reject none why {}
  | .ok frame =>
    if p.maxBody < frame.body.length then
      p.reject (some frame.header) (.oversized frame.body.length p.maxBody) {}
    else
      let trace := p.dispatcher.trace frame tracking
      match p.dispatcher.dispatch frame tracking with
      | .error fault => p.reject (some frame.header) (.notText fault) trace
      | .ok d => p.accept frame.header tracking d trace

/-- Like `process`, but a dropped frame counts as one without events and leaves
a message. -/
def ingest [Publisher P] (p : Processor P) (tracking : Tracking) (raw : Bytes) :
    Processed P :=
  let processed := p.process tracking raw
  match processed.result with
  | .ok _ => processed
  | .error why =>
    { processed with
      result := .ok 0
      trace := processed.trace ++ Trace.say (.dropping why) }

end Processor

end DeviceFeed
