import DeviceFeed.Event
import DeviceFeed.Trace

/-!
# From frames to events

A frame is handled in two steps. First its command is looked up and, if the
command has a text body, its fields are decoded. The result is a reading of
the frame. Then the reading alone decides, with the tracking of that moment,
which events arise, whether the frame is held back, and what a debug record
says about it. The first field of a text body names a device. Of a live
reading or a replayed one the third field is a pin and the fourth its value. A
missing field is never an error.
-/

namespace DeviceFeed

/-- A frame whose command is known and whose text is decoded. Commands without
a text body have no fields. -/
structure Reading where
  header : Header
  command : Command
  body : Bytes
  fields : List String
  deriving DecidableEq, Repr

/-- What becomes of a frame. -/
structure Dispatched where
  command : Command
  /-- The events, in the order in which they are to be published. -/
  events : List Event
  /-- Whether tracking holds the frame back. -/
  suppressed : Bool
  deriving DecidableEq, Repr

/-- The number in the first four bytes of a body, the highest byte first. -/
def responseCode? : Bytes → Option UInt32
  | a :: b :: c :: d :: _ =>
    some (UInt32.ofNat (((a.toNat * 256 + b.toNat) * 256 + c.toNat) * 256 + d.toNat))
  | _ => none

namespace Reading

/-- The reading of a frame, unless its body should be text and is not. -/
def ofFrame (table : CodeTable) (frame : Frame) : Except Utf8.Fault Reading :=
  let command := table.resolve frame.header.command
  if command.isText then
    (Field.decode frame.body).map (⟨frame.header, command, frame.body, ·⟩)
  else
    .ok ⟨frame.header, command, frame.body, []⟩

/-- The device that the first field names, without its prefix. -/
def deviceId (r : Reading) : String :=
  (Field.deviceId? r.fields 0).getD ""

/-- The event that settles a request without a body. -/
def answer (r : Reading) (code : Option UInt32) : Event :=
  .response r.header.messageId r.header.command code []

/-- The event that settles a request and repeats the fields. -/
def echo (r : Reading) : Event :=
  .response r.header.messageId r.header.command none r.fields

/-- The reading of a pin that the fields describe. -/
def telemetry (r : Reading) : Event :=
  .telemetry ((Field.deviceId? r.fields 0).bind Field.number) (Field.number? r.fields 2)
    r.fields[3]?

/-- Whether tracking holds the frame back. -/
def isSuppressed (r : Reading) (tracking : Tracking) : Bool :=
  match r.command with
  | .hardware => !tracking.forwards r.deviceId
  | _ => false

/-- The events of a frame that is not held back. -/
def events (r : Reading) (reportUnknown : Bool) : List Event :=
  match r.command with
  | .response => [r.answer (responseCode? r.body)]
  | .hardware => [r.echo, r.telemetry]
  | .logEvent => [.log (r.fields[0]?.getD "") r.fields[1]?]
  | .deviceConnect => [.connect r.deviceId]
  | .deviceDisconnect => [.disconnect r.deviceId]
  | .appSync => [r.echo, r.telemetry]
  | .unknown _ =>
    if reportUnknown then
      [r.answer none, .unknown r.header.command r.header.messageId]
    else
      [r.answer none]

def dispatched (r : Reading) (reportUnknown : Bool) (tracking : Tracking) : Dispatched :=
  if r.isSuppressed tracking then
    ⟨r.command, [], true⟩
  else
    ⟨r.command, r.events reportUnknown, false⟩

/-- The debug record of a frame under the given tracking. -/
def record (r : Reading) (tracking : Tracking) : Record :=
  let base : Record :=
    { label := r.command.label
      command := r.header.command
      messageId := r.header.messageId }
  match r.command with
  | .response => { base with responseCode := responseCode? r.body }
  | .hardware =>
    { base with
      fields := r.fields
      deviceId := some r.deviceId
      tracking := some tracking
      isFollowed := some (tracking.isFollowed r.deviceId) }
  | .logEvent => { base with fields := r.fields, deviceId := some (r.fields[0]?.getD "") }
  | .deviceConnect | .deviceDisconnect =>
    { base with fields := r.fields, deviceId := some r.deviceId }
  | .appSync => { base with fields := r.fields }
  | .unknown _ => base

end Reading

/-- The settings by which frames are handled. -/
structure Dispatcher where
  table : CodeTable := {}
  /-- Whether a frame with an unassigned code gets an event of its own beside
  the answer. -/
  reportUnknown : Bool := false
  sink : Sink := .nowhere
  deriving DecidableEq, Repr

namespace Dispatcher

/-- What becomes of a frame, unless its body should be text and is not. -/
def dispatch (d : Dispatcher) (frame : Frame) (tracking : Tracking) :
    Except Utf8.Fault Dispatched :=
  (Reading.ofFrame d.table frame).map (·.dispatched d.reportUnknown tracking)

/-- What the handling of a frame leaves behind. A frame that cannot be decoded
leaves no record here. -/
def trace (d : Dispatcher) (frame : Frame) (tracking : Tracking) : Trace :=
  Trace.say (.dispatching (d.table.resolve frame.header.command) frame.header
      frame.body.length) ++
    match Reading.ofFrame d.table frame with
    | .ok reading => d.sink.trace (reading.record tracking)
    | .error _ => {}

def text (d : Dispatcher) : String :=
  "Dispatcher \x7b codes: " ++ d.table.text ++ ", report_unknown: " ++ Json.bool d.reportUnknown ++
    ", debug: " ++ Json.bool (d.sink != .nowhere) ++ " \x7d"

end Dispatcher

end DeviceFeed
