import DeviceFeed.Json.Writer

/-!
# Events

This file defines the events into which frames are turned, each with the name
of its kind, the message id that it carries, and its JSON text.
-/

namespace DeviceFeed

/-- What the receiving side learns from a frame. -/
inductive Event where
  /-- Settles the request with the same message id. An echo carries the fields
  of its frame as a body and no response code. -/
  | response (messageId : UInt16) (command : UInt8) (responseCode : Option UInt32)
      (body : List String)
  /-- A reading of a pin. The value stays text. -/
  | telemetry (deviceId : Option Int64) (pin : Option Int64) (value : Option String)
  | log (deviceId : String) (eventCode : Option String)
  | connect (deviceId : String)
  | disconnect (deviceId : String)
  /-- Reports a frame with an unassigned code. -/
  | unknown (command : UInt8) (messageId : UInt16)
  deriving DecidableEq, Repr

namespace Event

def kind : Event → String
  | response .. => "response"
  | telemetry .. => "telemetry"
  | log .. => "log"
  | connect .. => "connect"
  | disconnect .. => "disconnect"
  | unknown .. => "unknown"

def messageId? : Event → Option UInt16
  | response id .. => some id
  | unknown _ id => some id
  | _ => none

/-- The members of the JSON object for the content of an event. -/
def members : Event → List (String × String)
  | response id command code body =>
    [("id", Json.nat id.toNat), ("command", Json.nat command.toNat),
      ("response_code", Json.option (fun c => Json.nat c.toNat) code),
      ("body", Json.array (body.map Json.string))]
  | telemetry deviceId pin value =>
    [("device_id", Json.option (fun i => Json.int i.toInt) deviceId),
      ("pin", Json.option (fun i => Json.int i.toInt) pin),
      ("value", Json.option Json.string value)]
  | log deviceId eventCode =>
    [("device_id", Json.string deviceId), ("event_code", Json.option Json.string eventCode)]
  | connect deviceId => [("device_id", Json.string deviceId)]
  | disconnect deviceId => [("device_id", Json.string deviceId)]
  | unknown command id => [("command", Json.nat command.toNat), ("id", Json.nat id.toNat)]

/-- An event as JSON: an object with its kind as the only name. -/
def json (event : Event) : String :=
  Json.object [(event.kind, Json.object event.members)]

end Event

end DeviceFeed
