import DeviceFeed.Event
import DeviceFeed.Json.Shape

/-!
# Reading events

This file reads events from the JSON text that is written for them. Optional
parts may be absent from an object.
-/

namespace DeviceFeed.Event

open Json (Member Shape Reader member)

/-- How the content of one kind of event is read. -/
def contentShape {α : Type} (kindName : String) (blank : α) (members : List (Member α)) :
    Shape α where
  expected := "struct variant NormalizedEvent::" ++ kindName
  blank := blank
  members := members
  allowsShort := false

def responseShape : Shape (UInt16 × UInt8 × Option UInt32 × List String) :=
  contentShape "Response" (0, 0, none, [])
    [member "id" true Reader.uint16 fun (_, command, code, body) id => (id, command, code, body),
      member "command" true Reader.uint8 fun (id, _, code, body) command =>
        (id, command, code, body),
      member "response_code" false (Reader.option Reader.uint32) fun (id, command, _, body) code =>
        (id, command, code, body),
      member "body" true (Reader.list Reader.string) fun (id, command, code, _) body =>
        (id, command, code, body)]

def telemetryShape : Shape (Option Int64 × Option Int64 × Option String) :=
  contentShape "Telemetry" (none, none, none)
    [member "device_id" false (Reader.option Reader.int64) fun (_, pin, value) id =>
        (id, pin, value),
      member "pin" false (Reader.option Reader.int64) fun (id, _, value) pin => (id, pin, value),
      member "value" false (Reader.option Reader.string) fun (id, pin, _) value =>
        (id, pin, value)]

def logShape : Shape (String × Option String) :=
  contentShape "Log" ("", none)
    [member "device_id" true Reader.string fun (_, code) id => (id, code),
      member "event_code" false (Reader.option Reader.string) fun (id, _) code => (id, code)]

/-- The content of an event that only names a device. -/
def deviceShape (kindName : String) : Shape String :=
  contentShape kindName "" [member "device_id" true Reader.string fun _ id => id]

/-- The content of a report of an unassigned code. -/
def unknownShape : Shape (UInt8 × UInt16) :=
  contentShape "Unknown" (0, 0)
    [member "command" true Reader.uint8 fun (_, id) command => (command, id),
      member "id" true Reader.uint16 fun (command, _) id => (command, id)]

def reader : Reader Event :=
  Reader.oneOf
    [("response", .members do
        let (id, command, code, body) ← Reader.struct responseShape
        pure (.response id command code body)),
      ("telemetry", .members do
        let (id, pin, value) ← Reader.struct telemetryShape
        pure (.telemetry id pin value)),
      ("log", .members do
        let (id, code) ← Reader.struct logShape
        pure (.log id code)),
      ("connect", .members (connect <$> Reader.struct (deviceShape "Connect"))),
      ("disconnect", .members (disconnect <$> Reader.struct (deviceShape "Disconnect"))),
      ("unknown", .members do
        let (command, id) ← Reader.struct unknownShape
        pure (.unknown command id))]

def ofJson (text : String) : Except Json.Error Event :=
  Json.parse reader text

end DeviceFeed.Event
