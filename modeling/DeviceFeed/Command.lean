import DeviceFeed.Text.Digits
import DeviceFeed.Json.Writer

/-!
# Commands and their codes

A code table assigns a code to each of the six known commands, and every other
code is an unknown command. This file looks codes up and finds the first two
commands of a table that share a code.
-/

namespace DeviceFeed

/-- What a frame is about. -/
inductive Command where
  | response
  /-- A live reading of a device. -/
  | hardware
  /-- An event that a device reports about itself. -/
  | logEvent
  | deviceConnect
  | deviceDisconnect
  /-- The state that is replayed after a reconnect. -/
  | appSync
  /-- A code that the table does not assign. -/
  | unknown (code : UInt8)
  deriving DecidableEq, Repr

namespace Command

/-- The name of a command in messages and records. -/
def label : Command → String
  | response => "Response"
  | hardware => "Hardware"
  | logEvent => "LogEvent"
  | deviceConnect => "DeviceConnect"
  | deviceDisconnect => "DeviceDisconnect"
  | appSync => "AppSync"
  | unknown _ => "Unknown"

def key : Command → String
  | response => "response"
  | hardware => "hardware"
  | logEvent => "log_event"
  | deviceConnect => "device_connect"
  | deviceDisconnect => "device_disconnect"
  | appSync => "app_sync"
  | unknown _ => "unknown"

/-- Whether the choice of a tracked device concerns frames of this command. -/
def isTracked : Command → Bool
  | hardware => true
  | _ => false

def isText : Command → Bool
  | response | unknown _ => false
  | _ => true

def isUnknown : Command → Bool
  | unknown _ => true
  | _ => false

def json : Command → String
  | unknown code => Json.object [("Unknown", Json.nat code.toNat)]
  | command => Json.string command.label

end Command

/-- The codes of the known commands. -/
structure CodeTable where
  response : UInt8 := 0
  hardware : UInt8 := 20
  logEvent : UInt8 := 64
  deviceConnect : UInt8 := 4
  deviceDisconnect : UInt8 := 71
  appSync : UInt8 := 25
  deriving DecidableEq, Repr

/-- Two commands that a table gives the same code. -/
structure CodeClash where
  code : UInt8
  first : Command
  second : Command
  deriving DecidableEq, Repr

namespace CodeTable

/-- The known commands with their codes. Where two commands share a code, the
earlier one gets the frames. -/
def entries (table : CodeTable) : List (Command × UInt8) :=
  [(.response, table.response), (.hardware, table.hardware), (.logEvent, table.logEvent),
    (.deviceConnect, table.deviceConnect), (.deviceDisconnect, table.deviceDisconnect),
    (.appSync, table.appSync)]

def resolve (table : CodeTable) (code : UInt8) : Command :=
  if code = table.response then .response
  else if code = table.hardware then .hardware
  else if code = table.logEvent then .logEvent
  else if code = table.deviceConnect then .deviceConnect
  else if code = table.deviceDisconnect then .deviceDisconnect
  else if code = table.appSync then .appSync
  else .unknown code

/-- The first command of a list whose code occurs again, and the next command
with that code. -/
def firstClash? : List (Command × UInt8) → Option CodeClash
  | [] => none
  | (first, code) :: rest =>
    match rest.find? (·.2 == code) with
    | some (second, _) => some ⟨code, first, second⟩
    | none => firstClash? rest

/-- The first two commands of a table that share a code. -/
def clash? (table : CodeTable) : Option CodeClash :=
  firstClash? table.entries

def json (table : CodeTable) : String :=
  Json.object (table.entries.map fun e => (e.1.key, Json.nat e.2.toNat))

def text (table : CodeTable) : String :=
  "CommandCodes \x7b " ++
    String.intercalate ", " (table.entries.map fun e => e.1.key ++ ": " ++ Text.decimal e.2.toNat) ++
    " \x7d"

end CodeTable

def CodeClash.message (clash : CodeClash) : String :=
  "Duplicate command code " ++ Text.decimal clash.code.toNat ++ ": assigned to both " ++
    clash.first.key ++ " and " ++ clash.second.key

end DeviceFeed
