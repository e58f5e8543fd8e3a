import DeviceFeed.Tracking

/-!
# Debug records

A debug record describes how one frame was handled or why it was dropped.
Records only inform. Parts that do not apply are absent, also in the JSON
text.
-/

namespace DeviceFeed

/-- The description of one frame. -/
structure Record where
  label : String
  command : UInt8
  messageId : UInt16
  fields : List String := []
  responseCode : Option UInt32 := none
  deviceId : Option String := none
  tracking : Option Tracking := none
  isFollowed : Option Bool := none
  error : Option String := none
  deriving DecidableEq, Repr

namespace Record

/-- A member that is left out when its value is absent. -/
def optional {α : Type} (name : String) (write : α → String) :
    Option α → List (String × String)
  | none => []
  | some a => [(name, write a)]

def members (r : Record) : List (String × String) :=
  [("label", Json.string r.label), ("command", Json.nat r.command.toNat),
      ("msg_id", Json.nat r.messageId.toNat)] ++
    (if r.fields = [] then [] else [("fields", Json.array (r.fields.map Json.string))]) ++
    optional "response_code" (fun c => Json.nat c.toNat) r.responseCode ++
    optional "device_id" Json.string r.deviceId ++
    optional "tracking" Tracking.json r.tracking ++
    optional "device_matches" Json.bool r.isFollowed ++
    optional "error" Json.string r.error

def json (r : Record) : String :=
  Json.object r.members

end Record

end DeviceFeed
