import DeviceFeed.Command.Reader
import DeviceFeed.Source

/-!
# Configuration

This file defines the settings of a decoder, writes them as JSON, and reads
them from a JSON text or from a file. A text only needs to list what it
changes. A configuration whose code table gives a code to two commands is
refused.
-/

namespace DeviceFeed

/-- The settings of a decoder. -/
structure Config where
  /-- Whether a debug record of each frame goes into the log. -/
  debug : Bool := false
  table : CodeTable := {}
  /-- The length of the longest body that is not refused. -/
  maxBody : UInt64 := 65536
  /-- Whether a frame with an unassigned code gets an event of its own beside
  the answer. -/
  reportUnknown : Bool := false
  deriving DecidableEq, Repr

inductive ConfigError where
  | clash (clash : CodeClash)
  | json (error : Json.Error)
  /-- The file with the given name cannot be read as text. -/
  | unreadable (name : String) (error : SourceError)
  deriving DecidableEq, Repr

namespace ConfigError

/-- What is wrong with a file or its text, without further words. -/
def cause? : ConfigError → Option String
  | clash _ => none
  | json error => some error.message
  | unreadable name error => some (name ++ ": " ++ error.message)

def message : ConfigError → String
  | clash c => c.message
  | json error => "Invalid configuration: " ++ error.message
  | unreadable name error => "Invalid configuration: " ++ name ++ ": " ++ error.message

end ConfigError

namespace Config

open Json (Shape Reader member)

def json (c : Config) : String :=
  Json.object
    [("debug", Json.bool c.debug), ("command_codes", c.table.json),
      ("max_body_len", Json.nat c.maxBody.toNat), ("report_unknown", Json.bool c.reportUnknown)]

def text (c : Config) : String :=
  "DecoderConfig \x7b debug: " ++ Json.bool c.debug ++ ", command_codes: " ++ c.table.text ++
    ", max_body_len: " ++ Text.decimal c.maxBody.toNat ++ ", report_unknown: " ++
    Json.bool c.reportUnknown ++ " \x7d"

def shape : Shape Config where
  expected := "struct DecoderConfig"
  blank := {}
  members :=
    [member "debug" false Reader.bool fun c debug => { c with debug := debug },
      member "command_codes" false CodeTable.reader fun c table => { c with table := table },
      member "max_body_len" false Reader.uint64 fun c size => { c with maxBody := size },
      member "report_unknown" false Reader.bool fun c report =>
        { c with reportUnknown := report }]
  allowsShort := true

/-- Refuses a configuration in which two commands share a code. -/
def validate (c : Config) : Except ConfigError Config :=
  match c.table.clash? with
  | some clash => .error (.clash clash)
  | none => .ok c

def ofJson (text : String) : Except ConfigError Config :=
  match Json.parse (Reader.struct shape) text with
  | .ok c => c.validate
  | .error error => .error (.json error)

def load (name : String) (source : Source) : Except ConfigError Config :=
  match source.text with
  | .ok text => ofJson text
  | .error error => .error (.unreadable name error)

end Config

end DeviceFeed
