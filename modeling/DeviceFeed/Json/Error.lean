import DeviceFeed.Text.Utf8
import DeviceFeed.Text.Quoted
import DeviceFeed.Number.Shortest

/-!
# Errors in JSON text

This file names what can be wrong with a JSON text, either with its form or
with a value that is not of the expected kind, and says where. A place is a
line and a column. The column counts bytes.
-/

namespace DeviceFeed.Json

/-- A value, as far as a message about a wrong kind shows it. -/
inductive Found where
  | null
  | bool (value : Bool)
  | integer (value : Int)
  | float (negative : Bool) (magnitude : Binary64)
  | string (value : String)
  | sequence
  | map
  /-- A name without the data that should come with it. -/
  | bareName
  deriving DecidableEq, Repr

inductive Reason where
  | endInValue
  | endInString
  | endInList
  | endInObject
  | expectedValue
  | expectedIdent
  | expectedColon
  | expectedListEnd
  | expectedObjectEnd
  | keyNotString
  | trailingComma
  | trailingCharacters
  | invalidNumber
  | numberOutOfRange
  | invalidEscape
  | controlCharacter
  | loneSurrogate
  | endOfEscape
  | notText
  | wrongKind (found : Found) (expected : String)
  /-- A number of the right kind outside its range. -/
  | wrongValue (found : Found) (expected : String)
  /-- A list that is too short for what it stands for. -/
  | wrongLength (length : Nat) (expected : String)
  | unknownVariant (name : String) (known : List String)
  | missingField (name : String)
  | duplicateField (name : String)
  deriving DecidableEq, Repr

/-- Something wrong with a JSON text, with its line and column if it has a
place. -/
structure Error where
  reason : Reason
  place : Option (Nat × Nat)
  deriving DecidableEq, Repr

/-- A word of a message that stands for itself. -/
def ticked (s : String) : String :=
  "\x60" ++ s ++ "\x60"

/-- A value as a message shows it. -/
def Found.text : Found → String
  | null => "null"
  | bool value => "boolean " ++ ticked (if value then "true" else "false")
  | integer value => "integer " ++ ticked (Text.signedDecimal value)
  | float negative magnitude =>
    "floating point " ++ ticked ((if negative then "-" else "") ++ magnitude.text)
  | string value => "string " ++ Text.quoted value
  | sequence => "sequence"
  | map => "map"
  | bareName => "unit variant"

/-- The text for what is wrong, without its place. -/
def Reason.text : Reason → String
  | endInValue => "EOF while parsing a value"
  | endInString => "EOF while parsing a string"
  | endInList => "EOF while parsing a list"
  | endInObject => "EOF while parsing an object"
  | expectedValue => "expected value"
  | expectedIdent => "expected ident"
  | expectedColon => "expected " ++ ticked ":"
  | expectedListEnd => "expected " ++ ticked "," ++ " or " ++ ticked "]"
  | expectedObjectEnd => "expected " ++ ticked "," ++ " or " ++ ticked "\x7d"
  | keyNotString => "key must be a string"
  | trailingComma => "trailing comma"
  | trailingCharacters => "trailing characters"
  | invalidNumber => "invalid number"
  | numberOutOfRange => "number out of range"
  | invalidEscape => "invalid escape"
  | controlCharacter => "control character (\\u0000-\\u001F) found while parsing a string"
  | loneSurrogate => "lone leading surrogate in hex escape"
  | endOfEscape => "unexpected end of hex escape"
  | notText => "invalid unicode code point"
  | wrongKind found expected => "invalid type: " ++ found.text ++ ", expected " ++ expected
  | wrongValue found expected => "invalid value: " ++ found.text ++ ", expected " ++ expected
  | wrongLength length expected =>
    "invalid length " ++ Text.decimal length ++ ", expected " ++ expected
  | unknownVariant name known =>
    "unknown variant " ++ ticked name ++ ", expected one of " ++
      String.intercalate ", " (known.map ticked)
  | missingField name => "missing field " ++ ticked name
  | duplicateField name => "duplicate field " ++ ticked name

def Error.message (e : Error) : String :=
  match e.place with
  | some (line, column) =>
    e.reason.text ++ " at line " ++ Text.decimal line ++ " column " ++ Text.decimal column
  | none => e.reason.text

/-- The line and column that are reached after some bytes. -/
def placeAfter (bytes : Bytes) : Nat × Nat :=
  (bytes.count 10 + 1, (bytes.reverse.takeWhile (· != 10)).length)

end DeviceFeed.Json
