import DeviceFeed.Text.Utf8
import DeviceFeed.Text.Blank
import DeviceFeed.Number.Numeral

/-!
# Fields of a text body

A text body is a list of fields with a NUL character between any two of them.
Positions matter, so splitting neither trims nor drops empty fields. This file
also reads the two kinds of content that fields have: device ids, which may
carry a prefix, and numbers.
-/

namespace DeviceFeed.Field

def separator : Char := '\x00'

/-- The fields of a text, at least one. -/
def split (text : String) : List String :=
  (Text.pieces (· == separator) text.toList).map String.ofList

def join (fields : List String) : String :=
  String.intercalate (String.singleton separator) fields

/-- The fields of a body, unless the body is not text. -/
def decode (body : Bytes) : Except Utf8.Fault (List String) :=
  (Utf8.decode body).map split

/-- Takes one prefix `0-` off the characters of a device id. -/
def dropPrefix : List Char → List Char
  | '0' :: '-' :: rest => rest
  | cs => cs

def stripPrefix (id : String) : String :=
  String.ofList (dropPrefix id.toList)

/-- The integer that a field holds between optional blanks. Integers are read
exactly. Other numerals count if the floating point number nearest to them is
an integer in range. -/
def number (text : String) : Option Int64 :=
  let cs := Text.trim text.toList
  match (Numeral.integer? cs).bind int64? with
  | some value => some value
  | none => (Numeral.parse? cs).bind Numeral.toInt64?

/-- The device id at a position, without its prefix. -/
def deviceId? (fields : List String) (position : Nat) : Option String :=
  fields[position]?.map stripPrefix

def number? (fields : List String) (position : Nat) : Option Int64 :=
  fields[position]?.bind number

end DeviceFeed.Field
