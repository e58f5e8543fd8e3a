import DeviceFeed.Text.Digits

/-!
# Writing JSON

This file writes values as compact JSON text, without any blanks. Inside a
string only the quotation mark, the backslash and the control characters below
the blank are escaped.
-/

namespace DeviceFeed.Json

/-- The four hexadecimal digits of a small number. -/
def fourDigits (n : Nat) : List Char :=
  [Text.digitChar (n / 4096 % 16), Text.digitChar (n / 256 % 16),
    Text.digitChar (n / 16 % 16), Text.digitChar (n % 16)]

/-- How a character is written inside a string. -/
def escape (c : Char) : List Char :=
  if c = '"' then ['\\', '"']
  else if c = '\\' then ['\\', '\\']
  else if c = '\x08' then ['\\', 'b']
  else if c = '\x0c' then ['\\', 'f']
  else if c = '\n' then ['\\', 'n']
  else if c = '\r' then ['\\', 'r']
  else if c = '\t' then ['\\', 't']
  else if c.toNat < 0x20 then '\\' :: 'u' :: fourDigits c.toNat
  else [c]

def string (s : String) : String :=
  String.ofList ('"' :: (s.toList.flatMap escape ++ ['"']))

def bool (b : Bool) : String :=
  if b then "true" else "false"

def nat (n : Nat) : String :=
  Text.decimal n

def int (i : Int) : String :=
  Text.signedDecimal i

def option {α : Type} (write : α → String) : Option α → String
  | none => "null"
  | some a => write a

/-- Texts with a comma between any two of them. -/
def commas (items : List String) : String :=
  String.intercalate "," items

def array (items : List String) : String :=
  "[" ++ commas items ++ "]"

/-- One member of an object, with its value already written. -/
def entry (member : String × String) : String :=
  string member.1 ++ ":" ++ member.2

/-- An object with the given members, in order. -/
def object (members : List (String × String)) : String :=
  "\x7b" ++ commas (members.map entry) ++ "\x7d"

end DeviceFeed.Json
