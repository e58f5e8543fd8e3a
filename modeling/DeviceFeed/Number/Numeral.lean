import DeviceFeed.Text.Blank
import DeviceFeed.Text.Digits
import DeviceFeed.Number.Binary64

/-!
# Numerals

This file reads numbers that people and devices write. An integer is an
optional sign and decimal digits. A numeral also allows a decimal point and a
power of ten. A numeral denotes an integer when the magnitude nearest to its
value is one.
-/

namespace DeviceFeed

/-- An integer, unless it needs more than sixty-four bits. -/
def int64? (i : Int) : Option Int64 :=
  if -0x8000000000000000 ≤ i ∧ i < 0x8000000000000000 then some (Int64.ofInt i) else none

/-- A number in decimal notation, with the value
`coefficient * 10 ^ exponent`, negated when so marked. -/
structure Numeral where
  negative : Bool
  coefficient : Nat
  exponent : Int
  deriving DecidableEq, Repr

namespace Numeral

/-- Splits off an optional sign and says whether it was a minus. -/
def sign : List Char → Bool × List Char
  | '-' :: rest => (true, rest)
  | '+' :: rest => (false, rest)
  | cs => (false, cs)

/-- The value of a text that consists of decimal digits, at least one. -/
def digits? (cs : List Char) : Option Nat :=
  if cs ≠ [] ∧ cs.all Text.isDigit then some (Text.value cs) else none

/-- The value of a text that consists of an optional plus sign and digits,
unless it needs more than sixty-four bits. -/
def natural? (cs : List Char) : Option Nat :=
  let digits :=
    match cs with
    | '+' :: rest => rest
    | cs => cs
  (digits? digits).filter (· < UInt64.size)

/-- The value of a text that consists of an optional sign and digits. -/
def integer? (cs : List Char) : Option Int :=
  let (negative, rest) := sign cs
  (digits? rest).map (fun n => if negative then -(n : Int) else n)

/-- The value of the digits of an exponent. Once it has reached `65536`, the
digits that follow are passed over. -/
def exponentValue (digits : List Char) : Nat :=
  digits.foldl (fun n c => if n < 65536 then 10 * n + (Text.digitValue? c).getD 0 else n) 0

/-- Reads an exponent: an optional sign and digits. -/
def exponent? (cs : List Char) : Option Int :=
  let (negative, digits) := sign cs
  if digits ≠ [] ∧ digits.all Text.isDigit then
    some (if negative then -(exponentValue digits : Int) else exponentValue digits)
  else
    none

/-- The power of ten at the end of a numeral. -/
def power? : List Char → Option Int
  | [] => some 0
  | c :: rest => if c = 'e' ∨ c = 'E' then exponent? rest else none

/-- The digits after a decimal point, if there is one, and what follows. -/
def fraction : List Char → List Char × List Char
  | '.' :: rest => rest.span Text.isDigit
  | cs => ([], cs)

/-- Reads a text as a numeral. There must be a digit before or after the
point. -/
def parse? (cs : List Char) : Option Numeral :=
  let (negative, unsigned) := sign cs
  let (whole, afterWhole) := unsigned.span Text.isDigit
  let (part, afterPart) := fraction afterWhole
  if whole = [] ∧ part = [] then
    none
  else
    (power? afterPart).map fun power =>
      ⟨negative, Text.value (whole ++ part), power - part.length⟩

/-- The integer that a numeral denotes, if it is one below `2 ^ 63` in
magnitude. -/
def toInt64? (n : Numeral) : Option Int64 :=
  (Binary64.ofDecimal? n.coefficient n.exponent).bind fun magnitude =>
    magnitude.toNat?.bind fun value =>
      if value < 0x8000000000000000 then
        some (Int64.ofInt (if n.negative then -(value : Int) else value))
      else
        none

end Numeral

end DeviceFeed
