import DeviceFeed.Text.Digits
import DeviceFeed.Number.Binary64

/-!
# Shortest decimals

A magnitude is written with the fewest digits that are read back as the same
magnitude, and among those with the ones nearest to it. The decimals that are
read back as a magnitude form an interval. For each count of digits it is
enough to try the two decimals on either side of the magnitude.
-/

namespace DeviceFeed.Binary64

/-- A decimal with the value `digits * 10 ^ power`. -/
structure Decimal where
  digits : Nat
  power : Int
  deriving DecidableEq, Repr

/-- The power of ten of the first digit of a positive magnitude. -/
def leadingPower (a : Binary64) : Int :=
  (Text.decimalDigits (a.units * Nat.pow 10 330 / one)).length - 331

/-- A decimal in quarters of a unit, times a power of ten that makes it whole. -/
def Decimal.quarters (d : Decimal) : Nat :=
  d.digits * 4 * one * Nat.pow 10 d.power.toNat

/-- A number of quarters of a unit, times the same power of ten. -/
def Decimal.scale (d : Decimal) (quarters : Nat) : Nat :=
  quarters * Nat.pow 10 (-d.power).toNat

/-- The distance in quarters from a magnitude to the end of the interval of
numbers that are rounded up to it. Below a power of two the spacing halves. -/
def reachBelow (a : Binary64) : Nat :=
  let step := spacing a.units
  if 1 < step ∧ a.units = Nat.pow 2 a.units.log2 then step else 2 * step

/-- The distance in quarters from a magnitude to the end of the interval of
numbers that are rounded down to it. -/
def reachAbove (a : Binary64) : Nat :=
  2 * spacing a.units

/-- Whether a decimal is read back as a magnitude. The ends of the interval
belong to it if the last binary digit of the magnitude is even. -/
def isReadBack (a : Binary64) (d : Decimal) : Bool :=
  let low := d.scale (4 * a.units - a.reachBelow)
  let high := d.scale (4 * a.units + a.reachAbove)
  let value := d.quarters
  if a.units / spacing a.units % 2 = 0 then
    low ≤ value && value ≤ high
  else
    low < value && value < high

def distance (a : Binary64) (d : Decimal) : Nat :=
  ((d.quarters : Int) - (d.scale (4 * a.units) : Int)).natAbs

/-- The best decimal with the given count of digits, if one is read back. -/
def withDigits? (a : Binary64) (count : Nat) : Option Decimal :=
  let power := a.leadingPower - count + 1
  let below : Decimal :=
    ⟨a.units * Nat.pow 10 (-power).toNat / (one * Nat.pow 10 power.toNat), power⟩
  let above : Decimal := ⟨below.digits + 1, power⟩
  match isReadBack a below, isReadBack a above with
  | true, true =>
    if a.distance below < a.distance above then some below
    else if a.distance above < a.distance below then some above
    else if below.digits % 2 = 0 then some below
    else some above
  | true, false => some below
  | false, true => some above
  | false, false => none

/-- The shortest decimal of a positive magnitude. Seventeen digits always
suffice. -/
def shortest (a : Binary64) : Decimal :=
  ((List.range 18).findSome? fun count => if count = 0 then none else a.withDigits? count).getD
    ⟨0, 0⟩

def withoutTrailingZeros (digits : List Char) : List Char :=
  (digits.reverse.dropWhile (· == '0')).reverse

/-- The text of a magnitude. It is positional if the first digit stands between
the fifth place after the point and the sixteenth before it. -/
def text (a : Binary64) : String :=
  if a.units = 0 then
    "0.0"
  else
    let decimal := a.shortest
    let all := Text.decimalDigits decimal.digits
    let first : Int := decimal.power + all.length - 1
    let digits := withoutTrailingZeros all
    if 0 ≤ first ∧ first ≤ 15 then
      let places := first.toNat + 1
      if digits.length ≤ places then
        String.ofList (digits ++ List.replicate (places - digits.length) '0' ++ ['.', '0'])
      else
        String.ofList (digits.take places ++ '.' :: digits.drop places)
    else if -5 ≤ first ∧ first < 0 then
      String.ofList ('0' :: '.' :: List.replicate ((-first).toNat - 1) '0' ++ digits)
    else
      let fraction :=
        match digits with
        | d :: [] => [d]
        | d :: more => d :: '.' :: more
        | [] => []
      let sign := if first < 0 then "e-" else "e+"
      String.ofList fraction ++ sign ++ Text.decimal first.natAbs

end DeviceFeed.Binary64
