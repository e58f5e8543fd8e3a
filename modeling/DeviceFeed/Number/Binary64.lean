/-!
# Binary floating point of double precision

A finite magnitude in this format is a whole multiple of `2 ^ -1074`, so this
file represents it by that multiple and computes with natural numbers only.
The main operation rounds a quotient of natural numbers to the nearest
magnitude and resolves ties towards an even last digit.
-/

namespace DeviceFeed

/-- A finite magnitude, counted in multiples of the least positive one. -/
structure Binary64 where
  units : Nat
  deriving DecidableEq, Repr

namespace Binary64

/-- How many units make one. -/
def one : Nat := Nat.pow 2 1074

/-- The first number of units that is too large for a finite magnitude. -/
def limit : Nat := Nat.pow 2 2098

/-- The distance from a magnitude to the next greater one, in units. Up to
fifty-three binary digits every number of units is a magnitude. -/
def spacing (units : Nat) : Nat :=
  Nat.pow 2 (units.log2 - 52)

/-- A quotient rounded to the nearest natural number, ties to the even one. -/
def nearest (numerator denominator : Nat) : Nat :=
  let below := numerator / denominator
  let twice := 2 * (numerator % denominator)
  if denominator < twice ∨ (twice = denominator ∧ below % 2 = 1) then below + 1 else below

/-- The magnitude nearest to a quotient with a positive denominator, unless the
quotient is too large. -/
def ofQuotient? (numerator denominator : Nat) : Option Binary64 :=
  let scaled := numerator * one
  let step := spacing (scaled / denominator)
  let units := nearest scaled (denominator * step) * step
  if units < limit then some ⟨units⟩ else none

/-- The magnitude nearest to a natural number, unless it is too large. -/
def ofNat? (n : Nat) : Option Binary64 :=
  ofQuotient? n 1

/-- The magnitude nearest to `coefficient * 10 ^ exponent`, unless it is too
large. Powers of ten that are beyond every magnitude are not computed. -/
def ofDecimal? (coefficient : Nat) (exponent : Int) : Option Binary64 :=
  if coefficient = 0 then
    some ⟨0⟩
  else if 0 ≤ exponent then
    if exponent ≤ 400 then ofNat? (coefficient * Nat.pow 10 exponent.toNat) else none
  else if -exponent ≤ 400 + coefficient.log2 then
    ofQuotient? coefficient (Nat.pow 10 (-exponent).toNat)
  else
    some ⟨0⟩

/-- The rounded product of two magnitudes, unless it is too large. -/
def mul? (a b : Binary64) : Option Binary64 :=
  ofQuotient? (a.units * b.units) (one * one)

/-- The rounded quotient of two magnitudes, of which the second is not zero,
unless it is too large. -/
def div? (a b : Binary64) : Option Binary64 :=
  ofQuotient? a.units b.units

/-- The natural number that a magnitude is equal to, if there is one. -/
def toNat? (a : Binary64) : Option Nat :=
  if a.units % one = 0 then some (a.units / one) else none

end Binary64

end DeviceFeed
