/-!
# Digits

This file writes numbers in decimal and hexadecimal and reads the value of a
digit and of a run of digits.
-/

namespace DeviceFeed.Text

/-- The character of a digit below sixteen, with small letters. -/
def digitChar (d : Nat) : Char :=
  if d < 10 then Char.ofNat (0x30 + d) else Char.ofNat (0x57 + d)

/-- The digits of a number to a base of at least two, in front of a tail. -/
def digitsOnto (base : Nat) (n : Nat) (tail : List Char) : List Char :=
  if n < base ∨ base < 2 then
    digitChar n :: tail
  else
    digitsOnto base (n / base) (digitChar (n % base) :: tail)
termination_by n
decreasing_by
  exact Nat.div_lt_self (by omega) (by omega)

def decimalDigits (n : Nat) : List Char :=
  digitsOnto 10 n []

def decimal (n : Nat) : String :=
  String.ofList (decimalDigits n)

/-- An integer in decimal, with a minus sign when it is negative. -/
def signedDecimal (i : Int) : String :=
  if i < 0 then "-" ++ decimal i.natAbs else decimal i.natAbs

def hexadecimal (n : Nat) : String :=
  String.ofList (digitsOnto 16 n [])

def digitValue? (c : Char) : Option Nat :=
  if '0' ≤ c ∧ c ≤ '9' then some (c.toNat - 0x30) else none

def hexValue? (c : Char) : Option Nat :=
  if '0' ≤ c ∧ c ≤ '9' then some (c.toNat - 0x30)
  else if 'a' ≤ c ∧ c ≤ 'f' then some (c.toNat - 0x57)
  else if 'A' ≤ c ∧ c ≤ 'F' then some (c.toNat - 0x37)
  else none

def isDigit (c : Char) : Bool :=
  (digitValue? c).isSome

/-- The number that decimal digits continue, read from the left. -/
def valueFrom (n : Nat) (digits : List Char) : Nat :=
  digits.foldl (fun m c => 10 * m + (digitValue? c).getD 0) n

theorem valueFrom_eq (n : Nat) (digits : List Char) :
    valueFrom n digits = n * Nat.pow 10 digits.length + valueFrom 0 digits := by
  induction digits generalizing n with
  | nil => simp [valueFrom]
  | cons c more ih =>
    have step (m : Nat) :
        valueFrom m (c :: more) = valueFrom (10 * m + (digitValue? c).getD 0) more := rfl
    have power : Nat.pow 10 (c :: more).length = Nat.pow 10 more.length * 10 := rfl
    rw [step n, step 0, ih (10 * n + _), ih (10 * 0 + _), power]
    grind

/-- Digits in front contribute their own value, moved up by the digits behind
them. -/
theorem valueFrom_append (first second : List Char) :
    valueFrom 0 (first ++ second) =
      valueFrom 0 first * Nat.pow 10 second.length + valueFrom 0 second := by
  rw [valueFrom, List.foldl_append]
  exact valueFrom_eq (valueFrom 0 first) second

/-- The value of decimal digits, found by cutting them into halves at most so
often in a row. Long runs of digits are read much faster in this way. -/
def valueByHalves : Nat → List Char → Nat
  | 0, digits => valueFrom 0 digits
  | depth + 1, digits =>
    if digits.length < 64 then
      valueFrom 0 digits
    else
      let half := digits.length / 2
      let back := digits.drop half
      valueByHalves depth (digits.take half) * Nat.pow 10 back.length +
        valueByHalves depth back

/-- The cuts do not change the value. -/
theorem valueByHalves_eq (depth : Nat) (digits : List Char) :
    valueByHalves depth digits = valueFrom 0 digits := by
  induction depth generalizing digits with
  | zero => rfl
  | succ depth ih =>
    rw [valueByHalves]
    split
    · rfl
    · simp only [ih]
      rw [← valueFrom_append, List.take_append_drop]

def value (digits : List Char) : Nat :=
  valueByHalves digits.length.log2 digits

end DeviceFeed.Text
