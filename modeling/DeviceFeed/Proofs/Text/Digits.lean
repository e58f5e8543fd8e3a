import DeviceFeed.Number.Numeral
import Mathlib.Tactic.Common

/-!
# Reading back written numbers

The decimal digits of a number end with its last digit, and in front of it stand
the digits of a tenth of the number.  By induction along this recursion, reading the
digits yields the number again.  Hexadecimal digits are read one at a time.
-/

namespace DeviceFeed

namespace Text

/-! ## Single digits -/

theorem digitValue?_digitChar {d : Nat} (h : d < 10) : digitValue? (digitChar d) = some d := by
  have hall : ∀ d < 10, digitValue? (digitChar d) = some d := by decide
  exact hall d h

/-- A hexadecimal digit, with a small or a capital letter. -/
def SpellsDigit (c : Char) (d : Nat) : Prop :=
  d < 16 ∧ (c = digitChar d ∨ c = (digitChar d).toUpper)

instance (c : Char) (d : Nat) : Decidable (SpellsDigit c d) :=
  inferInstanceAs (Decidable (_ ∧ _))

theorem SpellsDigit.hexValue?_eq {c : Char} {d : Nat} (h : SpellsDigit c d) :
    hexValue? c = some d := by
  obtain ⟨hd, hc⟩ := h
  have hall : ∀ d < 16, hexValue? (digitChar d) = some d ∧
      hexValue? (digitChar d).toUpper = some d := by decide
  obtain ⟨hsmall, hcapital⟩ := hall d hd
  rcases hc with rfl | rfl
  · exact hsmall
  · exact hcapital

/-! ## Decimal digits -/

theorem digitsOnto_eq (base n : Nat) (tail : List Char) :
    digitsOnto base n tail = digitsOnto base n [] ++ tail := by
  induction n using Nat.strongRecOn generalizing tail with
  | ind n ih =>
      unfold digitsOnto
      by_cases h : n < base ∨ base < 2
      · rw [if_pos h, if_pos h]
        rfl
      · have hless : n / base < n := Nat.div_lt_self (by omega) (by omega)
        rw [if_neg h, if_neg h, ih _ hless, ih _ hless [digitChar (n % base)], List.append_assoc]
        rfl

theorem decimalDigits_of_lt {n : Nat} (h : n < 10) : decimalDigits n = [digitChar n] := by
  rw [decimalDigits, digitsOnto, if_pos (Or.inl h)]

theorem signedDecimal_neg_of_lt {n : Nat} (hpos : 0 < n) (h : n < 10) :
    signedDecimal (-n) = String.ofList ['-', digitChar n] := by
  have hneg : (-n : Int) < 0 := by omega
  rw [signedDecimal, if_pos hneg, Int.natAbs_neg, Int.natAbs_natCast, decimal,
    decimalDigits_of_lt h]
  exact (@String.ofList_append ['-'] _).symm

theorem decimalDigits_of_le {n : Nat} (h : 10 ≤ n) :
    decimalDigits n = decimalDigits (n / 10) ++ [digitChar (n % 10)] := by
  rw [decimalDigits, digitsOnto, if_neg (by omega), digitsOnto_eq]
  rfl

theorem decimalDigits_ne_nil (n : Nat) : decimalDigits n ≠ [] := by
  by_cases h : n < 10
  · rw [decimalDigits_of_lt h]
    exact List.cons_ne_nil _ _
  · rw [decimalDigits_of_le (Nat.not_lt.1 h)]
    simp

/-- The written digits are digits, and their value is the number. -/
theorem decimalDigits_read (n : Nat) :
    (∀ c ∈ decimalDigits n, isDigit c = true) ∧ valueFrom 0 (decimalDigits n) = n := by
  induction n using Nat.strongRecOn with
  | ind n ih =>
      by_cases h : n < 10
      · have hdigit := digitValue?_digitChar h
        rw [decimalDigits_of_lt h]
        constructor
        · intro c hc
          obtain rfl := List.mem_singleton.1 hc
          rw [isDigit, hdigit]
          rfl
        · rw [valueFrom, List.foldl_cons, hdigit]
          exact Nat.zero_add n
      · rw [Nat.not_lt] at h
        have hdigit := digitValue?_digitChar (Nat.mod_lt n (by decide : 0 < 10))
        obtain ⟨hfront, hvalue⟩ := ih (n / 10) (by omega)
        rw [decimalDigits_of_le h]
        constructor
        · intro c hc
          rcases List.mem_append.1 hc with hin | hlast
          · exact hfront c hin
          · obtain rfl := List.mem_singleton.1 hlast
            rw [isDigit, hdigit]
            rfl
        · have hlast : valueFrom 0 [digitChar (n % 10)] = n % 10 := by
            rw [valueFrom, List.foldl_cons, hdigit]
            exact Nat.zero_add _
          rw [valueFrom_append, hvalue, hlast]
          change n / 10 * 10 + n % 10 = n
          omega

theorem range_of_isDigit {c : Char} (h : isDigit c = true) :
    (0x30 ≤ c.toNat ∧ c.toNat ≤ 0x39) ∧ digitValue? c = some (c.toNat - 0x30) := by
  unfold isDigit at h
  unfold digitValue? at h ⊢
  split at h
  · next hc => exact ⟨hc, if_pos hc⟩
  · cases h

theorem isBlank_of_isDigit {c : Char} (h : isDigit c = true) : isBlank c = false := by
  obtain ⟨hrange, -⟩ := range_of_isDigit h
  simp only [isBlank]
  simp only [Bool.or_eq_false_iff, Bool.and_eq_false_iff, decide_eq_false_iff_not, beq_eq_false_iff_ne]
  omega

/-- Only zero is written with a zero in front. -/
theorem eq_zero_of_decimalDigits {n : Nat} {more : List Char}
    (h : decimalDigits n = '0' :: more) : n = 0 := by
  induction n using Nat.strongRecOn generalizing more with
  | ind n ih =>
      by_cases hn : n < 10
      · have hall : ∀ n < 10, digitChar n = '0' → n = 0 := by decide
        rw [decimalDigits_of_lt hn] at h
        exact hall n hn (List.cons.inj h).1
      · rw [decimalDigits_of_le (Nat.not_lt.1 hn)] at h
        obtain ⟨c, front, hfront⟩ := List.exists_cons_of_ne_nil (decimalDigits_ne_nil (n / 10))
        rw [hfront, List.cons_append] at h
        obtain rfl : c = '0' := (List.cons.inj h).1
        have htenth := ih (n / 10) (by omega) hfront
        omega

/-- Digits that follow do not make a number smaller. -/
theorem le_valueFrom (n : Nat) (digits : List Char) : n ≤ valueFrom n digits := by
  induction digits generalizing n with
  | nil => exact Nat.le_refl n
  | cons c more ih =>
      have hmore := ih (10 * n + (digitValue? c).getD 0)
      have hfirst : n ≤ 10 * n + (digitValue? c).getD 0 := by omega
      exact Nat.le_trans hfirst hmore

end Text

/-! ## Integers -/

namespace Numeral

theorem digits?_decimalDigits (n : Nat) : digits? (Text.decimalDigits n) = some n := by
  obtain ⟨hdigits, hvalue⟩ := Text.decimalDigits_read n
  rw [digits?, if_pos ⟨Text.decimalDigits_ne_nil n, List.all_eq_true.2 hdigits⟩, Text.value,
    Text.valueByHalves_eq, hvalue]

theorem sign_of_digits {cs : List Char} (h : ∀ c ∈ cs, Text.isDigit c = true) :
    sign cs = (false, cs) := by
  unfold sign
  split
  · exact absurd (h '-' List.mem_cons_self) (by decide)
  · exact absurd (h '+' List.mem_cons_self) (by decide)
  · rfl

/-- Reading a written integer yields the integer. -/
theorem integer?_signedDecimal (i : Int) : integer? (Text.signedDecimal i).toList = some i := by
  have hdigits := digits?_decimalDigits i.natAbs
  rw [Text.signedDecimal]
  split
  · have hsign : sign ("-" ++ Text.decimal i.natAbs).toList =
        (true, Text.decimalDigits i.natAbs) := by
      simp only [String.toList_append, Text.decimal, String.toList_ofList]
      rfl
    have hvalue : -(i.natAbs : Int) = i := by omega
    simp only [integer?, hsign, hdigits]
    exact congrArg some hvalue
  · have hsign := sign_of_digits (Text.decimalDigits_read i.natAbs).1
    have hvalue : (i.natAbs : Int) = i := by omega
    simp only [integer?, Text.decimal, String.toList_ofList, hsign, hdigits]
    exact congrArg some hvalue

end Numeral

theorem int64?_toInt (i : Int64) : int64? i.toInt = some i := by
  have hlow := i.le_toInt
  have hhigh := i.toInt_lt
  rw [int64?, if_pos ⟨by simpa using hlow, by simpa using hhigh⟩, Int64.ofInt_toInt]

theorem int64?_eq_some_iff {i : Int} {n : Int64} : int64? i = some n ↔ n.toInt = i := by
  constructor
  · intro h
    rw [int64?] at h
    split at h
    next hfits =>
      rw [← Option.some.inj h]
      exact Int64.toInt_ofInt_of_le hfits.1 hfits.2
    next => cases h
  · rintro rfl
    exact int64?_toInt n

end DeviceFeed
