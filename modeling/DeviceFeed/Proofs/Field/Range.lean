import DeviceFeed.Proofs.Field
import DeviceFeed.Proofs.Text.Words

/-!
# Which numerals denote integers

An integer that is written in full is read exactly when it fits.  Every other decimal goes
through the floating point format.  There the natural numbers up to `2 ^ 53` and the power
`2 ^ 63` are magnitudes, so rounding keeps the former and does not carry a value across the
latter.  Hence every spelling of a small integer is read as that integer, and nothing is read
from a number that is too large.
-/

namespace DeviceFeed

/-! ## Integers as magnitudes -/

namespace Binary64

/-- One is a power of two in units. -/
theorem exists_one_eq_pow : ∃ e, one = 2 ^ e := by
  unfold one
  generalize 1074 = e
  exact ⟨e, rfl⟩

theorem onGrid_mul_one {k : ℕ} (h : k ≤ 2 ^ 53) (e : ℕ) : OnGrid (k * 2 ^ e * one) := by
  obtain ⟨f, hone⟩ := exists_one_eq_pow
  rw [hone, Nat.mul_assoc, ← Nat.pow_add]
  exact onGrid_mul h (e + f)

theorem natCast_mul_one_div (k : ℕ) : ((k * one : ℕ) : ℚ) / one = k := by
  rw [Nat.cast_mul, mul_div_cancel_right₀ _ cast_one_pos.ne']

namespace CorrectlyRounds

/-- A small natural number is rounded to itself. -/
theorem eq_natCast {result : Option Binary64} {k : ℕ} (h : CorrectlyRounds result k)
    (hk : k ≤ 2 ^ 53) : result = some ⟨k * one⟩ := by
  obtain ⟨units, hnearest, hresult⟩ := h
  have hgrid := onGrid_mul_one hk 0
  rw [Nat.pow_zero, Nat.mul_one] at hgrid
  have hlimit : 2 ^ 53 * one < limit := by decide +kernel
  have hfinite : k * one < limit := Nat.lt_of_le_of_lt (Nat.mul_le_mul_right one hk) hlimit
  rw [hresult, hnearest.eq_units hgrid (natCast_mul_one_div k), if_pos hfinite]

/-- Rounding does not go below `2 ^ 63` from above. -/
theorem two_pow_le_value {b : Binary64} {v : ℚ} (h : CorrectlyRounds (some b) v)
    (hv : 2 ^ 63 ≤ v) : 2 ^ 63 ≤ b.value := by
  obtain ⟨units, hnearest, hresult⟩ := h
  split at hresult
  next =>
    obtain rfl := Option.some.inj hresult
    have hpower : ((1 * 2 ^ 63 * one : ℕ) : ℚ) / one = 2 ^ 63 := by
      rw [natCast_mul_one_div]
      norm_num
    have hgrid := onGrid_mul_one (show 1 ≤ 2 ^ 53 by decide) 63
    have hle := hnearest.le_units hgrid (hpower.trans_le hv)
    rw [value, ← hpower]
    exact div_le_div_of_nonneg_right (Nat.cast_le.2 hle) cast_one_pos.le
  next => cases hresult

end CorrectlyRounds
end Binary64

/-! ## Decimals between blanks -/

theorem Sign.isBlank_of_mem_text {s : Sign} : ∀ c ∈ s.text, Text.isBlank c = false := by
  have hall : s.text.all (fun c => !Text.isBlank c) = true := by
    cases s <;> rfl
  intro c hc
  exact (Bool.not_eq_true' _).mp (List.all_eq_true.1 hall c hc)

namespace Decimal

theorem isBlank_of_mem_text (d : Decimal) : ∀ c ∈ d.text, Text.isBlank c = false := by
  intro c hc
  have hdigit (h : Text.isDigit c = true) := Text.isBlank_of_isDigit h
  rcases List.mem_append.1 hc with hsign | hunsigned
  · exact Sign.isBlank_of_mem_text c hsign
  rcases List.mem_append.1 hunsigned with hwhole | hbehind
  · exact hdigit (d.isDigit_whole c hwhole)
  rcases List.mem_append.1 hbehind with hfraction | hpower
  · have hdigits := d.isDigit_fraction
    unfold fractionText at hfraction
    cases hpart : d.fraction with
    | none =>
        rw [hpart] at hfraction
        cases hfraction
    | some digits =>
        rw [hpart] at hfraction hdigits
        rcases List.mem_cons.1 hfraction with rfl | hin
        · decide
        · exact hdigit (hdigits c hin)
  · unfold powerText at hpower
    cases hp : d.power with
    | none =>
        rw [hp] at hpower
        cases hpower
    | some p =>
        rw [hp] at hpower
        rcases List.mem_cons.1 hpower with hmark | hexponent
        · rcases p.isMark with he | he <;> rw [hmark, he] <;> decide
        · rcases List.mem_append.1 hexponent with hsign | hin
          · exact Sign.isBlank_of_mem_text c hsign
          · exact hdigit (p.isDigit c hin)

/-- The text of a decimal is what trimming leaves. -/
theorem trim_eq_text {d : Decimal} {text : String} (h : Text.Surrounds text d.text) :
    Text.trim text.toList = d.text :=
  h.trim_eq d.isBlank_of_mem_text

/-- The magnitude that is read for a decimal is one nearest to what is written. -/
def ReadsNearest (d : Decimal) : Prop :=
  Binary64.CorrectlyRounds (Binary64.ofDecimal? d.numeral.coefficient d.numeral.exponent)
    d.magnitude

/-- This is so whenever the exponent is read to its end. -/
theorem readsNearest_of_readsFully {d : Decimal} (h : d.ReadsFully) : d.ReadsNearest := by
  rw [ReadsNearest, ← magnitude_numeral h]
  exact Binary64.correctlyRounds_ofDecimal? _ _

theorem abs_value (d : Decimal) : |d.value| = d.magnitude := by
  rw [value, Sign.abs_apply, abs_of_nonneg d.magnitude_nonneg]

end Decimal

/-! ## Integers in full -/

theorem Text.valueFrom_zeros (zeros : ℕ) (digits : List Char) :
    valueFrom 0 (List.replicate zeros '0' ++ digits) = valueFrom 0 digits := by
  induction zeros with
  | zero => rfl
  | succ zeros ih => exact ih

namespace Decimal

/-- A natural number in decimal, with a sign and with zeros in front of its digits. -/
def integer (s : Sign) (zeros n : ℕ) : Decimal where
  sign := s
  whole := List.replicate zeros '0' ++ Text.decimalDigits n
  fraction := none
  power := none
  isDigit := by
    intro c hc
    rw [Option.getD_none, List.append_nil] at hc
    rcases List.mem_append.1 hc with hzero | hdigit
    · rw [List.eq_of_mem_replicate hzero]
      decide
    · exact (Text.decimalDigits_read n).1 c hdigit
  ne_nil := by
    rw [Option.getD_none, List.append_nil]
    exact List.append_ne_nil_of_right_ne_nil _ (Text.decimalDigits_ne_nil n)

theorem text_integer (s : Sign) (zeros n : ℕ) :
    (integer s zeros n).text = s.text ++ (List.replicate zeros '0' ++ Text.decimalDigits n) :=
  congrArg (s.text ++ ·) (List.append_nil _)

theorem coefficient_integer (s : Sign) (zeros n : ℕ) : (integer s zeros n).coefficient = n := by
  have hdigits : (integer s zeros n).digits =
      List.replicate zeros '0' ++ Text.decimalDigits n := List.append_nil _
  rw [coefficient, hdigits, Text.valueFrom_zeros, (Text.decimalDigits_read n).2]

end Decimal

namespace Field

variable {text : String} {d : Decimal} {n : Int64}

/-- An integer that is written in full is read. -/
theorem number_integer {s : Sign} {zeros : ℕ} (hsign : s.isMinus = decide (n.toInt < 0))
    (htext : Text.Surrounds text
      (s.text ++ (List.replicate zeros '0' ++ Text.decimalDigits n.toInt.natAbs))) :
    number text = some n := by
  rw [← Decimal.text_integer] at htext
  have hlow := n.le_toInt
  have hhigh := n.toInt_lt
  have hvalue : s.apply (n.toInt.natAbs : ℤ) = n.toInt := by
    unfold Sign.apply
    split
    next hminus =>
      rw [hsign, decide_eq_true_eq] at hminus
      omega
    next hplus =>
      rw [hsign, decide_eq_true_eq] at hplus
      omega
  have hcoefficient := Decimal.coefficient_integer s zeros n.toInt.natAbs
  have hinteger : s.apply ((Decimal.integer s zeros n.toInt.natAbs).coefficient : ℤ) = n.toInt := by
    rw [hcoefficient, hvalue]
  rcases number_of_text (Decimal.trim_eq_text htext) with ⟨-, hnumber⟩ | ⟨hfits, -⟩
  · rw [hnumber]
    exact congrArg some ((congrArg Int64.ofInt hinteger).trans (Int64.ofInt_toInt n))
  · refine absurd ⟨⟨rfl, rfl⟩, ?_⟩ hfits
    exact ⟨hlow.trans_eq hinteger.symm, hinteger.trans_lt hhigh⟩

/-! ## Decimals that are rounded -/

/-- Every spelling of a small integer is read. -/
theorem number_of_value (htext : Text.trim text.toList = d.text) (hread : d.ReadsNearest)
    (hvalue : d.value = n.toInt) (hsmall : |n.toInt| ≤ 2 ^ 53) : number text = some n := by
  rcases number_of_text htext with ⟨hfits, hnumber⟩ | ⟨-, hnumber⟩
  · have hinteger : d.sign.apply (d.coefficient : ℤ) = n.toInt := by
      rw [Decimal.value_of_isPlain hfits.1] at hvalue
      exact_mod_cast hvalue
    rw [hnumber, hinteger, Int64.ofInt_toInt]
  · have hmagnitude : d.magnitude = n.toInt.natAbs := by
      rw [← d.abs_value, hvalue, Nat.cast_natAbs, Int.cast_abs]
    rw [Int.abs_eq_natAbs] at hsmall
    rw [Decimal.ReadsNearest, hmagnitude] at hread
    have hresult := hread.eq_natCast (by omega)
    rw [hnumber, Numeral.toInt64?_eq_some_iff]
    refine ⟨_, n.toInt.natAbs, hresult, Binary64.natCast_mul_one_div _, by omega, ?_⟩
    rw [Decimal.value, hmagnitude] at hvalue
    have hcast : ((d.sign.apply (n.toInt.natAbs : ℤ) : ℤ) : ℚ) = n.toInt := by
      rw [Sign.cast_apply, Int.cast_natCast, hvalue]
    exact_mod_cast hcast.symm

/-- Nothing is read from a number that is too large. -/
theorem number_of_large (htext : Text.trim text.toList = d.text) (hread : d.ReadsNearest)
    (hlarge : 2 ^ 63 ≤ |d.value|) (hother : ¬(d.IsPlain ∧ d.value = -2 ^ 63)) :
    number text = none := by
  rcases number_of_text htext with ⟨hfits, -⟩ | ⟨-, hnumber⟩
  · refine absurd ⟨hfits.1, ?_⟩ hother
    obtain ⟨hplain, hlow, hhigh⟩ := hfits
    rw [Decimal.value_of_isPlain hplain] at hlarge ⊢
    generalize d.sign.apply (d.coefficient : ℤ) = i at *
    have habs : 2 ^ 63 ≤ |i| := by exact_mod_cast hlarge
    rw [Int.abs_eq_natAbs] at habs
    have hlowest : i = -2 ^ 63 := by omega
    rw [hlowest]
    norm_num
  · rw [hnumber, Option.eq_none_iff_forall_ne_some]
    intro n hn
    obtain ⟨b, k, hb, hk, hless, -⟩ := Numeral.toInt64?_eq_some_iff.1 hn
    rw [Decimal.ReadsNearest, hb] at hread
    rw [d.abs_value] at hlarge
    have hvalue := hread.two_pow_le_value hlarge
    rw [hk] at hvalue
    have hle : 2 ^ 63 ≤ k := by exact_mod_cast hvalue
    omega

/-- An integer of sixty-four bits is read from each of its texts in full.  Provided that a
decimal is read as a magnitude nearest to it, an integer up to `2 ^ 53` is read from each of its
spellings, and nothing is read from a number of at least `2 ^ 63`, unless it is the least integer
in full.  In every case the integer keeps the value of the text or of the magnitude that was
read.  The proviso holds of every decimal whose exponent is read to its end. -/
theorem number_within_range (text : String) :
    (∀ (n : Int64) (s : Sign) (zeros : ℕ), s.isMinus = decide (n.toInt < 0) →
        Text.Surrounds text
          (s.text ++ (List.replicate zeros '0' ++ Text.decimalDigits n.toInt.natAbs)) →
        number text = some n) ∧
      (∀ d : Decimal, Text.Surrounds text d.text →
        (d.ReadsNearest → ∀ n : Int64, d.value = n.toInt → |n.toInt| ≤ 2 ^ 53 →
          number text = some n) ∧
        (d.ReadsNearest → 2 ^ 63 ≤ |d.value| → ¬(d.IsPlain ∧ d.value = -2 ^ 63) →
          number text = none) ∧
        ∀ n, number text = some n →
          (d.IsInt64 ∧ (n.toInt : ℚ) = d.value) ∨ (¬d.IsInt64 ∧ ∃ (b : Binary64) (k : ℕ),
            Binary64.ofDecimal? d.numeral.coefficient d.numeral.exponent = some b ∧
              b.value = k ∧ k < 2 ^ 63 ∧ n.toInt = d.sign.apply (k : ℤ))) ∧
      ∀ d : Decimal, d.ReadsFully → d.ReadsNearest := by
  refine ⟨fun n s zeros => number_integer, ?_, fun d => Decimal.readsNearest_of_readsFully⟩
  intro d hsurrounds
  have htext := Decimal.trim_eq_text hsurrounds
  exact ⟨fun hread n => number_of_value htext hread, number_of_large htext,
    fun n => number_keeps_value htext⟩

/-- Seven is read from a padded text of it and from a spelling with a power of ten, and nothing
is read from the least integer when a point follows it. -/
theorem number_within_range_at_bounds :
    let d : Decimal := ⟨.missing, "700".toList, none,
      some ⟨'e', .minus, ['2'], by decide, by decide, List.all_eq_true.1 rfl⟩,
      List.all_eq_true.1 rfl, by decide⟩
    let e : Decimal := ⟨.minus, "9223372036854775808".toList, some ['0'], none,
      List.all_eq_true.1 rfl, by decide⟩
    Text.Surrounds " +007\u3000"
        (Sign.plus.text ++ (List.replicate 2 '0' ++ Text.decimalDigits 7)) ∧
      number " +007\u3000" = some 7 ∧
      Text.Surrounds "700e-2" d.text ∧ d.ReadsNearest ∧ d.value = 7 ∧ number "700e-2" = some 7 ∧
      Text.Surrounds "-9223372036854775808.0" e.text ∧ e.ReadsNearest ∧ e.value = -2 ^ 63 ∧
      ¬e.IsPlain ∧ number "-9223372036854775808.0" = none := by
  intro d e
  have hpadded : Text.Surrounds " +007\u3000"
      (Sign.plus.text ++ (List.replicate 2 '0' ++ Text.decimalDigits 7)) := by
    rw [Text.decimalDigits_of_lt (by decide)]
    exact ⟨[' '], ['\u3000'], List.all_eq_true.1 rfl, List.all_eq_true.1 rfl, by decide⟩
  have hseven : Text.Surrounds "700e-2" d.text := Text.surrounds_of_toList_eq (by decide)
  have hleast : Text.Surrounds "-9223372036854775808.0" e.text :=
    Text.surrounds_of_toList_eq (by decide)
  have hdvalue : d.value = 7 := by
    change ((700 : ℕ) : ℚ) * 10 ^ (-2 : ℤ) = 7
    norm_num
  have hevalue : e.value = -2 ^ 63 := by
    change -(((92233720368547758080 : ℕ) : ℚ) * 10 ^ (-1 : ℤ)) = -2 ^ 63
    norm_num
  have hdfull : d.ReadsFully := by
    refine Or.inr fun p hp => ?_
    obtain rfl := Option.some.inj hp
    decide
  have hefull : e.ReadsFully := Or.inr fun p hp => by cases hp
  have hplain : ¬e.IsPlain := by decide
  obtain ⟨hinteger, -, -⟩ := number_within_range " +007\u3000"
  obtain ⟨-, hd, hproviso⟩ := number_within_range "700e-2"
  obtain ⟨-, he, -⟩ := number_within_range "-9223372036854775808.0"
  have hlarge : 2 ^ 63 ≤ |e.value| := by
    rw [hevalue]
    norm_num
  exact ⟨hpadded, hinteger 7 .plus 2 rfl hpadded, hseven, hproviso d hdfull, hdvalue,
    (hd d hseven).1 (hproviso d hdfull) 7 hdvalue (by decide), hleast, hproviso e hefull, hevalue,
    hplain, (he e hleast).2.1 (hproviso e hefull) hlarge fun h => hplain h.1⟩

end Field
end DeviceFeed
