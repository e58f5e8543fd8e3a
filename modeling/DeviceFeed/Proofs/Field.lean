import DeviceFeed.Tracking
import DeviceFeed.Proofs.Number.Binary64
import DeviceFeed.Proofs.Number.Decimal

/-!
# Numbers in fields

An integer that is written without a point and without a power of ten is read exactly when
it fits.  Every other decimal is rounded to the nearest magnitude of the floating point
format first, and counts when that is an integer.  So the integer that is read is the number
that is written just when rounding changes nothing, and is near to it otherwise.
-/

namespace DeviceFeed

open Binary64 (Representable)

/-! ## Signs and values -/

namespace Sign

theorem apply_inj {s : Sign} {x y : ℚ} : s.apply x = s.apply y ↔ x = y := by
  unfold apply
  split
  · exact neg_inj
  · exact Iff.rfl

theorem apply_zero {α : Type} [NegZeroClass α] (s : Sign) : s.apply (0 : α) = 0 := by
  unfold apply
  split
  · exact neg_zero
  · rfl

/-- Only zero is the same with either sign. -/
theorem eq_zero_of_apply {s t : Sign} {x : ℚ} (hne : s.isMinus ≠ t.isMinus)
    (h : s.apply x = t.apply x) : x = 0 := by
  unfold apply at h
  cases hs : s.isMinus with
  | true =>
      have ht : t.isMinus = false := by rw [← Bool.not_eq_true, ← hs]; exact hne.symm
      rw [hs, ht, if_pos rfl, if_neg Bool.false_ne_true] at h
      linarith
  | false =>
      have ht : t.isMinus = true := by rw [← Bool.not_eq_false, ← hs]; exact hne.symm
      rw [hs, ht, if_pos rfl, if_neg Bool.false_ne_true] at h
      linarith

theorem abs_apply_sub (s : Sign) (x y : ℚ) : |s.apply x - s.apply y| = |x - y| := by
  unfold apply
  split
  · rw [neg_sub_neg, abs_sub_comm]
  · rfl

theorem abs_apply (s : Sign) (x : ℚ) : |s.apply x| = |x| := by
  unfold apply
  split
  · exact abs_neg x
  · rfl

end Sign

/-- The absolute value of a numeral. -/
def Numeral.magnitude (n : Numeral) : ℚ :=
  n.coefficient * 10 ^ n.exponent

namespace Decimal

theorem magnitude_nonneg (d : Decimal) : 0 ≤ d.magnitude := by
  unfold magnitude
  positivity

/-- The exponent is read to its end, or makes no difference. -/
def ReadsFully (d : Decimal) : Prop :=
  d.coefficient = 0 ∨ ∀ p ∈ d.power, p.size < 655360

/-- What is read is as large as what is written. -/
theorem magnitude_numeral {d : Decimal} (h : d.ReadsFully) :
    d.numeral.magnitude = d.magnitude := by
  rcases h with hzero | hfull
  · rw [Numeral.magnitude, magnitude, numeral, hzero, Nat.cast_zero, zero_mul, zero_mul]
  · have hpower : d.power.elim 0 Power.read = d.power.elim 0 Power.value := by
      cases hpower : d.power with
      | none => rfl
      | some p =>
          exact congrArg (fun n : ℕ => p.sign.apply (n : ℤ))
            (Numeral.exponentValue_eq (hfull p hpower))
    rw [Numeral.magnitude, numeral, hpower]
    rfl

/-- An exponent that is not read to its end makes a number much larger or much smaller. -/
theorem tenfold_of_not_readsFully {d : Decimal} (h : ¬ d.ReadsFully) :
    0 < d.magnitude ∧ 0 < d.numeral.magnitude ∧
      (10 * d.numeral.magnitude ≤ d.magnitude ∨ 10 * d.magnitude ≤ d.numeral.magnitude) := by
  rw [ReadsFully, not_or] at h
  obtain ⟨hcoefficient, hlong⟩ := h
  push Not at hlong
  obtain ⟨p, hp, hsize⟩ := hlong
  have hread : Numeral.exponentValue p.digits + 1 ≤ p.size :=
    Nat.le_trans (Numeral.exponentValue_lt p.digits) hsize
  have hpos : (0 : ℚ) < d.coefficient := by
    exact_mod_cast Nat.pos_of_ne_zero hcoefficient
  have hten {i j : ℤ} (hij : i + 1 ≤ j) :
      10 * (d.coefficient * 10 ^ i : ℚ) ≤ d.coefficient * 10 ^ j := by
    rw [mul_left_comm, ← zpow_one_add₀ (by norm_num), add_comm]
    exact mul_le_mul_of_nonneg_left (zpow_le_zpow_right₀ (by norm_num) hij) hpos.le
  have hpowers (i : ℤ) : (0 : ℚ) < d.coefficient * 10 ^ i :=
    mul_pos hpos (zpow_pos (by norm_num) i)
  refine ⟨hpowers _, hpowers _, ?_⟩
  have hpower : d.power = some p := hp
  have hwritten : d.exponent = p.sign.apply (p.size : ℤ) - (d.fraction.getD []).length := by
    rw [exponent, hpower]
    rfl
  have htaken : d.numeral.exponent =
      p.sign.apply (Numeral.exponentValue p.digits : ℤ) - (d.fraction.getD []).length := by
    rw [numeral, hpower]
    rfl
  change 10 * (d.coefficient * 10 ^ d.numeral.exponent : ℚ) ≤ d.coefficient * 10 ^ d.exponent ∨
    10 * (d.coefficient * 10 ^ d.exponent : ℚ) ≤ d.coefficient * 10 ^ d.numeral.exponent
  unfold Sign.apply at hwritten htaken
  split at hwritten
  next hminus =>
    rw [if_pos hminus] at htaken
    exact Or.inr (hten (by omega))
  next hplus =>
    rw [if_neg hplus] at htaken
    exact Or.inl (hten (by omega))

end Decimal

/-! ## Reading an integer -/

namespace Numeral

/-- What a decimal denotes is the natural number that its magnitude is read as, with the sign in
front, when that is below `2 ^ 63`. -/
theorem toInt64?_eq_some_iff {d : Decimal} {n : Int64} :
    d.numeral.toInt64? = some n ↔
      ∃ (b : Binary64) (k : ℕ),
        Binary64.ofDecimal? d.numeral.coefficient d.numeral.exponent = some b ∧ b.value = k ∧
          k < 2 ^ 63 ∧ n.toInt = d.sign.apply (k : ℤ) := by
  have hinteger (k : ℕ) : (if d.numeral.negative then -(k : ℤ) else k) = d.sign.apply (k : ℤ) :=
    rfl
  constructor
  · intro h
    obtain ⟨b, hb, hrest⟩ := Option.bind_eq_some_iff.1 h
    obtain ⟨k, hk, hlast⟩ := Option.bind_eq_some_iff.1 hrest
    split at hlast
    next hless =>
      obtain rfl := Option.some.inj hlast
      refine ⟨b, k, hb, Binary64.toNat?_eq_some_iff.1 hk, hless, ?_⟩
      have hrange : -2 ^ 63 ≤ d.sign.apply (k : ℤ) ∧ d.sign.apply (k : ℤ) < 2 ^ 63 := by
        unfold Sign.apply
        split <;> omega
      rw [hinteger, Int64.toInt_ofInt_of_le hrange.1 hrange.2]
    next => cases hlast
  · rintro ⟨b, k, hb, hk, hless, hn⟩
    have hfits : k < 0x8000000000000000 := hless
    rw [toInt64?, hb, Option.bind_some, Binary64.toNat?_eq_some_iff.2 hk, Option.bind_some,
      if_pos hfits, hinteger, ← hn, Int64.ofInt_toInt]

/-- What a numeral denotes depends on its value only. -/
theorem toInt64?_congr {d e : Decimal} (hd : d.ReadsFully) (he : e.ReadsFully)
    (hvalue : d.value = e.value) : d.numeral.toInt64? = e.numeral.toInt64? := by
  have hmagnitude : d.magnitude = e.magnitude := by
    have habs := congrArg abs hvalue
    rwa [Decimal.value, Decimal.value, Sign.abs_apply, Sign.abs_apply,
      abs_of_nonneg d.magnitude_nonneg, abs_of_nonneg e.magnitude_nonneg] at habs
  have hsame : Binary64.ofDecimal? d.numeral.coefficient d.numeral.exponent =
      Binary64.ofDecimal? e.numeral.coefficient e.numeral.exponent := by
    apply Binary64.ofDecimal?_congr
    rw [← Decimal.magnitude_numeral hd, ← Decimal.magnitude_numeral he] at hmagnitude
    exact hmagnitude
  -- the signs differ for zero only
  have hsign {b : Binary64} {k : ℕ} (hb : b.Rounds e.numeral.magnitude) (hk : b.value = k) :
      d.sign.apply (k : ℤ) = e.sign.apply (k : ℤ) := by
    by_cases hminus : d.sign.isMinus = e.sign.isMinus
    · rw [Sign.apply, Sign.apply, hminus]
    · have hzero : e.magnitude = 0 := by
        rw [Decimal.value, Decimal.value, hmagnitude] at hvalue
        exact Sign.eq_zero_of_apply hminus hvalue
      rw [Decimal.magnitude_numeral he, hzero] at hb
      have hle := hb.value_le_double le_rfl
      rw [mul_zero, hk] at hle
      obtain rfl : k = 0 := Nat.cast_nonpos.1 hle
      rw [Nat.cast_zero, Sign.apply_zero, Sign.apply_zero]
  rw [toInt64?, toInt64?, hsame]
  cases hb : Binary64.ofDecimal? e.numeral.coefficient e.numeral.exponent with
  | none => rfl
  | some b =>
      cases hk : b.toNat? with
      | none => simp only [Option.bind_some, hk, Option.bind_none]
      | some k =>
          have heq := hsign (Binary64.rounds_of_ofDecimal? hb)
            (Binary64.toNat?_eq_some_iff.1 hk)
          simp only [Option.bind_some, hk]
          exact congrArg (fun i : ℤ => if k < _ then some (Int64.ofInt i) else none) heq

end Numeral

namespace Decimal

/-- An integer is written in full, and it fits. -/
def IsInt64 (d : Decimal) : Prop :=
  d.IsPlain ∧ -0x8000000000000000 ≤ d.sign.apply (d.coefficient : ℤ) ∧
    d.sign.apply (d.coefficient : ℤ) < 0x8000000000000000

instance (d : Decimal) : Decidable d.IsInt64 :=
  inferInstanceAs (Decidable (_ ∧ _))

/-- What is written is an integer that fits, or rounding it changes nothing. -/
def Faithful (d : Decimal) : Prop :=
  d.IsInt64 ∨ (d.ReadsFully ∧ Representable d.magnitude)

/-- An integer is within one part in `2 ^ 53` of what is written, or it is zero and what is
written is at most half of the least positive magnitude. -/
def Near (d : Decimal) (i : ℤ) : Prop :=
  2 ^ 53 * |(i : ℚ) - d.value| ≤ |(i : ℚ)| ∨ (i = 0 ∧ 2 * |d.value| ≤ 1 / Binary64.one)

end Decimal

namespace Field

/-- A field that holds a number is the text of a decimal between blanks. -/
theorem exists_of_number {text : String} {n : Int64} (h : number text = some n) :
    ∃ d : Decimal, Text.trim text.toList = d.text := by
  rw [number] at h
  split at h
  next value hinteger =>
    obtain ⟨i, hi, -⟩ := Option.bind_eq_some_iff.1 hinteger
    exact Numeral.exists_of_integer? hi
  next =>
    obtain ⟨numeral, hnumeral, -⟩ := Option.bind_eq_some_iff.1 h
    exact Numeral.exists_of_parse? hnumeral

variable {text : String} {d : Decimal} {n : Int64}

/-- How the text of a decimal is read. -/
theorem number_of_text (htext : Text.trim text.toList = d.text) :
    (d.IsInt64 ∧ number text = some (Int64.ofInt (d.sign.apply (d.coefficient : ℤ)))) ∨
      (¬d.IsInt64 ∧ number text = d.numeral.toInt64?) := by
  rw [number, htext, Numeral.parse?_text, Numeral.integer?_text]
  by_cases hfits : d.IsInt64
  · refine Or.inl ⟨hfits, ?_⟩
    have hvalue : int64? (d.sign.apply (d.coefficient : ℤ)) =
        some (Int64.ofInt (d.sign.apply (d.coefficient : ℤ))) := if_pos hfits.2
    rw [if_pos hfits.1, Option.bind_some, hvalue]
  · refine Or.inr ⟨hfits, ?_⟩
    have hnone : (if d.IsPlain then some (d.sign.apply (d.coefficient : ℤ)) else none).bind
        int64? = none := by
      split
      next hplain => exact if_neg fun hrange => hfits ⟨hplain, hrange⟩
      next => rfl
    rw [hnone]
    rfl

/-- What is read is what is written in full, or it is the natural number below `2 ^ 63` that the
magnitude is read as, with the sign in front. -/
theorem number_keeps_value (htext : Text.trim text.toList = d.text) (h : number text = some n) :
    (d.IsInt64 ∧ (n.toInt : ℚ) = d.value) ∨ (¬d.IsInt64 ∧ ∃ (b : Binary64) (k : ℕ),
      Binary64.ofDecimal? d.numeral.coefficient d.numeral.exponent = some b ∧ b.value = k ∧
        k < 2 ^ 63 ∧ n.toInt = d.sign.apply (k : ℤ)) := by
  rcases number_of_text htext with ⟨hfits, hnumber⟩ | ⟨hfits, hnumber⟩
  · rw [hnumber, Option.some.injEq] at h
    refine Or.inl ⟨hfits, ?_⟩
    rw [← h, Int64.toInt_ofInt_of_le hfits.2.1 hfits.2.2, Decimal.value_of_isPlain hfits.1]
  · rw [hnumber] at h
    exact Or.inr ⟨hfits, Numeral.toInt64?_eq_some_iff.1 h⟩

/-- What is read is exact, or it is the magnitude nearest to the numeral. -/
theorem number_cases (htext : Text.trim text.toList = d.text) (h : number text = some n) :
    (d.IsInt64 ∧ (n.toInt : ℚ) = d.value) ∨
      (¬d.IsInt64 ∧ ∃ b : Binary64, b.Rounds d.numeral.magnitude ∧ (∃ k : ℕ, b.value = k) ∧
        (n.toInt : ℚ) = d.sign.apply b.value) := by
  rcases number_keeps_value htext h with hexact | ⟨hfits, b, k, hb, hk, -, hn⟩
  · exact Or.inl hexact
  · refine Or.inr ⟨hfits, b, Binary64.rounds_of_ofDecimal? hb, ⟨k, hk⟩, ?_⟩
    rw [hn, hk, Sign.cast_apply, Int.cast_natCast]

/-- The integer that is read is the number that is written just when rounding it changes
nothing. -/
theorem number_eq_value_iff (htext : Text.trim text.toList = d.text) (h : number text = some n) :
    (n.toInt : ℚ) = d.value ↔ d.Faithful := by
  rcases number_cases htext h with ⟨hfits, hexact⟩ | ⟨hfits, b, hround, -, hvalue⟩
  · exact ⟨fun _ => Or.inl hfits, fun _ => hexact⟩
  · rw [hvalue, Decimal.value, Sign.apply_inj]
    constructor
    · intro hsame
      refine Or.inr ⟨?_, b, hround.valid, hsame⟩
      by_contra hpart
      obtain ⟨hpos, hread, hfar⟩ := Decimal.tenfold_of_not_readsFully hpart
      rw [← hsame] at hpos hfar
      have habove := hround.value_le_double hread.le
      have hbelow := hround.le_double hpos
      rcases hfar with hfar | hfar <;> linarith
    · rintro (hinteger | ⟨hfull, hrepresentable⟩)
      · exact absurd hinteger hfits
      · rw [Decimal.magnitude_numeral hfull] at hround
        exact hround.value_eq_iff.2 hrepresentable

/-- The integer that is read is near to the number that is written. -/
theorem near_of_number (htext : Text.trim text.toList = d.text) (h : number text = some n)
    (hfull : d.ReadsFully) : d.Near n.toInt := by
  rcases number_cases htext h with ⟨-, hexact⟩ | ⟨-, b, hround, ⟨k, hk⟩, hvalue⟩
  · refine Or.inl ?_
    rw [hexact, sub_self, abs_zero, mul_zero]
    exact abs_nonneg _
  · rw [Decimal.magnitude_numeral hfull] at hround
    have hunits := Binary64.value_eq_natCast_iff.1 hk
    rcases Nat.eq_zero_or_pos k with rfl | hpos
    · refine Or.inr ⟨?_, ?_⟩
      · rw [hk, Nat.cast_zero, Sign.apply_zero] at hvalue
        exact_mod_cast hvalue
      · rw [Decimal.value, Sign.abs_apply, abs_of_nonneg d.magnitude_nonneg]
        exact hround.le_of_units_eq_zero (hunits.trans (Nat.zero_mul _)) d.magnitude_nonneg
    · have hlarge : 2 ^ 52 ≤ b.units := by
        have hone : 2 ^ 52 ≤ Binary64.one := by decide +kernel
        rw [hunits]
        exact hone.trans (Nat.le_mul_of_pos_left _ hpos)
      refine Or.inl ?_
      rw [hvalue, Decimal.value, Sign.abs_apply_sub, Sign.abs_apply]
      exact (hround.error_le hlarge).trans (le_abs_self _)

/-- Decimals of the same value are read alike, unless only one of them is an integer that is
written in full. -/
theorem number_congr {other : String} {e : Decimal} (htext : Text.trim text.toList = d.text)
    (hother : Text.trim other.toList = e.text) (hd : d.ReadsFully) (he : e.ReadsFully)
    (hvalue : d.value = e.value) (hkind : d.IsInt64 ↔ e.IsInt64) :
    number text = number other := by
  rcases number_of_text htext with ⟨hfits, hnumber⟩ | ⟨hround, hnumber⟩
  · rcases number_of_text hother with ⟨hfitsToo, hsecond⟩ | ⟨hround, hsecond⟩
    · have hsame : d.sign.apply (d.coefficient : ℤ) = e.sign.apply (e.coefficient : ℤ) := by
        rw [Decimal.value_of_isPlain hfits.1, Decimal.value_of_isPlain hfitsToo.1] at hvalue
        exact_mod_cast hvalue
      rw [hnumber, hsecond, hsame]
    · exact absurd (hkind.1 hfits) hround
  · rcases number_of_text hother with ⟨hfits, hsecond⟩ | ⟨hroundToo, hsecond⟩
    · exact absurd (hkind.2 hfits) hround
    · rw [hnumber, hsecond, Numeral.toInt64?_congr hd he hvalue]

/-- Only the text of a decimal holds a number.  The number is the one that is written just when
rounding changes nothing, and is near to it otherwise.  So a fraction that is not rounded, or
not near to an integer, holds no number, and another text of the same value holds the same one
unless only one of them is an integer that is written in full.  A followed device is found
under the same conditions. -/
theorem number_rounds (text : String) :
    (∀ n, number text = some n → ∃ d : Decimal, Text.trim text.toList = d.text ∧
        ((n.toInt : ℚ) = d.value ↔ d.Faithful) ∧ (d.ReadsFully → d.Near n.toInt)) ∧
      (∀ d : Decimal, Text.trim text.toList = d.text → (∀ i : ℤ, d.value ≠ i) →
        d.Faithful ∨ (d.ReadsFully ∧ ∀ i, ¬d.Near i) → number text = none) ∧
      (∀ other (d e : Decimal), Text.trim text.toList = d.text →
        Text.trim other.toList = e.text → d.value = e.value →
        (d.ReadsFully ∧ e.ReadsFully ∧ (d.IsInt64 ↔ e.IsInt64) → number text = number other) ∧
          (d.Faithful ∧ e.Faithful → ∀ m n, number text = some m → number other = some n →
            m = n)) ∧
      ∀ tracking : Tracking, tracking.isFollowed text = true →
        ∃ followed, tracking.deviceId = some followed ∧ ∃ d : Decimal,
          Text.trim text.toList = d.text ∧
            ((followed.toInt : ℚ) = d.value ↔ d.Faithful) ∧
            (d.ReadsFully → d.Near followed.toInt) := by
  have hnumber (n : Int64) (h : number text = some n) : ∃ d : Decimal,
      Text.trim text.toList = d.text ∧ ((n.toInt : ℚ) = d.value ↔ d.Faithful) ∧
        (d.ReadsFully → d.Near n.toInt) := by
    obtain ⟨d, htext⟩ := exists_of_number h
    exact ⟨d, htext, number_eq_value_iff htext h, near_of_number htext h⟩
  refine ⟨hnumber, ?_, ?_, ?_⟩
  · intro d htext hfraction hread
    cases h : number text with
    | none => rfl
    | some n =>
        rcases hread with hfaithful | ⟨hfull, hfar⟩
        · exact absurd ((number_eq_value_iff htext h).2 hfaithful).symm (hfraction n.toInt)
        · exact absurd (near_of_number htext h hfull) (hfar n.toInt)
  · intro other d e htext hother hvalue
    refine ⟨fun ⟨hd, he, hkind⟩ => number_congr htext hother hd he hvalue hkind, ?_⟩
    rintro ⟨hd, he⟩ m n hm hn
    have hsame : (m.toInt : ℚ) = n.toInt :=
      ((number_eq_value_iff htext hm).2 hd).trans
        (hvalue.trans ((number_eq_value_iff hother hn).2 he).symm)
    exact Int64.toInt_inj.1 (by exact_mod_cast hsame)
  · intro tracking h
    unfold Tracking.isFollowed at h
    split at h
    next followed n hdevice hid =>
      obtain rfl : followed = n := eq_of_beq h
      exact ⟨followed, hdevice, hnumber followed hid⟩
    next => cases h

/-- Seven is read from two spellings of it. -/
theorem number_rounds_seven :
    let d : Decimal := ⟨.missing, ['7'], some ['0'], none, List.all_eq_true.1 rfl, by decide⟩
    let e : Decimal := ⟨.plus, ['7', '0'], none,
      some ⟨'e', .minus, ['1'], by decide, by decide, List.all_eq_true.1 rfl⟩,
      List.all_eq_true.1 rfl, by decide⟩
    Text.trim " 7.0".toList = d.text ∧ Text.trim "+70e-1".toList = e.text ∧
      d.value = 7 ∧ e.value = 7 ∧ d.ReadsFully ∧ e.ReadsFully ∧ d.Faithful ∧ d.Near 7 ∧
      number " 7.0" = some 7 ∧ number "+70e-1" = some 7 := by
  intro d e
  have hfirst : Text.trim " 7.0".toList = d.text := by decide
  have hsecond : Text.trim "+70e-1".toList = e.text := by decide
  have hdvalue : d.value = 7 := by
    change ((70 : ℕ) : ℚ) * 10 ^ (-1 : ℤ) = 7
    norm_num
  have hevalue : e.value = 7 := by
    change ((70 : ℕ) : ℚ) * 10 ^ (-1 : ℤ) = 7
    norm_num
  have hd : d.ReadsFully := Or.inr fun p hp => by cases hp
  have he : e.ReadsFully := by
    refine Or.inr fun p hp => ?_
    obtain rfl := Option.some.inj hp
    decide
  have hnumber : number " 7.0" = some 7 := by decide +kernel
  obtain ⟨hexact, -, hcongr, -⟩ := number_rounds " 7.0"
  have hsame : number " 7.0" = number "+70e-1" :=
    (hcongr _ d e hfirst hsecond (hdvalue.trans hevalue.symm)).1 ⟨hd, he, by decide⟩
  obtain ⟨other, hother, hfaithful, hnear⟩ := hexact _ hnumber
  obtain rfl := Decimal.text_injective (hfirst.symm.trans hother)
  have hseven : ((7 : Int64).toInt : ℚ) = d.value := hdvalue.symm
  exact ⟨hfirst, hsecond, hdvalue, hevalue, hd, he, hfaithful.1 hseven, hnear hd, hnumber,
    hsame.symm.trans hnumber⟩

/-- Twenty decimal places are more than the format holds: what is written is less than one,
and one is read.  So a device with this number is taken for the one that is followed. -/
theorem number_not_exact :
    number "0.99999999999999999999" = some 1 ∧
      (Tracking.strict 1).isFollowed "0.99999999999999999999" = true ∧
      (∃ d : Decimal, Text.trim "0.99999999999999999999".toList = d.text ∧
        ∀ i : ℤ, d.value ≠ i) ∧
      ¬∀ text n, number text = some n →
        ∃ d : Decimal, Text.trim text.toList = d.text ∧ d.value = n.toInt := by
  have hnumber : number "0.99999999999999999999" = some 1 := by decide +kernel
  have hfollowed : (Tracking.strict 1).isFollowed "0.99999999999999999999" = true := by
    decide +kernel
  let d : Decimal :=
    ⟨.missing, ['0'], some "99999999999999999999".toList, none, List.all_eq_true.1 (by decide),
      by decide⟩
  have htext : Text.trim "0.99999999999999999999".toList = d.text := by decide
  have hfraction (i : ℤ) : d.value ≠ i := by
    intro h
    have hvalue : d.value = ((99999999999999999999 : ℕ) : ℚ) * 10 ^ (-20 : ℤ) := by
      rfl
    have hwhole : (i : ℚ) * 10 ^ 20 = 99999999999999999999 := by
      rw [← h, hvalue]
      norm_num
    have hinteger : i * 10 ^ 20 = 99999999999999999999 := by exact_mod_cast hwhole
    omega
  refine ⟨hnumber, hfollowed, ⟨d, htext, hfraction⟩, ?_⟩
  intro hall
  obtain ⟨e, hother, hvalue⟩ := hall _ _ hnumber
  obtain rfl := Decimal.text_injective (htext.symm.trans hother)
  exact hfraction _ hvalue

end Field
end DeviceFeed
