import DeviceFeed.Number.Binary64
import Mathlib.Algebra.Order.Ring.Rat
import Mathlib.Algebra.Order.Field.Basic
import Mathlib.Tactic.FieldSimp
import Mathlib.Tactic.Linarith
import Mathlib.Tactic.NormNum
import Mathlib.Tactic.Positivity
import Mathlib.Tactic.Ring

/-!
# Correct rounding

The magnitudes of the floating point format are the natural numbers of units in which all
but the first fifty-three binary digits are zero.  The multiples of the spacing near a
quotient are such numbers, and below the first power of two that is not above the quotient
no other magnitude is nearer.  So the magnitude found by rounding to a multiple of the
spacing is the nearest of all.
-/

namespace DeviceFeed.Binary64

/-! ## Magnitudes -/

/-- What a magnitude denotes. -/
def value (b : Binary64) : ℚ :=
  b.units / one

/-- Fifty-three binary digits are enough for this number of units. -/
def OnGrid (units : Nat) : Prop :=
  spacing units ∣ units

instance (units : Nat) : Decidable (OnGrid units) :=
  inferInstanceAs (Decidable (spacing units ∣ units))

/-- A finite magnitude of the format. -/
structure Valid (b : Binary64) : Prop where
  onGrid : OnGrid b.units
  finite : b.units < limit

/-- No magnitude is nearer to a value, be it finite or not. -/
structure Rounds (b : Binary64) (v : ℚ) : Prop where
  valid : b.Valid
  nearest : ∀ units, OnGrid units → |b.value - v| ≤ |(units : ℚ) / one - v|

/-- No number of units on the grid is nearer to a value, be it finite or not. -/
structure IsNearest (units : Nat) (v : ℚ) : Prop where
  onGrid : OnGrid units
  le : ∀ other, OnGrid other → |(units : ℚ) / one - v| ≤ |(other : ℚ) / one - v|

/-- A result is a magnitude nearest to a value, or is missing where that would be infinite.  It
does not matter here which way ties are resolved. -/
def CorrectlyRounds (result : Option Binary64) (v : ℚ) : Prop :=
  ∃ units, IsNearest units v ∧ result = if units < limit then some ⟨units⟩ else none

theorem cast_one_pos : (0 : ℚ) < one := by
  have hpos : 0 < one := by decide +kernel
  exact Nat.cast_pos.2 hpos

theorem onGrid_mul {m : Nat} (hm : m ≤ 2 ^ 53) (e : Nat) : OnGrid (m * 2 ^ e) := by
  change 2 ^ ((m * 2 ^ e).log2 - 52) ∣ m * 2 ^ e
  rcases Nat.eq_or_lt_of_le hm with rfl | hless
  · rw [← Nat.pow_add, Nat.log2_two_pow]
    exact Nat.pow_dvd_pow 2 (by omega)
  · have hpow : m * 2 ^ e < 2 ^ (53 + e) := by
      rw [Nat.pow_add]
      exact Nat.mul_lt_mul_of_pos_right hless (Nat.two_pow_pos e)
    have hlog : (m * 2 ^ e).log2 - 52 ≤ e := by
      by_cases hzero : m * 2 ^ e = 0
      · rw [hzero]
        exact Nat.zero_le e
      · have := (Nat.log2_lt hzero).2 hpow
        omega
    exact Nat.dvd_trans (Nat.pow_dvd_pow 2 hlog) (Nat.dvd_mul_left _ _)

theorem onGrid_of_le {units : Nat} (h : units ≤ 2 ^ 53) : OnGrid units := by
  have hgrid := onGrid_mul h 0
  rwa [Nat.pow_zero, Nat.mul_one] at hgrid

theorem OnGrid.dvd {units e : Nat} (h : OnGrid units) (hle : 2 ^ (52 + e) ≤ units) :
    2 ^ e ∣ units := by
  have hpos : units ≠ 0 := by
    have := Nat.two_pow_pos (52 + e)
    omega
  have hlog : 52 + e ≤ units.log2 := (Nat.le_log2 hpos).2 hle
  exact Nat.dvd_trans (Nat.pow_dvd_pow 2 (by omega)) h

/-- The digits of a magnitude and their place. -/
theorem OnGrid.exists_digits {units : Nat} (h : OnGrid units) :
    ∃ m e, units = m * 2 ^ e ∧ m < 2 ^ 53 ∧ (2 ^ 52 ≤ units → 2 ^ 52 ≤ m) := by
  generalize he : units.log2 - 52 = e
  obtain ⟨m, hm⟩ : 2 ^ e ∣ units := by
    rw [← he]
    exact h
  refine ⟨m, e, hm.trans (Nat.mul_comm _ _), ?_, ?_⟩
  · have hless : 2 ^ e * m < 2 ^ e * 2 ^ 53 := by
      rw [← hm, ← Nat.pow_add]
      exact Nat.lt_of_lt_of_le Nat.lt_log2_self (Nat.pow_le_pow_right (by decide) (by omega))
    exact Nat.lt_of_mul_lt_mul_left hless
  · intro hlarge
    have hpos : units ≠ 0 := by omega
    have hlog : 52 ≤ units.log2 := (Nat.le_log2 hpos).2 hlarge
    have hle : 2 ^ e * 2 ^ 52 ≤ 2 ^ e * m := by
      rw [← hm, ← Nat.pow_add, show e + 52 = units.log2 by omega]
      exact Nat.log2_self_le hpos
    exact Nat.le_of_mul_le_mul_left hle (Nat.two_pow_pos e)

theorem OnGrid.double {units : Nat} (h : OnGrid units) : OnGrid (2 * units) := by
  obtain ⟨m, e, rfl, hm, -⟩ := h.exists_digits
  have hmove : 2 * (m * 2 ^ e) = m * 2 ^ (e + 1) := by ring
  rw [hmove]
  exact onGrid_mul (Nat.le_of_lt hm) (e + 1)

namespace IsNearest

variable {units other : Nat} {v : ℚ}

/-- Rounding does not go below a magnitude that is not above the value. -/
theorem le_units (h : IsNearest units v) (hother : OnGrid other) (hle : (other : ℚ) / one ≤ v) :
    other ≤ units := by
  by_contra hless
  rw [Nat.not_le] at hless
  have hbelow : (units : ℚ) / one < other / one :=
    div_lt_div_of_pos_right (Nat.cast_lt.2 hless) cast_one_pos
  have hnear := h.le other hother
  rw [abs_of_nonpos (by linarith), abs_of_nonpos (by linarith)] at hnear
  linarith

/-- A magnitude is rounded to itself. -/
theorem eq_units (h : IsNearest units v) (hother : OnGrid other) (heq : (other : ℚ) / one = v) :
    units = other := by
  have hnear := h.le other hother
  rw [heq, sub_self, abs_zero] at hnear
  have hsame : (units : ℚ) / one = other / one :=
    (sub_eq_zero.1 (abs_nonpos_iff.1 hnear)).trans heq.symm
  exact Nat.cast_injective ((div_left_inj' cast_one_pos.ne').1 hsame)

end IsNearest

/-- A finite result is a nearest magnitude. -/
theorem CorrectlyRounds.rounds {b : Binary64} {v : ℚ} (h : CorrectlyRounds (some b) v) :
    b.Rounds v := by
  obtain ⟨units, hnearest, hresult⟩ := h
  split at hresult
  next hfinite =>
    obtain rfl := Option.some.inj hresult
    exact ⟨⟨hnearest.onGrid, hfinite⟩, hnearest.le⟩
  next => cases hresult

/-! ## Rounding to natural numbers -/

/-- The rounded quotient is at most half away, on either side. -/
theorem nearest_error (numerator : Nat) {denominator : Nat} (h : 0 < denominator) :
    2 * |(nearest numerator denominator * denominator : ℤ) - numerator| ≤ denominator := by
  have hmod := Nat.mod_lt numerator h
  have hdiv : (numerator : ℤ) =
      (numerator / denominator : ℕ) * denominator + (numerator % denominator : ℕ) := by
    exact_mod_cast (Nat.div_add_mod' numerator denominator).symm
  rw [nearest]
  split
  · next hup =>
      have herror : (((numerator / denominator + 1 : ℕ) : ℤ) * denominator - numerator) =
          denominator - (numerator % denominator : ℕ) := by
        rw [Nat.cast_add_one, add_mul, one_mul]
        omega
      rw [herror, abs_of_nonneg (by omega)]
      omega
  · next hdown =>
      have herror : (((numerator / denominator : ℕ) : ℤ) * denominator - numerator) =
          -(numerator % denominator : ℕ) := by
        omega
      rw [herror, abs_neg, abs_of_nonneg (by omega)]
      omega

/-- No natural number is nearer to the quotient. -/
theorem nearest_le (numerator : Nat) {denominator : Nat} (h : 0 < denominator) (k : Nat) :
    |(nearest numerator denominator * denominator : ℤ) - numerator| ≤
      |(k * denominator : ℤ) - numerator| := by
  have hhalf := nearest_error numerator h
  by_cases hsame : k = nearest numerator denominator
  · rw [hsame]
  · -- two different multiples of the denominator are at least that far apart
    have hapart : (denominator : ℤ) ≤
        |(nearest numerator denominator * denominator : ℤ) - k * denominator| := by
      have hone : 1 ≤ |(nearest numerator denominator : ℤ) - k| := by
        apply Int.one_le_abs
        omega
      rw [← sub_mul, abs_mul, abs_of_nonneg (Int.natCast_nonneg denominator)]
      nlinarith
    have htriangle := abs_sub_le (nearest numerator denominator * denominator : ℤ) numerator
      (k * denominator)
    rw [abs_sub_comm (numerator : ℤ)] at htriangle
    omega

theorem nearest_le_of_lt {numerator denominator k : Nat} (h : numerator < denominator * k) :
    nearest numerator denominator ≤ k := by
  have hless := Nat.div_lt_of_lt_mul h
  rw [nearest]
  split <;> omega

/-! ## Rounding to magnitudes -/

section

variable {scaled denominator e : Nat}

/-- A quotient counted in multiples of its spacing has fifty-three binary digits. -/
theorem nearest_spacing_le (h : 0 < denominator) (he : (scaled / denominator).log2 - 52 = e) :
    nearest scaled (denominator * 2 ^ e) ≤ 2 ^ 53 := by
  apply nearest_le_of_lt
  have hlog : scaled / denominator < 2 ^ (e + 53) :=
    Nat.lt_of_lt_of_le Nat.lt_log2_self (Nat.pow_le_pow_right (by decide) (by omega))
  rw [Nat.div_lt_iff_lt_mul h, Nat.pow_add] at hlog
  calc scaled < 2 ^ e * 2 ^ 53 * denominator := hlog
    _ = denominator * 2 ^ e * 2 ^ 53 := by ring

theorem nearest_multiple_le (h : 0 < denominator) (k : Nat) :
    |((nearest scaled (denominator * 2 ^ e) * 2 ^ e : ℕ) * denominator : ℤ) - scaled| ≤
      |((k * 2 ^ e : ℕ) * denominator : ℤ) - scaled| := by
  have hle := nearest_le scaled (Nat.mul_pos h (Nat.two_pow_pos e)) k
  have hmove (m : Nat) : ((m * 2 ^ e : ℕ) * denominator : ℤ) =
      m * (denominator * 2 ^ e : ℕ) := by
    push_cast
    ring
  rw [hmove, hmove]
  exact hle

theorem nearest_onGrid_le (h : 0 < denominator) (he : (scaled / denominator).log2 - 52 = e)
    {units : Nat} (hunits : OnGrid units) :
    |((nearest scaled (denominator * 2 ^ e) * 2 ^ e : ℕ) * denominator : ℤ) - scaled| ≤
      |(units * denominator : ℤ) - scaled| := by
  by_cases hlarge : e = 0 ∨ 2 ^ (52 + e) ≤ units
  · have hdvd : 2 ^ e ∣ units := by
      rcases hlarge with rfl | hlarge
      · exact Nat.one_dvd units
      · exact hunits.dvd hlarge
    obtain ⟨k, hk⟩ := hdvd
    rw [hk, Nat.mul_comm (2 ^ e) k]
    exact nearest_multiple_le h k
  · -- a power of two stands between a smaller magnitude and the quotient
    rw [not_or, Nat.not_le] at hlarge
    have hlog : (scaled / denominator).log2 = 52 + e := by omega
    have hquotient : 2 ^ (52 + e) * denominator ≤ scaled := by
      rw [← Nat.le_div_iff_mul_le h, ← hlog]
      apply Nat.log2_self_le
      intro hzero
      rw [hzero] at he
      exact hlarge.1 he.symm
    have hbelow : units * denominator ≤ 2 ^ (52 + e) * denominator :=
      Nat.mul_le_mul_right denominator (Nat.le_of_lt hlarge.2)
    refine (nearest_multiple_le h (2 ^ 52)).trans ?_
    rw [← Nat.pow_add]
    have hnear : ((2 ^ (52 + e) : ℕ) * denominator : ℤ) ≤ scaled := by
      exact_mod_cast hquotient
    have hfar : (units * denominator : ℤ) ≤ (2 ^ (52 + e) : ℕ) * denominator := by
      exact_mod_cast hbelow
    rw [abs_of_nonpos (by omega), abs_of_nonpos (by omega)]
    omega

end

/-- The distance between a number of units and a quotient. -/
theorem abs_units_sub (units numerator : Nat) {denominator : Nat} (h : 0 < denominator) :
    |(units : ℚ) / one - numerator / denominator| =
      (|(units * denominator : ℤ) - (numerator * one : ℕ)| : ℤ) / (one * denominator) := by
  have hone := cast_one_pos
  have hden : (0 : ℚ) < denominator := by exact_mod_cast h
  have hsplit : (units : ℚ) / one - numerator / denominator =
      (((units * denominator : ℤ) - (numerator * one : ℕ) : ℤ) : ℚ) / (one * denominator) := by
    rw [div_sub_div _ _ hone.ne' hden.ne', mul_comm (one : ℚ) numerator]
    push_cast
    rfl
  rw [hsplit, abs_div, abs_of_pos (mul_pos hone hden), Int.cast_abs]

/-- A quotient is rounded to the nearest magnitude, or is too large when that is infinite. -/
theorem correctlyRounds_ofQuotient? (numerator : Nat) {denominator : Nat} (h : 0 < denominator) :
    CorrectlyRounds (ofQuotient? numerator denominator) (numerator / denominator) := by
  rw [ofQuotient?]
  generalize hscaled : numerator * one = scaled
  generalize he : (scaled / denominator).log2 - 52 = e
  have hspacing : spacing (scaled / denominator) = 2 ^ e := by
    rw [← he]
    rfl
  simp only [hspacing]
  refine ⟨_, ⟨onGrid_mul (nearest_spacing_le h he) e, ?_⟩, rfl⟩
  intro units hunits
  rw [abs_units_sub _ _ h, abs_units_sub _ _ h, hscaled]
  exact div_le_div_of_nonneg_right (Int.cast_le.2 (nearest_onGrid_le h he hunits))
    (mul_nonneg cast_one_pos.le (Nat.cast_nonneg denominator))

/-! ## Equal quotients -/

theorem nearest_mul_left (numerator denominator : Nat) {k : Nat} (hk : 0 < k) :
    nearest (k * numerator) (k * denominator) = nearest numerator denominator := by
  have hless (a b : Nat) : k * a < 2 * (k * b) ↔ a < 2 * b := by
    rw [Nat.mul_left_comm]
    exact Nat.mul_lt_mul_left hk
  have hsame (a b : Nat) : 2 * (k * b) = k * a ↔ 2 * b = a := by
    rw [Nat.mul_left_comm]
    exact Nat.mul_left_cancel_iff hk
  simp only [nearest, Nat.mul_div_mul_left _ _ hk, Nat.mul_mod_mul_left, hless, hsame]

theorem ofQuotient?_mul_left (numerator denominator : Nat) {k : Nat} (hk : 0 < k) :
    ofQuotient? (k * numerator) (k * denominator) = ofQuotient? numerator denominator := by
  simp only [ofQuotient?, Nat.mul_assoc k, Nat.mul_div_mul_left _ _ hk, nearest_mul_left _ _ hk]

/-- The magnitude depends on the value of a quotient only. -/
theorem ofQuotient?_congr {a b c d : Nat} (hb : 0 < b) (hd : 0 < d) (h : a * d = c * b) :
    ofQuotient? a b = ofQuotient? c d := by
  rw [← ofQuotient?_mul_left a b hd, ← ofQuotient?_mul_left c d hb, Nat.mul_comm d a, h,
    Nat.mul_comm c b, Nat.mul_comm d b]

/-! ## Decimal numbers -/

theorem ofQuotient?_eq_none {numerator : Nat} (h : 10 ^ 400 ≤ numerator) :
    ofQuotient? numerator 1 = none := by
  have hone : 0 < one := by decide +kernel
  have hlimit : 2 * limit ≤ 10 ^ 400 * one := by decide +kernel
  have hscaled : 2 * limit ≤ numerator * one := hlimit.trans (Nat.mul_le_mul_right one h)
  rw [ofQuotient?]
  simp only [Nat.div_one, Nat.one_mul]
  generalize numerator * one = scaled at hscaled ⊢
  -- rounding moves by half a step at most, and a step is not above the number
  have hstep : 0 < spacing scaled := Nat.two_pow_pos _
  have hsmall : spacing scaled ≤ scaled := by
    have hpos : scaled ≠ 0 := by
      have : 0 < limit := by decide +kernel
      omega
    exact (Nat.pow_le_pow_right (by decide) (Nat.sub_le _ _)).trans (Nat.log2_self_le hpos)
  have herror := nearest_error scaled hstep
  have habs := neg_abs_le ((nearest scaled (spacing scaled) * spacing scaled : ℤ) - scaled)
  rw [← Nat.cast_mul] at habs herror
  exact if_neg (by omega)

theorem ofQuotient?_eq_zero {numerator denominator : Nat}
    (h : 2 * (numerator * one) ≤ denominator) :
    ofQuotient? numerator denominator = some ⟨0⟩ := by
  rw [ofQuotient?]
  generalize numerator * one = scaled at h ⊢
  have hdiv : scaled / denominator = 0 := by
    rw [Nat.div_eq_zero_iff]
    omega
  have hmod : scaled % denominator ≤ scaled := Nat.mod_le _ _
  have hspacing : spacing 0 = 1 := rfl
  have hnearest : nearest scaled denominator = 0 := by
    rw [nearest, hdiv]
    exact if_neg (by omega)
  have hfinite : 0 < limit := by decide +kernel
  simp only [hdiv, hspacing, Nat.mul_one, hnearest]
  exact if_pos hfinite

/-- Beyond this many tenths less than half of the least positive magnitude is left. -/
theorem two_mul_one_le {coefficient tenths : Nat} (h : 400 + coefficient.log2 < tenths) :
    2 * (coefficient * one) ≤ 10 ^ tenths := by
  have hhead : 4 * one ≤ 10 ^ 400 := by decide +kernel
  have hfront : coefficient ≤ 2 * 2 ^ coefficient.log2 := by
    rw [← Nat.pow_succ']
    exact Nat.le_of_lt Nat.lt_log2_self
  calc 2 * (coefficient * one) ≤ 2 * (2 * 2 ^ coefficient.log2 * one) := by gcongr
    _ = 2 ^ coefficient.log2 * (4 * one) := by ring
    _ ≤ 10 ^ coefficient.log2 * 10 ^ 400 :=
      Nat.mul_le_mul (Nat.pow_le_pow_left (by decide) _) hhead
    _ = 10 ^ (400 + coefficient.log2) := by rw [Nat.pow_add, Nat.mul_comm]
    _ ≤ 10 ^ tenths := Nat.pow_le_pow_right (by decide) (Nat.le_of_lt h)

/-- It makes no difference which powers of ten are computed. -/
theorem ofDecimal?_eq (coefficient : Nat) (exponent : Int) :
    ofDecimal? coefficient exponent =
      ofQuotient? (coefficient * 10 ^ exponent.toNat) (10 ^ (-exponent).toNat) := by
  rw [ofDecimal?]
  split
  next hzero =>
    rw [hzero, ofQuotient?_eq_zero]
    rw [Nat.zero_mul, Nat.zero_mul]
    exact Nat.zero_le _
  next hpositive =>
    split
    next hhigh =>
      have hnegative : (-exponent).toNat = 0 := by omega
      rw [hnegative, Nat.pow_zero]
      split
      next => rfl
      next hlimit =>
        have htens : 400 ≤ exponent.toNat := by omega
        have hpow : 10 ^ 400 ≤ 10 ^ exponent.toNat := by
          gcongr
          decide
        have hlarge := Nat.le_mul_of_pos_left (10 ^ exponent.toNat) (Nat.pos_of_ne_zero hpositive)
        exact (ofQuotient?_eq_none (hpow.trans hlarge)).symm
    next hlow =>
      have hexponent : exponent.toNat = 0 := by omega
      rw [hexponent, Nat.pow_zero, Nat.mul_one]
      split
      next => rfl
      next hlimit => exact (ofQuotient?_eq_zero (two_mul_one_le (by omega))).symm

theorem cast_decimal (coefficient : Nat) (exponent : Int) :
    ((coefficient * 10 ^ exponent.toNat : ℕ) : ℚ) / (10 ^ (-exponent).toNat : ℕ) =
      coefficient * 10 ^ exponent := by
  push_cast
  rcases Int.eq_nat_or_neg exponent with ⟨n, rfl | rfl⟩
  · simp
  · simp [div_eq_mul_inv]

/-- A decimal number is rounded to the nearest magnitude, or is too large when that is
infinite. -/
theorem correctlyRounds_ofDecimal? (coefficient : Nat) (exponent : Int) :
    CorrectlyRounds (ofDecimal? coefficient exponent) (coefficient * 10 ^ exponent) := by
  rw [ofDecimal?_eq, ← cast_decimal]
  exact correctlyRounds_ofQuotient? _ (Nat.pow_pos (by decide))

theorem rounds_of_ofDecimal? {coefficient : Nat} {exponent : Int} {b : Binary64}
    (h : ofDecimal? coefficient exponent = some b) :
    b.Rounds (coefficient * 10 ^ exponent) := by
  have hrounds := correctlyRounds_ofDecimal? coefficient exponent
  rw [h] at hrounds
  exact hrounds.rounds

/-- The magnitude depends on the value of a decimal number only. -/
theorem ofDecimal?_congr {c d : Nat} {e f : Int}
    (h : (c * 10 ^ e : ℚ) = d * 10 ^ f) : ofDecimal? c e = ofDecimal? d f := by
  have hpos (n : Nat) : 0 < 10 ^ n := Nat.pow_pos (by decide)
  have hcast (n : Nat) : ((10 ^ n : ℕ) : ℚ) ≠ 0 := Nat.cast_ne_zero.2 (hpos n).ne'
  rw [← cast_decimal, ← cast_decimal, div_eq_div_iff (hcast _) (hcast _)] at h
  rw [ofDecimal?_eq, ofDecimal?_eq]
  exact ofQuotient?_congr (hpos _) (hpos _) (by exact_mod_cast h)

/-! ## How near the nearest magnitude is -/

/-- Some finite magnitude is exactly this value. -/
def Representable (v : ℚ) : Prop :=
  ∃ b : Binary64, b.Valid ∧ b.value = v

/-- What is not nearer to a step than to zero is at most half a step. -/
theorem two_mul_le_of_le_abs {x step : ℚ} (hstep : 0 < step) (h : x ≤ |x - step|) :
    2 * x ≤ step := by
  rcases le_abs'.1 h with hbelow | habove <;> linarith

namespace Rounds

variable {b : Binary64} {v : ℚ}

/-- Rounding changes nothing just for the values that are magnitudes. -/
theorem value_eq_iff (h : b.Rounds v) : b.value = v ↔ Representable v := by
  constructor
  · exact fun heq => ⟨b, h.valid, heq⟩
  · rintro ⟨exact, hvalid, heq⟩
    have hle := h.nearest exact.units hvalid.onGrid
    rw [show (exact.units : ℚ) / one = v from heq, sub_self, abs_zero] at hle
    exact sub_eq_zero.1 (abs_nonpos_iff.1 hle)

/-- Rounding does not go beyond twice a value, since zero is nearer then. -/
theorem value_le_double (h : b.Rounds v) (hpos : 0 ≤ v) : b.value ≤ 2 * v := by
  have hle := h.nearest 0 (onGrid_of_le (Nat.zero_le _))
  rw [Nat.cast_zero, zero_div, zero_sub, abs_neg, abs_of_nonneg hpos] at hle
  linarith [le_abs_self (b.value - v)]

/-- Rounding does not go below half of a value, unless to zero: twice the magnitude is
nearer then. -/
theorem le_double (h : b.Rounds v) (hvalue : 0 < b.value) : v ≤ 2 * b.value := by
  have hle := h.nearest (2 * b.units) h.valid.onGrid.double
  rw [Nat.cast_mul, mul_div_assoc, Nat.cast_two, show (b.units : ℚ) / one = b.value from rfl] at hle
  by_contra hlarge
  rw [abs_sub_comm, abs_of_pos (by linarith), abs_sub_comm, abs_of_pos (by linarith)] at hle
  linarith

/-- What is rounded to zero is at most half of the least positive magnitude. -/
theorem le_of_units_eq_zero (h : b.Rounds v) (hzero : b.units = 0) (hpos : 0 ≤ v) :
    2 * v ≤ 1 / one := by
  have hle := h.nearest 1 (onGrid_of_le (by decide))
  rw [value, hzero, Nat.cast_zero, zero_div, zero_sub, abs_neg, abs_of_nonneg hpos,
    Nat.cast_one, abs_sub_comm] at hle
  exact two_mul_le_of_le_abs (one_div_pos.2 cast_one_pos) hle

/-- Rounding to a magnitude with fifty-three digits changes at most one part in `2 ^ 53`. -/
theorem error_le (h : b.Rounds v) (hlarge : 2 ^ 52 ≤ b.units) :
    2 ^ 53 * |b.value - v| ≤ b.value := by
  obtain ⟨m, e, hunits, hless, hdigits⟩ := h.valid.onGrid.exists_digits
  have hm := hdigits hlarge
  -- the magnitudes on both sides are not nearer
  have hdown := h.nearest ((m - 1) * 2 ^ e) (onGrid_mul (by omega) e)
  have hup := h.nearest ((m + 1) * 2 ^ e) (onGrid_mul (by omega) e)
  have hvalue : b.value = m * (2 ^ e / one) := by
    rw [value, hunits]
    push_cast
    ring
  have hbelow : (((m - 1) * 2 ^ e : ℕ) : ℚ) / one = (m - 1) * (2 ^ e / one) := by
    rw [Nat.cast_mul, Nat.cast_sub (by omega)]
    push_cast
    ring
  have habove : (((m + 1) * 2 ^ e : ℕ) : ℚ) / one = (m + 1) * (2 ^ e / one) := by
    push_cast
    ring
  have hstep : 0 < (2 ^ e / one : ℚ) := div_pos (by positivity) cast_one_pos
  have hfront : (2 ^ 52 : ℚ) ≤ m := by exact_mod_cast hm
  generalize (2 ^ e / one : ℚ) = step at *
  rw [hbelow, show (m - 1) * step - v = b.value - v - step by rw [hvalue]; ring] at hdown
  rw [habove, show (m + 1) * step - v = -(v - b.value - step) by rw [hvalue]; ring, abs_neg] at hup
  have hhalf : 2 * |b.value - v| ≤ step := by
    rcases abs_cases (b.value - v) with ⟨habs, -⟩ | ⟨habs, -⟩
    · rw [habs] at hdown ⊢
      exact two_mul_le_of_le_abs hstep hdown
    · rw [habs, neg_sub] at hup ⊢
      exact two_mul_le_of_le_abs hstep hup
  nlinarith

end Rounds

theorem value_eq_natCast_iff {b : Binary64} {k : Nat} : b.value = k ↔ b.units = k * one := by
  rw [value, div_eq_iff cast_one_pos.ne']
  exact_mod_cast Iff.rfl

/-- The natural number that a magnitude is equal to. -/
theorem toNat?_eq_some_iff {b : Binary64} {k : Nat} : b.toNat? = some k ↔ b.value = k := by
  have hone : 0 < one := by decide +kernel
  rw [value_eq_natCast_iff, toNat?]
  constructor
  · intro h
    split at h
    next hmod =>
      obtain rfl := Option.some.inj h
      exact (Nat.div_mul_cancel (Nat.dvd_of_mod_eq_zero hmod)).symm
    next => cases h
  · intro h
    rw [h, Nat.mul_mod_left, if_pos rfl, Nat.mul_div_cancel _ hone]

end DeviceFeed.Binary64
