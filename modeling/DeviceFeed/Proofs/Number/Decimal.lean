import DeviceFeed.Proofs.Text.Digits
import Mathlib.Algebra.Order.Ring.Rat
import Mathlib.Algebra.Order.Field.Power
import Mathlib.Data.List.TakeDrop
import Mathlib.Data.List.TakeWhile

/-!
# Spelled numbers

A decimal is a number as it is spelled: a sign, digits, perhaps a point and more digits, and
perhaps a power of ten.  It has a text and an exact value, and the text determines the
decimal.  The texts that are read as numerals are those of the decimals, and what is read is
the value unless the power of ten is enormous.
-/

namespace DeviceFeed

/-! ## Signs -/

/-- A sign in front of digits. -/
inductive Sign where
  | missing
  | plus
  | minus
  deriving DecidableEq, Repr

namespace Sign

def text : Sign → List Char
  | missing => []
  | plus => ['+']
  | minus => ['-']

def isMinus (s : Sign) : Bool :=
  s == minus

/-- A number with the sign in front of it. -/
def apply {α : Type} [Neg α] (s : Sign) (x : α) : α :=
  if s.isMinus then -x else x

/-- No sign stands at the front. -/
def Free (cs : List Char) : Prop :=
  ∀ c rest, cs = c :: rest → c ≠ '-' ∧ c ≠ '+'

theorem free_of_isDigit {cs : List Char} (h : ∀ c ∈ cs, Text.isDigit c = true) : Free cs := by
  rintro c rest rfl
  have hdigit := h c List.mem_cons_self
  constructor
  · rintro rfl
    exact absurd hdigit (by decide)
  · rintro rfl
    exact absurd hdigit (by decide)

theorem sign_text_append (s : Sign) {cs : List Char} (h : Free cs) :
    Numeral.sign (s.text ++ cs) = (s.isMinus, cs) := by
  cases s with
  | missing =>
      rw [text, List.nil_append]
      unfold Numeral.sign
      split
      · exact absurd rfl (h _ _ rfl).1
      · exact absurd rfl (h _ _ rfl).2
      · rfl
  | plus => rfl
  | minus => rfl

theorem exists_of_sign (cs : List Char) :
    ∃ s : Sign, s.isMinus = (Numeral.sign cs).1 ∧ cs = s.text ++ (Numeral.sign cs).2 := by
  unfold Numeral.sign
  split
  · exact ⟨minus, rfl, rfl⟩
  · exact ⟨plus, rfl, rfl⟩
  · exact ⟨missing, rfl, rfl⟩

theorem cast_apply (s : Sign) (i : ℤ) : ((s.apply i : ℤ) : ℚ) = s.apply (i : ℚ) := by
  unfold apply
  split
  · exact Int.cast_neg i
  · rfl

theorem text_append_inj {s t : Sign} {cs ds : List Char} (hcs : Free cs) (hds : Free ds)
    (h : s.text ++ cs = t.text ++ ds) : s = t ∧ cs = ds := by
  have hsign := congrArg Numeral.sign h
  rw [sign_text_append s hcs, sign_text_append t hds] at hsign
  obtain rfl : cs = ds := congrArg Prod.snd hsign
  have htext : s.text = t.text := List.append_cancel_right h
  refine ⟨?_, rfl⟩
  cases s <;> cases t <;> first | rfl | exact absurd htext (by decide)

end Sign

/-! ## Decimals -/

/-- A spelled power of ten. -/
@[ext]
structure Power where
  mark : Char
  sign : Sign
  digits : List Char
  isMark : mark = 'e' ∨ mark = 'E'
  ne_nil : digits ≠ []
  isDigit : ∀ c ∈ digits, Text.isDigit c = true

/-- A spelled number.  There is a digit before or after the point. -/
@[ext]
structure Decimal where
  sign : Sign
  whole : List Char
  /-- The digits after the point, if there is one. -/
  fraction : Option (List Char)
  power : Option Power
  isDigit : ∀ c ∈ whole ++ fraction.getD [], Text.isDigit c = true
  ne_nil : whole ++ fraction.getD [] ≠ []

namespace Power

def text (p : Power) : List Char :=
  p.mark :: (p.sign.text ++ p.digits)

/-- The number that the digits denote. -/
def size (p : Power) : Nat :=
  Text.valueFrom 0 p.digits

/-- The exponent that is spelled. -/
def value (p : Power) : ℤ :=
  p.sign.apply (p.size : ℤ)

/-- The exponent that is read. -/
def read (p : Power) : ℤ :=
  p.sign.apply (Numeral.exponentValue p.digits : ℤ)

end Power

namespace Decimal

/-- The digits on both sides of the point. -/
def digits (d : Decimal) : List Char :=
  d.whole ++ d.fraction.getD []

def fractionText (d : Decimal) : List Char :=
  match d.fraction with
  | none => []
  | some digits => '.' :: digits

def powerText (d : Decimal) : List Char :=
  match d.power with
  | none => []
  | some p => p.text

/-- The text behind the sign. -/
def unsigned (d : Decimal) : List Char :=
  d.whole ++ (d.fractionText ++ d.powerText)

def text (d : Decimal) : List Char :=
  d.sign.text ++ d.unsigned

/-- The number that the digits denote without the point. -/
def coefficient (d : Decimal) : Nat :=
  Text.valueFrom 0 d.digits

/-- The place of the last digit. -/
def exponent (d : Decimal) : ℤ :=
  (d.power.elim 0 Power.value) - (d.fraction.getD []).length

/-- The absolute value of the number that is spelled. -/
def magnitude (d : Decimal) : ℚ :=
  d.coefficient * 10 ^ d.exponent

/-- The number that is spelled. -/
def value (d : Decimal) : ℚ :=
  d.sign.apply d.magnitude

/-- Neither a point nor a power of ten is written. -/
def IsPlain (d : Decimal) : Prop :=
  d.fraction = none ∧ d.power = none

instance (d : Decimal) : Decidable d.IsPlain :=
  inferInstanceAs (Decidable (_ ∧ _))

theorem magnitude_of_isPlain {d : Decimal} (h : d.IsPlain) : d.magnitude = d.coefficient := by
  obtain ⟨hfraction, hpower⟩ := h
  have hexponent : d.exponent = 0 := by
    rw [exponent, hfraction, hpower]
    rfl
  rw [magnitude, hexponent, zpow_zero, mul_one]

theorem value_of_isPlain {d : Decimal} (h : d.IsPlain) :
    d.value = (d.sign.apply (d.coefficient : ℤ) : ℤ) := by
  rw [value, magnitude_of_isPlain h, Sign.cast_apply, Int.cast_natCast]

/-- What is read. -/
def numeral (d : Decimal) : Numeral :=
  ⟨d.sign.isMinus, d.coefficient,
    (d.power.elim 0 Power.read) - (d.fraction.getD []).length⟩

end Decimal

/-! ## Texts of decimals -/

theorem Text.span_digits {digits rest : List Char}
    (hdigits : ∀ c ∈ digits, isDigit c = true)
    (hrest : ∀ c more, rest = c :: more → isDigit c = false) :
    (digits ++ rest).span isDigit = (digits, rest) := by
  rw [List.span_eq_takeWhile_dropWhile, List.takeWhile_append_of_pos hdigits,
    List.dropWhile_append_of_pos hdigits]
  cases rest with
  | nil => simp
  | cons c more => simp [hrest c more rfl]

theorem Text.exists_of_span (cs : List Char) :
    cs = (cs.span isDigit).1 ++ (cs.span isDigit).2 ∧
      ∀ c ∈ (cs.span isDigit).1, isDigit c = true := by
  rw [List.span_eq_takeWhile_dropWhile]
  exact ⟨List.takeWhile_append_dropWhile.symm, fun c hc => List.mem_takeWhile_imp hc⟩

theorem Power.text_head (p : Power) {c : Char} {rest : List Char} (h : p.text = c :: rest) :
    Text.isDigit c = false ∧ c ≠ '.' := by
  obtain rfl : p.mark = c := (List.cons.inj h).1
  rcases p.isMark with hmark | hmark <;> rw [hmark] <;> decide

theorem Power.text_injective : Function.Injective Power.text := by
  intro p q h
  obtain ⟨hmark, hrest⟩ := List.cons.inj h
  obtain ⟨hsign, hdigits⟩ := Sign.text_append_inj (Sign.free_of_isDigit p.isDigit)
    (Sign.free_of_isDigit q.isDigit) hrest
  exact Power.ext hmark hsign hdigits

namespace Decimal

theorem isDigit_whole (d : Decimal) : ∀ c ∈ d.whole, Text.isDigit c = true :=
  fun c hc => d.isDigit c (List.mem_append_left _ hc)

theorem isDigit_fraction (d : Decimal) : ∀ c ∈ d.fraction.getD [], Text.isDigit c = true :=
  fun c hc => d.isDigit c (List.mem_append_right _ hc)

theorem powerText_head (d : Decimal) {c : Char} {rest : List Char} (h : d.powerText = c :: rest) :
    Text.isDigit c = false ∧ c ≠ '.' := by
  unfold powerText at h
  split at h
  · cases h
  · exact Power.text_head _ h

/-- No digit stands behind the digits in front of the point. -/
theorem span_unsigned (d : Decimal) :
    d.unsigned.span Text.isDigit = (d.whole, d.fractionText ++ d.powerText) := by
  apply Text.span_digits d.isDigit_whole
  intro c more h
  unfold fractionText at h
  split at h
  · exact (d.powerText_head h).1
  · obtain rfl : '.' = c := (List.cons.inj h).1
    decide

theorem fraction_text (d : Decimal) :
    Numeral.fraction (d.fractionText ++ d.powerText) = (d.fraction.getD [], d.powerText) := by
  have hdigits := d.isDigit_fraction
  unfold fractionText
  cases hfraction : d.fraction with
  | none =>
      rw [List.nil_append]
      unfold Numeral.fraction
      split
      next rest hpower => exact absurd rfl (d.powerText_head hpower).2
      next => rfl
  | some digits =>
      rw [hfraction] at hdigits
      exact Text.span_digits hdigits fun c more h => (d.powerText_head h).1

theorem free_unsigned (d : Decimal) : Sign.Free d.unsigned := by
  intro c rest h
  unfold unsigned at h
  cases hwhole : d.whole with
  | cons first more =>
      rw [hwhole] at h
      obtain rfl : first = c := (List.cons.inj h).1
      have hdigits := d.isDigit_whole
      rw [hwhole] at hdigits
      exact Sign.free_of_isDigit hdigits _ _ rfl
  | nil =>
      -- then digits stand behind a point
      have hne := d.ne_nil
      rw [hwhole] at h hne
      unfold fractionText at h
      cases hfraction : d.fraction with
      | none =>
          rw [hfraction] at hne
          exact absurd rfl hne
      | some digits =>
          rw [hfraction] at h
          obtain rfl : '.' = c := (List.cons.inj h).1
          decide

theorem sign_text (d : Decimal) : Numeral.sign d.text = (d.sign.isMinus, d.unsigned) :=
  Sign.sign_text_append d.sign d.free_unsigned

/-- A text is spelled in one way only. -/
theorem text_injective : Function.Injective text := by
  intro d e h
  obtain ⟨hsign, hunsigned⟩ := Sign.text_append_inj d.free_unsigned e.free_unsigned h
  have hspan := congrArg (List.span Text.isDigit) hunsigned
  rw [span_unsigned, span_unsigned, Prod.mk.injEq] at hspan
  obtain ⟨hwhole, hafter⟩ := hspan
  have hparts := congrArg Numeral.fraction hafter
  rw [fraction_text, fraction_text, Prod.mk.injEq] at hparts
  obtain ⟨hdigits, hpowerText⟩ := hparts
  have hfraction : d.fraction = e.fraction := by
    rw [hpowerText] at hafter
    have htext : d.fractionText = e.fractionText := List.append_cancel_right hafter
    unfold fractionText at htext
    cases hd : d.fraction with
    | none =>
        rw [hd] at htext
        cases he : e.fraction with
        | none => rfl
        | some digits =>
            rw [he] at htext
            cases htext
    | some digits =>
        rw [hd] at htext
        cases he : e.fraction with
        | none =>
            rw [he] at htext
            cases htext
        | some others =>
            rw [he] at htext
            exact congrArg some (List.cons.inj htext).2
  have hpower : d.power = e.power := by
    unfold powerText at hpowerText
    cases hd : d.power with
    | none =>
        rw [hd] at hpowerText
        cases he : e.power with
        | none => rfl
        | some p =>
            rw [he] at hpowerText
            cases hpowerText
    | some p =>
        rw [hd] at hpowerText
        cases he : e.power with
        | none =>
            rw [he] at hpowerText
            cases hpowerText
        | some q =>
            rw [he] at hpowerText
            exact congrArg some (Power.text_injective hpowerText)
  exact Decimal.ext hsign hwhole hfraction hpower

end Decimal

/-! ## Exponents -/

theorem Text.digitValue?_le (c : Char) : (digitValue? c).getD 0 ≤ 9 := by
  by_cases h : isDigit c = true
  · obtain ⟨hrange, hvalue⟩ := range_of_isDigit h
    rw [hvalue, Option.getD_some]
    omega
  · rw [isDigit, Bool.not_eq_true, Option.isSome_eq_false_iff, Option.isNone_iff_eq_none] at h
    rw [h]
    exact Nat.zero_le 9

namespace Numeral

/-- A step in the reading of an exponent. -/
def exponentStep (n : Nat) (c : Char) : Nat :=
  if n < 65536 then 10 * n + (Text.digitValue? c).getD 0 else n

theorem exponentValue_eq_foldl (digits : List Char) :
    exponentValue digits = digits.foldl exponentStep 0 :=
  rfl

/-- An exponent below `655360` is read to its end. -/
theorem exponentValue_eq {digits : List Char} (h : Text.valueFrom 0 digits < 655360) :
    exponentValue digits = Text.valueFrom 0 digits := by
  have hall (digits : List Char) (n : Nat) (hn : Text.valueFrom n digits < 655360) :
      digits.foldl exponentStep n = Text.valueFrom n digits := by
    induction digits generalizing n with
    | nil => rfl
    | cons c more ih =>
        have hle : 10 * n + (Text.digitValue? c).getD 0 ≤ Text.valueFrom n (c :: more) :=
          Text.le_valueFrom _ more
        have hstep : exponentStep n c = 10 * n + (Text.digitValue? c).getD 0 :=
          if_pos (by omega)
        rw [List.foldl_cons, hstep]
        exact ih _ hn
  rw [exponentValue_eq_foldl]
  exact hall digits 0 h

theorem exponentValue_lt (digits : List Char) : exponentValue digits < 655360 := by
  have hall (n : Nat) (hn : n < 655360) : digits.foldl exponentStep n < 655360 := by
    induction digits generalizing n with
    | nil => exact hn
    | cons c more ih =>
        have hdigit := Text.digitValue?_le c
        apply ih
        rw [exponentStep]
        split <;> omega
  rw [exponentValue_eq_foldl]
  exact hall 0 (by decide)

end Numeral

/-! ## Reading -/

namespace Numeral

/-- The power that is read from the end of a decimal. -/
theorem power?_text (d : Decimal) :
    power? d.powerText = some (d.power.elim 0 Power.read) := by
  unfold Decimal.powerText
  cases d.power with
  | none => rfl
  | some p =>
      have hfree := Sign.free_of_isDigit p.isDigit
      have hread : exponent? (p.sign.text ++ p.digits) = some p.read := by
        rw [exponent?, Sign.sign_text_append _ hfree]
        simp only [if_pos (And.intro p.ne_nil (List.all_eq_true.2 p.isDigit))]
        rfl
      exact (if_pos p.isMark).trans hread

theorem exists_of_power? {cs : List Char} {i : Int} (h : power? cs = some i) :
    ∃ power : Option Power, cs = power.elim [] Power.text := by
  cases cs with
  | nil => exact ⟨none, rfl⟩
  | cons c rest =>
      obtain ⟨s, -, hrest⟩ := Sign.exists_of_sign rest
      have hexponent : power? (c :: rest) = if c = 'e' ∨ c = 'E' then
          if (sign rest).2 ≠ [] ∧ (sign rest).2.all Text.isDigit then
            some (if (sign rest).1 then -(exponentValue (sign rest).2 : Int)
              else exponentValue (sign rest).2)
          else none
        else none := rfl
      rw [hexponent] at h
      by_cases hmark : c = 'e' ∨ c = 'E'
      · rw [if_pos hmark] at h
        by_cases hdigits : (sign rest).2 ≠ [] ∧ (sign rest).2.all Text.isDigit
        · exact ⟨some ⟨c, s, _, hmark, hdigits.1, List.all_eq_true.1 hdigits.2⟩,
            congrArg (c :: ·) hrest⟩
        · rw [if_neg hdigits] at h
          cases h
      · rw [if_neg hmark] at h
        cases h

theorem exists_of_fraction (cs : List Char) :
    ∃ digits : Option (List Char), digits.getD [] = (fraction cs).1 ∧
      (∀ c ∈ (fraction cs).1, Text.isDigit c = true) ∧
      cs = (match digits with
        | none => []
        | some digits => '.' :: digits) ++ (fraction cs).2 := by
  unfold fraction
  split
  next rest =>
    obtain ⟨hsplit, hdigits⟩ := Text.exists_of_span rest
    exact ⟨some _, rfl, hdigits, congrArg ('.' :: ·) hsplit⟩
  next => exact ⟨none, rfl, fun c hc => absurd hc List.not_mem_nil, rfl⟩

/-- The text of a decimal is read. -/
theorem parse?_text (d : Decimal) : parse? d.text = some d.numeral := by
  rw [parse?, d.sign_text]
  simp only [d.span_unsigned, d.fraction_text, power?_text]
  have hne : ¬(d.whole = [] ∧ d.fraction.getD [] = []) := by
    rintro ⟨hwhole, hfraction⟩
    apply d.ne_nil
    rw [hwhole, hfraction]
    rfl
  rw [if_neg hne, Text.value, Text.valueByHalves_eq]
  rfl

/-- What is read as a numeral is the text of a decimal. -/
theorem exists_of_parse? {cs : List Char} {n : Numeral} (h : parse? cs = some n) :
    ∃ d : Decimal, cs = d.text := by
  obtain ⟨s, -, hsign⟩ := Sign.exists_of_sign cs
  generalize hunsigned : (sign cs).2 = unsigned at hsign
  obtain ⟨hwhole, hwholeDigits⟩ := Text.exists_of_span unsigned
  generalize hafter : (unsigned.span Text.isDigit).2 = after at hwhole
  generalize hdigits : (unsigned.span Text.isDigit).1 = whole at hwhole hwholeDigits
  obtain ⟨part, hpart, hpartDigits, hfraction⟩ := exists_of_fraction after
  have hparse : parse? cs =
      if whole = [] ∧ (fraction after).1 = [] then none
      else (power? (fraction after).2).map fun power =>
        ⟨(sign cs).1, Text.value (whole ++ (fraction after).1),
          power - (fraction after).1.length⟩ := by
    rw [← hdigits, ← hafter, ← hunsigned]
    rfl
  rw [hparse] at h
  split_ifs at h with hnone
  obtain ⟨i, hi, -⟩ := Option.map_eq_some_iff.1 h
  obtain ⟨power, hpower⟩ := exists_of_power? hi
  have hne : whole ++ part.getD [] ≠ [] := by
    rw [hpart]
    exact fun hnil => hnone (List.append_eq_nil_iff.1 hnil)
  have hall : ∀ c ∈ whole ++ part.getD [], Text.isDigit c = true := by
    rw [hpart]
    exact fun c hc => (List.mem_append.1 hc).elim (hwholeDigits c) (hpartDigits c)
  refine ⟨⟨s, whole, part, power, hall, hne⟩, ?_⟩
  rw [hsign, hwhole, hfraction, hpower]
  cases part <;> cases power <;> rfl

/-- An integer is read from a text without a point and without a power. -/
theorem integer?_text (d : Decimal) :
    integer? d.text = if d.IsPlain then some (d.sign.apply (d.coefficient : ℤ)) else none := by
  have hinteger : integer? d.text =
      (digits? d.unsigned).map fun n => d.sign.apply (n : ℤ) := by
    rw [integer?, d.sign_text]
    rfl
  rw [hinteger]
  by_cases hplain : d.IsPlain
  · obtain ⟨hfraction, hpower⟩ := hplain
    have hunsigned : d.unsigned = d.digits := by
      simp [Decimal.unsigned, Decimal.fractionText, Decimal.powerText, Decimal.digits, hfraction,
        hpower]
    rw [if_pos ⟨hfraction, hpower⟩, hunsigned, digits?,
      if_pos ⟨d.ne_nil, List.all_eq_true.2 d.isDigit⟩, Text.value, Text.valueByHalves_eq]
    rfl
  · have hdigits : ¬∀ c ∈ d.unsigned, Text.isDigit c = true := by
      refine fun hall => hplain ⟨?_, ?_⟩
      · cases hfraction : d.fraction with
        | none => rfl
        | some digits =>
            have hpoint : '.' ∈ d.unsigned := by
              simp [Decimal.unsigned, Decimal.fractionText, hfraction]
            exact absurd (hall '.' hpoint) (by decide)
      · cases hpower : d.power with
        | none => rfl
        | some p =>
            have hmark : p.mark ∈ d.unsigned := by
              simp [Decimal.unsigned, Decimal.powerText, hpower, Power.text]
            have htext : p.text = p.mark :: (p.sign.text ++ p.digits) := rfl
            have hno := (p.text_head htext).1
            rw [hall p.mark hmark] at hno
            cases hno
    rw [if_neg hplain, digits?, if_neg fun h => hdigits (List.all_eq_true.1 h.2)]
    rfl

theorem exists_of_integer? {cs : List Char} {i : Int} (h : integer? cs = some i) :
    ∃ d : Decimal, cs = d.text := by
  obtain ⟨s, -, hsign⟩ := Sign.exists_of_sign cs
  have hinteger : integer? cs =
      (digits? (sign cs).2).map fun n => if (sign cs).1 then -(n : Int) else n := rfl
  rw [hinteger] at h
  generalize (sign cs).2 = digits at h hsign
  by_cases hdigits : digits ≠ [] ∧ digits.all Text.isDigit
  · have hall : ∀ c ∈ digits ++ [], Text.isDigit c = true := by
      rw [List.append_nil]
      exact List.all_eq_true.1 hdigits.2
    have hne : digits ++ [] ≠ [] := by
      rw [List.append_nil]
      exact hdigits.1
    refine ⟨⟨s, digits, none, none, hall, hne⟩, hsign.trans ?_⟩
    exact congrArg (s.text ++ ·) (List.append_nil _).symm
  · rw [digits?, if_neg hdigits] at h
    cases h

/-- An integer is read from the texts of plain decimals, as what is written. -/
theorem integer?_eq_some_iff {cs : List Char} {i : Int} :
    integer? cs = some i ↔ ∃ d : Decimal, d.IsPlain ∧ d.text = cs ∧ d.value = i := by
  constructor
  · intro h
    obtain ⟨d, rfl⟩ := exists_of_integer? h
    rw [integer?_text] at h
    split_ifs at h with hplain
    refine ⟨d, hplain, rfl, ?_⟩
    rw [Decimal.value_of_isPlain hplain, Option.some.inj h]
  · rintro ⟨d, hplain, rfl, hvalue⟩
    rw [Decimal.value_of_isPlain hplain, Rat.intCast_inj] at hvalue
    rw [integer?_text, if_pos hplain, hvalue]

end Numeral

end DeviceFeed
