import DeviceFeed.Script
import DeviceFeed.Proofs.Text.Utf8
import DeviceFeed.Proofs.Text.Digits
import Mathlib.Data.List.Basic

/-!
# Bytes in hexadecimal

Two hexadecimal digits spell a byte, and a plus sign is taken for a first digit zero.  This
file proves that these are the only pairs that are read: two bytes that belong to longer
characters, or to one of them, never do.  So a line is read just when pairs are left of it
without its blanks.
-/

namespace DeviceFeed

/-! ## Hexadecimal digits -/

/-- The hexadecimal digits with letters of either size. -/
def Text.hexAlphabet : List Char :=
  "0123456789abcdefABCDEF".toList

theorem Text.SpellsDigit.mem_hexAlphabet {c : Char} {d : Nat} (h : SpellsDigit c d) :
    c ∈ hexAlphabet := by
  obtain ⟨hd, hc⟩ := h
  have hall : ∀ d < 16, digitChar d ∈ hexAlphabet ∧ (digitChar d).toUpper ∈ hexAlphabet := by
    decide
  obtain ⟨hsmall, hcapital⟩ := hall d hd
  rcases hc with rfl | rfl
  · exact hsmall
  · exact hcapital

/-- The blanks that may stand between digits. -/
def Text.asciiBlanks : List Char :=
  [' ', '\t', '\n', '\x0c', '\r']

theorem Text.isBlank_of_mem_asciiBlanks {c : Char} (h : c ∈ asciiBlanks) : isBlank c = true := by
  have hall : asciiBlanks.all isBlank = true := by decide
  exact List.all_eq_true.1 hall c h

/-- Digits are ASCII characters, and neither signs nor blanks. -/
theorem Text.ascii_of_mem_hexAlphabet {c : Char} (h : c ∈ hexAlphabet) :
    c.toNat < 0x80 ∧ c ≠ '+' ∧ isBlank c = false := by
  have hall : hexAlphabet.all (fun c => decide (c.toNat < 0x80 ∧ c ≠ '+' ∧ isBlank c = false)) =
      true := by decide
  exact of_decide_eq_true (List.all_eq_true.1 hall c h)

/-- The characters spell the bytes in hexadecimal, two digits each. -/
inductive Text.SpellsBytes : List Char → Bytes → Prop
  | nil : SpellsBytes [] []
  | cons {high low : Char} {b : UInt8} {cs : List Char} {bytes : Bytes}
      (hhigh : SpellsDigit high (b.toNat / 16)) (hlow : SpellsDigit low (b.toNat % 16))
      (hrest : SpellsBytes cs bytes) : SpellsBytes (high :: low :: cs) (b :: bytes)

theorem Text.SpellsBytes.mem_hexAlphabet {cs : List Char} {bytes : Bytes}
    (h : SpellsBytes cs bytes) : ∀ c ∈ cs, c ∈ hexAlphabet := by
  induction h with
  | nil =>
      intro c hc
      cases hc
  | cons hhigh hlow hrest ih =>
      intro c hc
      rcases List.mem_cons.1 hc with rfl | hc
      · exact hhigh.mem_hexAlphabet
      · rcases List.mem_cons.1 hc with rfl | hc
        · exact hlow.mem_hexAlphabet
        · exact ih c hc

/-- Two characters spell a byte with two digits, or with a plus sign and a digit. -/
inductive Text.SpellsPair : Char → Char → UInt8 → Prop
  | digits {high low : Char} {b : UInt8} (hhigh : SpellsDigit high (b.toNat / 16))
      (hlow : SpellsDigit low (b.toNat % 16)) : SpellsPair high low b
  | plus {low : Char} {b : UInt8} (hlow : SpellsDigit low b.toNat) : SpellsPair '+' low b

/-- The characters spell the bytes, where a plus sign may stand for a first digit zero. -/
inductive Text.SpellsLoosely : List Char → Bytes → Prop
  | nil : SpellsLoosely [] []
  | cons {high low : Char} {b : UInt8} {cs : List Char} {bytes : Bytes}
      (hpair : SpellsPair high low b) (hrest : SpellsLoosely cs bytes) :
      SpellsLoosely (high :: low :: cs) (b :: bytes)

namespace Text

theorem SpellsBytes.loosely {cs : List Char} {bytes : Bytes} (h : SpellsBytes cs bytes) :
    SpellsLoosely cs bytes := by
  induction h with
  | nil => exact .nil
  | cons hhigh hlow hrest ih => exact .cons (.digits hhigh hlow) ih

/-- Without plus signs there are digits only. -/
theorem SpellsLoosely.spellsBytes {cs : List Char} {bytes : Bytes} (h : SpellsLoosely cs bytes)
    (hplus : '+' ∉ cs) : SpellsBytes cs bytes := by
  induction h with
  | nil => exact .nil
  | cons hpair hrest ih =>
      rw [List.mem_cons, List.mem_cons, not_or, not_or] at hplus
      cases hpair with
      | digits hhigh hlow => exact .cons hhigh hlow (ih hplus.2.2)
      | plus hlow => exact absurd rfl hplus.1

/-- What has a value is a digit. -/
theorem spellsDigit_of_hexValue? {c : Char} {d : Nat} (h : hexValue? c = some d) :
    SpellsDigit c d := by
  have hchar (n : Nat) (hn : n = c.toNat) : Char.ofNat n = c := by
    rw [hn, Char.ofNat_toNat]
  unfold hexValue? at h
  split at h
  next hrange =>
    have hlow : 0x30 ≤ c.toNat := hrange.1
    have hhigh : c.toNat ≤ 0x39 := hrange.2
    rw [Option.some.injEq] at h
    refine ⟨by omega, Or.inl ?_⟩
    rw [digitChar, if_pos (by omega), hchar _ (by omega)]
  next =>
    split at h
    next hrange =>
      have hlow : 0x61 ≤ c.toNat := hrange.1
      have hhigh : c.toNat ≤ 0x66 := hrange.2
      rw [Option.some.injEq] at h
      refine ⟨by omega, Or.inl ?_⟩
      rw [digitChar, if_neg (by omega), hchar _ (by omega)]
    next =>
      split at h
      next hrange =>
        have hlow : 0x41 ≤ c.toNat := hrange.1
        have hhigh : c.toNat ≤ 0x46 := hrange.2
        rw [Option.some.injEq] at h
        have hcapital : ∀ d < 16, 10 ≤ d → (digitChar d).toUpper = Char.ofNat (0x37 + d) := by
          decide
        refine ⟨by omega, Or.inr ?_⟩
        rw [hcapital d (by omega) (by omega), hchar _ (by omega)]
      next => cases h

theorem hexValue?_eq_some_iff {c : Char} {d : Nat} : hexValue? c = some d ↔ SpellsDigit c d :=
  ⟨spellsDigit_of_hexValue?, SpellsDigit.hexValue?_eq⟩

theorem SpellsPair.ascii {high low : Char} {b : UInt8} (h : SpellsPair high low b) :
    high.toNat < 0x80 ∧ low.toNat < 0x80 := by
  cases h with
  | digits hhigh hlow =>
      exact ⟨(ascii_of_mem_hexAlphabet hhigh.mem_hexAlphabet).1,
        (ascii_of_mem_hexAlphabet hlow.mem_hexAlphabet).1⟩
  | plus hlow => exact ⟨by decide, (ascii_of_mem_hexAlphabet hlow.mem_hexAlphabet).1⟩

end Text

namespace Script

/-! ## Pairs of characters -/

theorem hexDigits?_singleton {c : Char} {n : Nat} :
    hexDigits? [c] = some n ↔ Text.SpellsDigit c n := by
  rw [← Text.hexValue?_eq_some_iff]
  simp [hexDigits?]

theorem hexDigits?_pair {high low : Char} {n : Nat} :
    hexDigits? [high, low] = some n ↔
      ∃ h l, Text.SpellsDigit high h ∧ Text.SpellsDigit low l ∧ 16 * h + l = n := by
  simp only [← Text.hexValue?_eq_some_iff]
  simp [hexDigits?, Option.bind_eq_some_iff, Option.map_eq_some_iff]

/-- The value so far, continued by one more character. -/
def pushDigit (n? : Option Nat) (c : Char) : Option Nat :=
  n?.bind fun n => (Text.hexValue? c).map (16 * n + ·)

theorem foldl_pushDigit_none (cs : List Char) : cs.foldl pushDigit none = none := by
  induction cs with
  | nil => rfl
  | cons c cs ih => exact ih

theorem spellsDigit_of_foldl_pushDigit {cs : List Char} {m n : Nat}
    (h : cs.foldl pushDigit (some m) = some n) : ∀ c ∈ cs, ∃ d, Text.SpellsDigit c d := by
  induction cs generalizing m with
  | nil => exact fun c hc => absurd hc List.not_mem_nil
  | cons c cs ih =>
      rw [List.foldl_cons, pushDigit, Option.bind_some] at h
      cases hc : Text.hexValue? c with
      | none =>
          rw [hc, Option.map_none, foldl_pushDigit_none] at h
          cases h
      | some d =>
          rw [hc, Option.map_some] at h
          rw [List.forall_mem_cons]
          exact ⟨⟨d, Text.spellsDigit_of_hexValue? hc⟩, ih h⟩

/-- Whatever has a value consists of digits. -/
theorem spellsDigit_of_mem_hexDigits? {cs : List Char} {n : Nat} (h : hexDigits? cs = some n) :
    ∀ c ∈ cs, ∃ d, Text.SpellsDigit c d := by
  rw [hexDigits?] at h
  split at h
  · cases h
  · exact spellsDigit_of_foldl_pushDigit h

theorem hexNumber?_plus (cs : List Char) : hexNumber? ('+' :: cs) = hexDigits? cs :=
  rfl

theorem hexNumber?_of_ne_plus {cs : List Char} (h : ∀ more, cs ≠ '+' :: more) :
    hexNumber? cs = hexDigits? cs := by
  unfold hexNumber?
  split
  · exact absurd rfl (h _)
  · rfl

/-- Characters with a value are ASCII characters. -/
theorem ascii_of_hexNumber? {cs : List Char} {n : Nat} (h : hexNumber? cs = some n) :
    ∀ c ∈ cs, c.toNat < 0x80 := by
  have hdigits {digits : List Char} (hvalue : hexDigits? digits = some n) :
      ∀ c ∈ digits, c.toNat < 0x80 := by
    intro c hc
    obtain ⟨d, hd⟩ := spellsDigit_of_mem_hexDigits? hvalue c hc
    exact (Text.ascii_of_mem_hexAlphabet hd.mem_hexAlphabet).1
  by_cases hplus : ∃ more, cs = '+' :: more
  · obtain ⟨more, rfl⟩ := hplus
    rw [hexNumber?_plus] at h
    rw [List.forall_mem_cons]
    exact ⟨by decide, hdigits h⟩
  · rw [hexNumber?_of_ne_plus (not_exists.1 hplus)] at h
    exact hdigits h

/-- Two characters have the value of a byte just when they spell it. -/
theorem hexNumber?_pair {high low : Char} {n : Nat} (h : hexNumber? [high, low] = some n) :
    Text.SpellsPair high low (UInt8.ofNat n) := by
  by_cases hplus : high = '+'
  · rw [hplus, hexNumber?_plus, hexDigits?_singleton] at h
    rw [hplus]
    have hsmall : n < 256 := Nat.lt_trans h.1 (by decide)
    refine .plus ?_
    rwa [UInt8.toNat_ofNat_of_lt' hsmall]
  · have hne (more : List Char) : [high, low] ≠ '+' :: more := by
      intro heq
      exact hplus (List.cons.inj heq).1
    rw [hexNumber?_of_ne_plus hne, hexDigits?_pair] at h
    obtain ⟨x, y, hx, hy, rfl⟩ := h
    have hxsmall := hx.1
    have hysmall := hy.1
    have hvalue : (UInt8.ofNat (16 * x + y)).toNat = 16 * x + y :=
      UInt8.toNat_ofNat_of_lt' (show 16 * x + y < 256 by omega)
    refine .digits ?_ ?_
    · rwa [hvalue, show (16 * x + y) / 16 = x by omega]
    · rwa [hvalue, show (16 * x + y) % 16 = y by omega]

theorem hexNumber?_of_spellsPair {high low : Char} {b : UInt8} (h : Text.SpellsPair high low b) :
    hexNumber? [high, low] = some b.toNat := by
  cases h with
  | digits hhigh hlow =>
      have hsign := (Text.ascii_of_mem_hexAlphabet hhigh.mem_hexAlphabet).2.1
      have hne (more : List Char) : [high, low] ≠ '+' :: more := by
        intro heq
        exact hsign (List.cons.inj heq).1
      rw [hexNumber?_of_ne_plus hne, hexDigits?_pair]
      exact ⟨_, _, hhigh, hlow, Nat.div_add_mod b.toNat 16⟩
  | plus hlow =>
      rw [hexNumber?_plus, hexDigits?_singleton]
      exact hlow

/-- Two bytes are read just when they are two characters that spell the result. -/
theorem hexByte_eq_ok_iff {x y b : UInt8} :
    hexByte (x, y) = .ok b ↔ ∃ high low, Text.SpellsPair high low b ∧
      Utf8.encode (String.ofList [high, low]) = [x, y] := by
  constructor
  · intro h
    rw [hexByte] at h
    cases hdecode : Utf8.decode [x, y] with
    | error fault =>
        rw [hdecode] at h
        cases h
    | ok text =>
        rw [hdecode] at h
        cases hnumber : hexNumber? text.toList with
        | none =>
            simp only [hnumber] at h
            cases h
        | some n =>
            simp only [hnumber] at h
            obtain rfl := Except.ok.inj h
            have hencode := Utf8.decode_eq_ok_iff.1 hdecode
            -- each of the characters is a byte of its own, so there are two of them
            have hbytes : Utf8.encode text = text.toList.map fun c => UInt8.ofNat c.toNat :=
              Utf8.encode_of_ascii (ascii_of_hexNumber? hnumber)
            have hlength : text.toList.length = 2 := by
              rw [← List.length_map, ← hbytes, hencode]
              rfl
            obtain ⟨high, low, hpair⟩ := List.length_eq_two.1 hlength
            rw [hpair] at hnumber
            refine ⟨high, low, hexNumber?_pair hnumber, ?_⟩
            rw [← hpair, String.ofList_toList, hencode]
  · rintro ⟨high, low, hpair, hencode⟩
    rw [hexByte, Utf8.decode_eq_ok_iff.2 hencode]
    simp only [String.toList_ofList, hexNumber?_of_spellsPair hpair, UInt8.ofNat_toNat]

/-! ## Blanks -/

/-- A byte may stand between digits just when it is an ASCII blank. -/
theorem isSpacing_iff {c : Char} {b : UInt8} (hmem : b ∈ Utf8.encodeChar c) :
    isSpacing b = true ↔ c ∈ Text.asciiBlanks := by
  constructor
  · intro h
    have hb : b = 0x20 ∨ b = 0x09 ∨ b = 0x0A ∨ b = 0x0C ∨ b = 0x0D := by
      simpa [isSpacing, or_assoc] using h
    have hascii : b.toNat < 0x80 := by
      rcases hb with rfl | rfl | rfl | rfl | rfl <;> decide
    have hc : Char.ofNat b.toNat = c := by
      rw [← (Utf8.encodeChar_of_mem hmem hascii).1, Char.ofNat_toNat]
    rw [← hc]
    rcases hb with rfl | rfl | rfl | rfl | rfl <;> decide
  · intro h
    have hall : Text.asciiBlanks.all (fun c => (Utf8.encodeChar c).all isSpacing) = true := by
      decide
    exact List.all_eq_true.1 (List.all_eq_true.1 hall c h) b hmem

theorem filter_encodeChar (c : Char) : (Utf8.encodeChar c).filter (fun b => !isSpacing b) =
    if Text.asciiBlanks.contains c then [] else Utf8.encodeChar c := by
  split
  next hblank =>
    rw [List.filter_eq_nil_iff]
    intro b hb
    rw [(isSpacing_iff hb).2 (List.contains_iff_mem.1 hblank)]
    decide
  next hsolid =>
    rw [List.filter_eq_self]
    intro b hb
    rw [Bool.not_eq_true', ← Bool.not_eq_true, isSpacing_iff hb]
    exact fun hmem => hsolid (List.contains_iff_mem.2 hmem)

/-! ## Whole lines -/

theorem mapM_hexByte_cons {pair : UInt8 × UInt8} {more : List (UInt8 × UInt8)} {bytes : Bytes} :
    (pair :: more).mapM hexByte = .ok bytes ↔
      ∃ b rest, hexByte pair = .ok b ∧ more.mapM hexByte = .ok rest ∧ bytes = b :: rest := by
  rw [List.mapM_cons]
  cases hexByte pair with
  | error defect => simp [bind, Except.bind]
  | ok b =>
      cases more.mapM hexByte with
      | error defect => simp [bind, Except.bind]
      | ok rest => simp [bind, Except.bind, pure, Except.pure, eq_comm]

theorem encode_pair_append (high low : Char) (cs : List Char) :
    Utf8.encode (String.ofList (high :: low :: cs)) =
      Utf8.encode (String.ofList [high, low]) ++ Utf8.encode (String.ofList cs) := by
  rw [← Utf8.encode_append, ← String.ofList_append]
  rfl

/-- An even number of bytes is read as nothing but what its characters spell. -/
theorem exists_spelled_of_mapM_hexByte {digits bytes : Bytes} (heven : digits.length % 2 = 0)
    (h : (pairs digits).mapM hexByte = .ok bytes) :
    ∃ cs, Text.SpellsLoosely cs bytes ∧ Utf8.encode (String.ofList cs) = digits := by
  induction digits using pairs.induct generalizing bytes with
  | case1 x y more ih =>
      rw [pairs, mapM_hexByte_cons] at h
      obtain ⟨b, rest, hbyte, hmore, rfl⟩ := h
      simp only [List.length_cons] at heven
      obtain ⟨cs, hcs, hencode⟩ := ih (by omega) hmore
      obtain ⟨high, low, hpair, hfirst⟩ := hexByte_eq_ok_iff.1 hbyte
      refine ⟨high :: low :: cs, .cons hpair hcs, ?_⟩
      rw [encode_pair_append, hfirst, hencode]
      rfl
  | case2 digits hnone =>
      match digits with
      | [] =>
          obtain rfl := Except.ok.inj h
          exact ⟨[], .nil, Utf8.encode_nil⟩
      | [_] => cases heven
      | x :: y :: more => exact absurd rfl (hnone x y more)

theorem mapM_hexByte_of_spelled {cs : List Char} {bytes : Bytes}
    (h : Text.SpellsLoosely cs bytes) :
    (Utf8.encode (String.ofList cs)).length % 2 = 0 ∧
      (pairs (Utf8.encode (String.ofList cs))).mapM hexByte = .ok bytes := by
  induction h with
  | nil =>
      rw [Utf8.encode_nil]
      exact ⟨rfl, rfl⟩
  | @cons high low b cs bytes hpair hrest ih =>
      obtain ⟨heven, hmap⟩ := ih
      obtain ⟨hhigh, hlow⟩ := hpair.ascii
      have hfirst : Utf8.encode (String.ofList [high, low]) =
          [UInt8.ofNat high.toNat, UInt8.ofNat low.toNat] := by
        rw [Utf8.encode_of_ascii, String.toList_ofList]
        · rfl
        · simp [hhigh, hlow]
      have hbyte := hexByte_eq_ok_iff.2 ⟨high, low, hpair, hfirst⟩
      rw [encode_pair_append, hfirst]
      constructor
      · simp only [List.cons_append, List.nil_append, List.length_cons]
        omega
      · exact mapM_hexByte_cons.2 ⟨b, bytes, hbyte, hmap, rfl⟩

/-- The characters of a line other than ASCII blanks. -/
def solid (line : String) : List Char :=
  line.toList.filter fun c => !Text.asciiBlanks.contains c

/-- The bytes between the blanks of a line are those of the other characters. -/
theorem filter_encode (line : String) :
    (Utf8.encode line).filter (fun b => !isSpacing b) =
      Utf8.encode (String.ofList (solid line)) := by
  rw [solid, Utf8.encode, Utf8.encode, String.toList_ofList]
  generalize line.toList = cs
  induction cs with
  | nil => rfl
  | cons c cs ih =>
      rw [List.flatMap_cons, List.filter_append, ih, filter_encodeChar]
      cases hc : Text.asciiBlanks.contains c with
      | true => rw [List.filter_cons_of_neg (by rw [hc]; decide), if_pos rfl, List.nil_append]
      | false =>
          rw [List.filter_cons_of_pos (by rw [hc]; rfl), if_neg Bool.false_ne_true,
            List.flatMap_cons]

/-- A line is read just when the characters other than blanks spell the result. -/
theorem hexBytes_eq_ok_iff {line : String} {bytes : Bytes} :
    hexBytes line = .ok bytes ↔ Text.SpellsLoosely (solid line) bytes := by
  have hread : hexBytes line = .ok bytes ↔
      (Utf8.encode (String.ofList (solid line))).length % 2 = 0 ∧
        (pairs (Utf8.encode (String.ofList (solid line)))).mapM hexByte = .ok bytes := by
    rw [hexBytes, filter_encode]
    by_cases heven : (Utf8.encode (String.ofList (solid line))).length % 2 = 0
    · simp only [heven, if_true, true_and]
    · simp only [heven, if_false, false_and, reduceCtorEq]
  rw [hread]
  constructor
  · rintro ⟨heven, hmap⟩
    obtain ⟨cs, hcs, hencode⟩ := exists_spelled_of_mapM_hexByte heven hmap
    rwa [← String.ofList_injective (Utf8.encode_injective hencode)]
  · exact mapM_hexByte_of_spelled

/-- A line is read as bytes just when pairs are left of it without ASCII blanks: pairs of
hexadecimal digits, or of a plus sign and a digit.  So a line without plus signs is read just
when it consists of an even number of digits, as the bytes that these spell, and every line that
is not read is refused. -/
theorem hexBytes_accepts (line : String) :
    (∀ bytes, hexBytes line = .ok bytes ↔ Text.SpellsLoosely (solid line) bytes) ∧
      ('+' ∉ line.toList → ∀ bytes,
        hexBytes line = .ok bytes ↔ Text.SpellsBytes (solid line) bytes) ∧
      ((∀ bytes, ¬Text.SpellsLoosely (solid line) bytes) →
        ∃ defect, hexBytes line = .error defect) := by
  refine ⟨fun bytes => hexBytes_eq_ok_iff, ?_, ?_⟩
  · intro hplus bytes
    rw [hexBytes_eq_ok_iff]
    exact ⟨fun h => h.spellsBytes fun hmem => hplus (List.mem_filter.1 hmem).1, fun h => h.loosely⟩
  · intro hnone
    cases hread : hexBytes line with
    | error defect => exact ⟨defect, rfl⟩
    | ok bytes => exact absurd (hexBytes_eq_ok_iff.1 hread) (hnone bytes)

/-- Letters of either size and blanks between any two digits make no difference, and a character
that falls into two pairs is refused. -/
theorem hexBytes_accepts_mixed_case :
    '+' ∉ "14 00\t2 A".toList ∧
      Text.SpellsBytes (solid "14 00\t2 A") [0x14, 0x00, 0x2A] ∧
      hexBytes "14 00\t2 A" = .ok [0x14, 0x00, 0x2A] ∧
      (∀ bytes, ¬Text.SpellsLoosely (solid "0\u00E90") bytes) ∧
      ∃ defect, hexBytes "0\u00E90" = .error defect := by
  have hplus : '+' ∉ "14 00\t2 A".toList := by decide
  have hspells : Text.SpellsBytes (solid "14 00\t2 A") [0x14, 0x00, 0x2A] :=
    .cons (by decide) (by decide) (.cons (by decide) (by decide)
      (.cons (by decide) (by decide) .nil))
  have hnone : ∀ bytes, ¬Text.SpellsLoosely (solid "0\u00E90") bytes := by
    intro bytes h
    have hsolid : solid "0\u00E90" = ['0', '\u00E9', '0'] := by decide
    rw [hsolid] at h
    cases h with
    | cons hpair hrest => cases hrest
  obtain ⟨-, hstrict, -⟩ := hexBytes_accepts "14 00\t2 A"
  obtain ⟨-, -, hrefused⟩ := hexBytes_accepts "0\u00E90"
  exact ⟨hplus, hspells, (hstrict hplus _).2 hspells, hnone, hrefused hnone⟩

/-- A plus sign is no hexadecimal digit, and yet a line with one is read as a frame. -/
theorem hexBytes_reads_plus_sign :
    hexBytes "+f" = .ok [0x0F] ∧ entry? "+f" = some (.frame [0x0F]) ∧
      (∀ bytes, ¬Text.SpellsBytes (solid "+f") bytes) ∧
      ¬∀ line bytes, hexBytes line = .ok bytes ↔ Text.SpellsBytes (solid line) bytes := by
  have hread : hexBytes "+f" = .ok [0x0F] := by rfl
  have hentry : entry? "+f" = some (.frame [0x0F]) := by decide
  have hnone : ∀ bytes, ¬Text.SpellsBytes (solid "+f") bytes := by
    intro bytes h
    have hplus : '+' ∈ Text.hexAlphabet := h.mem_hexAlphabet '+' (by decide)
    exact absurd hplus (by decide)
  exact ⟨hread, hentry, hnone, fun hall => hnone _ ((hall _ _).1 hread)⟩

end Script
end DeviceFeed
