import DeviceFeed.Text.Utf8
import Mathlib.Tactic.Common

/-!
# The UTF-8 reader and the standard encoding

This file proves that the automaton behind `Utf8.decode` accepts exactly the
encodings of texts, and that these are the encodings of the standard library.
The argument follows the bytes of one character.  `Opened seen p` says that the
bytes `seen` open a character and that the automaton stands at `p` after them;
the three ranges of opening bytes are described once, and both directions read
them off there.
-/

namespace DeviceFeed.Utf8

/-! ## The encoding of a character -/

theorem toNat_valid (c : Char) :
    c.toNat < 0xD800 ∨ 0xDFFF < c.toNat ∧ c.toNat < 0x110000 := by
  have h := c.valid
  simp only [UInt32.isValidChar, Nat.isValidChar] at h
  exact h

theorem encodeChar_eq_utf8EncodeChar (c : Char) :
    encodeChar c = String.utf8EncodeChar c := by
  have hc : c.toNat = c.val.toNat := rfl
  have hmax : c.val.toNat < 0x110000 := by
    rcases toNat_valid c with h | ⟨-, h⟩
    · rw [hc] at h
      omega
    · exact h
  simp only [encodeChar, String.utf8EncodeChar, hc]
  by_cases h1 : c.val.toNat < 0x80
  · rw [if_pos h1, if_pos (Nat.le_of_lt_succ h1)]
  rw [if_neg h1, if_neg (show ¬c.val.toNat ≤ 0x7F by omega)]
  by_cases h2 : c.val.toNat < 0x800
  · have hhead : c.val.toNat / 64 % 0x20 = c.val.toNat / 64 := by omega
    rw [if_pos h2, if_pos (Nat.le_of_lt_succ h2), hhead]
    simp only [Nat.add_comm]
  rw [if_neg h2, if_neg (show ¬c.val.toNat ≤ 0x7FF by omega)]
  by_cases h3 : c.val.toNat < 0x10000
  · have hhead : c.val.toNat / 4096 % 0x10 = c.val.toNat / 4096 := by omega
    rw [if_pos h3, if_pos (Nat.le_of_lt_succ h3), hhead]
    simp only [Nat.add_comm]
  · have hhead : c.val.toNat / 262144 % 0x08 = c.val.toNat / 262144 := by omega
    rw [if_neg h3, if_neg (show ¬c.val.toNat ≤ 0xFFFF by omega), hhead]
    simp only [Nat.add_comm]

/-- The bytes of a text are those that the standard library stores. -/
theorem toByteArray_encode (s : String) :
    (encode s).toByteArray = s.toByteArray := by
  have hencode : encode s = s.toList.flatMap String.utf8EncodeChar := by
    rw [encode, funext encodeChar_eq_utf8EncodeChar]
  rw [hencode, ← String.utf8Encode_toList, List.utf8Encode]

theorem isValidUTF8_iff_exists_encode (bytes : Bytes) :
    bytes.toByteArray.IsValidUTF8 ↔ ∃ s, encode s = bytes := by
  constructor
  · rintro ⟨cs, hcs⟩
    refine ⟨String.ofList cs, ?_⟩
    have hdata := congrArg (fun b => b.data.toList) hcs
    rw [encode, funext encodeChar_eq_utf8EncodeChar, String.toList_ofList]
    simpa [List.utf8Encode] using hdata.symm
  · rintro ⟨s, rfl⟩
    rw [toByteArray_encode]
    exact s.isValidUTF8

theorem toNat_ofNat_of_isValidChar {v : Nat} (h : v.isValidChar) :
    (Char.ofNat v).toNat = v := by
  rw [Char.ofNat, dif_pos h]
  rfl

/-! ## ASCII characters -/

theorem encodeChar_of_ascii {c : Char} (h : c.toNat < 0x80) :
    encodeChar c = [UInt8.ofNat c.toNat] :=
  if_pos h

/-- All bytes of a longer character are above the ASCII range. -/
theorem le_of_mem_encodeChar {c : Char} (h : 0x80 ≤ c.toNat) :
    ∀ b ∈ encodeChar c, 0x80 ≤ b.toNat := by
  have hmax : c.toNat < 0x110000 := by
    rcases toNat_valid c with h | ⟨-, h⟩
    · omega
    · exact h
  simp only [encodeChar, if_neg (Nat.not_lt.2 h)]
  split
  · simp only [List.forall_mem_cons, UInt8.toNat_ofNat']
    exact ⟨by omega, by omega, by simp⟩
  · split
    · simp only [List.forall_mem_cons, UInt8.toNat_ofNat']
      exact ⟨by omega, by omega, by omega, by simp⟩
    · simp only [List.forall_mem_cons, UInt8.toNat_ofNat']
      exact ⟨by omega, by omega, by omega, by omega, by simp⟩

/-- A byte in the ASCII range is a character on its own. -/
theorem encodeChar_of_mem {c : Char} {b : UInt8} (hmem : b ∈ encodeChar c)
    (hb : b.toNat < 0x80) : c.toNat = b.toNat ∧ encodeChar c = [b] := by
  by_cases hc : c.toNat < 0x80
  · rw [encodeChar_of_ascii hc, List.mem_singleton] at hmem
    rw [encodeChar_of_ascii hc, hmem, UInt8.toNat_ofNat']
    exact ⟨by omega, rfl⟩
  · have hhigh := le_of_mem_encodeChar (Nat.not_lt.1 hc) b hmem
    omega

theorem encodeChar_ne_nil (c : Char) : encodeChar c ≠ [] := by
  simp only [encodeChar]
  split
  · exact List.cons_ne_nil _ _
  · split
    · exact List.cons_ne_nil _ _
    · split
      · exact List.cons_ne_nil _ _
      · exact List.cons_ne_nil _ _

/-! ## Parts of a text -/

theorem encode_append (s t : String) : encode (s ++ t) = encode s ++ encode t := by
  rw [encode, encode, encode, String.toList_append, List.flatMap_append]

theorem encode_nil : encode (String.ofList []) = [] := by
  rw [encode, String.toList_ofList]
  rfl

theorem encode_cons (c : Char) (cs : List Char) :
    encode (String.ofList (c :: cs)) = encodeChar c ++ encode (String.ofList cs) := by
  rw [encode, encode, String.toList_ofList, String.toList_ofList, List.flatMap_cons]

/-- ASCII characters are one byte each. -/
theorem encode_of_ascii {s : String} (h : ∀ c ∈ s.toList, c.toNat < 0x80) :
    encode s = s.toList.map fun c => UInt8.ofNat c.toNat := by
  rw [encode]
  generalize s.toList = cs at h
  induction cs with
  | nil => rfl
  | cons c cs ih =>
      rw [List.forall_mem_cons] at h
      rw [List.flatMap_cons, encodeChar_of_ascii h.1, ih h.2]
      rfl

theorem encode_ne_nil {cs : List Char} (h : cs ≠ []) : encode (String.ofList cs) ≠ [] := by
  obtain ⟨c, cs, rfl⟩ := List.exists_cons_of_ne_nil h
  rw [encode_cons]
  intro hnil
  exact encodeChar_ne_nil c (List.append_eq_nil_iff.1 hnil).1

/-- A byte in the ASCII range that none of the characters has does not occur in their
encoding. -/
theorem not_mem_encode {cs : List Char} {b : UInt8} (hb : b.toNat < 0x80)
    (h : ∀ c ∈ cs, c.toNat ≠ b.toNat) : b ∉ encode (String.ofList cs) := by
  rw [encode, String.toList_ofList, List.mem_flatMap]
  rintro ⟨c, hc, hmem⟩
  exact h c hc (encodeChar_of_mem hmem hb).1

/-- A byte in the ASCII range occurs as often as its character. -/
theorem count_encode {b : UInt8} (hb : b.toNat < 0x80) (s : String) :
    (encode s).count b = s.toList.count (Char.ofNat b.toNat) := by
  rw [encode]
  generalize s.toList = cs
  induction cs with
  | nil => rfl
  | cons c cs ih =>
      rw [List.flatMap_cons, List.count_append, ih, List.count_cons, Nat.add_comm]
      congr 1
      by_cases hmem : b ∈ encodeChar c
      · obtain ⟨hc, hencode⟩ := encodeChar_of_mem hmem hb
        rw [hencode, ← hc, Char.ofNat_toNat, if_pos (beq_self_eq_true c), List.count_singleton_self]
      · rw [List.count_eq_zero_of_not_mem hmem, if_neg]
        intro hc
        obtain rfl := eq_of_beq hc
        have hascii : (Char.ofNat b.toNat).toNat = b.toNat :=
          toNat_ofNat_of_isValidChar (Or.inl (by omega))
        apply hmem
        rw [encodeChar_of_ascii (by omega), hascii, UInt8.ofNat_toNat]
        exact List.mem_singleton_self b

/-! ## Opening bytes -/

theorem opening?_two {b : Nat} (hlow : 0xC2 ≤ b) (hhigh : b < 0xE0) :
    opening? b = some ⟨1, 1, 0x80, 0xBF, b - 0xC0⟩ := by
  rw [opening?, if_neg (by omega), if_pos hhigh]

theorem opening?_three {b : Nat} (hlow : 0xE0 ≤ b) (hhigh : b < 0xF0) :
    opening? b = some ⟨1, 2, if b = 0xE0 then 0xA0 else 0x80,
      if b = 0xED then 0x9F else 0xBF, b - 0xE0⟩ := by
  rw [opening?, if_neg (by omega), if_neg (by omega)]
  by_cases hE0 : b = 0xE0
  · simp [hE0]
  by_cases hED : b = 0xED
  · simp [hED]
  · simp [hE0, hED, hhigh]

theorem opening?_four {b : Nat} (hlow : 0xF0 ≤ b) (hhigh : b < 0xF5) :
    opening? b = some ⟨1, 3, if b = 0xF0 then 0x90 else 0x80,
      if b = 0xF4 then 0x8F else 0xBF, b - 0xF0⟩ := by
  rw [opening?, if_neg (by omega), if_neg (by omega), if_neg (by omega),
    if_neg (by omega), if_neg (by omega)]
  by_cases hF0 : b = 0xF0
  · simp [hF0]
  by_cases hF4 : b = 0xF4
  · simp [hF4]
  · simp [hF0, hF4, show b < 0xF4 by omega]

theorem opening?_eq_none {b : Nat} (h : b < 0xC2 ∨ 0xF5 ≤ b) :
    opening? b = none := by
  rcases h with h | h
  · rw [opening?, if_pos h]
  · rw [opening?]
    repeat rw [if_neg (by omega)]

/-- The three ranges of bytes that open a character. -/
theorem opening?_cases {b : Nat} {p : Pending} (h : opening? b = some p) :
    (0xC2 ≤ b ∧ b < 0xE0 ∧ p = ⟨1, 1, 0x80, 0xBF, b - 0xC0⟩) ∨
    (0xE0 ≤ b ∧ b < 0xF0 ∧ p = ⟨1, 2, if b = 0xE0 then 0xA0 else 0x80,
      if b = 0xED then 0x9F else 0xBF, b - 0xE0⟩) ∨
    (0xF0 ≤ b ∧ b < 0xF5 ∧ p = ⟨1, 3, if b = 0xF0 then 0x90 else 0x80,
      if b = 0xF4 then 0x8F else 0xBF, b - 0xF0⟩) := by
  have hrange : 0xC2 ≤ b ∧ b < 0xF5 := by
    by_contra hout
    rw [opening?_eq_none (by omega)] at h
    simp at h
  by_cases h2 : b < 0xE0
  · rw [opening?_two hrange.1 h2, Option.some.injEq] at h
    exact Or.inl ⟨hrange.1, h2, h.symm⟩
  by_cases h3 : b < 0xF0
  · rw [opening?_three (by omega) h3, Option.some.injEq] at h
    exact Or.inr (Or.inl ⟨by omega, h3, h.symm⟩)
  · rw [opening?_four (by omega) hrange.2, Option.some.injEq] at h
    exact Or.inr (Or.inr ⟨by omega, hrange.2, h.symm⟩)

/-! ## Whole characters -/

theorem encodeChar_two {a b : UInt8}
    (ha : 0xC2 ≤ a.toNat ∧ a.toNat < 0xE0) (hb : 0x80 ≤ b.toNat ∧ b.toNat ≤ 0xBF) :
    encodeChar (Char.ofNat ((a.toNat - 0xC0) * 64 + (b.toNat - 0x80))) = [a, b] := by
  have hvalid : ((a.toNat - 0xC0) * 64 + (b.toNat - 0x80)).isValidChar := by
    left
    omega
  rw [encodeChar, toNat_ofNat_of_isValidChar hvalid]
  generalize hv : (a.toNat - 0xC0) * 64 + (b.toNat - 0x80) = v
  have h0 : 0xC0 + v / 64 = a.toNat := by omega
  have h1 : 0x80 + v % 64 = b.toNat := by omega
  rw [if_neg (by omega), if_pos (by omega), h0, h1]
  simp only [UInt8.ofNat_toNat]

theorem encodeChar_three {a b c : UInt8}
    (ha : 0xE0 ≤ a.toNat ∧ a.toNat < 0xF0)
    (hb : (if a.toNat = 0xE0 then 0xA0 else 0x80) ≤ b.toNat ∧
      b.toNat ≤ if a.toNat = 0xED then 0x9F else 0xBF)
    (hc : 0x80 ≤ c.toNat ∧ c.toNat ≤ 0xBF) :
    encodeChar (Char.ofNat
      (((a.toNat - 0xE0) * 64 + (b.toNat - 0x80)) * 64 + (c.toNat - 0x80))) = [a, b, c] := by
  have hb' : 0x80 ≤ b.toNat ∧ b.toNat ≤ 0xBF ∧ (a.toNat = 0xE0 → 0xA0 ≤ b.toNat) ∧
      (a.toNat = 0xED → b.toNat ≤ 0x9F) := by
    split at hb <;> split at hb <;> omega
  generalize hv :
    ((a.toNat - 0xE0) * 64 + (b.toNat - 0x80)) * 64 + (c.toNat - 0x80) = v
  have hvalid : v.isValidChar := by
    rw [Nat.isValidChar]
    omega
  have h0 : 0xE0 + v / 4096 = a.toNat := by omega
  have h1 : 0x80 + v / 64 % 64 = b.toNat := by omega
  have h2 : 0x80 + v % 64 = c.toNat := by omega
  rw [encodeChar, toNat_ofNat_of_isValidChar hvalid]
  rw [if_neg (by omega), if_neg (by omega), if_pos (by omega), h0, h1, h2]
  simp only [UInt8.ofNat_toNat]

theorem encodeChar_four {a b c d : UInt8}
    (ha : 0xF0 ≤ a.toNat ∧ a.toNat < 0xF5)
    (hb : (if a.toNat = 0xF0 then 0x90 else 0x80) ≤ b.toNat ∧
      b.toNat ≤ if a.toNat = 0xF4 then 0x8F else 0xBF)
    (hc : 0x80 ≤ c.toNat ∧ c.toNat ≤ 0xBF) (hd : 0x80 ≤ d.toNat ∧ d.toNat ≤ 0xBF) :
    encodeChar (Char.ofNat
      ((((a.toNat - 0xF0) * 64 + (b.toNat - 0x80)) * 64 + (c.toNat - 0x80)) * 64 +
        (d.toNat - 0x80))) = [a, b, c, d] := by
  have hb' : 0x80 ≤ b.toNat ∧ b.toNat ≤ 0xBF ∧ (a.toNat = 0xF0 → 0x90 ≤ b.toNat) ∧
      (a.toNat = 0xF4 → b.toNat ≤ 0x8F) := by
    split at hb <;> split at hb <;> omega
  generalize hv :
    (((a.toNat - 0xF0) * 64 + (b.toNat - 0x80)) * 64 + (c.toNat - 0x80)) * 64 +
      (d.toNat - 0x80) = v
  have hvalid : v.isValidChar := by
    rw [Nat.isValidChar]
    omega
  have h0 : 0xF0 + v / 262144 = a.toNat := by omega
  have h1 : 0x80 + v / 4096 % 64 = b.toNat := by omega
  have h2 : 0x80 + v / 64 % 64 = c.toNat := by omega
  have h3 : 0x80 + v % 64 = d.toNat := by omega
  rw [encodeChar, toNat_ofNat_of_isValidChar hvalid]
  rw [if_neg (by omega), if_neg (by omega), if_neg (by omega), h0, h1, h2, h3]
  simp only [UInt8.ofNat_toNat]

/-! ## Inside a character -/

/-- The bytes `seen` open a character, and the automaton stands at `p` after
them. -/
inductive Opened : Bytes → Pending → Prop where
  | first {b : UInt8} {p : Pending} (h : opening? b.toNat = some p) : Opened [b] p
  | more {seen : Bytes} {p : Pending} {b : UInt8} (h : Opened seen p)
      (hb : p.accepts b.toNat = true) (hneed : 1 < p.need) :
      Opened (seen ++ [b]) (p.push b.toNat)

theorem Pending.accepts_iff {p : Pending} {b : Nat} :
    p.accepts b = true ↔ p.low ≤ b ∧ b ≤ p.high := by
  simp [Pending.accepts]

/-- An automaton inside a character has read one, two or three bytes of it. -/
theorem Opened.cases_seen {seen : Bytes} {p : Pending} (h : Opened seen p) :
    (∃ a : UInt8, seen = [a] ∧ opening? a.toNat = some p) ∨
    (∃ (a b : UInt8) (q : Pending), seen = [a, b] ∧ opening? a.toNat = some q ∧
      (q.low ≤ b.toNat ∧ b.toNat ≤ q.high) ∧ 1 < q.need ∧ p = q.push b.toNat) ∨
    (∃ (a b c : UInt8) (q : Pending), seen = [a, b, c] ∧ opening? a.toNat = some q ∧
      (q.low ≤ b.toNat ∧ b.toNat ≤ q.high) ∧ (0x80 ≤ c.toNat ∧ c.toNat ≤ 0xBF) ∧
      2 < q.need ∧ p = (q.push b.toNat).push c.toNat) := by
  induction h with
  | @first b p h => exact Or.inl ⟨b, rfl, h⟩
  | @more seen p b _ hb hneed ih =>
      rw [Pending.accepts_iff] at hb
      rcases ih with ⟨a, rfl, ha⟩ | ⟨a, c, q, rfl, ha, hc, hq, rfl⟩ |
        ⟨a, c, d, q, rfl, ha, hc, hd, hq, rfl⟩
      · exact Or.inr (Or.inl ⟨a, b, p, rfl, ha, hb, hneed, rfl⟩)
      · simp only [Pending.push] at hb hneed
        exact Or.inr (Or.inr ⟨a, c, b, q, rfl, ha, hc, hb, by omega, rfl⟩)
      · -- no character has five bytes
        simp only [Pending.push] at hneed
        rcases opening?_cases ha with ⟨_, _, rfl⟩ | ⟨_, _, rfl⟩ | ⟨_, _, rfl⟩
        all_goals simp at hneed

/-- An opened character that needs one more byte is finished by it, and the
bytes read are its encoding. -/
theorem Opened.encodeChar_value {seen : Bytes} {p : Pending} {b : UInt8}
    (h : Opened seen p) (hb : p.accepts b.toNat = true) (hneed : p.need ≤ 1) :
    encodeChar (Char.ofNat (p.value b.toNat)) = seen ++ [b] := by
  rw [Pending.accepts_iff] at hb
  rcases h.cases_seen with ⟨a, rfl, ha⟩ | ⟨a, c, q, rfl, ha, hc, hq, rfl⟩ |
    ⟨a, c, d, q, rfl, ha, hc, hd, hq, rfl⟩
  · rcases opening?_cases ha with ⟨h1, h2, rfl⟩ | ⟨_, _, rfl⟩ | ⟨_, _, rfl⟩
    · exact encodeChar_two ⟨h1, h2⟩ hb
    · simp at hneed
    · simp at hneed
  · simp only [Pending.push] at hb hneed
    rcases opening?_cases ha with ⟨_, _, rfl⟩ | ⟨h1, h2, rfl⟩ | ⟨_, _, rfl⟩
    · simp at hq
    · exact encodeChar_three ⟨h1, h2⟩ hc hb
    · simp at hneed
  · simp only [Pending.push] at hb hneed
    rcases opening?_cases ha with ⟨_, _, rfl⟩ | ⟨_, _, rfl⟩ | ⟨h1, h2, rfl⟩
    · simp at hq
    · simp at hq
    · exact encodeChar_four ⟨h1, h2⟩ hc hd hb

theorem Opened.seen_eq {seen : Bytes} {p : Pending} (h : Opened seen p) :
    p.seen = seen.length := by
  induction h with
  | first h => rcases opening?_cases h with ⟨-, -, rfl⟩ | ⟨-, -, rfl⟩ | ⟨-, -, rfl⟩ <;> rfl
  | more h hb hneed ih =>
      rw [List.length_append, ← ih]
      rfl

theorem Opened.length_pos {seen : Bytes} {p : Pending} (h : Opened seen p) :
    1 ≤ seen.length := by
  cases h with
  | first h => exact Nat.le_refl 1
  | more h hb hneed =>
      rw [List.length_append]
      exact Nat.le_add_left _ _

theorem Opened.length_le {seen : Bytes} {p : Pending} (h : Opened seen p) :
    seen.length ≤ 3 := by
  rcases h.cases_seen with ⟨a, rfl, -⟩ | ⟨a, b, q, rfl, -⟩ | ⟨a, b, c, q, rfl, -⟩
  all_goals simp

/-! ## Steps of the automaton -/

theorem scan_ascii {place : Nat} {done : List Char} {b : UInt8} {rest : Bytes}
    (h : b.toNat < 0x80) :
    scan place done none (b :: rest) =
      scan (place + 1) (Char.ofNat b.toNat :: done) none rest := by
  rw [scan, if_pos h]

theorem scan_open {place : Nat} {done : List Char} {b : UInt8} {rest : Bytes}
    {p : Pending} (h : opening? b.toNat = some p) :
    scan place done none (b :: rest) = scan place done (some p) rest := by
  have hrange : ¬b.toNat < 0x80 := by
    rcases opening?_cases h with ⟨hb, -⟩ | ⟨hb, -⟩ | ⟨hb, -⟩ <;> omega
  rw [scan, if_neg hrange, h]

theorem scan_more {place : Nat} {done : List Char} {p : Pending} {b : UInt8}
    {rest : Bytes} (hb : p.low ≤ b.toNat ∧ b.toNat ≤ p.high) (hneed : 1 < p.need) :
    scan place done (some p) (b :: rest) =
      scan place done (some (p.push b.toNat)) rest := by
  rw [scan, if_pos (Pending.accepts_iff.2 hb), if_neg (by omega)]

theorem scan_last {place : Nat} {done : List Char} {p : Pending} {b : UInt8}
    {rest : Bytes} (hb : p.low ≤ b.toNat ∧ b.toNat ≤ p.high) (hneed : p.need ≤ 1) :
    scan place done (some p) (b :: rest) =
      scan (place + p.seen + 1) (Char.ofNat (p.value b.toNat) :: done) none rest := by
  rw [scan, if_pos (Pending.accepts_iff.2 hb), if_pos hneed]

theorem scan_two {place : Nat} {done : List Char} {a b : UInt8} {rest : Bytes}
    (ha : 0xC2 ≤ a.toNat ∧ a.toNat < 0xE0) (hb : 0x80 ≤ b.toNat ∧ b.toNat ≤ 0xBF) :
    scan place done none (a :: b :: rest) =
      scan (place + 2)
        (Char.ofNat ((a.toNat - 0xC0) * 64 + (b.toNat - 0x80)) :: done) none rest := by
  rw [scan_open (opening?_two ha.1 ha.2), scan_last hb (Nat.le_refl 1)]
  rfl

theorem scan_three {place : Nat} {done : List Char} {a b c : UInt8} {rest : Bytes}
    (ha : 0xE0 ≤ a.toNat ∧ a.toNat < 0xF0)
    (hb : (if a.toNat = 0xE0 then 0xA0 else 0x80) ≤ b.toNat ∧
      b.toNat ≤ if a.toNat = 0xED then 0x9F else 0xBF)
    (hc : 0x80 ≤ c.toNat ∧ c.toNat ≤ 0xBF) :
    scan place done none (a :: b :: c :: rest) =
      scan (place + 3)
        (Char.ofNat (((a.toNat - 0xE0) * 64 + (b.toNat - 0x80)) * 64 +
          (c.toNat - 0x80)) :: done) none rest := by
  rw [scan_open (opening?_three ha.1 ha.2), scan_more hb (Nat.lt_succ_self 1),
    scan_last hc (Nat.le_refl 1)]
  rfl

theorem scan_four {place : Nat} {done : List Char} {a b c d : UInt8} {rest : Bytes}
    (ha : 0xF0 ≤ a.toNat ∧ a.toNat < 0xF5)
    (hb : (if a.toNat = 0xF0 then 0x90 else 0x80) ≤ b.toNat ∧
      b.toNat ≤ if a.toNat = 0xF4 then 0x8F else 0xBF)
    (hc : 0x80 ≤ c.toNat ∧ c.toNat ≤ 0xBF) (hd : 0x80 ≤ d.toNat ∧ d.toNat ≤ 0xBF) :
    scan place done none (a :: b :: c :: d :: rest) =
      scan (place + 4)
        (Char.ofNat ((((a.toNat - 0xF0) * 64 + (b.toNat - 0x80)) * 64 +
          (c.toNat - 0x80)) * 64 + (d.toNat - 0x80)) :: done) none rest := by
  rw [scan_open (opening?_four ha.1 ha.2), scan_more hb (show 1 < 3 by omega),
    scan_more hc (Nat.lt_succ_self 1), scan_last hd (Nat.le_refl 1)]
  rfl

/-! ## Encodings are read -/

/-- Reading the encoding of a character yields the character and moves the
place by its length. -/
theorem scan_encodeChar (place : Nat) (done : List Char) (c : Char) (rest : Bytes) :
    scan place done none (encodeChar c ++ rest) =
      scan (place + (encodeChar c).length) (c :: done) none rest := by
  have hvalid := toNat_valid c
  have hc : Char.ofNat c.toNat = c := Char.ofNat_toNat c
  rw [encodeChar]
  generalize c.toNat = v at hvalid hc
  by_cases h1 : v < 0x80
  · have ha := UInt8.toNat_ofNat_of_lt' (show v < 256 by omega)
    rw [if_pos h1, List.singleton_append, scan_ascii (by omega), ha, hc]
    rfl
  rw [if_neg h1]
  by_cases h2 : v < 0x800
  · have ha := UInt8.toNat_ofNat_of_lt' (show 0xC0 + v / 64 < 256 by omega)
    have hb := UInt8.toNat_ofNat_of_lt' (show 0x80 + v % 64 < 256 by omega)
    rw [if_pos h2]
    refine (scan_two (by omega) (by omega)).trans ?_
    rw [ha, hb, show (0xC0 + v / 64 - 0xC0) * 64 + (0x80 + v % 64 - 0x80) = v by omega, hc]
    rfl
  rw [if_neg h2]
  by_cases h3 : v < 0x10000
  · have ha := UInt8.toNat_ofNat_of_lt' (show 0xE0 + v / 4096 < 256 by omega)
    have hb := UInt8.toNat_ofNat_of_lt' (show 0x80 + v / 64 % 64 < 256 by omega)
    have hd := UInt8.toNat_ofNat_of_lt' (show 0x80 + v % 64 < 256 by omega)
    rw [if_pos h3]
    refine (scan_three (by omega) ?_ (by omega)).trans ?_
    · rw [ha, hb]
      constructor <;> split <;> omega
    · rw [ha, hb, hd, show ((0xE0 + v / 4096 - 0xE0) * 64 + (0x80 + v / 64 % 64 - 0x80)) * 64 +
        (0x80 + v % 64 - 0x80) = v by omega, hc]
      rfl
  · have ha := UInt8.toNat_ofNat_of_lt' (show 0xF0 + v / 262144 < 256 by omega)
    have hb := UInt8.toNat_ofNat_of_lt' (show 0x80 + v / 4096 % 64 < 256 by omega)
    have hd := UInt8.toNat_ofNat_of_lt' (show 0x80 + v / 64 % 64 < 256 by omega)
    have he := UInt8.toNat_ofNat_of_lt' (show 0x80 + v % 64 < 256 by omega)
    rw [if_neg h3]
    refine (scan_four (by omega) ?_ (by omega) (by omega)).trans ?_
    · rw [ha, hb]
      constructor <;> split <;> omega
    · rw [ha, hb, hd, he, show (((0xF0 + v / 262144 - 0xF0) * 64 +
        (0x80 + v / 4096 % 64 - 0x80)) * 64 + (0x80 + v / 64 % 64 - 0x80)) * 64 +
          (0x80 + v % 64 - 0x80) = v by omega, hc]
      rfl

/-- Whole characters are read, and the rest behind them. -/
theorem scan_flatMap_append (place : Nat) (done cs : List Char) (rest : Bytes) :
    scan place done none (cs.flatMap encodeChar ++ rest) =
      scan (place + (cs.flatMap encodeChar).length) (cs.reverse ++ done) none rest := by
  induction cs generalizing place done with
  | nil => rfl
  | cons c cs ih =>
      rw [List.flatMap_cons, List.append_assoc, scan_encodeChar, ih, List.length_append,
        Nat.add_assoc, List.reverse_cons, List.append_assoc, List.singleton_append]

theorem scan_flatMap_encodeChar (place : Nat) (done cs : List Char) :
    scan place done none (cs.flatMap encodeChar) = .ok (done.reverse ++ cs) := by
  rw [← List.append_nil (cs.flatMap encodeChar), scan_flatMap_append, scan, List.reverse_append,
    List.reverse_reverse]

/-- Every encoding is read as the text it came from. -/
theorem decode_encode (s : String) : decode (encode s) = .ok s := by
  rw [decode, encode, scan_flatMap_encodeChar]
  simp [Except.map]

theorem encode_injective : Function.Injective encode := by
  intro s t h
  have hdecode := congrArg decode h
  rw [decode_encode, decode_encode] at hdecode
  exact Except.ok.inj hdecode

/-! ## Nothing else is read -/

/-- The bytes of the current character that the automaton has read. -/
def Stands : Option Pending → Bytes → Prop
  | none, seen => seen = []
  | some p, seen => Opened seen p

/-- No text has the byte where the automaton stands. -/
def Refuses : Option Pending → UInt8 → Prop
  | none, b => ¬b.toNat < 0x80 ∧ opening? b.toNat = none
  | some p, b => ¬p.accepts b.toNat = true

theorem Stands.scan_refused {state : Option Pending} {seen : Bytes} {b : UInt8}
    (h : Stands state seen) (hb : Refuses state b) (place : Nat) (done : List Char)
    (rest : Bytes) :
    scan place done state (b :: rest) = .error ⟨place, some (max 1 seen.length)⟩ := by
  cases state with
  | none =>
      obtain rfl : seen = [] := h
      rw [scan, if_neg hb.1, hb.2]
      rfl
  | some p =>
      have hopened : Opened seen p := h
      rw [scan, if_neg hb, hopened.seen_eq, Nat.max_eq_right hopened.length_pos]

/-- A byte that is not refused finishes a character, or the character stays open. -/
theorem Stands.step {state : Option Pending} {seen : Bytes} {b : UInt8} (h : Stands state seen)
    (hb : ¬Refuses state b) :
    (∃ c, encodeChar c = seen ++ [b] ∧ ∀ place done rest,
      scan place done state (b :: rest) =
        scan (place + (seen ++ [b]).length) (c :: done) none rest) ∨
    ∃ p, Opened (seen ++ [b]) p ∧ ∀ place done rest,
      scan place done state (b :: rest) = scan place done (some p) rest := by
  cases state with
  | none =>
      obtain rfl : seen = [] := h
      by_cases hascii : b.toNat < 0x80
      · have hvalid : b.toNat.isValidChar := Or.inl (by omega)
        refine Or.inl ⟨Char.ofNat b.toNat, ?_, fun place done rest => scan_ascii hascii⟩
        rw [encodeChar, toNat_ofNat_of_isValidChar hvalid, if_pos hascii, UInt8.ofNat_toNat]
        rfl
      · cases hopen : opening? b.toNat with
        | none => exact absurd ⟨hascii, hopen⟩ hb
        | some p => exact Or.inr ⟨p, .first hopen, fun place done rest => scan_open hopen⟩
  | some p =>
      have hopened : Opened seen p := h
      have haccepts : p.accepts b.toNat = true := not_not.1 hb
      have hrange := Pending.accepts_iff.1 haccepts
      by_cases hneed : p.need ≤ 1
      · refine Or.inl ⟨_, hopened.encodeChar_value haccepts hneed, fun place done rest => ?_⟩
        rw [scan_last hrange hneed, hopened.seen_eq, List.length_append, ← Nat.add_assoc]
        rfl
      · exact Or.inr ⟨_, hopened.more haccepts (by omega),
          fun place done rest => scan_more hrange (by omega)⟩

/-- Characters that are read from some bytes are the ones that the bytes
encode.  The induction is on the bytes still to come; the bytes of the
character that is open are carried along. -/
theorem encode_of_scan_eq_ok {state : Option Pending} {seen bytes : Bytes}
    {place : Nat} {done cs : List Char} (hstate : Stands state seen)
    (h : scan place done state bytes = .ok cs) :
    ∃ more, cs = done.reverse ++ more ∧ more.flatMap encodeChar = seen ++ bytes := by
  induction bytes generalizing state seen place done with
  | nil =>
      cases state with
      | none =>
          rw [scan, Except.ok.injEq] at h
          exact ⟨[], by simp [h], by simpa using hstate.symm⟩
      | some p => simp [scan] at h
  | cons b rest ih =>
      by_cases hb : Refuses state b
      · rw [hstate.scan_refused hb] at h
        cases h
      rcases hstate.step hb with ⟨c, hc, hscan⟩ | ⟨p, hopened, hscan⟩
      · rw [hscan] at h
        have hstands : Stands none [] := rfl
        obtain ⟨more, rfl, hmore⟩ := ih hstands h
        refine ⟨c :: more, by simp, ?_⟩
        rw [List.flatMap_cons, hc, hmore]
        simp
      · rw [hscan] at h
        have hstands : Stands (some p) (seen ++ [b]) := hopened
        obtain ⟨more, hcs, hmore⟩ := ih hstands h
        exact ⟨more, hcs, by simpa using hmore⟩

/-- A byte string is read as a text exactly when it is the encoding of that
text. -/
theorem decode_eq_ok_iff {bytes : Bytes} {s : String} :
    decode bytes = .ok s ↔ encode s = bytes := by
  constructor
  · intro h
    rw [decode] at h
    cases hscan : scan 0 [] none bytes with
    | error fault => simp [hscan, Except.map] at h
    | ok cs =>
        have hstands : Stands none [] := rfl
        obtain ⟨more, rfl, hmore⟩ := encode_of_scan_eq_ok hstands hscan
        rw [hscan, Except.map, Except.ok.injEq] at h
        rw [← h, encode]
        simpa using hmore
  · rintro rfl
    exact decode_encode s

theorem decode_eq_error_iff {bytes : Bytes} {fault : Fault} :
    decode bytes = .error fault ↔ scan 0 [] none bytes = .error fault := by
  rw [decode]
  cases scan 0 [] none bytes with
  | ok cs => simp [Except.map]
  | error other => simp [Except.map]

/-- The bytes encode a text. -/
def IsText (bytes : Bytes) : Prop :=
  ∃ s, encode s = bytes

/-- Texts are what the automaton reads to the end, wherever it begins. -/
theorem isText_iff_scan (place : Nat) (done : List Char) {bytes : Bytes} :
    IsText bytes ↔ ∃ cs, scan place done none bytes = .ok cs := by
  constructor
  · rintro ⟨s, rfl⟩
    exact ⟨_, scan_flatMap_encodeChar place done s.toList⟩
  · rintro ⟨cs, hscan⟩
    have hstands : Stands none [] := rfl
    obtain ⟨more, -, hmore⟩ := encode_of_scan_eq_ok hstands hscan
    refine ⟨String.ofList more, ?_⟩
    rw [encode, String.toList_ofList, hmore, List.nil_append]

theorem isText_or_exists_fault (bytes : Bytes) :
    IsText bytes ∨ ∃ fault, decode bytes = .error fault := by
  cases hdecode : decode bytes with
  | ok s => exact Or.inl ⟨s, decode_eq_ok_iff.1 hdecode⟩
  | error fault => exact Or.inr ⟨fault, rfl⟩

theorem not_isText_of_fault {bytes : Bytes} {fault : Fault} (h : decode bytes = .error fault) :
    ¬IsText bytes := by
  rintro ⟨s, rfl⟩
  rw [decode_encode] at h
  cases h

/-- Reading fails exactly on the byte strings that are not valid UTF-8. -/
theorem exists_decode_eq_error_iff {bytes : Bytes} :
    (∃ fault, decode bytes = .error fault) ↔ ¬bytes.toByteArray.IsValidUTF8 := by
  rw [isValidUTF8_iff_exists_encode]
  constructor
  · rintro ⟨fault, hfault⟩
    exact not_isText_of_fault hfault
  · intro h
    exact (isText_or_exists_fault bytes).resolve_left h

end DeviceFeed.Utf8
