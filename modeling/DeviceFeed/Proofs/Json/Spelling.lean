import DeviceFeed.Json.Skip
import DeviceFeed.Proofs.Json.Values

/-!
# Other spellings of a text

The same JSON value may be spelled in many ways: with blanks between the tokens, and with
escapes for any character of a string.  This file lists these spellings and shows that
readers do not see the difference.  It also lists the values that are passed over when
nobody asks for them.
-/

namespace DeviceFeed.Json

variable {α β : Type}

/-! ## Blanks -/

/-- What may stand between two tokens. -/
def Gap (text : String) : Prop :=
  ∀ c ∈ text.toList, c = ' ' ∨ c = '\n' ∨ c = '\t' ∨ c = '\r'

instance (text : String) : Decidable (Gap text) :=
  List.decidableBAll (fun c => c = ' ' ∨ c = '\n' ∨ c = '\t' ∨ c = '\r') text.toList

theorem gap_empty : Gap "" := by
  decide

/-- Blanks in front make no difference to the reader. -/
def SkipsBlanks (read : Reader α) : Prop :=
  ∀ gap, Gap gap → ∀ rest, read (Utf8.encode gap ++ rest) = read rest

theorem SkipsBlanks.bind {read : Reader α} (h : SkipsBlanks read) (next : α → Reader β) :
    SkipsBlanks (read >>= next) := by
  intro gap hgap rest
  change EStateM.bind read next _ = EStateM.bind read next rest
  rw [EStateM.bind, EStateM.bind, h gap hgap]

theorem Gap.bytes {gap : String} (h : Gap gap) : ∀ b ∈ Utf8.encode gap, isBlankByte b = true := by
  have hall (cs : List Char) (hcs : ∀ c ∈ cs, c = ' ' ∨ c = '\n' ∨ c = '\t' ∨ c = '\r') :
      ∀ b ∈ Utf8.encode (String.ofList cs), isBlankByte b = true := by
    induction cs with
    | nil => intro b hb; cases hb
    | cons c cs ih =>
        have hmore := ih fun d hd => hcs d (List.mem_cons_of_mem _ hd)
        have hc : c.toNat < 0x80 ∧ isBlankByte (byte c) = true := by
          rcases hcs c List.mem_cons_self with rfl | rfl | rfl | rfl <;> decide
        rw [encode_cons_of_ascii hc.1]
        intro b hb
        rcases List.mem_cons.1 hb with rfl | hin
        · exact hc.2
        · exact hmore b hin
  rw [← gap.ofList_toList]
  exact hall _ h

theorem skipsBlanks_peekToken : SkipsBlanks Reader.peekToken := by
  have hskip : SkipsBlanks Reader.skipBlanks := by
    intro gap hgap rest
    rw [Reader.skipBlanks, Reader.skipBlanks, List.dropWhile_append_of_pos hgap.bytes]
  exact hskip.bind _

theorem skipsBlanks_value (read : UInt8 → Reader α) : SkipsBlanks (Reader.value read) :=
  skipsBlanks_peekToken.bind _

theorem Reads.gap {read : Reader α} {gap text : String} {a : α} (h : Reads read text a)
    (hskips : SkipsBlanks read) (hgap : Gap gap) : Reads read (gap ++ text) a := by
  intro rest hrest
  rw [Utf8.encode_append, List.append_assoc, hskips gap hgap, h rest hrest]

/-- Blanks do not belong to a number. -/
theorem Gap.delimits {gap : String} (h : Gap gap) {rest : Bytes} (hrest : Delimits rest) :
    Delimits (Utf8.encode gap ++ rest) := by
  have hbytes := h.bytes
  cases hencode : Utf8.encode gap with
  | nil => exact hrest
  | cons b more =>
      rw [hencode] at hbytes
      have hb := hbytes b List.mem_cons_self
      refine delimits_cons ?_ _
      simp only [isBlankByte, Bool.or_eq_true, beq_iff_eq] at hb
      rcases hb with ((rfl | rfl) | rfl) | rfl <;> rfl

/-! ## Strings -/

/-- Four hexadecimal digits that stand for a code unit. -/
def SpellsUnit (digits : List Char) (n : Nat) : Prop :=
  List.Forall₂ Text.SpellsDigit digits
    [n / 0x1000, n / 0x100 % 0x10, n / 0x10 % 0x10, n % 0x10]

/-- The ways in which a character may be written inside a string. -/
inductive Spelled (c : Char) : List Char → Prop where
  | escaped {written : List Char} (h : Escaped c written) : Spelled c written
  | unit {digits : List Char} (h : SpellsUnit digits c.toNat) :
      Spelled c ('\\' :: 'u' :: digits)
  /-- A character beyond the first plane, as two surrogates. -/
  | pair {first second : List Char} {high low : Nat} (hfirst : SpellsUnit first high)
      (hsecond : SpellsUnit second low) (hhigh : 0xD800 ≤ high ∧ high < 0xDC00)
      (hlow : 0xDC00 ≤ low ∧ low < 0xE000)
      (hc : c.toNat = (high - 0xD800) * 0x400 + (low - 0xDC00) + 0x10000) :
      Spelled c ('\\' :: 'u' :: (first ++ '\\' :: 'u' :: second))

/-- The ways in which several characters may be written. -/
inductive SpelledAll : List Char → List Char → Prop where
  | nil : SpelledAll [] []
  | cons {c : Char} {cs written more : List Char} (h : Spelled c written)
      (hmore : SpelledAll cs more) : SpelledAll (c :: cs) (written ++ more)

/-- Written characters between quotation marks. -/
def quote (written : List Char) : String :=
  String.ofList ('"' :: (written ++ ['"']))

theorem spelledAll_escape (cs : List Char) : SpelledAll cs (cs.flatMap escape) := by
  induction cs with
  | nil => exact .nil
  | cons c cs ih => exact .cons (.escaped (escaped_escape c)) ih

theorem SpellsDigit.ascii {c : Char} {d : Nat} (h : Text.SpellsDigit c d) :
    c.toNat < 0x80 ∧ Text.hexValue? (Char.ofNat (byte c).toNat) = some d := by
  have hascii : c.toNat < 0x80 := by
    obtain ⟨hd, hc⟩ := h
    have hall : ∀ d < 16, (Text.digitChar d).toNat < 0x80 ∧
        (Text.digitChar d).toUpper.toNat < 0x80 := by decide
    rcases hc with rfl | rfl
    · exact (hall d hd).1
    · exact (hall d hd).2
  rw [toNat_byte hascii, Char.ofNat_toNat]
  exact ⟨hascii, h.hexValue?_eq⟩

/-- The digits of a code unit are four bytes with its value. -/
theorem SpellsUnit.bytes {digits : List Char} {n : Nat} (h : SpellsUnit digits n) :
    ∃ a b c d, Utf8.encode (String.ofList digits) = [a, b, c, d] ∧
      Reader.unitValue? [d, c, b, a] = some n := by
  match digits, h with
  | [c₁, c₂, c₃, c₄], .cons h₁ (.cons h₂ (.cons h₃ (.cons h₄ .nil))) =>
      obtain ⟨hascii₁, hv₁⟩ := SpellsDigit.ascii h₁
      obtain ⟨hascii₂, hv₂⟩ := SpellsDigit.ascii h₂
      obtain ⟨hascii₃, hv₃⟩ := SpellsDigit.ascii h₃
      obtain ⟨hascii₄, hv₄⟩ := SpellsDigit.ascii h₄
      refine ⟨byte c₁, byte c₂, byte c₃, byte c₄, ?_, ?_⟩
      · rw [encode_cons_of_ascii hascii₁, encode_cons_of_ascii hascii₂,
          encode_cons_of_ascii hascii₃, encode_cons_of_ascii hascii₄, Utf8.encode_nil]
      · have hvalue : 16 * (16 * (16 * (16 * 0 + n / 0x1000) + n / 0x100 % 0x10) +
            n / 0x10 % 0x10) + n % 0x10 = n := by omega
        simp only [Reader.unitValue?, hv₁, hv₂, hv₃, hv₄, Option.bind_some, Option.map_some,
          hvalue]

namespace Reader

theorem encode_unit (digits : List Char) :
    Utf8.encode (String.ofList ('\\' :: 'u' :: digits)) =
      byte '\\' :: byte 'u' :: Utf8.encode (String.ofList digits) := by
  rw [encode_backslash, encode_cons_of_ascii (by decide)]

theorem stringFrom_pair {a b c d e f g h : UInt8} {high low : Nat}
    (hhigh : 0xD800 ≤ high ∧ high < 0xDC00) (hlow : 0xDC00 ≤ low ∧ low < 0xE000)
    (hfirst : unitValue? [d, c, b, a] = some high)
    (hsecond : unitValue? [h, g, f, e] = some low) (done rest : Bytes) :
    stringFrom done (.unit none [])
        (a :: b :: c :: d :: byte '\\' :: byte 'u' :: e :: f :: g :: h :: rest) =
      stringFrom ((Utf8.encodeChar (Char.ofNat
        ((high - 0xD800) * 0x400 + (low - 0xDC00) + 0x10000))).reverse ++ done) .plain rest := by
  have hnot : ¬(0xDC00 ≤ high ∧ high < 0xE000) := by omega
  simp [stringFrom, hfirst, hsecond, hnot, hhigh, hlow]

/-- However a character is written, it is read as its own bytes. -/
theorem stringFrom_spelled {c : Char} {written : List Char} (h : Spelled c written)
    (done rest : Bytes) :
    stringFrom done .plain (Utf8.encode (String.ofList written) ++ rest) =
      stringFrom ((Utf8.encodeChar c).reverse ++ done) .plain rest := by
  cases h with
  | escaped h => exact stringFrom_escaped h done rest
  | unit h =>
      obtain ⟨x, y, z, w, hencode, hvalue⟩ := h.bytes
      have hvalid : c.toNat < 0xD800 ∨ 0xE000 ≤ c.toNat := by
        rcases c.valid with hlow | hhigh
        · exact Or.inl hlow
        · exact Or.inr (Nat.le_of_lt_succ (Nat.succ_lt_succ hhigh.1))
      have hunit := stringFrom_unit hvalid hvalue done rest
      rw [Char.ofNat_toNat] at hunit
      rw [encode_unit, hencode, List.cons_append, List.cons_append, stringFrom_backslash,
        stringFrom_escaped_unit]
      exact hunit
  | @pair first second high low hfirst hsecond hhigh hlow hc =>
      obtain ⟨x, y, z, w, hencode, hvalue⟩ := hfirst.bytes
      obtain ⟨p, q, r, s, hencodeLow, hvalueLow⟩ := hsecond.bytes
      have hpair := stringFrom_pair hhigh hlow hvalue hvalueLow done rest
      rw [← hc, Char.ofNat_toNat] at hpair
      rw [encode_unit, String.ofList_append, Utf8.encode_append, hencode, encode_unit,
        hencodeLow, List.cons_append, List.cons_append, stringFrom_backslash,
        stringFrom_escaped_unit]
      exact hpair

theorem stringFrom_spelledAll {cs written : List Char} (h : SpelledAll cs written)
    (done rest : Bytes) :
    stringFrom done .plain (Utf8.encode (String.ofList written) ++ rest) =
      stringFrom ((Utf8.encode (String.ofList cs)).reverse ++ done) .plain rest := by
  induction h generalizing done with
  | nil => rfl
  | cons h _ ih =>
      rw [String.ofList_append, Utf8.encode_append, List.append_assoc, stringFrom_spelled h, ih,
        Utf8.encode_cons, List.reverse_append, List.append_assoc]

/-- A string without its opening mark is read up to its closing mark. -/
theorem stringBody_spelled {s : String} {written : List Char} (h : SpelledAll s.toList written)
    (rest : Bytes) :
    stringBody (Utf8.encode (String.ofList (written ++ ['"'])) ++ rest) = .ok s rest := by
  have hbytes : stringFrom [] .plain
      (Utf8.encode (String.ofList (written ++ ['"'])) ++ rest) = .ok (Utf8.encode s) rest := by
    rw [String.ofList_append, Utf8.encode_append, List.append_assoc, stringFrom_spelledAll h,
      String.ofList_toList, List.append_nil, encode_quote, Utf8.encode_nil, List.cons_append,
      stringFrom, if_pos rfl, List.reverse_reverse]
    rfl
  rw [stringBody, bind_of_ok hbytes, Utf8.decode_encode]
  rfl

end Reader

/-- A string is read however its characters are written. -/
theorem reads_spelled {s : String} {written : List Char} (h : SpelledAll s.toList written) :
    Reads Reader.string (quote written) s := by
  intro rest _
  have hblank : isBlankByte (byte '"') = false := rfl
  rw [quote, encode_quote, List.cons_append, Reader.string, Reader.stringAs]
  refine Reader.value_of_first hblank ?_
  rw [if_pos rfl]
  exact (Reader.bind_of_ok (Reader.advance_cons _ _)).trans (Reader.stringBody_spelled h rest)

theorem reads_string (s : String) : Reads Reader.string (string s) s :=
  reads_spelled (spelledAll_escape s.toList)

/-! ## Values that nobody asks for -/

/-- A part of a string that is passed over: a character or an escape. -/
inductive Piece : List Char → Prop where
  | plain {c : Char} (hquote : c ≠ '"') (hbackslash : c ≠ '\\') (hc : 0x20 ≤ c.toNat) :
      Piece [c]
  | short {letter : Char} (hascii : letter.toNat < 0x80) (hunit : letter ≠ 'u')
      (h : (Reader.simpleEscape? (byte letter)).isSome = true) : Piece ['\\', letter]
  | unit {digits : List Char} {n : Nat} (h : SpellsUnit digits n) :
      Piece ('\\' :: 'u' :: digits)

/-- A value that is neither a list nor an object, and whose integers have no fraction. -/
inductive Scalar : String → Prop where
  | null : Scalar "null"
  | bool (b : Bool) : Scalar (bool b)
  | int (i : Int) : Scalar (int i)
  /-- Zero may be written with a minus sign. -/
  | minusZero : Scalar "-0"
  | string {pieces : List (List Char)} (h : ∀ piece ∈ pieces, Piece piece) :
      Scalar (quote pieces.flatten)

namespace Reader

theorem skipStringFrom_plain {bytes : Bytes}
    (h : ∀ b ∈ bytes, b ≠ byte '"' ∧ b ≠ byte '\\' ∧ ¬b < 0x20) (rest : Bytes) :
    skipStringFrom .plain (bytes ++ rest) = skipStringFrom .plain rest := by
  induction bytes with
  | nil => rfl
  | cons b more ih =>
      obtain ⟨hquote, hbackslash, hlow⟩ := h b List.mem_cons_self
      rw [List.cons_append, skipStringFrom, if_neg hquote, if_neg hbackslash, if_neg hlow,
        ih fun d hd => h d (List.mem_cons_of_mem _ hd)]

theorem skipStringFrom_backslash (rest : Bytes) :
    skipStringFrom .plain (byte '\\' :: rest) = skipStringFrom .escaped rest := by
  rw [skipStringFrom, if_neg (by decide), if_pos rfl]

theorem skipStringFrom_piece {piece : List Char} (h : Piece piece) (rest : Bytes) :
    skipStringFrom .plain (Utf8.encode (String.ofList piece) ++ rest) =
      skipStringFrom .plain rest := by
  cases h with
  | @plain c hquote hbackslash hc =>
      have hencode : Utf8.encode (String.ofList [c]) = Utf8.encodeChar c := by
        rw [Utf8.encode_cons]
        exact List.append_nil _
      rw [hencode]
      exact skipStringFrom_plain (encodeChar_plain hquote hbackslash hc) rest
  | @short letter hascii hunit h =>
      have hbyte : byte letter ≠ byte 'u' := fun h => hunit (byte_inj hascii (by decide) h)
      rw [encode_backslash, encode_cons_of_ascii hascii, Utf8.encode_nil, List.cons_append,
        List.cons_append, skipStringFrom_backslash, skipStringFrom, if_neg hbyte, if_pos h]
      rfl
  | unit h =>
      obtain ⟨x, y, z, w, hencode, hvalue⟩ := h.bytes
      rw [encode_unit, hencode, List.cons_append, List.cons_append, skipStringFrom_backslash]
      simp [skipStringFrom, hvalue]

/-- A string is passed over up to its closing mark. -/
theorem skipStringFrom_pieces {pieces : List (List Char)} (h : ∀ piece ∈ pieces, Piece piece)
    (rest : Bytes) :
    skipStringFrom .plain (Utf8.encode (String.ofList (pieces.flatten ++ ['"'])) ++ rest) =
      .ok () rest := by
  induction pieces with
  | nil =>
      rw [List.flatten_nil, List.nil_append, encode_quote, List.cons_append, skipStringFrom,
        if_pos rfl]
      rfl
  | cons piece pieces ih =>
      rw [List.flatten_cons, List.append_assoc, String.ofList_append, Utf8.encode_append,
        List.append_assoc, skipStringFrom_piece (h piece List.mem_cons_self)]
      exact ih fun other hother => h other (List.mem_cons_of_mem _ hother)

theorem takeWhile_digits {digits : List Char} (h : ∀ c ∈ digits, Text.isDigit c = true)
    {rest : Bytes} (hrest : Delimits rest) :
    takeWhile isDigitByte (Utf8.encode (String.ofList digits) ++ rest) =
      .ok (Utf8.encode (String.ofList digits)) rest := by
  have hbytes : ∀ b ∈ Utf8.encode (String.ofList digits), isDigitByte b = true := by
    intro b hb
    induction digits with
    | nil => cases hb
    | cons c digits ih =>
        obtain ⟨hascii, hdigit, -⟩ := encode_digit (h c List.mem_cons_self)
        rw [encode_cons_of_ascii hascii] at hb
        rcases List.mem_cons.1 hb with rfl | hin
        · exact hdigit
        · exact ih (fun d hd => h d (List.mem_cons_of_mem _ hd)) hin
  obtain ⟨htake, hdrop⟩ := hrest.dropWhile_isDigitByte
  rw [takeWhile, List.takeWhile_append_of_pos hbytes, List.dropWhile_append_of_pos hbytes, htake,
    hdrop, List.append_nil]

/-- The digits of an integer are passed over. -/
theorem skipNumber_decimal (n : Nat) {rest : Bytes} (hrest : Delimits rest) :
    skipNumber (Utf8.encode (Text.decimal n) ++ rest) = .ok () rest := by
  have hdigits := (Text.decimalDigits_read n).1
  obtain ⟨c, digits, hcons⟩ := List.exists_cons_of_ne_nil (Text.decimalDigits_ne_nil n)
  rw [hcons] at hdigits
  obtain ⟨hascii, hdigit, -⟩ := encode_digit (hdigits c List.mem_cons_self)
  have hmore : ∀ d ∈ digits, Text.isDigit d = true := fun d hd =>
    hdigits d (List.mem_cons_of_mem _ hd)
  have hnext (bytes : Bytes) : next (byte c :: bytes) = .ok (some (byte c)) bytes := rfl
  have hpeek : peek rest = .ok rest.head? rest := rfl
  have hpoint : rest.head? ≠ some (byte '.') := hrest.head?_ne (by decide)
  have hexponent : ¬isExponentMark rest.head? = true := by
    simp only [isExponentMark, Bool.or_eq_true, beq_iff_eq, not_or]
    exact ⟨hrest.head?_ne (by decide), hrest.head?_ne (by decide)⟩
  have hend : (do
      let mark ← peek
      if mark = some (byte '.') then skipFraction
      else if isExponentMark mark then skipExponent
      else pure () : Reader Unit) rest = .ok () rest := by
    rw [bind_of_ok hpeek, if_neg hpoint, if_neg hexponent]
    rfl
  rw [Text.decimal, hcons, encode_cons_of_ascii hascii, List.cons_append, skipNumber,
    bind_of_ok (hnext _)]
  by_cases hzero : c = '0'
  · subst hzero
    obtain rfl := Text.eq_zero_of_decimalDigits hcons
    rw [Text.decimalDigits_of_lt (by decide)] at hcons
    obtain rfl : [] = digits := (List.cons.inj hcons).2
    have hlast : ¬rest.head?.any isDigitByte = true := by
      rw [Option.any_eq_true]
      rintro ⟨b, hb, hdigit⟩
      exact absurd hdigit (ne_true_of_eq_false (hrest.not_digit b hb))
    rw [if_pos rfl]
    refine (bind_of_ok hpeek).trans ?_
    rw [if_neg hlast]
    exact hend
  · have hbyte : some (byte c) ≠ some (byte '0') := fun h =>
      hzero (byte_inj hascii (by decide) (Option.some.inj h))
    have hany : (some (byte c)).any isDigitByte = true := hdigit
    rw [if_neg hbyte, if_pos hany]
    refine (bind_of_ok (takeWhile_digits hmore hrest)).trans ?_
    exact hend

theorem skipHead_minus {bytes rest : Bytes} (h : skipNumber bytes = .ok () rest) :
    skipHead (byte '-' :: bytes) = .ok none rest := by
  have hminus : isBlankByte (byte '-') = false := rfl
  refine (bind_of_ok (peekToken_cons hminus _)).trans ?_
  refine (bind_of_ok (advance_cons _ _)).trans ?_
  exact bind_of_ok h

/-- A scalar is passed over. -/
theorem skipHead_scalar {text : String} (h : Scalar text) {rest : Bytes} (hrest : Delimits rest) :
    skipHead (Utf8.encode text ++ rest) = .ok none rest := by
  cases h with
  | null => rfl
  | bool b =>
      cases b with
      | true => rfl
      | false => rfl
  | int i =>
      rw [int, Text.signedDecimal]
      split
      next =>
        rw [Utf8.encode_append, List.append_assoc]
        exact skipHead_minus (skipNumber_decimal i.natAbs hrest)
      next =>
        obtain ⟨b, more, htext, hdigit⟩ := opens_decimal i.natAbs
        have hnumber := skipNumber_decimal i.natAbs hrest
        rw [htext] at hnumber ⊢
        have hletter (c : Char) (hc : isDigitByte (byte c) = false) : b ≠ byte c :=
          ne_of_isDigitByte hdigit hc
        refine (bind_of_ok (peekToken_cons (isBlankByte_of_isDigitByte hdigit) _)).trans ?_
        change (if _ then _ else _ : Reader (Option Enclosure)) _ = _
        rw [if_neg (hletter 'n' rfl), if_neg (hletter 't' rfl), if_neg (hletter 'f' rfl),
          if_neg (hletter '-' rfl), if_pos hdigit]
        exact bind_of_ok hnumber
  | minusZero =>
      have hdigits : Text.decimal 0 = "0" := by
        rw [Text.decimal, Text.decimalDigits_of_lt (by decide)]
        rfl
      have htext : Utf8.encode "-0" = byte '-' :: Utf8.encode "0" := by decide
      have hnumber := skipNumber_decimal 0 hrest
      rw [hdigits] at hnumber
      rw [htext]
      exact skipHead_minus hnumber
  | string h =>
      have hquote : isBlankByte (byte '"') = false := rfl
      rw [quote, encode_quote, List.cons_append]
      refine (bind_of_ok (peekToken_cons hquote _)).trans ?_
      refine (bind_of_ok (advance_cons _ _)).trans ?_
      exact bind_of_ok (skipStringFrom_pieces h rest)

end Reader

theorem reads_skip {text : String} (h : Scalar text) (size : Nat) :
    Reads (Reader.skip size) text () := by
  intro rest hrest
  rw [Reader.skip, Reader.skipFrom]
  refine (Reader.bind_of_ok (Reader.skipHead_scalar h hrest)).trans ?_
  rfl

theorem skipsBlanks_skip (size : Nat) : SkipsBlanks (Reader.skip size) :=
  (skipsBlanks_peekToken.bind _).bind _

end DeviceFeed.Json
