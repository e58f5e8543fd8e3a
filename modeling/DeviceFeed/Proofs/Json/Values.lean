import DeviceFeed.Json.Reader
import DeviceFeed.Json.Writer
import DeviceFeed.Proofs.Text.Digits
import DeviceFeed.Proofs.Text.Utf8

/-!
# Written values are read back

`Reads read text a` says that a reader takes exactly the given text and yields `a`,
whatever comes next, as long as it cannot belong to a number.  This file proves it of
integers, strings and optional values as they are written.  A string is followed from
character to character: `Escaped` lists the three ways in which a character is written,
and each of them is read as the bytes of the character.
-/

namespace DeviceFeed.Json

variable {α β : Type}

/-! ## Readers -/

namespace Reader

theorem bind_of_ok {read : Reader α} {next : α → Reader β} {bytes left : Bytes} {a : α}
    (h : read bytes = .ok a left) : (read >>= next) bytes = next a left := by
  change EStateM.bind read next bytes = _
  rw [EStateM.bind, h]

theorem placed_of_ok {read : Reader α} {bytes left : Bytes} {a : α}
    (h : read bytes = .ok a left) : placed read bytes = .ok a left := by
  rw [placed, h]

theorem peekToken_cons {b : UInt8} (hb : isBlankByte b = false) (rest : Bytes) :
    peekToken (b :: rest) = .ok (some b) (b :: rest) := by
  have hskip : skipBlanks (b :: rest) = .ok () (b :: rest) := by
    rw [skipBlanks, List.dropWhile_cons_of_neg (ne_true_of_eq_false hb)]
  exact bind_of_ok hskip

theorem advance_cons (b : UInt8) (rest : Bytes) : advance (b :: rest) = .ok () rest :=
  rfl

/-- A value is read by the reader that its first byte chooses. -/
theorem value_of_first {read : UInt8 → Reader α} {b : UInt8} {rest left : Bytes} {a : α}
    (hb : isBlankByte b = false) (h : read b (b :: rest) = .ok a left) :
    value read (b :: rest) = .ok a left := by
  rw [value, bind_of_ok (peekToken_cons hb rest)]
  exact placed_of_ok h

end Reader

/-- Whether a byte may continue a number. -/
def isNumberByte (b : UInt8) : Bool :=
  isDigitByte b || b == byte '.' || b == byte 'e' || b == byte 'E'

/-- What comes next cannot belong to a number. -/
def Delimits (rest : Bytes) : Prop :=
  ∀ b, rest.head? = some b → isNumberByte b = false

theorem delimits_nil : Delimits [] := by
  intro b hb
  cases hb

theorem Delimits.head?_ne {rest : Bytes} (h : Delimits rest) {b : UInt8}
    (hb : isNumberByte b = true) : rest.head? ≠ some b := by
  intro hhead
  rw [h b hhead] at hb
  cases hb

theorem delimits_cons {b : UInt8} (h : isNumberByte b = false) (rest : Bytes) :
    Delimits (b :: rest) := by
  intro c hc
  obtain rfl : b = c := Option.some.inj hc
  exact h

/-- The reader takes exactly the text, and yields a value for it. -/
def Reads (read : Reader α) (text : String) (a : α) : Prop :=
  ∀ rest, Delimits rest → read (Utf8.encode text ++ rest) = .ok a rest

theorem Reads.bind {read : Reader α} {next : α → Reader β} {text : String} {a : α} {b : β}
    (h : Reads read text a) (hnext : ∀ rest, next a rest = .ok b rest) :
    Reads (read >>= next) text b := by
  intro rest hrest
  rw [Reader.bind_of_ok (h rest hrest), hnext]

theorem Reads.map {read : Reader α} {text : String} {a : α} (h : Reads read text a)
    (f : α → β) : Reads (f <$> read) text (f a) := by
  intro rest hrest
  change EStateM.map f read _ = _
  rw [EStateM.map, h rest hrest]

/-- The text begins like a value other than null. -/
def Opens (text : String) : Prop :=
  ∃ b more, Utf8.encode text = b :: more ∧
    isBlankByte b = false ∧ b ≠ byte 'n' ∧ b ≠ byte ']'

/-! ## Truth values and optional values -/

theorem reads_bool (b : Bool) : Reads Reader.bool (bool b) b := by
  intro rest _
  cases b with
  | true => rfl
  | false => rfl

theorem reads_option {read : Reader α} {write : α → String}
    (h : ∀ x, Reads read (write x) x) (hopens : ∀ x, Opens (write x)) (a : Option α) :
    Reads (Reader.option read) (option write a) a := by
  intro rest hrest
  cases a with
  | none =>
      have hpeek : Reader.peekToken (Utf8.encode "null" ++ rest) =
          .ok (some (byte 'n')) (Utf8.encode "null" ++ rest) :=
        Reader.peekToken_cons rfl _
      exact Reader.bind_of_ok hpeek
  | some x =>
      obtain ⟨b, more, htext, hblank, hb, -⟩ := hopens x
      have hread := (h x).map some rest hrest
      change Reader.option read (Utf8.encode (write x) ++ rest) = _
      rw [htext] at hread ⊢
      rw [Reader.option]
      refine (Reader.bind_of_ok (Reader.peekToken_cons hblank _)).trans ?_
      rw [if_neg (by simpa using hb)]
      exact hread

/-! ## Numbers -/

theorem toNat_byte {c : Char} (h : c.toNat < 0x80) : (byte c).toNat = c.toNat :=
  UInt8.toNat_ofNat_of_lt' (show c.toNat < 256 by omega)

theorem byte_inj {c d : Char} (hc : c.toNat < 0x80) (hd : d.toNat < 0x80)
    (h : byte c = byte d) : c = d := by
  have hcode : c.toNat = d.toNat := by
    rw [← toNat_byte hc, ← toNat_byte hd, h]
  rw [← Char.ofNat_toNat c, hcode, Char.ofNat_toNat]

theorem encode_digit {c : Char} (h : Text.isDigit c = true) :
    c.toNat < 0x80 ∧ isDigitByte (byte c) = true ∧
      digitOfByte (byte c) = (Text.digitValue? c).getD 0 := by
  obtain ⟨⟨hlow, hhigh⟩, hvalue⟩ := Text.range_of_isDigit h
  have hascii : c.toNat < 0x80 := by omega
  refine ⟨hascii, ?_, ?_⟩
  · rw [isDigitByte, Bool.and_eq_true, decide_eq_true_eq, decide_eq_true_eq,
      UInt8.le_iff_toNat_le, UInt8.le_iff_toNat_le, toNat_byte hascii]
    exact ⟨hlow, hhigh⟩
  · rw [digitOfByte, toNat_byte hascii, hvalue]
    rfl

theorem encode_cons_of_ascii {c : Char} (h : c.toNat < 0x80) (cs : List Char) :
    Utf8.encode (String.ofList (c :: cs)) = byte c :: Utf8.encode (String.ofList cs) := by
  rw [Utf8.encode_cons, Utf8.encodeChar_of_ascii h]
  rfl

theorem Delimits.not_digit {rest : Bytes} (h : Delimits rest) :
    ∀ b, rest.head? = some b → isDigitByte b = false := by
  intro b hb
  have hnumber := h b hb
  simp only [isNumberByte, Bool.or_eq_false_iff] at hnumber
  exact hnumber.1.1.1

theorem Delimits.dropWhile_isDigitByte {rest : Bytes} (h : Delimits rest) :
    rest.takeWhile isDigitByte = [] ∧ rest.dropWhile isDigitByte = rest := by
  cases rest with
  | nil => exact ⟨rfl, rfl⟩
  | cons b more =>
      have hb := h.not_digit b rfl
      exact ⟨List.takeWhile_cons_of_neg (ne_true_of_eq_false hb),
        List.dropWhile_cons_of_neg (ne_true_of_eq_false hb)⟩

/-- Digits are taken up to their end, as long as their value fits. -/
theorem Reader.absorb_digits {digits : List Char}
    (hdigits : ∀ c ∈ digits, Text.isDigit c = true) {significand : Nat}
    (hfits : Text.valueFrom significand digits < significandLimit) (count : Nat) {rest : Bytes}
    (hrest : Delimits rest) :
    absorb significand count (Utf8.encode (String.ofList digits) ++ rest) =
      ((Text.valueFrom significand digits, count + digits.length), rest) := by
  induction digits generalizing significand count with
  | nil =>
      cases rest with
      | nil => rfl
      | cons b more =>
          have hb := hrest.not_digit b rfl
          change absorb significand count (b :: more) = _
          rw [absorb, hb, if_neg fun h => Bool.false_ne_true h.1]
          rfl
  | cons c digits ih =>
      obtain ⟨hascii, hdigit, hvalue⟩ := encode_digit (hdigits c List.mem_cons_self)
      have hmore := Text.le_valueFrom (10 * significand + (Text.digitValue? c).getD 0) digits
      have hstep : Text.valueFrom significand (c :: digits) =
          Text.valueFrom (10 * significand + (Text.digitValue? c).getD 0) digits := rfl
      rw [hstep] at hfits ⊢
      rw [encode_cons_of_ascii hascii, List.cons_append, absorb, hvalue,
        if_pos ⟨hdigit, Nat.lt_of_le_of_lt hmore hfits⟩,
        ih (fun d hd => hdigits d (List.mem_cons_of_mem _ hd)) hfits, List.length_cons]
      congr 2
      omega

/-- The end of a whole number that fits its kind. -/
theorem Reader.afterWhole_of_delimits {negative : Bool} {n : Nat} {rest : Bytes}
    (hrest : Delimits rest)
    (hnegative : negative = true → 1 ≤ n ∧ n ≤ 0x8000000000000000) :
    afterWhole negative n 0 rest =
      .ok (.integer (if negative then -(n : Int) else n)) rest := by
  have hpoint : rest.head? ≠ some (byte '.') := hrest.head?_ne (by decide)
  have hexponent : isExponentMark rest.head? = false := by
    simp only [isExponentMark, Bool.or_eq_false_iff, beq_eq_false_iff_ne]
    exact ⟨hrest.head?_ne (by decide), hrest.head?_ne (by decide)⟩
  have hpeek : peek rest = .ok rest.head? rest := rfl
  rw [afterWhole, bind_of_ok hpeek, if_neg hpoint, if_neg (ne_true_of_eq_false hexponent),
    if_neg (by decide)]
  cases negative with
  | false => rfl
  | true =>
      rw [if_pos rfl, if_pos (hnegative rfl), if_pos rfl]
      rfl

/-- The digits of a number are read as the number. -/
theorem Reader.number_of_decimal {negative : Bool} {n : Nat} {rest : Bytes}
    (hfits : n < significandLimit)
    (hnegative : negative = true → 1 ≤ n ∧ n ≤ 0x8000000000000000) (hrest : Delimits rest) :
    number negative (Utf8.encode (Text.decimal n) ++ rest) =
      .ok (.integer (if negative then -(n : Int) else n)) rest := by
  obtain ⟨hdigits, hvalue⟩ := Text.decimalDigits_read n
  obtain ⟨c, digits, hcons⟩ := List.exists_cons_of_ne_nil (Text.decimalDigits_ne_nil n)
  rw [hcons] at hdigits hvalue
  obtain ⟨hascii, hdigit, hfirst⟩ := encode_digit (hdigits c List.mem_cons_self)
  have hend := afterWhole_of_delimits hrest hnegative
  have hnext (bytes : Bytes) : next (byte c :: bytes) = .ok (some (byte c)) bytes := rfl
  rw [Text.decimal, hcons, encode_cons_of_ascii hascii, List.cons_append, number,
    bind_of_ok (hnext _)]
  by_cases hzero : c = '0'
  · subst hzero
    obtain rfl := Text.eq_zero_of_decimalDigits hcons
    rw [Text.decimalDigits_of_lt (by decide)] at hcons
    obtain rfl : [] = digits := (List.cons.inj hcons).2
    have hpeek : peek rest = .ok rest.head? rest := rfl
    have hlast : ¬rest.head?.any isDigitByte = true := by
      rw [Option.any_eq_true]
      rintro ⟨b, hb, hdigit⟩
      exact absurd hdigit (ne_true_of_eq_false (hrest.not_digit b hb))
    refine (bind_of_ok hpeek).trans ?_
    rw [if_neg hlast]
    exact hend
  · have hbyte : byte c ≠ byte '0' := fun h => hzero (byte_inj hascii (by decide) h)
    have hvalue : Text.valueFrom (digitOfByte (byte c)) digits = n := by
      rw [hfirst, ← hvalue]
      change Text.valueFrom _ digits = Text.valueFrom (10 * 0 + _) digits
      rw [Nat.mul_zero, Nat.zero_add]
    have hmore : ∀ d ∈ digits, Text.isDigit d = true := fun d hd =>
      hdigits d (List.mem_cons_of_mem _ hd)
    have habsorb : significandFrom (digitOfByte (byte c))
        (Utf8.encode (String.ofList digits) ++ rest) = .ok (n, 0 + digits.length) rest := by
      rw [significandFrom, absorb_digits hmore (hvalue.symm ▸ hfits) 0 hrest, hvalue]
    have hextra : takeWhile isDigitByte rest = .ok [] rest := by
      rw [takeWhile, hrest.dropWhile_isDigitByte.1, hrest.dropWhile_isDigitByte.2]
    change (if byte c = byte '0' then _ else _ : Reader Number) _ = _
    rw [if_neg hbyte, if_pos hdigit]
    refine (bind_of_ok habsorb).trans ((bind_of_ok hextra).trans ?_)
    exact hend

theorem opens_decimal (n : Nat) : ∃ b more, Utf8.encode (Text.decimal n) = b :: more ∧
    isDigitByte b = true := by
  obtain ⟨c, digits, hcons⟩ := List.exists_cons_of_ne_nil (Text.decimalDigits_ne_nil n)
  have hc : c ∈ Text.decimalDigits n := hcons ▸ List.mem_cons_self
  obtain ⟨hascii, hdigit, -⟩ := encode_digit ((Text.decimalDigits_read n).1 c hc)
  refine ⟨byte c, Utf8.encode (String.ofList digits), ?_, hdigit⟩
  rw [Text.decimal, hcons, encode_cons_of_ascii hascii]

theorem ne_of_isDigitByte {b c : UInt8} (hb : isDigitByte b = true)
    (hc : isDigitByte c = false) : b ≠ c := by
  rintro rfl
  rw [hb] at hc
  cases hc

theorem isBlankByte_of_isDigitByte {b : UInt8} (h : isDigitByte b = true) :
    isBlankByte b = false := by
  simp only [isBlankByte, Bool.or_eq_false_iff, beq_eq_false_iff_ne]
  exact ⟨⟨⟨ne_of_isDigitByte h (by decide), ne_of_isDigitByte h (by decide)⟩,
    ne_of_isDigitByte h (by decide)⟩, ne_of_isDigitByte h (by decide)⟩

theorem opens_int (i : Int) : Opens (int i) := by
  obtain ⟨b, more, htext, hdigit⟩ := opens_decimal i.natAbs
  rw [int, Text.signedDecimal]
  split
  · exact ⟨byte '-', _, Utf8.encode_append "-" _, by decide⟩
  · exact ⟨b, more, htext, isBlankByte_of_isDigitByte hdigit,
      ne_of_isDigitByte hdigit (by decide), ne_of_isDigitByte hdigit (by decide)⟩

/-- An integer that is in range and fits 64 bits is read as it is written. -/
theorem reads_integer {low high i : Int} (expected : String) (hrange : low ≤ i ∧ i ≤ high)
    (hmin : -0x8000000000000000 ≤ i) (hmax : i < 0x10000000000000000) :
    Reads (Reader.integer low high expected) (int i) i := by
  intro rest hrest
  have hinRange : Reader.inRange low high expected (.integer i) rest = .ok i rest := by
    rw [Reader.inRange, if_pos hrange]
    rfl
  have hlimit : Reader.significandLimit = 0x10000000000000000 := rfl
  rw [int, Text.signedDecimal]
  by_cases hi : i < 0
  · have hvalue : -(i.natAbs : Int) = i := by omega
    have hnumber : Reader.number true (Utf8.encode (Text.decimal i.natAbs) ++ rest) =
        .ok (.integer (-(i.natAbs : Int))) rest :=
      Reader.number_of_decimal (by omega) (fun _ => by omega) hrest
    rw [hvalue] at hnumber
    rw [if_pos hi, Utf8.encode_append]
    have hminus : isBlankByte (byte '-') = false := rfl
    refine Reader.value_of_first hminus ?_
    exact (Reader.bind_of_ok hnumber).trans hinRange
  · have hvalue : (i.natAbs : Int) = i := by omega
    have hnumber : Reader.number false (Utf8.encode (Text.decimal i.natAbs) ++ rest) =
        .ok (.integer i.natAbs) rest :=
      Reader.number_of_decimal (by omega) (fun h => Bool.noConfusion h) hrest
    rw [hvalue] at hnumber
    obtain ⟨b, more, htext, hdigit⟩ := opens_decimal i.natAbs
    rw [if_neg hi, htext]
    rw [htext] at hnumber
    refine Reader.value_of_first (isBlankByte_of_isDigitByte hdigit) ?_
    rw [if_neg (ne_of_isDigitByte hdigit (by decide)), if_pos hdigit]
    exact (Reader.bind_of_ok hnumber).trans hinRange

theorem nat_eq_int (n : Nat) : nat n = int n := by
  rw [int, Text.signedDecimal, if_neg (by omega), Int.natAbs_natCast]
  rfl

theorem opens_nat (n : Nat) : Opens (nat n) :=
  nat_eq_int n ▸ opens_int n

theorem reads_nat {high : Int} {n : Nat} (expected : String) (hhigh : n ≤ high)
    (hmax : n < 0x10000000000000000) (make : Nat → α) :
    Reads (do
      let i ← Reader.integer 0 high expected
      pure (make i.toNat)) (nat n) (make n) := by
  rw [nat_eq_int]
  refine (reads_integer expected ⟨by omega, hhigh⟩ (by omega) (by omega)).bind ?_
  intro rest
  rfl

theorem reads_uint8 (n : UInt8) : Reads Reader.uint8 (nat n.toNat) n := by
  have hn := n.toNat_lt
  have hread : Reads Reader.uint8 (nat n.toNat) (UInt8.ofNat n.toNat) :=
    reads_nat "u8" (by omega) (by omega) UInt8.ofNat
  rwa [UInt8.ofNat_toNat] at hread

theorem reads_uint16 (n : UInt16) : Reads Reader.uint16 (nat n.toNat) n := by
  have hn := n.toNat_lt
  have hread : Reads Reader.uint16 (nat n.toNat) (UInt16.ofNat n.toNat) :=
    reads_nat "u16" (by omega) (by omega) UInt16.ofNat
  rwa [UInt16.ofNat_toNat] at hread

theorem reads_uint32 (n : UInt32) : Reads Reader.uint32 (nat n.toNat) n := by
  have hn := n.toNat_lt
  have hread : Reads Reader.uint32 (nat n.toNat) (UInt32.ofNat n.toNat) :=
    reads_nat "u32" (by omega) (by omega) UInt32.ofNat
  rwa [UInt32.ofNat_toNat] at hread

theorem reads_uint64 (n : UInt64) : Reads Reader.uint64 (nat n.toNat) n := by
  have hn := n.toNat_lt
  have hread : Reads Reader.uint64 (nat n.toNat) (UInt64.ofNat n.toNat) :=
    reads_nat "usize" (by omega) (by omega) UInt64.ofNat
  rwa [UInt64.ofNat_toNat] at hread

theorem reads_int64 (i : Int64) : Reads Reader.int64 (int i.toInt) i := by
  have hlow := i.le_toInt
  have hhigh := i.toInt_lt
  refine (reads_integer "i64" ⟨by omega, by omega⟩ (by omega) (by omega)).bind ?_
  intro rest
  exact congrArg (EStateM.Result.ok · rest) (Int64.ofInt_toInt i)

/-! ## Strings -/

/-- The ways in which a character is written inside a string. -/
inductive Escaped (c : Char) : List Char → Prop where
  | short {letter : Char} (h : (letter.toNat < 0x80 ∧ letter ≠ 'u') ∧ c.toNat < 0x80 ∧
      Reader.simpleEscape? (byte letter) = some (byte c)) : Escaped c ['\\', letter]
  | unit (hc : c.toNat < 0x20) : Escaped c ('\\' :: 'u' :: fourDigits c.toNat)
  | plain (hquote : c ≠ '"') (hbackslash : c ≠ '\\') (hc : 0x20 ≤ c.toNat) : Escaped c [c]

theorem escaped_escape (c : Char) : Escaped c (escape c) := by
  unfold escape
  by_cases hquote : c = '"'
  · rw [if_pos hquote, hquote]
    exact .short (by decide)
  by_cases hbackslash : c = '\\'
  · rw [if_neg hquote, if_pos hbackslash, hbackslash]
    exact .short (by decide)
  rw [if_neg hquote, if_neg hbackslash]
  by_cases hback : c = '\x08'
  · rw [if_pos hback, hback]
    exact .short (by decide)
  by_cases hform : c = '\x0c'
  · rw [if_neg hback, if_pos hform, hform]
    exact .short (by decide)
  by_cases hfeed : c = '\n'
  · rw [if_neg hback, if_neg hform, if_pos hfeed, hfeed]
    exact .short (by decide)
  by_cases hreturn : c = '\r'
  · rw [if_neg hback, if_neg hform, if_neg hfeed, if_pos hreturn, hreturn]
    exact .short (by decide)
  by_cases htab : c = '\t'
  · rw [if_neg hback, if_neg hform, if_neg hfeed, if_neg hreturn, if_pos htab, htab]
    exact .short (by decide)
  rw [if_neg hback, if_neg hform, if_neg hfeed, if_neg hreturn, if_neg htab]
  by_cases hc : c.toNat < 0x20
  · rw [if_pos hc]
    exact .unit hc
  · rw [if_neg hc]
    exact .plain hquote hbackslash (Nat.not_lt.1 hc)

theorem encode_quote (cs : List Char) :
    Utf8.encode (String.ofList ('"' :: cs)) = byte '"' :: Utf8.encode (String.ofList cs) :=
  encode_cons_of_ascii (by decide) cs

theorem encode_backslash (cs : List Char) :
    Utf8.encode (String.ofList ('\\' :: cs)) = byte '\\' :: Utf8.encode (String.ofList cs) :=
  encode_cons_of_ascii (by decide) cs

theorem digitChar_lt {d : Nat} (h : d < 16) :
    (Text.digitChar d).toNat < 0x80 ∧
      Text.hexValue? (Char.ofNat (byte (Text.digitChar d)).toNat) = some d := by
  have hall : ∀ d < 16, (Text.digitChar d).toNat < 0x80 ∧
      Text.hexValue? (Char.ofNat (byte (Text.digitChar d)).toNat) = some d := by decide
  exact hall d h

namespace Reader

theorem stringFrom_unit {a b c d : UInt8} {n : Nat} (hn : n < 0xD800 ∨ 0xE000 ≤ n)
    (h : unitValue? [d, c, b, a] = some n) (done rest : Bytes) :
    stringFrom done (.unit none []) (a :: b :: c :: d :: rest) =
      stringFrom ((Utf8.encodeChar (Char.ofNat n)).reverse ++ done) .plain rest := by
  have hlow : ¬(0xDC00 ≤ n ∧ n < 0xE000) := by omega
  have hhigh : ¬(0xD800 ≤ n ∧ n < 0xDC00) := by omega
  simp [stringFrom, h, hlow, hhigh]

/-- Four digits are read as the code unit that they were written for. -/
theorem stringFrom_fourDigits {n : Nat} (hn : n < 0xD800) (done rest : Bytes) :
    stringFrom done (.unit none []) (Utf8.encode (String.ofList (fourDigits n)) ++ rest) =
      stringFrom ((Utf8.encodeChar (Char.ofNat n)).reverse ++ done) .plain rest := by
  obtain ⟨h₁, hv₁⟩ := digitChar_lt (Nat.mod_lt (n / 4096) (by decide : 0 < 16))
  obtain ⟨h₂, hv₂⟩ := digitChar_lt (Nat.mod_lt (n / 256) (by decide : 0 < 16))
  obtain ⟨h₃, hv₃⟩ := digitChar_lt (Nat.mod_lt (n / 16) (by decide : 0 < 16))
  obtain ⟨h₄, hv₄⟩ := digitChar_lt (Nat.mod_lt n (by decide : 0 < 16))
  have hvalue : 16 * (16 * (16 * (16 * 0 + n / 4096 % 16) + n / 256 % 16) + n / 16 % 16) +
      n % 16 = n := by omega
  rw [fourDigits, encode_cons_of_ascii h₁, encode_cons_of_ascii h₂, encode_cons_of_ascii h₃,
    encode_cons_of_ascii h₄, Utf8.encode_nil]
  refine stringFrom_unit (Or.inl hn) ?_ done rest
  simp only [unitValue?, hv₁, hv₂, hv₃, hv₄, Option.bind_some, Option.map_some, hvalue]

theorem stringFrom_backslash (done rest : Bytes) :
    stringFrom done .plain (byte '\\' :: rest) = stringFrom done .escaped rest := by
  rw [stringFrom, if_neg (by decide), if_pos rfl]

theorem stringFrom_escaped_unit (done rest : Bytes) :
    stringFrom done .escaped (byte 'u' :: rest) = stringFrom done (.unit none []) rest := by
  rw [stringFrom, if_pos rfl]

/-- Bytes that need no escape are taken as they are. -/
theorem stringFrom_plain {bytes : Bytes}
    (h : ∀ b ∈ bytes, b ≠ byte '"' ∧ b ≠ byte '\\' ∧ ¬b < 0x20) (done rest : Bytes) :
    stringFrom done .plain (bytes ++ rest) = stringFrom (bytes.reverse ++ done) .plain rest := by
  induction bytes generalizing done with
  | nil => rfl
  | cons b more ih =>
      obtain ⟨hquote, hbackslash, hlow⟩ := h b List.mem_cons_self
      rw [List.cons_append, stringFrom, if_neg hquote, if_neg hbackslash, if_neg hlow,
        ih fun d hd => h d (List.mem_cons_of_mem _ hd), List.reverse_cons, List.append_assoc]
      rfl

/-- No byte of a character that needs no escape is special. -/
theorem encodeChar_plain {c : Char} (hquote : c ≠ '"') (hbackslash : c ≠ '\\')
    (hc : 0x20 ≤ c.toNat) :
    ∀ b ∈ Utf8.encodeChar c, b ≠ byte '"' ∧ b ≠ byte '\\' ∧ ¬b < 0x20 := by
  intro b hb
  by_cases hascii : c.toNat < 0x80
  · rw [Utf8.encodeChar_of_ascii hascii, List.mem_singleton] at hb
    obtain rfl : b = byte c := hb
    rw [UInt8.lt_iff_toNat_lt, toNat_byte hascii]
    exact ⟨fun h => hquote (byte_inj hascii (by decide) h),
      fun h => hbackslash (byte_inj hascii (by decide) h), Nat.not_lt.2 hc⟩
  · have hhigh := Utf8.le_of_mem_encodeChar (Nat.not_lt.1 hascii) b hb
    rw [UInt8.lt_iff_toNat_lt]
    refine ⟨?_, ?_, ?_⟩
    · rintro rfl
      exact absurd hhigh (by decide)
    · rintro rfl
      exact absurd hhigh (by decide)
    · exact Nat.not_lt.2 (Nat.le_trans (by decide) hhigh)

/-- A written character is read as its own bytes. -/
theorem stringFrom_escaped {c : Char} {written : List Char} (h : Escaped c written)
    (done rest : Bytes) :
    stringFrom done .plain (Utf8.encode (String.ofList written) ++ rest) =
      stringFrom ((Utf8.encodeChar c).reverse ++ done) .plain rest := by
  cases h with
  | @short letter h =>
      obtain ⟨⟨hletter, hunit⟩, hc, hmeaning⟩ := h
      have hbyte : byte letter ≠ byte 'u' := fun h => hunit (byte_inj hletter (by decide) h)
      rw [encode_backslash, encode_cons_of_ascii hletter, Utf8.encode_nil, List.cons_append,
        List.cons_append, stringFrom_backslash, stringFrom, if_neg hbyte, hmeaning,
        Utf8.encodeChar_of_ascii hc]
      rfl
  | unit hc =>
      have hfour := stringFrom_fourDigits (show c.toNat < 0xD800 by omega) done rest
      rw [Char.ofNat_toNat] at hfour
      have hu := encode_cons_of_ascii (c := 'u') (by decide) (fourDigits c.toNat)
      rw [encode_backslash, hu, List.cons_append, List.cons_append, stringFrom_backslash,
        stringFrom_escaped_unit, hfour]
  | plain hquote hbackslash hc =>
      have hencode : Utf8.encode (String.ofList [c]) = Utf8.encodeChar c := by
        rw [Utf8.encode_cons]
        exact List.append_nil _
      rw [hencode]
      exact stringFrom_plain (encodeChar_plain hquote hbackslash hc) done rest

end Reader

theorem opens_string (s : String) : Opens (string s) :=
  ⟨byte '"', _, encode_quote _, by decide⟩

/-! ## One line -/

def OneLine (text : String) : Prop :=
  '\n' ∉ text.toList

instance (text : String) : Decidable (OneLine text) :=
  inferInstanceAs (Decidable (¬_))

theorem OneLine.append {s t : String} (hs : OneLine s) (ht : OneLine t) : OneLine (s ++ t) := by
  rw [OneLine, String.toList_append, List.mem_append]
  rintro (hfirst | hsecond)
  · exact hs hfirst
  · exact ht hsecond

theorem Escaped.feed_not_mem {c : Char} {written : List Char} (h : Escaped c written) :
    '\n' ∉ written := by
  intro hmem
  cases h with
  | @short letter h =>
      obtain rfl : '\n' = letter := by simpa using hmem
      exact absurd h.2.2 (by simp [Reader.simpleEscape?, byte])
  | unit hc =>
      have hall : ∀ d < 16, '\n' ≠ Text.digitChar d := by decide
      have hdigit (n : Nat) : '\n' ≠ Text.digitChar (n % 16) :=
        hall _ (Nat.mod_lt n (by decide))
      simp [fourDigits, hdigit] at hmem
  | plain hquote hbackslash hc =>
      obtain rfl := List.mem_singleton.1 hmem
      exact absurd hc (by decide)

theorem oneLine_string (s : String) : OneLine (string s) := by
  intro hmem
  rw [string, String.toList_ofList, List.mem_cons, List.mem_append, List.mem_flatMap] at hmem
  rcases hmem with hquote | ⟨c, -, hc⟩ | hquote
  · exact absurd hquote (by decide)
  · exact (escaped_escape c).feed_not_mem hc
  · exact absurd hquote (by decide)

theorem oneLine_int (i : Int) : OneLine (int i) := by
  have hdecimal : OneLine (Text.decimal i.natAbs) := by
    intro hmem
    rw [Text.decimal, String.toList_ofList] at hmem
    exact absurd ((Text.decimalDigits_read i.natAbs).1 _ hmem) (by decide)
  have hsign : OneLine "-" := by decide
  rw [int, Text.signedDecimal]
  split
  · exact hsign.append hdecimal
  · exact hdecimal

theorem oneLine_nat (n : Nat) : OneLine (nat n) :=
  nat_eq_int n ▸ oneLine_int n

theorem oneLine_option {write : α → String} (h : ∀ a, OneLine (write a)) (a : Option α) :
    OneLine (option write a) := by
  cases a with
  | none =>
      have hnull : OneLine "null" := by decide
      exact hnull
  | some a => exact h a

end DeviceFeed.Json
