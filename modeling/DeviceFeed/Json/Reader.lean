import DeviceFeed.Json.Error
import DeviceFeed.Text.Digits
import DeviceFeed.Number.Numeral

/-!
# Reading JSON

A reader consumes bytes from the front of what is left of a JSON text. When it
fails, it leaves the rest where it stands and says how many bytes were still
unread at the place of the error. An error of form is placed at once. An error
about a value gets the place at which the reader of that value stands when it
gives up.
-/

namespace DeviceFeed.Json

/-- Why a reader failed, and how many bytes follow the place of the error. -/
structure Failure where
  reason : Reason
  left : Option Nat
  deriving DecidableEq, Repr

/-- Consumes bytes and yields a value. -/
abbrev Reader (α : Type) := EStateM Failure Bytes α

def byte (c : Char) : UInt8 :=
  UInt8.ofNat c.toNat

/-- Whether a byte may stand between two tokens. -/
def isBlankByte (b : UInt8) : Bool :=
  b == 0x20 || b == 0x0A || b == 0x09 || b == 0x0D

def isDigitByte (b : UInt8) : Bool :=
  0x30 ≤ b && b ≤ 0x39

def digitOfByte (b : UInt8) : Nat :=
  b.toNat - 0x30

namespace Reader

variable {α : Type}

/-- Fails at the place that is reached. -/
def failHere (reason : Reason) : Reader α :=
  fun rest => .error ⟨reason, some rest.length⟩ rest

/-- Fails at the next byte, or at the end if there is none. -/
def failNext (reason : Reason) : Reader α :=
  fun rest => .error ⟨reason, some (rest.length - 1)⟩ rest

def fail (reason : Reason) : Reader α :=
  fun rest => .error ⟨reason, none⟩ rest

/-- Places an error that has no place where the reader stands. -/
def placed (read : Reader α) : Reader α :=
  fun rest =>
    match read rest with
    | .error ⟨reason, none⟩ left => .error ⟨reason, some left.length⟩ left
    | result => result

/-- The next byte, which stays unread. -/
def peek : Reader (Option UInt8) :=
  fun rest => .ok rest.head? rest

def next : Reader (Option UInt8) :=
  fun rest => .ok rest.head? rest.tail

def advance : Reader Unit :=
  fun rest => .ok () rest.tail

/-- Passes over the bytes in front that have a property, and yields them. -/
def takeWhile (property : UInt8 → Bool) : Reader Bytes :=
  fun rest => .ok (rest.takeWhile property) (rest.dropWhile property)

def skipBlanks : Reader Unit :=
  fun rest => .ok () (rest.dropWhile isBlankByte)

/-- The first byte after blanks, which stays unread. -/
def peekToken : Reader (Option UInt8) := do
  skipBlanks
  peek

/-- Passes over the rest of a word whose first letter decides it. -/
def word : List Char → Reader Unit
  | [] => pure ()
  | c :: more => do
    match ← next with
    | none => failHere .endInValue
    | some b => if b = byte c then word more else failHere .expectedIdent

/-! ## Numbers -/

/-- A number as it is read: exactly where possible, else as a magnitude. -/
inductive Number where
  | integer (value : Int)
  | float (negative : Bool) (magnitude : Binary64)

def Number.found : Number → Found
  | .integer value => .integer value
  | .float negative magnitude => .float negative magnitude

/-- The first natural number that does not fit a significand. -/
def significandLimit : Nat := UInt64.size

/-- Adds digits to a significand as long as it fits, and counts them. -/
def absorb (significand count : Nat) : Bytes → (Nat × Nat) × Bytes
  | [] => ((significand, count), [])
  | b :: more =>
    if isDigitByte b ∧ 10 * significand + digitOfByte b < significandLimit then
      absorb (10 * significand + digitOfByte b) (count + 1) more
    else
      ((significand, count), b :: more)

/-- The significand that the next digits continue, and their count. -/
def significandFrom (significand : Nat) : Reader (Nat × Nat) :=
  fun rest =>
    let (result, left) := absorb significand 0 rest
    .ok result left

def powerOfTen (n : Nat) : Binary64 :=
  (Binary64.ofDecimal? 1 n).getD ⟨0⟩

/-- The magnitude `significand * 10 ^ exponent`, unless it is too large. The
significand and the power are rounded before they are combined. -/
def scaled? (significand : Nat) (exponent : Int) : Option Binary64 :=
  (Binary64.ofNat? significand).bind fun magnitude =>
    if significand = 0 then
      some ⟨0⟩
    else if 308 < exponent then
      none
    else if 0 ≤ exponent then
      magnitude.mul? (powerOfTen exponent.toNat)
    else if -308 ≤ exponent then
      magnitude.div? (powerOfTen (-exponent).toNat)
    else
      (magnitude.div? (powerOfTen 308)).bind fun less =>
        if -616 ≤ exponent then less.div? (powerOfTen (-exponent - 308).toNat) else some ⟨0⟩

/-- The number with the given parts. -/
def assemble (negative : Bool) (significand : Nat) (exponent : Int) : Reader Number :=
  match scaled? significand exponent with
  | some magnitude => pure (.float negative magnitude)
  | none => failHere .numberOutOfRange

/-- The greatest exponent that is told from infinity. -/
def exponentLimit : Nat := 0x7FFFFFFF

/-- Adds digits to an exponent. The first digit that makes it too large is
consumed, and the flag is set. -/
def absorbExponent (exponent : Nat) : Bytes → (Nat × Bool) × Bytes
  | [] => ((exponent, false), [])
  | b :: more =>
    if isDigitByte b then
      if exponentLimit < 10 * exponent + digitOfByte b then
        ((exponent, true), more)
      else
        absorbExponent (10 * exponent + digitOfByte b) more
    else
      ((exponent, false), b :: more)

/-- The part of a number that begins with the mark of an exponent. -/
def exponentPart (negative : Bool) (significand : Nat) (start : Int) : Reader Number := do
  advance
  let sign ← peek
  if sign = some (byte '+') ∨ sign = some (byte '-') then
    advance
  let isDown := sign = some (byte '-')
  match ← next with
  | none => failHere .endInValue
  | some first =>
    if isDigitByte first then
      let (exponent, isTooLarge) ← fun rest =>
        let (result, left) := absorbExponent (digitOfByte first) rest
        .ok result left
      if isTooLarge then
        if significand ≠ 0 ∧ ¬isDown then
          failHere .numberOutOfRange
        else
          let _ ← takeWhile isDigitByte
          pure (.float negative ⟨0⟩)
      else
        assemble negative significand (if isDown then start - exponent else start + exponent)
    else
      failHere .invalidNumber

def isExponentMark (b : Option UInt8) : Bool :=
  b == some (byte 'e') || b == some (byte 'E')

/-- The part of a number that begins with the decimal point. -/
def fractionPart (negative : Bool) (significand : Nat) (start : Int) : Reader Number := do
  advance
  let (significand, count) ← significandFrom significand
  let ignored ← takeWhile isDigitByte
  if count = 0 ∧ ignored = [] then
    match ← peek with
    | some _ => failNext .invalidNumber
    | none => failNext .endInValue
  else if isExponentMark (← peek) then
    exponentPart negative significand (start - count)
  else
    assemble negative significand (start - count)

/-- The part of a number after its whole digits. So many of them did not fit
the significand. -/
def afterWhole (negative : Bool) (significand extra : Nat) : Reader Number := do
  let mark ← peek
  if mark = some (byte '.') then
    fractionPart negative significand extra
  else if isExponentMark mark then
    exponentPart negative significand extra
  else if extra ≠ 0 then
    assemble negative significand extra
  else if negative then
    if 1 ≤ significand ∧ significand ≤ 0x8000000000000000 then
      pure (.integer (-(significand : Int)))
    else
      assemble true significand 0
  else
    pure (.integer significand)

/-- A number after its sign. -/
def number (negative : Bool) : Reader Number := do
  match ← next with
  | none => failHere .endInValue
  | some first =>
    if first = byte '0' then
      if (← peek).any isDigitByte then
        failNext .invalidNumber
      else
        afterWhole negative 0 0
    else if isDigitByte first then
      let (significand, _) ← significandFrom (digitOfByte first)
      let extra ← takeWhile isDigitByte
      afterWhole negative significand extra.length
    else
      failHere .invalidNumber

/-! ## Strings -/

/-- Where the reading of a string stands. -/
inductive StringState where
  | plain
  | escaped
  /-- Inside the four digits of a code unit. They are kept in reverse, after
  the high surrogate that came before, if there was one. -/
  | unit (high : Option Nat) (digits : Bytes)
  | surrogate (high : Nat)
  | surrogateEscaped (high : Nat)

/-- What a letter after a backslash stands for. -/
def simpleEscape? (b : UInt8) : Option UInt8 :=
  if b = byte '"' ∨ b = byte '\\' ∨ b = byte '/' then some b
  else if b = byte 'b' then some 0x08
  else if b = byte 'f' then some 0x0C
  else if b = byte 'n' then some 0x0A
  else if b = byte 'r' then some 0x0D
  else if b = byte 't' then some 0x09
  else none

/-- The value of hexadecimal digits in reverse. -/
def unitValue? : Bytes → Option Nat
  | [] => some 0
  | b :: more =>
    (Text.hexValue? (Char.ofNat b.toNat)).bind fun low =>
      (unitValue? more).map fun high => 16 * high + low

/-- The bytes of a string up to its closing mark. The ones that are read are
kept in reverse. -/
def stringFrom (done : Bytes) : StringState → Reader Bytes
  | _, [] => .error ⟨.endInString, some 0⟩ []
  | .plain, b :: more =>
    if b = byte '"' then .ok done.reverse more
    else if b = byte '\\' then stringFrom done .escaped more
    else if b < 0x20 then .error ⟨.controlCharacter, some more.length⟩ more
    else stringFrom (b :: done) .plain more
  | .escaped, b :: more =>
    if b = byte 'u' then stringFrom done (.unit none []) more
    else
      match simpleEscape? b with
      | some meaning => stringFrom (meaning :: done) .plain more
      | none => .error ⟨.invalidEscape, some more.length⟩ more
  | .unit high digits, b :: more =>
    if digits.length < 3 then
      stringFrom done (.unit high (b :: digits)) more
    else
      match unitValue? (b :: digits), high with
      | none, _ => .error ⟨.invalidEscape, some more.length⟩ more
      | some unit, none =>
        if 0xDC00 ≤ unit ∧ unit < 0xE000 then .error ⟨.loneSurrogate, some more.length⟩ more
        else if 0xD800 ≤ unit ∧ unit < 0xDC00 then stringFrom done (.surrogate unit) more
        else stringFrom ((Utf8.encodeChar (Char.ofNat unit)).reverse ++ done) .plain more
      | some unit, some high =>
        if 0xDC00 ≤ unit ∧ unit < 0xE000 then
          let code := (high - 0xD800) * 0x400 + (unit - 0xDC00) + 0x10000
          stringFrom ((Utf8.encodeChar (Char.ofNat code)).reverse ++ done) .plain more
        else
          .error ⟨.loneSurrogate, some more.length⟩ more
  | .surrogate high, b :: more =>
    if b = byte '\\' then stringFrom done (.surrogateEscaped high) more
    else .error ⟨.endOfEscape, some more.length⟩ more
  | .surrogateEscaped high, b :: more =>
    if b = byte 'u' then stringFrom done (.unit (some high) []) more
    else .error ⟨.endOfEscape, some more.length⟩ more

/-- A string after its opening mark. -/
def stringBody : Reader String := do
  let bytes ← stringFrom [] .plain
  match Utf8.decode bytes with
  | .ok s => pure s
  | .error _ => failHere .notText

/-! ## Values of an expected kind -/

/-- Fails because the value that comes next is not of the expected kind. A
value that is not a list or an object is read first, and may itself be
wrong. -/
def mismatch (expected : String) : Reader α := do
  match ← peek with
  | none => failNext .expectedValue
  | some b =>
    if b = byte 'n' then
      advance
      word ['u', 'l', 'l']
      fail (.wrongKind .null expected)
    else if b = byte 't' then
      advance
      word ['r', 'u', 'e']
      fail (.wrongKind (.bool true) expected)
    else if b = byte 'f' then
      advance
      word ['a', 'l', 's', 'e']
      fail (.wrongKind (.bool false) expected)
    else if b = byte '-' then
      advance
      let n ← number true
      fail (.wrongKind n.found expected)
    else if isDigitByte b then
      let n ← number false
      fail (.wrongKind n.found expected)
    else if b = byte '"' then
      advance
      let s ← stringBody
      fail (.wrongKind (.string s) expected)
    else if b = byte '[' then
      fail (.wrongKind .sequence expected)
    else if b = byte '\x7b' then
      fail (.wrongKind .map expected)
    else
      failNext .expectedValue

/-- Reads a value that is chosen by its first byte. Errors about it are placed
where it ends. -/
def value (read : UInt8 → Reader α) : Reader α := do
  match ← peekToken with
  | none => failNext .endInValue
  | some b => placed (read b)

def bool : Reader Bool :=
  value fun b => do
    if b = byte 't' then
      advance
      word ['r', 'u', 'e']
      pure true
    else if b = byte 'f' then
      advance
      word ['a', 'l', 's', 'e']
      pure false
    else
      mismatch "a boolean"

/-- Accepts a number if it is an integer in range. -/
def inRange (low high : Int) (expected : String) : Number → Reader Int
  | .integer i =>
    if low ≤ i ∧ i ≤ high then pure i else fail (.wrongValue (.integer i) expected)
  | n => fail (.wrongKind n.found expected)

def integer (low high : Int) (expected : String) : Reader Int :=
  value fun b => do
    if b = byte '-' then
      advance
      inRange low high expected (← number true)
    else if isDigitByte b then
      inRange low high expected (← number false)
    else
      mismatch expected

def uint8 : Reader UInt8 := do
  let i ← integer 0 0xFF "u8"
  pure (UInt8.ofNat i.toNat)

def uint16 : Reader UInt16 := do
  let i ← integer 0 0xFFFF "u16"
  pure (UInt16.ofNat i.toNat)

def uint32 : Reader UInt32 := do
  let i ← integer 0 0xFFFFFFFF "u32"
  pure (UInt32.ofNat i.toNat)

def uint64 : Reader UInt64 := do
  let i ← integer 0 0xFFFFFFFFFFFFFFFF "usize"
  pure (UInt64.ofNat i.toNat)

def int64 : Reader Int64 := do
  let i ← integer (-0x8000000000000000) 0x7FFFFFFFFFFFFFFF "i64"
  pure (Int64.ofInt i)

/-- A string, described by what is expected of it. -/
def stringAs (expected : String) : Reader String :=
  value fun b => do
    if b = byte '"' then
      advance
      stringBody
    else
      mismatch expected

def string : Reader String :=
  stringAs "a string"

def unit : Reader Unit :=
  value fun b => do
    if b = byte 'n' then
      advance
      word ['u', 'l', 'l']
    else
      mismatch "unit"

def option (read : Reader α) : Reader (Option α) := do
  if (← peekToken) = some (byte 'n') then
    advance
    word ['u', 'l', 'l']
    pure none
  else
    some <$> read

/-! ## Lists -/

/-- Whether a list goes on, up to its next item. -/
def hasItem (isFirst : Bool) : Reader Bool := do
  match ← peekToken with
  | none => failNext .endInList
  | some b =>
    if b = byte ']' then
      pure false
    else if isFirst then
      pure true
    else if b = byte ',' then
      advance
      match ← peekToken with
      | none => failNext .endInValue
      | some c => if c = byte ']' then failNext .trailingComma else pure true
    else
      failNext .expectedListEnd

def closeList : Reader Unit := do
  match ← peekToken with
  | none => failNext .endInList
  | some b =>
    if b = byte ']' then
      advance
    else if b = byte ',' then
      advance
      if (← peekToken) = some (byte ']') then
        failNext .trailingComma
      else
        failNext .trailingCharacters
    else
      failNext .trailingCharacters

/-- Reads what stands in a list or an object and then its end. After an error
inside, the end is still looked for, which may move the place of the error. -/
def closing (read : Reader α) (close : Reader Unit) : Reader α :=
  fun rest =>
    match read rest with
    | .ok a left =>
      match close left with
      | .ok _ after => .ok a after
      | .error failure after => .error failure after
    | .error failure left =>
      match close left with
      | .ok _ after => .error failure after
      | .error _ after => .error failure after

/-- The items of a list, in front of its end. The fuel bounds their number. -/
def items (read : Reader α) (isFirst : Bool) : Nat → Reader (List α)
  | 0 => pure []
  | fuel + 1 => do
    if ← hasItem isFirst then
      let item ← read
      let more ← items read false fuel
      pure (item :: more)
    else
      pure []

def list (read : Reader α) : Reader (List α) :=
  value fun b => do
    if b = byte '[' then
      advance
      let fuel := (← get).length + 1
      closing (items read true fuel) closeList
    else
      mismatch "a sequence"

end Reader

def parse {α : Type} (read : Reader α) (text : String) : Except Error α :=
  let bytes := Utf8.encode text
  let whole : Reader α := do
    let a ← read
    match ← Reader.peekToken with
    | none => pure a
    | some _ => Reader.failNext .trailingCharacters
  match whole bytes with
  | .ok a _ => .ok a
  | .error failure _ =>
    .error
      ⟨failure.reason,
        failure.left.map fun left => placeAfter (bytes.take (bytes.length - left))⟩

end DeviceFeed.Json
