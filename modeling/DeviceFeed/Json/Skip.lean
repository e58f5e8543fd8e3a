import DeviceFeed.Json.Reader

/-!
# Skipping values

A member of an object that nobody asks for is passed over. Its form is checked,
but nothing is built from it, so numbers may be of any size, surrogates need not
be paired, and lists and objects may be nested to any depth.
-/

namespace DeviceFeed.Json.Reader

/-- Passes over digits, of which there must be at least one. -/
def skipExponent : Reader Unit := do
  advance
  let sign ← peek
  if sign = some (byte '+') ∨ sign = some (byte '-') then
    advance
  if (← next).any isDigitByte then
    let _ ← takeWhile isDigitByte
    pure ()
  else
    failHere .invalidNumber

/-- Passes over the part of a number that begins with the decimal point. -/
def skipFraction : Reader Unit := do
  advance
  let digits ← takeWhile isDigitByte
  if digits = [] then
    failNext .invalidNumber
  else if isExponentMark (← peek) then
    skipExponent
  else
    pure ()

/-- Passes over a number after its sign. -/
def skipNumber : Reader Unit := do
  let first ← next
  if first = some (byte '0') then
    if (← peek).any isDigitByte then
      failNext .invalidNumber
  else if first.any isDigitByte then
    let _ ← takeWhile isDigitByte
  else
    failHere .invalidNumber
  let mark ← peek
  if mark = some (byte '.') then
    skipFraction
  else if isExponentMark mark then
    skipExponent
  else
    pure ()

/-- Where the skipping of a string stands. -/
inductive SkipState where
  | plain
  | escaped
  /-- Inside the four digits of a code unit, kept in reverse. -/
  | unit (digits : Bytes)

/-- Passes over a string up to its closing mark. -/
def skipStringFrom : SkipState → Reader Unit
  | _, [] => .error ⟨.endInString, some 0⟩ []
  | .plain, b :: more =>
    if b = byte '"' then .ok () more
    else if b = byte '\\' then skipStringFrom .escaped more
    else if b < 0x20 then .error ⟨.controlCharacter, some (more.length + 1)⟩ (b :: more)
    else skipStringFrom .plain more
  | .escaped, b :: more =>
    if b = byte 'u' then skipStringFrom (.unit []) more
    else if (simpleEscape? b).isSome then skipStringFrom .plain more
    else .error ⟨.invalidEscape, some more.length⟩ more
  | .unit digits, b :: more =>
    if digits.length < 3 then skipStringFrom (.unit (b :: digits)) more
    else if (unitValue? (b :: digits)).isSome then skipStringFrom .plain more
    else .error ⟨.invalidEscape, some more.length⟩ more

/-- A list or an object that has been opened. -/
inductive Enclosure where
  | list
  | object
  deriving DecidableEq

def Enclosure.closer : Enclosure → UInt8
  | list => byte ']'
  | object => byte '\x7d'

/-- What is wrong if the text ends inside an enclosure. -/
def Enclosure.unfinished : Enclosure → Reason
  | list => .endInList
  | object => .endInObject

/-- What is wrong if an enclosure neither goes on nor ends. -/
def Enclosure.unseparated : Enclosure → Reason
  | list => .expectedListEnd
  | object => .expectedObjectEnd

/-- Passes over the colon between a name and its value. -/
def colon : Reader Unit := do
  match ← peekToken with
  | none => failNext .endInObject
  | some b => if b = byte ':' then advance else failNext .expectedColon

/-- Passes over what comes before a value in an enclosure: the name, in an
object. -/
def skipName : Enclosure → Reader Unit
  | .list => pure ()
  | .object => do
    match ← peekToken with
    | none => failNext .endInObject
    | some b =>
      if b = byte '"' then
        advance
        skipStringFrom .plain
        colon
      else
        failNext .keyNotString

/-- Where the skipping of a value stands. -/
inductive SkipPhase where
  | value
  /-- Inside the innermost enclosure. A comma may come next if something came
  before. -/
  | inside (afterItem : Bool)

/-- Passes over a value that is neither a list nor an object, or over the
beginning of one that is. -/
def skipHead : Reader (Option Enclosure) := do
  match ← peekToken with
  | none => failNext .endInValue
  | some b =>
    if b = byte 'n' then
      advance
      word ['u', 'l', 'l']
      pure none
    else if b = byte 't' then
      advance
      word ['r', 'u', 'e']
      pure none
    else if b = byte 'f' then
      advance
      word ['a', 'l', 's', 'e']
      pure none
    else if b = byte '-' then
      advance
      skipNumber
      pure none
    else if isDigitByte b then
      skipNumber
      pure none
    else if b = byte '"' then
      advance
      skipStringFrom .plain
      pure none
    else if b = byte '[' then
      advance
      pure (some .list)
    else if b = byte '\x7b' then
      advance
      pure (some .object)
    else
      failNext .expectedValue

/-- Passes over the rest of a value inside the given enclosures, the innermost
one first. The fuel bounds the number of rounds. -/
def skipFrom : Nat → List Enclosure → SkipPhase → Reader Unit
  | 0, _, _ => failHere .endInValue
  | fuel + 1, enclosures, .value => do
    match ← skipHead with
    | none => skipFrom fuel enclosures (.inside true)
    | some enclosure => skipFrom fuel (enclosure :: enclosures) (.inside false)
  | _ + 1, [], .inside _ => pure ()
  | fuel + 1, enclosure :: outer, .inside afterItem => do
    match ← peekToken with
    | none => failNext enclosure.unfinished
    | some b =>
      if b = byte ',' ∧ afterItem then
        advance
        skipName enclosure
        skipFrom fuel (enclosure :: outer) .value
      else if b = enclosure.closer then
        advance
        skipFrom fuel outer (.inside true)
      else if afterItem then
        failNext enclosure.unseparated
      else
        skipName enclosure
        skipFrom fuel (enclosure :: outer) .value

/-- Passes over a value of any kind, where at most so many bytes are left. -/
def skip (size : Nat) : Reader Unit :=
  skipFrom (2 * size + 2) [] .value

end DeviceFeed.Json.Reader
