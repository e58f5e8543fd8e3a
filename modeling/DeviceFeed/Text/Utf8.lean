import DeviceFeed.Text.Digits

/-!
# UTF-8

This file writes characters as bytes and reads bytes back as text. The reader
walks over the bytes with a small automaton: between characters it waits for
any byte that may open one, and inside a character it knows how many bytes are
missing and in which range the next one must lie. It refuses a byte string at
the first byte that rules text out, and the fault says where the last whole
character ended and how many bytes of the next one were still acceptable.
-/

namespace DeviceFeed

/-- Binary data, as it arrives from a transport or a file. -/
abbrev Bytes := List UInt8

namespace Utf8

def encodeChar (c : Char) : Bytes :=
  let v := c.toNat
  if v < 0x80 then
    [UInt8.ofNat v]
  else if v < 0x800 then
    [UInt8.ofNat (0xC0 + v / 64), UInt8.ofNat (0x80 + v % 64)]
  else if v < 0x10000 then
    [UInt8.ofNat (0xE0 + v / 4096), UInt8.ofNat (0x80 + v / 64 % 64),
      UInt8.ofNat (0x80 + v % 64)]
  else
    [UInt8.ofNat (0xF0 + v / 262144), UInt8.ofNat (0x80 + v / 4096 % 64),
      UInt8.ofNat (0x80 + v / 64 % 64), UInt8.ofNat (0x80 + v % 64)]

def encode (s : String) : Bytes :=
  s.toList.flatMap encodeChar

/-- A character that has been opened and not yet finished. -/
structure Pending where
  seen : Nat
  /-- How many bytes it still needs, at least one. -/
  need : Nat
  low : Nat
  high : Nat
  bits : Nat
  deriving DecidableEq, Repr

/-- What a byte above the ASCII range opens. The range of the second byte keeps
out spellings that are longer than needed, surrogates, and values above the
last code point. -/
def opening? (b : Nat) : Option Pending :=
  if b < 0xC2 then none
  else if b < 0xE0 then some ⟨1, 1, 0x80, 0xBF, b - 0xC0⟩
  else if b = 0xE0 then some ⟨1, 2, 0xA0, 0xBF, 0⟩
  else if b = 0xED then some ⟨1, 2, 0x80, 0x9F, 13⟩
  else if b < 0xF0 then some ⟨1, 2, 0x80, 0xBF, b - 0xE0⟩
  else if b = 0xF0 then some ⟨1, 3, 0x90, 0xBF, 0⟩
  else if b < 0xF4 then some ⟨1, 3, 0x80, 0xBF, b - 0xF0⟩
  else if b = 0xF4 then some ⟨1, 3, 0x80, 0x8F, 4⟩
  else none

/-- Whether a byte may continue an opened character. -/
def Pending.accepts (p : Pending) (b : Nat) : Bool :=
  p.low ≤ b && b ≤ p.high

/-- The bits of an opened character, with one more byte. -/
def Pending.value (p : Pending) (b : Nat) : Nat :=
  p.bits * 64 + (b - 0x80)

/-- An opened character that took one more byte and is not yet finished. -/
def Pending.push (p : Pending) (b : Nat) : Pending :=
  ⟨p.seen + 1, p.need - 1, 0x80, 0xBF, p.value b⟩

/-- Why a byte string is not text. -/
structure Fault where
  /-- How many bytes form whole characters before the damage. -/
  validUpTo : Nat
  /-- How many bytes belong to the damage, or nothing if the input ends inside
  a character that could still be finished. -/
  badLength : Option Nat
  deriving DecidableEq, Repr

/-- What a fault says about its place. -/
def Fault.message (fault : Fault) : String :=
  match fault.badLength with
  | some length =>
    "invalid utf-8 sequence of " ++ Text.decimal length ++ " bytes from index " ++
      Text.decimal fault.validUpTo
  | none => "incomplete utf-8 byte sequence from index " ++ Text.decimal fault.validUpTo

/-- The characters of a byte string. The place counts the bytes of the
characters finished so far, which are kept in reverse. -/
def scan (place : Nat) (done : List Char) : Option Pending → Bytes → Except Fault (List Char)
  | none, [] => .ok done.reverse
  | some _, [] => .error ⟨place, none⟩
  | none, b :: rest =>
    if b.toNat < 0x80 then
      scan (place + 1) (Char.ofNat b.toNat :: done) none rest
    else
      match opening? b.toNat with
      | none => .error ⟨place, some 1⟩
      | some p => scan place done (some p) rest
  | some p, b :: rest =>
    if p.accepts b.toNat then
      if p.need ≤ 1 then
        scan (place + p.seen + 1) (Char.ofNat (p.value b.toNat) :: done) none rest
      else
        scan place done (some (p.push b.toNat)) rest
    else
      .error ⟨place, some p.seen⟩

/-- The text a byte string spells, or the reason why it spells none. -/
def decode (bytes : Bytes) : Except Fault String :=
  (scan 0 [] none bytes).map String.ofList

end Utf8

end DeviceFeed
