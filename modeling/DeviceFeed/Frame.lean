import DeviceFeed.Text.Utf8
import DeviceFeed.Text.Digits

/-!
# Frames

A frame is what a transport delivers at once: a command code, a message id of
two bytes with the high byte first, and a body that fills the rest. This file
takes frames apart, puts them together, and names the reasons for refusing
one.
-/

namespace DeviceFeed

/-- The fixed part in front of a body. -/
structure Header where
  command : UInt8
  messageId : UInt16
  deriving DecidableEq, Repr

/-- A received frame. -/
structure Frame where
  header : Header
  body : Bytes
  deriving DecidableEq, Repr

inductive Rejection where
  | short (size : Nat)
  | oversized (size limit : Nat)
  | notText (fault : Utf8.Fault)
  deriving DecidableEq, Repr

def Header.size : Nat := 3

/-- The number made of two bytes, the high one first. -/
def joinBytes (high low : UInt8) : UInt16 :=
  UInt16.ofNat (high.toNat * 256 + low.toNat)

/-- Takes the header off received bytes, and yields it with the rest. -/
def Header.parse : Bytes → Except Rejection (Header × Bytes)
  | command :: high :: low :: rest => .ok (⟨command, joinBytes high low⟩, rest)
  | bytes => .error (.short bytes.length)

namespace Frame

/-- Takes received bytes apart. -/
def parse (bytes : Bytes) : Except Rejection Frame :=
  (Header.parse bytes).map fun parsed => ⟨parsed.1, bytes.drop Header.size⟩

def encode (frame : Frame) : Bytes :=
  frame.header.command ::
    UInt8.ofNat (frame.header.messageId.toNat / 256) ::
    UInt8.ofNat (frame.header.messageId.toNat % 256) ::
    frame.body

end Frame

def Rejection.message : Rejection → String
  | .short size =>
    "Malformed frame: expected at least " ++ Text.decimal Header.size ++ " bytes, got " ++
      Text.decimal size
  | .oversized size limit =>
    "Malformed frame: body of " ++ Text.decimal size ++ " bytes exceeds limit of " ++
      Text.decimal limit
  | .notText fault => "Invalid encoding: " ++ fault.message

end DeviceFeed
