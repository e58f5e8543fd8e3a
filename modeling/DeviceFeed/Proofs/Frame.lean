import DeviceFeed.Frame
import Mathlib.Tactic.Common

/-!
# The frame that some bytes spell

`Frame.spelled?` describes the layout of a frame by positions, and this file
proves that taking bytes apart follows it.  Taking apart and putting together
undo each other.
-/

namespace DeviceFeed
namespace Frame

/-- The frame in which the first byte is the command, the two bytes after it
are the message id, the high one first, and the rest is the body. -/
def spelled? (bytes : Bytes) : Option Frame := do
  let command ← bytes[0]?
  let high ← bytes[1]?
  let low ← bytes[2]?
  return ⟨⟨command, UInt16.ofNat (high.toNat * 256 + low.toNat)⟩, bytes.drop 3⟩

/-- Bytes are too few for a frame or consist of a header and a body. -/
theorem short_or_exists_cons (bytes : Bytes) :
    bytes.length < 3 ∨
      ∃ command high low body, bytes = command :: high :: low :: body := by
  rcases bytes with _ | ⟨command, _ | ⟨high, _ | ⟨low, body⟩⟩⟩
  · exact Or.inl (by simp)
  · exact Or.inl (by simp)
  · exact Or.inl (by simp)
  · exact Or.inr ⟨command, high, low, body, rfl⟩

theorem spelled?_cons (command high low : UInt8) (body : Bytes) :
    spelled? (command :: high :: low :: body) =
      some ⟨⟨command, joinBytes high low⟩, body⟩ :=
  rfl

theorem spelled?_of_short {bytes : Bytes} (h : bytes.length < 3) :
    spelled? bytes = none := by
  have hlow : bytes[2]? = none := List.getElem?_eq_none (by omega)
  simp [spelled?, hlow]

theorem parse_of_short {bytes : Bytes} (h : bytes.length < 3) :
    parse bytes = .error (.short bytes.length) := by
  rcases bytes with _ | ⟨command, _ | ⟨high, _ | ⟨low, body⟩⟩⟩
  · rfl
  · rfl
  · rfl
  · simp only [List.length_cons] at h
    omega

theorem exists_cons_of_spelled? {bytes : Bytes} {frame : Frame}
    (h : spelled? bytes = some frame) :
    ∃ command high low, bytes = command :: high :: low :: frame.body ∧
      frame.header = ⟨command, joinBytes high low⟩ := by
  rcases short_or_exists_cons bytes with hshort | ⟨command, high, low, body, rfl⟩
  · rw [spelled?_of_short hshort] at h
    cases h
  · rw [spelled?_cons, Option.some.injEq] at h
    subst h
    exact ⟨command, high, low, rfl, rfl⟩

/-- Taking bytes apart yields the frame that they spell. -/
theorem parse_of_spelled? {bytes : Bytes} {frame : Frame}
    (h : spelled? bytes = some frame) : parse bytes = .ok frame := by
  obtain ⟨command, high, low, rfl, -⟩ := exists_cons_of_spelled? h
  rw [spelled?_cons, Option.some.injEq] at h
  rw [← h]
  rfl

/-- The body of a frame is three bytes shorter than the frame. -/
theorem length_of_spelled? {bytes : Bytes} {frame : Frame}
    (h : spelled? bytes = some frame) : bytes.length = frame.body.length + 3 := by
  obtain ⟨command, high, low, hbytes, -⟩ := exists_cons_of_spelled? h
  rw [hbytes]
  rfl

/-! ## Putting frames together -/

/-- A number is made of its two bytes. -/
theorem joinBytes_halves (id : UInt16) :
    joinBytes (UInt8.ofNat (id.toNat / 256)) (UInt8.ofNat (id.toNat % 256)) = id := by
  have hid := id.toNat_lt
  have hhigh : (UInt8.ofNat (id.toNat / 256)).toNat = id.toNat / 256 :=
    UInt8.toNat_ofNat_of_lt' (show id.toNat / 256 < 256 by omega)
  have hlow : (UInt8.ofNat (id.toNat % 256)).toNat = id.toNat % 256 :=
    UInt8.toNat_ofNat_of_lt' (show id.toNat % 256 < 256 by omega)
  rw [joinBytes, hhigh, hlow, Nat.div_add_mod', UInt16.ofNat_toNat]

/-- Two bytes are the halves of the number that they make. -/
theorem halves_joinBytes (high low : UInt8) :
    UInt8.ofNat ((joinBytes high low).toNat / 256) = high ∧
      UInt8.ofNat ((joinBytes high low).toNat % 256) = low := by
  have hhigh := high.toNat_lt
  have hlow := low.toNat_lt
  have hnumber : (joinBytes high low).toNat = high.toNat * 256 + low.toNat :=
    UInt16.toNat_ofNat_of_lt' (show high.toNat * 256 + low.toNat < 65536 by omega)
  rw [hnumber, show (high.toNat * 256 + low.toNat) / 256 = high.toNat by omega,
    show (high.toNat * 256 + low.toNat) % 256 = low.toNat by omega]
  exact ⟨UInt8.ofNat_toNat, UInt8.ofNat_toNat⟩

/-- Taking a frame apart is taking off the header. -/
theorem parse_eq_map (bytes : Bytes) :
    parse bytes = (Header.parse bytes).map fun parsed => ⟨parsed.1, parsed.2⟩ := by
  rcases bytes with _ | ⟨command, _ | ⟨high, _ | ⟨low, body⟩⟩⟩
  all_goals rfl

theorem header_parse_encode (frame : Frame) :
    Header.parse frame.encode = .ok (frame.header, frame.body) := by
  rw [encode, Header.parse, joinBytes_halves]

/-- Bytes that are long enough are a header and a body, and put together again these are the
bytes. -/
theorem exists_header_parse {bytes : Bytes} (h : 3 ≤ bytes.length) :
    ∃ header body, Header.parse bytes = .ok (header, body) ∧
      encode ⟨header, body⟩ = bytes := by
  rcases short_or_exists_cons bytes with hshort | ⟨command, high, low, body, rfl⟩
  · omega
  · refine ⟨⟨command, joinBytes high low⟩, body, rfl, ?_⟩
    obtain ⟨hhigh, hlow⟩ := halves_joinBytes high low
    rw [encode, hhigh, hlow]

end Frame
end DeviceFeed
