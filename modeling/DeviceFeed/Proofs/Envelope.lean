import DeviceFeed.Proofs.Dispatch
import DeviceFeed.Proofs.Frame

/-!
# Numbers on the wire

A frame carries a message id in two bytes of its header, and a response carries a code in the
first four bytes of its body, in both cases the highest byte first.  Every number is read back
from the bytes that are written for it, and the bytes of a header can be written again from what
was read.
-/

namespace DeviceFeed

/-! ## Response codes -/

/-- The four bytes of a response code, the highest first. -/
def codeBytes (code : UInt32) : Bytes :=
  [UInt8.ofNat (code.toNat / 16777216), UInt8.ofNat (code.toNat / 65536 % 256),
    UInt8.ofNat (code.toNat / 256 % 256), UInt8.ofNat (code.toNat % 256)]

/-- A body is too short for a response code or begins with four bytes. -/
theorem short_or_exists_four (body : Bytes) :
    body.length < 4 ∧ responseCode? body = none ∨
      ∃ a b c d rest, body = a :: b :: c :: d :: rest := by
  rcases body with _ | ⟨a, _ | ⟨b, _ | ⟨c, _ | ⟨d, rest⟩⟩⟩⟩
  · exact Or.inl ⟨by simp, rfl⟩
  · exact Or.inl ⟨by simp, rfl⟩
  · exact Or.inl ⟨by simp, rfl⟩
  · exact Or.inl ⟨by simp, rfl⟩
  · exact Or.inr ⟨a, b, c, d, rest, rfl⟩

theorem responseCode?_codeBytes (code : UInt32) (rest : Bytes) :
    responseCode? (codeBytes code ++ rest) = some code := by
  have hcode : code.toNat < 4294967296 := code.toNat_lt
  have hbyte (n : Nat) (hn : n < 256) : (UInt8.ofNat n).toNat = n := UInt8.toNat_ofNat_of_lt' hn
  have hnumber : ((code.toNat / 16777216 * 256 + code.toNat / 65536 % 256) * 256 +
      code.toNat / 256 % 256) * 256 + code.toNat % 256 = code.toNat := by omega
  rw [codeBytes, List.cons_append, List.cons_append, List.cons_append, List.cons_append,
    responseCode?, hbyte _ (by omega), hbyte _ (by omega), hbyte _ (by omega),
    hbyte _ (by omega), hnumber, UInt32.ofNat_toNat]

/-- Four bytes are those of the number that they make. -/
theorem codeBytes_of_responseCode? {a b c d : UInt8} {rest : Bytes} {code : UInt32}
    (h : responseCode? (a :: b :: c :: d :: rest) = some code) :
    codeBytes code = [a, b, c, d] := by
  have ha := a.toNat_lt
  have hb := b.toNat_lt
  have hc := c.toNat_lt
  have hd := d.toNat_lt
  rw [responseCode?, Option.some.injEq] at h
  generalize hn : ((a.toNat * 256 + b.toNat) * 256 + c.toNat) * 256 + d.toNat = n at h
  have hnumber : code.toNat = n := by
    rw [← h]
    exact UInt32.toNat_ofNat_of_lt' (show n < 4294967296 by omega)
  rw [codeBytes, hnumber, show n / 16777216 = a.toNat by omega,
    show n / 65536 % 256 = b.toNat by omega, show n / 256 % 256 = c.toNat by omega,
    show n % 256 = d.toNat by omega]
  simp only [UInt8.ofNat_toNat]

/-- Four bytes can be read off the number that they make. -/
theorem responseCode?_injective {a b c d a' b' c' d' : UInt8} {rest rest' : Bytes}
    (h : responseCode? (a :: b :: c :: d :: rest) =
      responseCode? (a' :: b' :: c' :: d' :: rest')) :
    a = a' ∧ b = b' ∧ c = c' ∧ d = d' := by
  obtain ⟨code, hcode⟩ : ∃ code, responseCode? (a' :: b' :: c' :: d' :: rest') = some code :=
    ⟨_, rfl⟩
  have hbytes := (codeBytes_of_responseCode? (h.trans hcode)).symm.trans
    (codeBytes_of_responseCode? hcode)
  simpa only [List.cons.injEq, and_true] using hbytes

namespace Dispatcher

theorem dispatch_response {d : Dispatcher} {header : Header}
    (h : d.table.resolve header.command = .response) (body : Bytes) (tracking : Tracking) :
    d.dispatch ⟨header, body⟩ tracking =
      .ok ⟨.response,
        [.response header.messageId header.command (responseCode? body) []], false⟩ := by
  have hread : Reading.ofFrame d.table ⟨header, body⟩ = .ok ⟨header, .response, body, []⟩ := by
    rw [Reading.ofFrame, h]
    rfl
  rw [dispatch_of_reading hread]
  rfl

/-! ## Both numbers -/

/-- A header is read as the command and the id that were written, with the rest as the body, and
bytes that are long enough can be written again from what was read.  Frames are taken apart in
the same way, and shorter bytes are refused in the same way.  A response is answered with the
code that was written in front of its body, and without a code if it has fewer than four
bytes. -/
theorem reads_what_is_written :
    (∀ (command : UInt8) (id : UInt16) (body : Bytes),
        let bytes := [command, UInt8.ofNat (id.toNat / 256), UInt8.ofNat (id.toNat % 256)] ++ body
        Header.parse bytes = .ok (⟨command, id⟩, body)) ∧
      (∀ bytes : Bytes, 3 ≤ bytes.length → ∃ header body,
        Header.parse bytes = .ok (header, body) ∧ Frame.encode ⟨header, body⟩ = bytes) ∧
      (∀ bytes : Bytes,
        (∀ header body, Header.parse bytes = .ok (header, body) ↔
          Frame.parse bytes = .ok ⟨header, body⟩) ∧
        ∀ rejection, Header.parse bytes = .error rejection ↔
          Frame.parse bytes = .error rejection) ∧
      ∀ (d : Dispatcher) (tracking : Tracking) (header : Header),
        d.table.resolve header.command = .response →
          (∀ code rest, d.dispatch ⟨header, codeBytes code ++ rest⟩ tracking =
            .ok ⟨.response,
              [.response header.messageId header.command (some code) []], false⟩) ∧
          ∀ body : Bytes, body.length < 4 → d.dispatch ⟨header, body⟩ tracking =
            .ok ⟨.response, [.response header.messageId header.command none []], false⟩ := by
  refine ⟨?_, fun bytes => Frame.exists_header_parse, ?_, ?_⟩
  · intro command id body
    exact Frame.header_parse_encode ⟨⟨command, id⟩, body⟩
  · intro bytes
    rw [Frame.parse_eq_map]
    cases Header.parse bytes with
    | error rejection => simp [Except.map]
    | ok parsed => simp [Except.map, Prod.ext_iff]
  · intro d tracking header hresponse
    constructor
    · intro code rest
      rw [dispatch_response hresponse, responseCode?_codeBytes]
    · intro body hshort
      rcases short_or_exists_four body with ⟨-, hnone⟩ | ⟨a, b, c, e, rest, rfl⟩
      · rw [dispatch_response hresponse, hnone]
      · simp only [List.length_cons] at hshort
        omega

/-- All bytes of the numbers differ. -/
theorem reads_what_is_written_of_different_bytes :
    let d : Dispatcher := {}
    let bytes : Bytes := [0x00, 0x01, 0x02, 0x0A, 0x0B, 0x0C, 0x0D, 0x37]
    3 ≤ bytes.length ∧ d.table.resolve 0x00 = .response ∧
      Frame.parse bytes = .ok ⟨⟨0x00, 0x0102⟩, codeBytes 0x0A0B0C0D ++ [0x37]⟩ ∧
      d.dispatch ⟨⟨0x00, 0x0102⟩, codeBytes 0x0A0B0C0D ++ [0x37]⟩ (.strict 7) =
        .ok ⟨.response, [.response 0x0102 0x00 (some 0x0A0B0C0D) []], false⟩ ∧
      d.dispatch ⟨⟨0x00, 0x0102⟩, [0x0A, 0x0B, 0x0C]⟩ .loose =
        .ok ⟨.response, [.response 0x0102 0x00 none []], false⟩ ∧
      ∃ header body, Header.parse bytes = .ok (header, body) ∧
        Frame.encode ⟨header, body⟩ = bytes := by
  intro d bytes
  have hlength : 3 ≤ bytes.length := by decide
  have hresponse : d.table.resolve 0x00 = .response := by decide
  obtain ⟨hread, hwritten, hsame, hanswer⟩ := reads_what_is_written
  obtain ⟨hcode, -⟩ := hanswer d (.strict 7) ⟨0x00, 0x0102⟩ hresponse
  obtain ⟨-, hnone⟩ := hanswer d .loose ⟨0x00, 0x0102⟩ hresponse
  have hparse : Frame.parse bytes = .ok ⟨⟨0x00, 0x0102⟩, codeBytes 0x0A0B0C0D ++ [0x37]⟩ :=
    ((hsame bytes).1 _ _).1 (hread 0x00 0x0102 (codeBytes 0x0A0B0C0D ++ [0x37]))
  exact ⟨hlength, hresponse, hparse, hcode _ _, hnone _ (by decide), hwritten bytes hlength⟩

end Dispatcher
end DeviceFeed
