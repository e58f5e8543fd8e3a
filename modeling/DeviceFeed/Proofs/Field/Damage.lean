import DeviceFeed.Proofs.Field.Body
import Mathlib.Order.Bounds.Defs

/-!
# Where a body is damaged

A body that is no text begins with whole characters, and the fault says how many bytes they
take.  Behind them the body either breaks off inside a character, so that more bytes could
still make it a text, or it has a byte that no text has there.  In the second case the length
in the fault is the number of bytes behind the whole characters that begin some text, and at
least one.
-/

namespace DeviceFeed

namespace Utf8

/-! ## Beginnings of texts -/

/-- Something can follow the bytes so that the whole is a text. -/
def BeginsText (bytes : Bytes) : Prop :=
  ∃ more, IsText (bytes ++ more)

theorem IsText.beginsText {bytes : Bytes} (h : IsText bytes) : BeginsText bytes := by
  refine ⟨[], ?_⟩
  rwa [List.append_nil]

theorem BeginsText.of_append {front back : Bytes} (h : BeginsText (front ++ back)) :
    BeginsText front := by
  obtain ⟨more, hmore⟩ := h
  rw [List.append_assoc] at hmore
  exact ⟨back ++ more, hmore⟩

/-- Whole characters in front make no difference. -/
theorem isText_encode_append {s : String} {tail : Bytes} :
    IsText (encode s ++ tail) ↔ IsText tail := by
  rw [isText_iff_scan 0 [], encode, scan_flatMap_append, ← isText_iff_scan]

theorem beginsText_encode_append {s : String} {tail : Bytes} :
    BeginsText (encode s ++ tail) ↔ BeginsText tail := by
  simp only [BeginsText, List.append_assoc, isText_encode_append]

/-! ## Inside a character -/

/-- There always is a byte that continues the character. -/
theorem Opened.range {seen : Bytes} {p : Pending} (h : Opened seen p) :
    p.low ≤ p.high ∧ p.high ≤ 0xBF := by
  cases h with
  | first h =>
      rcases opening?_cases h with ⟨-, -, rfl⟩ | ⟨-, -, rfl⟩ | ⟨-, -, rfl⟩
      all_goals grind
  | more h hb hneed => exact ⟨show 0x80 ≤ 0xBF by decide, Nat.le_refl 0xBF⟩

/-- A character that has been opened can be finished.  The induction is on the number of bytes
that it still needs. -/
theorem Opened.exists_finish {seen : Bytes} {p : Pending} (h : Opened seen p) :
    ∃ more, more ≠ [] ∧ IsText (seen ++ more) := by
  induction hn : p.need using Nat.strongRecOn generalizing seen p with
  | ind n ih =>
      obtain ⟨hlow, hhigh⟩ := h.range
      have hvalue : (UInt8.ofNat p.low).toNat = p.low :=
        UInt8.toNat_ofNat_of_lt' (show p.low < 256 by omega)
      have hb : p.accepts (UInt8.ofNat p.low).toNat = true := by
        rw [Pending.accepts_iff, hvalue]
        exact ⟨Nat.le_refl _, hlow⟩
      by_cases hneed : p.need ≤ 1
      · refine ⟨[UInt8.ofNat p.low], List.cons_ne_nil _ _,
          String.ofList [Char.ofNat (p.value (UInt8.ofNat p.low).toNat)], ?_⟩
        rw [encode_cons, h.encodeChar_value hb hneed, encode_nil, List.append_nil]
      · have hless : (p.push (UInt8.ofNat p.low).toNat).need < n := by
          rw [← hn]
          exact Nat.sub_lt (by omega) Nat.one_pos
        obtain ⟨more, -, hmore⟩ := ih _ hless (h.more hb (by omega)) rfl
        rw [List.append_assoc] at hmore
        exact ⟨[UInt8.ofNat p.low] ++ more, List.cons_ne_nil _ _, hmore⟩

theorem Opened.scan_append {seen : Bytes} {p : Pending} (h : Opened seen p) (place : Nat)
    (done : List Char) (rest : Bytes) :
    scan place done none (seen ++ rest) = scan place done (some p) rest := by
  induction h generalizing rest with
  | first h => exact scan_open h
  | more h hb hneed ih =>
      rw [List.append_assoc, ih, List.singleton_append,
        scan_more (Pending.accepts_iff.1 hb) hneed]

/-- A character that is only opened is no text. -/
theorem Opened.not_isText {seen : Bytes} {p : Pending} (h : Opened seen p) : ¬IsText seen := by
  rw [isText_iff_scan 0 [], ← List.append_nil seen, h.scan_append]
  rintro ⟨cs, hscan⟩
  cases hscan

/-- The first bytes of an open character are those of an open character. -/
theorem Opened.exists_take {seen : Bytes} {p : Pending} (h : Opened seen p) {n : Nat}
    (hn : 0 < n) : ∃ q, Opened (seen.take n) q := by
  induction h with
  | @first b p h =>
      rw [List.take_of_length_le hn]
      exact ⟨p, .first h⟩
  | @more seen p b h hb hneed ih =>
      by_cases hfew : n ≤ seen.length
      · rw [List.take_append_of_le_length hfew]
        exact ih
      · have hall : (seen ++ [b]).length ≤ n := by
          rw [List.length_append, List.length_singleton]
          omega
        rw [List.take_of_length_le hall]
        exact ⟨_, h.more hb hneed⟩

theorem Stands.cases {state : Option Pending} {seen : Bytes} (h : Stands state seen) :
    state = none ∧ seen = [] ∨ ∃ p, state = some p ∧ Opened seen p := by
  cases state with
  | none => exact Or.inl ⟨rfl, h⟩
  | some p => exact Or.inr ⟨p, rfl, h⟩

theorem Stands.scan_append {state : Option Pending} {seen : Bytes} (h : Stands state seen)
    (place : Nat) (done : List Char) (rest : Bytes) :
    scan place done none (seen ++ rest) = scan place done state rest := by
  rcases h.cases with ⟨rfl, rfl⟩ | ⟨p, rfl, hopened⟩
  · rfl
  · exact hopened.scan_append place done rest

theorem Stands.beginsText {state : Option Pending} {seen : Bytes} (h : Stands state seen) :
    BeginsText seen := by
  rcases h.cases with ⟨-, rfl⟩ | ⟨p, -, hopened⟩
  · exact IsText.beginsText ⟨String.ofList [], encode_nil⟩
  · obtain ⟨more, -, hmore⟩ := hopened.exists_finish
    exact ⟨more, hmore⟩

theorem Stands.length_le {state : Option Pending} {seen : Bytes} (h : Stands state seen) :
    seen.length ≤ 3 := by
  rcases h.cases with ⟨-, rfl⟩ | ⟨p, -, hopened⟩
  · exact Nat.zero_le 3
  · exact hopened.length_le

/-- No text has a byte that is refused where it stands. -/
theorem Stands.not_beginsText {state : Option Pending} {seen : Bytes} {b : UInt8}
    (h : Stands state seen) (hb : Refuses state b) : ¬BeginsText (seen ++ [b]) := by
  rintro ⟨more, hmore⟩
  rw [List.append_assoc, List.singleton_append, isText_iff_scan 0 [], h.scan_append,
    h.scan_refused hb] at hmore
  obtain ⟨cs, hcs⟩ := hmore
  cases hcs

/-! ## Damage -/

/-- The bytes break off inside a character, or they have a byte that no text has there.  The
second argument is what a fault says about the length. -/
inductive Damaged : Bytes → Option Nat → Prop
  | unfinished {seen : Bytes} {p : Pending} (h : Opened seen p) : Damaged seen none
  | refused {state : Option Pending} {seen : Bytes} {b : UInt8} (h : Stands state seen)
      (hb : Refuses state b) (rest : Bytes) :
      Damaged (seen ++ b :: rest) (some (max 1 seen.length))

/-- What the automaton refuses is whole characters and damage behind them.  The induction is on
the bytes still to come; the bytes of the character that is open are carried along. -/
theorem exists_damaged_of_scan {state : Option Pending} {seen bytes : Bytes} {place : Nat}
    {done : List Char} {fault : Fault} (hstate : Stands state seen)
    (h : scan place done state bytes = .error fault) :
    ∃ (cs : List Char) (tail : Bytes), seen ++ bytes = cs.flatMap encodeChar ++ tail ∧
      fault.validUpTo = place + (cs.flatMap encodeChar).length ∧
      Damaged tail fault.badLength := by
  induction bytes generalizing state seen place done with
  | nil =>
      rcases hstate.cases with ⟨rfl, -⟩ | ⟨p, rfl, hopened⟩
      · cases h
      · obtain rfl := Except.error.inj h
        exact ⟨[], seen, List.append_nil seen, rfl, .unfinished hopened⟩
  | cons b rest ih =>
      by_cases hb : Refuses state b
      · rw [hstate.scan_refused hb] at h
        obtain rfl := Except.error.inj h
        exact ⟨[], seen ++ b :: rest, rfl, rfl, .refused hstate hb rest⟩
      rcases hstate.step hb with ⟨c, hc, hscan⟩ | ⟨p, hopened, hscan⟩
      · rw [hscan] at h
        have hstands : Stands none [] := rfl
        obtain ⟨cs, tail, hrest, hplace, hdamaged⟩ := ih hstands h
        refine ⟨c :: cs, tail, ?_, ?_, hdamaged⟩
        · rw [List.flatMap_cons, hc, List.append_assoc, List.append_assoc, ← hrest]
          rfl
        · rw [hplace, List.flatMap_cons, hc, Nat.add_assoc, ← List.length_append]
      · rw [hscan] at h
        have hstands : Stands (some p) (seen ++ [b]) := hopened
        obtain ⟨cs, tail, hrest, hplace, hdamaged⟩ := ih hstands h
        refine ⟨cs, tail, ?_, hplace, hdamaged⟩
        rw [← hrest, List.append_assoc]
        rfl

theorem exists_damaged_of_decode {bytes : Bytes} {fault : Fault}
    (h : decode bytes = .error fault) :
    ∃ s tail, bytes = encode s ++ tail ∧ fault.validUpTo = (encode s).length ∧
      Damaged tail fault.badLength := by
  have hstands : Stands none [] := rfl
  obtain ⟨cs, tail, hbytes, hplace, hdamaged⟩ :=
    exists_damaged_of_scan hstands (decode_eq_error_iff.1 h)
  refine ⟨String.ofList cs, tail, ?_, ?_, hdamaged⟩
  · rw [encode, String.toList_ofList, ← hbytes, List.nil_append]
  · rw [encode, String.toList_ofList, hplace, Nat.zero_add]

section

variable {state : Option Pending} {seen rest : Bytes} {b : UInt8}

/-- Bytes up to a refused one begin no text. -/
theorem Stands.not_beginsText_take (h : Stands state seen) (hb : Refuses state b) {n : Nat}
    (hn : seen.length < n) : ¬BeginsText ((seen ++ b :: rest).take n) := by
  obtain ⟨k, rfl⟩ := Nat.exists_eq_add_of_lt hn
  rw [Nat.add_assoc, List.take_length_add_append, List.take_succ_cons, List.append_cons]
  exact fun hbegins => h.not_beginsText hb hbegins.of_append

/-- All bytes in front of a refused one begin a text, and no more than these do. -/
theorem Stands.isGreatest (h : Stands state seen) (hb : Refuses state b) :
    IsGreatest {n | BeginsText ((seen ++ b :: rest).take n)} seen.length := by
  constructor
  · change BeginsText ((seen ++ b :: rest).take seen.length)
    rw [List.take_left]
    exact h.beginsText
  · intro n hn
    by_contra hmore
    exact h.not_beginsText_take hb (Nat.lt_of_not_le hmore) hn

end

namespace Damaged

variable {tail : Bytes} {badLength : Option Nat}

theorem length_pos (h : Damaged tail badLength) : 0 < tail.length := by
  rcases h with h | ⟨h, hb, rest⟩
  · exact h.length_pos
  · rw [List.length_append, List.length_cons]
    omega

/-- No byte of the damage finishes a character. -/
theorem not_isText_take (h : Damaged tail badLength) {n : Nat} (hn : 0 < n) :
    ¬IsText (tail.take n) := by
  rcases h with h | @⟨state, seen, b, h, hb, rest⟩
  · obtain ⟨q, hq⟩ := h.exists_take hn
    exact hq.not_isText
  · by_cases hseen : seen.length < n
    · exact fun htext => h.not_beginsText_take hb hseen htext.beginsText
    · rw [List.take_append_of_le_length (Nat.le_of_not_lt hseen)]
      rcases h.cases with ⟨-, rfl⟩ | ⟨p, -, hopened⟩
      · exact absurd hn hseen
      · obtain ⟨q, hq⟩ := hopened.exists_take hn
        exact hq.not_isText

/-- Damage without a length is what more bytes can make good. -/
theorem eq_none_iff (h : Damaged tail badLength) :
    badLength = none ↔ ∃ more, more ≠ [] ∧ IsText (tail ++ more) := by
  rcases h with h | @⟨state, seen, b, h, hb, rest⟩
  · exact iff_of_true rfl h.exists_finish
  · refine iff_of_false (Option.some_ne_none _) ?_
    rintro ⟨more, -, hmore⟩
    apply h.not_beginsText hb
    rw [List.append_cons, List.append_assoc] at hmore
    exact ⟨rest ++ more, hmore⟩

/-- The length of damage is the number of bytes that begin a text, and at least one. -/
theorem length_eq {length : Nat} (h : Damaged tail (some length)) :
    1 ≤ length ∧ length ≤ 3 ∧ length ≤ tail.length ∧
      ∃ most, IsGreatest {n | BeginsText (tail.take n)} most ∧ length = max 1 most := by
  rcases h with _ | @⟨state, seen, b, h, hb, rest⟩
  have hseen := h.length_le
  refine ⟨by omega, by omega, ?_, seen.length, h.isGreatest hb, rfl⟩
  rw [List.length_append, List.length_cons]
  omega

end Damaged
end Utf8

namespace Field

/-! ## Bodies -/

/-- The bytes are a body of text. -/
def Decodes (body : Bytes) : Prop :=
  ∃ fields, decode body = .ok fields

/-- Something can follow the bytes so that the whole is a body of text. -/
def BeginsBody (body : Bytes) : Prop :=
  ∃ more, Decodes (body ++ more)

theorem decodes_iff {body : Bytes} : Decodes body ↔ Utf8.IsText body := by
  constructor
  · rintro ⟨fields, h⟩
    obtain ⟨text, htext, -⟩ := exists_text_of_decode h
    exact ⟨text, htext⟩
  · rintro ⟨text, rfl⟩
    exact ⟨split text, decode_of_encode text⟩

theorem beginsBody_iff {body : Bytes} : BeginsBody body ↔ Utf8.BeginsText body :=
  exists_congr fun _ => decodes_iff

/-- A fault tells where a body is damaged.  The bytes in front of its place are the longest
beginning that is a body.  It gives no length exactly if the body can be continued; otherwise
the length is the number of bytes behind the place up to which the body can be continued, or one
if there are none, and never more than three. -/
theorem decode_locates_damage {body : Bytes} {fault : Utf8.Fault}
    (h : decode body = .error fault) :
    fault.validUpTo < body.length ∧ Decodes (body.take fault.validUpTo) ∧
      (∀ n, fault.validUpTo < n → ¬Decodes (body.take n)) ∧
      (fault.badLength = none ↔ ∃ more, more ≠ [] ∧ Decodes (body ++ more)) ∧
      ∀ length, fault.badLength = some length →
        1 ≤ length ∧ length ≤ 3 ∧ fault.validUpTo + length ≤ body.length ∧
          ∃ most, IsGreatest {n | BeginsBody (body.take (fault.validUpTo + n))} most ∧
            length = max 1 most := by
  obtain ⟨s, tail, rfl, hplace, hdamaged⟩ :=
    Utf8.exists_damaged_of_decode (decode_eq_error_iff.1 h)
  simp only [decodes_iff, beginsBody_iff, hplace, List.length_append, List.take_length_add_append,
    Utf8.beginsText_encode_append]
  refine ⟨?_, ?_, ?_, ?_, ?_⟩
  · exact Nat.lt_add_of_pos_right hdamaged.length_pos
  · rw [List.take_left]
    exact ⟨s, rfl⟩
  · intro n hn
    obtain ⟨k, rfl⟩ := Nat.exists_eq_add_of_lt hn
    rw [Nat.add_assoc, List.take_length_add_append, Utf8.isText_encode_append]
    exact hdamaged.not_isText_take (Nat.succ_pos k)
  · simp only [List.append_assoc, Utf8.isText_encode_append]
    exact hdamaged.eq_none_iff
  · intro length hlength
    rw [hlength] at hdamaged
    obtain ⟨hone, hthree, hle, hmost⟩ := hdamaged.length_eq
    exact ⟨hone, hthree, Nat.add_le_add_left hle _, hmost⟩

/-- The third byte of a character is missing, and the next character stands in its place. -/
theorem decode_locates_damage_before_third_byte :
    let body : Bytes := [0x34, 0x00, 0xE2, 0x82, 0x28]
    decode body = .error ⟨2, some 2⟩ ∧ Decodes (body.take 2) ∧ ¬Decodes (body.take 3) ∧
      (∀ more, more ≠ [] → ¬Decodes (body ++ more)) ∧
      IsGreatest {n | BeginsBody (body.take (2 + n))} 2 := by
  intro body
  have hdecode : decode body = .error ⟨2, some 2⟩ := by rfl
  obtain ⟨-, hfront, hlonger, hnone, hlength⟩ := decode_locates_damage hdecode
  obtain ⟨-, -, -, most, hmost, htwo⟩ := hlength 2 rfl
  obtain rfl : most = 2 := by omega
  refine ⟨hdecode, hfront, hlonger 3 (by decide), ?_, hmost⟩
  intro more hne hmore
  have hbad : some 2 = none := hnone.2 ⟨more, hne, hmore⟩
  cases hbad

end Field
end DeviceFeed
