import DeviceFeed.Proofs.Script.Lines
import DeviceFeed.Proofs.Script.Grammar
import DeviceFeed.Proofs.Script.Hexadecimal

/-!
# Frames in hexadecimal

Two hexadecimal digits spell a byte, and blanks may stand anywhere between digits.
This file proves that lines of such digits are read as the bytes that they spell,
and that no line is read as a frame without bytes.
-/

namespace DeviceFeed

namespace Script

/-! ## Digits in lines -/

/-- A line of digits and blanks is read as the bytes that the digits spell. -/
theorem hexBytes_of_spelled {line : List Char} {bytes : Bytes}
    (h : Text.SpellsBytes (line.filter fun c => !Text.isBlank c) bytes)
    (hblank : ∀ c ∈ line, Text.isBlank c = true → c = ' ' ∨ c = '\t') :
    hexBytes (String.ofList line) = .ok bytes := by
  have hsolid : solid (String.ofList line) = line.filter fun c => !Text.isBlank c := by
    rw [solid, String.toList_ofList]
    apply List.filter_congr
    intro c hc
    cases hkind : Text.isBlank c with
    | true => rcases hblank c hc hkind with rfl | rfl <;> rfl
    | false =>
        rw [Bool.not_inj_iff, ← Bool.not_eq_true, List.contains_iff_mem]
        intro hmem
        rw [Text.isBlank_of_mem_asciiBlanks hmem] at hkind
        cases hkind
  rw [hexBytes_eq_ok_iff, hsolid]
  exact h.loosely

section

variable {line : List Char} {raw : Bytes}
    (h : Text.SpellsBytes (line.filter fun c => !Text.isBlank c) raw)
    (hblank : ∀ c ∈ line, Text.isBlank c = true → c = ' ' ∨ c = '\t')

include h hblank

theorem mem_alphabet_of_spelled : ∀ c ∈ line, c ∈ ' ' :: '\t' :: Text.hexAlphabet := by
  intro c hc
  cases hc' : Text.isBlank c with
  | true =>
      rcases hblank c hc hc' with rfl | rfl
      · exact List.mem_cons_self
      · exact List.mem_cons_of_mem _ List.mem_cons_self
  | false =>
      apply List.mem_cons_of_mem
      apply List.mem_cons_of_mem
      apply h.mem_hexAlphabet
      rw [List.mem_filter, hc']
      exact ⟨hc, rfl⟩

/-- No word of digits is a keyword, since there is no letter t. -/
theorem entry_of_spelled : entry (String.ofList line) = .frame raw := by
  have hother : 't' ∉ ' ' :: '\t' :: Text.hexAlphabet := by decide
  rw [entry_of_no_keyword]
  · rw [hexBytes_of_spelled h hblank]
  · rintro ⟨keyword, hhead, hkeyword⟩
    have hmem : keyword.toList ∈ Text.words line := by
      have hwords := List.mem_of_head? hhead
      rw [wordsOf, String.toList_ofList] at hwords
      obtain ⟨word, hword, rfl⟩ := List.mem_map.1 hwords
      rwa [String.toList_ofList]
    have ht : 't' ∈ keyword.toList := by
      rcases hkeyword with rfl | rfl
      · decide
      · decide
    exact hother (mem_alphabet_of_spelled h hblank _ (Text.mem_of_mem_words hmem ht))

/-- A line of hexadecimal digits with blanks between them is read as the frame that
they spell. -/
theorem read_of_spelled (hne : raw ≠ []) : entry? (String.ofList line) = some (.frame raw) := by
  have hfilter : (Text.trim line).filter (fun c => !Text.isBlank c) =
      line.filter fun c => !Text.isBlank c :=
    Text.filter_trim (fun c hc => by rw [hc]; rfl) line
  have hentry : entry (String.ofList (Text.trim line)) = .frame raw :=
    entry_of_spelled (hfilter ▸ h) fun c hc => hblank c (Text.mem_of_mem_trim hc)
  unfold entry?
  rw [String.toList_ofList]
  cases htrim : Text.trim line with
  | nil =>
      rw [htrim] at hfilter
      rw [← hfilter] at h
      cases h
      exact absurd rfl hne
  | cons c cs =>
      have hhash : c ≠ '#' := by
        have hmem := mem_alphabet_of_spelled h hblank c
          (Text.mem_of_mem_trim (htrim ▸ List.mem_cons_self))
        rintro rfl
        revert hmem
        decide
      rw [htrim] at hentry
      split
      · next heq => cases heq
      · next heq => exact absurd (List.cons.inj heq).1 hhash
      · rw [hentry]

end

/-! ## No empty frames -/

/-- A line that spells no byte consists of blanks. -/
theorem solid_of_hexBytes_nil {line : String} (h : hexBytes line = .ok []) : solid line = [] := by
  have hspelled := hexBytes_eq_ok_iff.1 h
  generalize solid line = cs at hspelled ⊢
  cases hspelled
  rfl

theorem hexBytes_of_entry_eq_frame {line : String} {raw : Bytes} (h : entry line = .frame raw) :
    hexBytes line = .ok raw := by
  rcases directive_or_malformed (wordsOf line) with ⟨e, he⟩ | ⟨defect, hdefect⟩ | hkeyword
  · rw [entry_of_directive he] at h
    rw [h] at he
    exact absurd he not_directive_frame
  · rw [entry_of_malformed hdefect] at h
    cases h
  · rw [entry_of_no_keyword hkeyword] at h
    split at h
    next bytes hbytes =>
      rw [hbytes, Entry.frame.inj h]
    next => cases h

/-- What is left of a line after trimming begins with a character that is no blank, so
it cannot be read as a frame without bytes. -/
theorem not_read_as_empty_frame (text : String) : entry? text ≠ some (.frame []) := by
  intro h
  unfold entry? at h
  cases htrim : Text.trim text.toList with
  | nil =>
      rw [htrim] at h
      cases h
  | cons c cs =>
      have hbytes : hexBytes (String.ofList (c :: cs)) = .ok [] := by
        rw [htrim] at h
        split at h
        · cases h
        · cases h
        · exact hexBytes_of_entry_eq_frame (Option.some.inj h)
      have hmem : c ∈ Text.asciiBlanks := by
        have hall := List.filter_eq_nil_iff.1 (solid_of_hexBytes_nil hbytes) c
        rw [String.toList_ofList] at hall
        simpa using hall List.mem_cons_self
      have hblank := Text.isBlank_of_mem_asciiBlanks hmem
      rw [Text.isBlank_of_trim_eq_cons htrim] at hblank
      cases hblank

/-- No entry of a script is a frame without bytes. -/
theorem read_ne_empty_frame (script : Bytes) :
    ∀ item ∈ (read script).1, item.2 ≠ .frame [] := by
  have hline : ∀ text e, entry? text = some e → e ≠ .frame [] := by
    rintro text _ hentry rfl
    exact not_read_as_empty_frame text hentry
  exact forall_mem_readFrom hline (lines script) 1

end Script
end DeviceFeed
