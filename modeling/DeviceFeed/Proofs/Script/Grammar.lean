import DeviceFeed.Script
import DeviceFeed.Proofs.Number.Decimal
import DeviceFeed.Proofs.Text.Words

/-!
# Changes of tracking in scripts

A change of tracking is written as a keyword and a word that belongs to the keyword, and a line that
begins with a keyword and goes on in another way is refused.  This file proves that the first two
words of a line decide about that.  The words behind them are passed over.
-/

namespace DeviceFeed
namespace Script

/-! ## The grammar -/

/-- The word spells the id: digits, perhaps behind a sign, whose value is the id. -/
def SpellsId (word : String) (id : Int64) : Prop :=
  ∃ d : Decimal, d.IsPlain ∧ d.text = word.toList ∧ d.value = id.toInt

/-- What a line of the words says about tracking. -/
inductive Directive : List String → Entry → Prop
  | follow {word : String} {id : Int64} (hid : SpellsId word id) :
      Directive ["track", word] (.track (some id))
  | release : Directive ["track", "off"] (.track none)
  | only : Directive ["track-only", "on"] (.trackOnly true)
  | every : Directive ["track-only", "off"] (.trackOnly false)

/-- A directive has two words. -/
theorem Directive.length_eq {ws : List String} {e : Entry} (h : Directive ws e) :
    ws.length = 2 := by
  cases h <;> rfl

theorem not_directive_frame {ws : List String} {raw : Bytes} : ¬Directive ws (.frame raw) :=
  fun h => nomatch h

/-- What is wrong with a line whose words begin with a keyword. -/
inductive Malformed : List String → Defect → Prop
  | noId : Malformed ["track"] .missingDeviceId
  | badId {word : String} {more : List String} (hoff : word ≠ "off")
      (hid : ∀ id, ¬SpellsId word id) :
      Malformed ("track" :: word :: more) (.badDeviceId word)
  | noSwitch : Malformed ["track-only"] .missingSwitch
  | badSwitch {word : String} {more : List String} (hon : word ≠ "on") (hoff : word ≠ "off") :
      Malformed ("track-only" :: word :: more) .missingSwitch

/-- There is a first word, and it is a keyword. -/
def HasKeyword (ws : List String) : Prop :=
  ∃ keyword ∈ ws.head?, keyword = "track" ∨ keyword = "track-only"

theorem spellsId_iff {word : String} {id : Int64} :
    SpellsId word id ↔ (Numeral.integer? word.toList).bind int64? = some id := by
  simp only [SpellsId, Option.bind_eq_some_iff, Numeral.integer?_eq_some_iff, int64?_eq_some_iff]
  constructor
  · rintro ⟨d, hplain, htext, hvalue⟩
    exact ⟨id.toInt, ⟨d, hplain, htext, hvalue⟩, rfl⟩
  · rintro ⟨_, hd, rfl⟩
    exact hd

/-- The word that releases the device spells no id. -/
theorem not_spellsId_off (id : Int64) : ¬SpellsId "off" id := by
  rw [spellsId_iff]
  exact fun h => nomatch h

/-- The words in front are a directive, or they are malformed, unless there is no keyword. -/
theorem directive_or_malformed (ws : List String) :
    (∃ e, Directive (ws.take 2) e) ∨ (∃ defect, Malformed ws defect) ∨ ¬HasKeyword ws := by
  by_cases hkeyword : HasKeyword ws
  · obtain ⟨keyword, hhead, hkeyword⟩ := hkeyword
    obtain ⟨others, rfl⟩ := List.head?_eq_some_iff.1 hhead
    rcases hkeyword with rfl | rfl
    · cases others with
      | nil => exact Or.inr (Or.inl ⟨_, .noId⟩)
      | cons word more =>
          by_cases hoff : word = "off"
          · rw [hoff]
            exact Or.inl ⟨_, .release⟩
          · by_cases hid : ∃ id, SpellsId word id
            · obtain ⟨id, hid⟩ := hid
              exact Or.inl ⟨_, .follow hid⟩
            · exact Or.inr (Or.inl ⟨_, .badId hoff (not_exists.1 hid)⟩)
    · cases others with
      | nil => exact Or.inr (Or.inl ⟨_, .noSwitch⟩)
      | cons word more =>
          by_cases hon : word = "on"
          · rw [hon]
            exact Or.inl ⟨_, .only⟩
          · by_cases hoff : word = "off"
            · rw [hoff]
              exact Or.inl ⟨_, .every⟩
            · exact Or.inr (Or.inl ⟨_, .badSwitch hon hoff⟩)
  · exact Or.inr (Or.inr hkeyword)

/-! ## Reading the words -/

/-- The words of a line. -/
def wordsOf (line : String) : List String :=
  (Text.words line.toList).map String.ofList

theorem hasWords_iff_eq_wordsOf {line : String} {ws : List (List Char)} :
    Text.HasWords line.toList ws ↔ ws = (wordsOf line).map String.toList := by
  rw [Text.hasWords_iff, wordsOf, List.map_map]
  simp [Function.comp_def]

/-- The first two words of a line say what it says about tracking. -/
theorem entry_of_directive {line : String} {e : Entry}
    (h : Directive ((wordsOf line).take 2) e) : entry line = e := by
  rw [entry, ← wordsOf, ← List.take_append_drop 2 (wordsOf line)]
  generalize (wordsOf line).take 2 = front at h
  cases h with
  | @follow word id hid =>
      have hoff : word ≠ "off" := by
        rintro rfl
        exact not_spellsId_off id hid
      simp [spellsId_iff.1 hid]
  | release => rfl
  | only => rfl
  | every => rfl

theorem entry_of_malformed {line : String} {defect : Defect}
    (h : Malformed (wordsOf line) defect) : entry line = .invalid defect := by
  rw [entry, ← wordsOf]
  generalize wordsOf line = ws at h
  cases h with
  | noId => rfl
  | @badId word more hoff hid =>
      have hnone : (Numeral.integer? word.toList).bind int64? = none := by
        rw [Option.eq_none_iff_forall_ne_some]
        exact fun id hread => hid id (spellsId_iff.2 hread)
      simp [hnone]
  | noSwitch => rfl
  | badSwitch hon hoff => simp [hon, hoff]

/-- A line without a keyword is read as a frame or not at all. -/
theorem entry_of_no_keyword {line : String} (h : ¬HasKeyword (wordsOf line)) :
    entry line =
      match hexBytes line with
      | .ok raw => .frame raw
      | .error defect => .invalid defect := by
  rw [entry, ← wordsOf]
  generalize wordsOf line = ws at h
  -- one case for each row of the reader, the first three of which begin with one keyword
  split
  · exact absurd ⟨_, rfl, Or.inl rfl⟩ h
  · exact absurd ⟨_, rfl, Or.inl rfl⟩ h
  · exact absurd ⟨_, rfl, Or.inl rfl⟩ h
  · exact absurd ⟨_, rfl, Or.inr rfl⟩ h
  · exact absurd ⟨_, rfl, Or.inr rfl⟩ h
  · exact absurd ⟨_, rfl, Or.inr rfl⟩ h
  · rfl

/-! ## What a line changes -/

/-- A line says nothing about tracking unless its first two words do. -/
theorem entry_of_no_directive {line : String}
    (h : ∀ e, ¬Directive ((wordsOf line).take 2) e) :
    (∃ raw, entry line = .frame raw) ∨ ∃ defect, entry line = .invalid defect := by
  rcases directive_or_malformed (wordsOf line) with ⟨e, he⟩ | ⟨defect, hdefect⟩ | hkeyword
  · exact absurd he (h e)
  · exact Or.inr ⟨defect, entry_of_malformed hdefect⟩
  · rw [entry_of_no_keyword hkeyword]
    cases hexBytes line with
    | ok raw => exact Or.inl ⟨raw, rfl⟩
    | error defect => exact Or.inr ⟨defect, rfl⟩

/-- A line is read as a change of tracking just when the grammar says so of its first two words. -/
theorem entry_eq_iff {line : String} {e : Entry} {update : Tracking.Update}
    (hchange : e.input? = some (.retarget update)) :
    entry line = e ↔ Directive ((wordsOf line).take 2) e := by
  constructor
  · rintro rfl
    by_cases hdirective : ∃ e, Directive ((wordsOf line).take 2) e
    · obtain ⟨e, he⟩ := hdirective
      rwa [entry_of_directive he]
    · rcases entry_of_no_directive (not_exists.1 hdirective) with ⟨raw, hentry⟩ | ⟨defect, hentry⟩
      · rw [hentry] at hchange
        cases hchange
      · rw [hentry] at hchange
        cases hchange
  · exact entry_of_directive

/-- Frames and refused lines leave tracking as it is. -/
theorem tracking_feed_of_no_directive {line : String}
    (h : ∀ e, ¬Directive ((wordsOf line).take 2) e) {P : Type} [Publisher P] (s : Session P) :
    (s.feed (entry line).input?.toList).tracking = s.tracking := by
  rcases entry_of_no_directive h with ⟨raw, hentry⟩ | ⟨defect, hentry⟩
  · rw [hentry]
    rfl
  · rw [hentry]
    rfl

/-- A line consists of words and blanks, and its first two words decide what it says about tracking.
It is read as a change of tracking just when the grammar says so of these two, so the grammar is
followed exactly by lines of no more than two words.  Otherwise it leaves tracking as it is, and it
is refused if it begins with a keyword.  Words behind the first two make no difference. -/
theorem first_two_words_decide (line : String) :
    (∀ ws, Text.HasWords line.toList ws ↔ ws = (wordsOf line).map String.toList) ∧
      (∀ id, entry line = .track id ↔ Directive ((wordsOf line).take 2) (.track id)) ∧
      (∀ only, entry line = .trackOnly only ↔
        Directive ((wordsOf line).take 2) (.trackOnly only)) ∧
      ((wordsOf line).length ≤ 2 →
        (∀ id, entry line = .track id ↔ Directive (wordsOf line) (.track id)) ∧
          ∀ only, entry line = .trackOnly only ↔ Directive (wordsOf line) (.trackOnly only)) ∧
      ((∀ e, ¬Directive ((wordsOf line).take 2) e) →
        (HasKeyword (wordsOf line) →
          ∃ defect, Malformed (wordsOf line) defect ∧ entry line = .invalid defect) ∧
          ∀ {P : Type} [Publisher P] (s : Session P),
            (s.feed (entry line).input?.toList).tracking = s.tracking) := by
  have htrack : ∀ id, entry line = .track id ↔
      Directive ((wordsOf line).take 2) (.track id) := fun id => entry_eq_iff rfl
  have honly : ∀ only, entry line = .trackOnly only ↔
      Directive ((wordsOf line).take 2) (.trackOnly only) := fun only => entry_eq_iff rfl
  refine ⟨fun ws => hasWords_iff_eq_wordsOf, htrack, honly, ?_, ?_⟩
  · intro hshort
    rw [List.take_of_length_le hshort] at htrack honly
    exact ⟨htrack, honly⟩
  · intro hnone
    refine ⟨?_, tracking_feed_of_no_directive hnone⟩
    intro hkeyword
    rcases directive_or_malformed (wordsOf line) with ⟨e, he⟩ | ⟨defect, hdefect⟩ | hno
    · exact absurd he (hnone e)
    · exact ⟨defect, hdefect, entry_of_malformed hdefect⟩
    · exact absurd hkeyword hno

/-- A wide blank stands between two words, and a keyword alone is refused. -/
theorem first_two_words_decide_around_wide_blank :
    (wordsOf "track\u3000-7").length ≤ 2 ∧
      Directive (wordsOf "track\u3000-7") (.track (some (-7))) ∧
      entry "track\u3000-7" = .track (some (-7)) ∧
      (∀ e, ¬Directive ((wordsOf "track").take 2) e) ∧ HasKeyword (wordsOf "track") ∧
      ∃ defect, Malformed (wordsOf "track") defect ∧ entry "track" = .invalid defect := by
  have hwords : wordsOf "track\u3000-7" = ["track", "-7"] := by decide
  have hshort : (wordsOf "track\u3000-7").length ≤ 2 := by
    rw [hwords]
    exact le_rfl
  have hdirective : Directive (wordsOf "track\u3000-7") (.track (some (-7))) := by
    rw [hwords]
    exact .follow (spellsId_iff.2 (by decide))
  have halone : wordsOf "track" = ["track"] := by decide
  have hnone : ∀ e, ¬Directive ((wordsOf "track").take 2) e := by
    rw [halone]
    exact fun e h => absurd h.length_eq (by decide)
  have hkeyword : HasKeyword (wordsOf "track") := by
    rw [halone]
    exact ⟨_, rfl, Or.inl rfl⟩
  obtain ⟨-, -, -, hexact, -⟩ := first_two_words_decide "track\u3000-7"
  obtain ⟨-, -, -, -, hother⟩ := first_two_words_decide "track"
  exact ⟨hshort, hdirective, ((hexact hshort).1 _).2 hdirective, hnone, hkeyword,
    (hother hnone).1 hkeyword⟩

/-- The grammar has no line of three words, and yet one is read as a change of tracking. -/
theorem entry_passes_over_third_word :
    entry "track-only on off" = .trackOnly true ∧
      entry? "track-only on off" = some (.trackOnly true) ∧
      Text.HasWords "track-only on off".toList
        (["track-only", "on", "off"].map String.toList) ∧
      (∀ e, ¬Directive ["track-only", "on", "off"] e) ∧
      ¬∀ line only, entry line = .trackOnly only ↔ Directive (wordsOf line) (.trackOnly only) := by
  have hwords : wordsOf "track-only on off" = ["track-only", "on", "off"] := by decide
  have hentry : entry "track-only on off" = .trackOnly true := by decide
  have hnone : ∀ e, ¬Directive ["track-only", "on", "off"] e := fun e h =>
    absurd h.length_eq (by decide)
  refine ⟨hentry, by decide, ?_, hnone, ?_⟩
  · rw [hasWords_iff_eq_wordsOf, hwords]
  · intro h
    have hdirective := (h _ _).1 hentry
    rw [hwords] at hdirective
    exact hnone _ hdirective

end Script
end DeviceFeed
