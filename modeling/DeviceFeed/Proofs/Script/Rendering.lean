import DeviceFeed.Replay
import DeviceFeed.Proofs.Script.Frames

/-!
# Replaying a rendered script

Frames and changes of tracking can be written as a script in many ways: with letters
of either size, with blanks between digits and around lines, and with either end of
a line.  `Renders` lists them.  Whatever way is taken, the script is read as the
items that were written, so replaying it gives them to the session directly.
-/

namespace DeviceFeed
namespace Script

/-! ## Items and their renderings -/

/-- What is written into a script. -/
inductive Item where
  | frame (raw : Bytes) (nonempty : raw ≠ [])
  | track (id : Option Int64)
  | trackOnly (only : Bool)

namespace Item

/-- The direct call for an item. -/
def input : Item → Input
  | frame raw _ => .ingest raw
  | track id => .retarget (.follow id)
  | trackOnly only => .retarget (.setOnly only)

def entry : Item → Entry
  | frame raw _ => .frame raw
  | track id => .track id
  | trackOnly only => .trackOnly only

/-- The two words of a change of tracking. -/
def words? : Item → Option (String × String)
  | frame _ _ => none
  | track none => some ("track", "off")
  | track (some id) => some ("track", Text.signedDecimal id.toInt)
  | trackOnly only => some ("track-only", if only then "on" else "off")

end Item

/-- A character that may stand around words and digits. -/
def isPadding (c : Char) : Bool :=
  c == ' ' || c == '\t'

/-- The line says the item: the digits of a frame with padding anywhere, or two words
with padding around them. -/
inductive Line : Item → List Char → Prop
  | frame {raw : Bytes} {nonempty : raw ≠ []} {line : List Char}
      (hdigits : Text.SpellsBytes (line.filter fun c => !isPadding c) raw) :
      Line (.frame raw nonempty) line
  | change {item : Item} {first second : String} (hwords : item.words? = some (first, second))
      {front gap back : List Char} (hfront : ∀ c ∈ front, isPadding c = true)
      (hgap : ∀ c ∈ gap, isPadding c = true) (hne : gap ≠ [])
      (hback : ∀ c ∈ back, isPadding c = true) :
      Line item (front ++ (first.toList ++ gap ++ second.toList) ++ back)

/-- The text says the items, one a line.  The last line may lack its end. -/
inductive Renders : List Item → List Char → Prop
  | nil : Renders [] []
  | last {item : Item} {line : List Char} (hline : Line item line) : Renders [item] line
  | cons {item : Item} {items : List Item} {line ending rest : List Char}
      (hline : Line item line) (hending : ending = ['\n'] ∨ ending = ['\r', '\n'])
      (hrest : Renders items rest) : Renders (item :: items) (line ++ ending ++ rest)

/-! ## One line -/

theorem isBlank_of_isPadding {c : Char} (h : isPadding c = true) : Text.isBlank c = true := by
  have hc : c = ' ' ∨ c = '\t' := by simpa [isPadding] using h
  rcases hc with rfl | rfl
  · rfl
  · rfl

theorem isBlank_of_mem_signedDecimal {i : Int} {c : Char} (h : c ∈ (Text.signedDecimal i).toList) :
    Text.isBlank c = false := by
  have hdigit : c = '-' ∨ Text.isDigit c = true := by
    unfold Text.signedDecimal at h
    split at h
    · rw [String.toList_append, List.mem_append] at h
      rcases h with h | h
      · exact Or.inl (List.mem_singleton.1 h)
      · rw [Text.decimal, String.toList_ofList] at h
        exact Or.inr ((Text.decimalDigits_read _).1 c h)
    · rw [Text.decimal, String.toList_ofList] at h
      exact Or.inr ((Text.decimalDigits_read _).1 c h)
  rcases hdigit with rfl | hdigit
  · decide
  · exact Text.isBlank_of_isDigit hdigit

theorem isBlank_of_mem_word {word : String}
    (h : word ∈ ["track", "track-only", "on", "off"]) :
    word.toList ≠ [] ∧ ∀ c ∈ word.toList, Text.isBlank c = false ∧ c ≠ '#' := by
  have hall : ["track", "track-only", "on", "off"].all (fun word => word.toList ≠ [] ∧
      word.toList.all fun c => Text.isBlank c = false ∧ c ≠ '#') = true := by decide
  have hword := List.all_eq_true.1 hall word h
  simpa only [decide_eq_true_eq, List.all_eq_true] using hword

/-- The words of a change are words, and the first one does not open a comment. -/
theorem Item.words?_sound {item : Item} {first second : String}
    (h : item.words? = some (first, second)) :
    (first.toList ≠ [] ∧ ∀ c ∈ first.toList, Text.isBlank c = false ∧ c ≠ '#') ∧
      second.toList ≠ [] ∧ ∀ c ∈ second.toList, Text.isBlank c = false := by
  have hkeyword : second ∈ ["track", "track-only", "on", "off"] →
      second.toList ≠ [] ∧ ∀ c ∈ second.toList, Text.isBlank c = false := by
    intro hsecond
    obtain ⟨hne, hword⟩ := isBlank_of_mem_word hsecond
    exact ⟨hne, fun c hc => (hword c hc).1⟩
  cases item with
  | frame raw nonempty => cases h
  | trackOnly only =>
      cases h
      refine ⟨isBlank_of_mem_word (by decide), hkeyword ?_⟩
      cases only <;> decide
  | track id =>
      cases id with
      | none =>
          cases h
          exact ⟨isBlank_of_mem_word (by decide), hkeyword (by decide)⟩
      | some id =>
          cases h
          refine ⟨isBlank_of_mem_word (by decide), ?_, fun c hc => ?_⟩
          · intro hnil
            have hread := Numeral.integer?_signedDecimal id.toInt
            rw [hnil] at hread
            cases hread
          · exact isBlank_of_mem_signedDecimal hc

/-- The two words of a change are a directive. -/
theorem Item.directive_of_words? {item : Item} {first second : String}
    (h : item.words? = some (first, second)) : Directive [first, second] item.entry := by
  cases item with
  | frame raw nonempty => cases h
  | trackOnly only =>
      cases h
      cases only with
      | true => exact .only
      | false => exact .every
  | track id =>
      cases id with
      | none =>
          cases h
          exact .release
      | some id =>
          cases h
          refine .follow (spellsId_iff.2 ?_)
          rw [Numeral.integer?_signedDecimal]
          exact int64?_toInt id

/-- The two words of a change are read as the change. -/
theorem entry_of_words {line : String} {item : Item} {first second : String}
    (hitem : item.words? = some (first, second)) (hwords : wordsOf line = [first, second]) :
    Script.entry line = item.entry := by
  apply entry_of_directive
  rw [hwords]
  exact item.directive_of_words? hitem

/-- All blanks of a line are padding. -/
theorem Line.isPadding_of_isBlank {item : Item} {line : List Char} (h : Line item line) {c : Char}
    (hc : c ∈ line) (hblank : Text.isBlank c = true) : isPadding c = true := by
  cases h with
  | frame hdigits =>
      rw [← Bool.not_eq_false]
      intro hother
      have hmem : c ∈ Text.hexAlphabet := by
        apply hdigits.mem_hexAlphabet
        rw [List.mem_filter, hother]
        exact ⟨hc, rfl⟩
      rw [(Text.ascii_of_mem_hexAlphabet hmem).2.2] at hblank
      cases hblank
  | change hwords hfront hgap hne hback =>
      obtain ⟨⟨-, hfirst⟩, -, hsecond⟩ := Item.words?_sound hwords
      simp only [List.mem_append] at hc
      rcases hc with (hc | (hc | hc) | hc) | hc
      · exact hfront c hc
      · rw [(hfirst c hc).1] at hblank
        cases hblank
      · exact hgap c hc
      · rw [hsecond c hc] at hblank
        cases hblank
      · exact hback c hc

theorem Line.ne_nil {item : Item} {line : List Char} (h : Line item line) : line ≠ [] := by
  cases h with
  | @frame raw nonempty line hdigits =>
      rintro rfl
      cases hdigits
      exact nonempty rfl
  | change hwords hfront hgap hne hback =>
      obtain ⟨⟨hfirst, -⟩, -⟩ := Item.words?_sound hwords
      intro hnil
      simp only [List.append_eq_nil_iff] at hnil
      exact hfirst hnil.1.2.1.1

/-- A line is read as the item that it says. -/
theorem Line.read_eq {item : Item} {line : List Char} (h : Line item line) :
    entry? (String.ofList line) = some item.entry := by
  have hpadding : ∀ c ∈ line, Text.isBlank c = true → c = ' ' ∨ c = '\t' := by
    intro c hc hblank
    simpa [isPadding] using h.isPadding_of_isBlank hc hblank
  cases h with
  | @frame raw nonempty line hdigits =>
      have hsame : (line.filter fun c => !Text.isBlank c) = line.filter fun c => !isPadding c := by
        apply List.filter_congr
        intro c hc
        congr 1
        rw [Bool.eq_iff_iff]
        constructor
        · intro hblank
          simpa [isPadding] using hpadding c hc hblank
        · exact isBlank_of_isPadding
      rw [← hsame] at hdigits
      exact read_of_spelled hdigits hpadding nonempty
  | @change item first second hwords front gap back hfront hgap hne hback =>
      obtain ⟨⟨hfirst, hword⟩, hsecond, hother⟩ := Item.words?_sound hwords
      have hblanks {cs : List Char} (hcs : ∀ c ∈ cs, isPadding c = true) :
          ∀ c ∈ cs, Text.isBlank c = true :=
        fun c hc => isBlank_of_isPadding (hcs c hc)
      obtain ⟨c, cs, hcons⟩ := List.exists_cons_of_ne_nil hfirst
      obtain ⟨hc, hhash⟩ := hword c (hcons ▸ List.mem_cons_self)
      have htrim : Text.trim (front ++ (first.toList ++ gap ++ second.toList) ++ back) =
          first.toList ++ gap ++ second.toList := by
        apply Text.trim_append (hblanks hfront) _ _ (hblanks hback)
        · intro d hd
          rw [hcons] at hd
          cases hd
          exact hc
        · intro d hd
          rw [List.getLast?_append_of_ne_nil _ hsecond] at hd
          exact hother d (List.mem_of_getLast? hd)
      have hsplit : wordsOf (String.ofList (first.toList ++ gap ++ second.toList)) =
          [first, second] := by
        rw [wordsOf, String.toList_ofList, Text.words_append_word hfirst (fun d hd => (hword d hd).1) hne
          (hblanks hgap), Text.words_of_word hsecond hother]
        simp only [List.map_cons, List.map_nil, String.ofList_toList]
      have hentry := entry_of_words hwords hsplit
      unfold entry?
      rw [String.toList_ofList, htrim, ← hentry, hcons]
      -- the first character is neither missing nor a comment mark
      split
      · next heq => cases heq
      · next heq => exact absurd (List.cons.inj heq).1 hhash
      · rfl

/-! ## Whole scripts -/

theorem Line.not_mem_encode {item : Item} {line : List Char} (h : Line item line) :
    0x0A ∉ Utf8.encode (String.ofList line) ∧ 0x0D ∉ Utf8.encode (String.ofList line) := by
  have hother (c : Char) (hblank : Text.isBlank c = true) (hend : isPadding c = false) :
      c ∉ line := by
    intro hc
    rw [h.isPadding_of_isBlank hc hblank] at hend
    cases hend
  constructor
  · apply Utf8.not_mem_encode (by decide)
    intro c hc hvalue
    obtain rfl : c = '\n' := Char.toNat_inj.1 hvalue
    exact hother _ rfl rfl hc
  · apply Utf8.not_mem_encode (by decide)
    intro c hc hvalue
    obtain rfl : c = '\r' := Char.toNat_inj.1 hvalue
    exact hother _ rfl rfl hc

/-- The first line of a rendered script is followed by the lines of the rest. -/
theorem Line.lines_append {item : Item} {line ending : List Char} (h : Line item line)
    (hending : ending = ['\n'] ∨ ending = ['\r', '\n']) (rest : List Char) :
    lines (Utf8.encode (String.ofList (line ++ ending ++ rest))) =
      Utf8.encode (String.ofList line) :: lines (Utf8.encode (String.ofList rest)) := by
  obtain ⟨hfeed, hreturn⟩ := h.not_mem_encode
  rw [String.ofList_append, String.ofList_append, Utf8.encode_append, Utf8.encode_append]
  rcases hending with rfl | rfl
  · have hend : Utf8.encode (String.ofList ['\n']) = [0x0A] := by decide
    rw [hend, List.append_assoc, List.singleton_append, lines_append_feed hfeed,
      dropReturn_of_no_return hreturn]
  · have hend : Utf8.encode (String.ofList ['\r', '\n']) = [0x0D] ++ [0x0A] := by decide
    have hboth : 0x0A ∉ Utf8.encode (String.ofList line) ++ [0x0D] := by
      simpa using hfeed
    rw [hend, ← List.append_assoc, List.append_assoc, List.singleton_append,
      lines_append_feed hboth, dropReturn_append]

/-- A rendered script is read as the items that it says, to the end. -/
theorem Renders.readFrom_eq {items : List Item} {text : List Char} (h : Renders items text)
    (number : Nat) :
    (readFrom number (lines (Utf8.encode (String.ofList text)))).2 = none ∧
      (readFrom number (lines (Utf8.encode (String.ofList text)))).1.map Prod.snd =
        items.map Item.entry := by
  induction h generalizing number with
  | nil => exact ⟨rfl, rfl⟩
  | last hline =>
      rw [lines_of_no_feed hline.not_mem_encode.1 (Utf8.encode_ne_nil hline.ne_nil),
        readFrom_cons [] hline.read_eq]
      exact ⟨rfl, rfl⟩
  | cons hline hending hrest ih =>
      obtain ⟨hfault, hentries⟩ := ih (number + 1)
      rw [hline.lines_append hending, readFrom_cons _ hline.read_eq]
      exact ⟨hfault, congrArg (_ :: ·) hentries⟩

theorem Renders.inputs_eq {items : List Item} {text : List Char} (h : Renders items text) :
    inputs (Utf8.encode (String.ofList text)) = items.map Item.input := by
  obtain ⟨-, hentries⟩ := h.readFrom_eq 1
  have hinput : Entry.input? ∘ Item.entry = fun item => some item.input := by
    funext item
    cases item <;> rfl
  change (read _).1.filterMap (Entry.input? ∘ Prod.snd) = _
  rw [← List.filterMap_map]
  change ((readFrom 1 _).1.map Prod.snd).filterMap Entry.input? = _
  rw [hentries, List.filterMap_map, hinput, List.filterMap_eq_map']

end Script

/-! ## Replays -/

/-- The driver gives the session what the entries say, whatever it notes down. -/
theorem Replay.Progress.session_foldl_enter (entries : List (Nat × Entry)) (p : Progress) :
    (entries.foldl Progress.enter p).session =
      p.session.feed (entries.filterMap fun item => item.2.input?) := by
  induction entries generalizing p with
  | nil => rfl
  | cons item entries ih =>
      rw [List.foldl_cons, ih, List.filterMap_cons, Progress.enter]
      cases item.2.input? with
      | none => rfl
      | some input => rfl

namespace Script

/-- Replaying a script gives the session exactly the items that were written into the
script, in whatever way they were written, and no script has a frame without bytes. -/
theorem replay_renders {items : List Item} {text : List Char} (h : Renders items text) :
    let script := Utf8.encode (String.ofList text)
    (read script).2 = none ∧
      (∀ {P : Type} [Publisher P] (s : Session P),
        s.replay script = s.feed (items.map Item.input)) ∧
      (∀ (s : Session Attended) (config : Config), ∃ notices,
        Replay.replayScript s config script =
          Replay.finish ⟨s.feed (items.map Item.input), notices⟩) ∧
      ∀ other : Bytes, ∀ item ∈ (read other).1, item.2 ≠ .frame [] := by
  intro script
  obtain ⟨hfault, -⟩ := h.readFrom_eq 1
  refine ⟨hfault, ?_, ?_, read_ne_empty_frame⟩
  · intro P _ s
    rw [Session.replay, h.inputs_eq]
  · intro s config
    let progress := (read script).1.foldl Replay.Progress.enter ⟨s, #[.configured config]⟩
    have hsession : progress.session = s.feed (items.map Item.input) := by
      rw [← h.inputs_eq]
      exact Replay.Progress.session_foldl_enter _ _
    have hscript : Replay.replayScript s config script = Replay.finish progress := by
      have hread : (read script).2 = none := hfault
      simp only [Replay.replayScript, hread]
      rfl
    exact ⟨progress.notices, by rw [hscript, ← hsession]⟩

/-- A frame with a blank inside a byte and letters of both sizes, a change between
other blanks, both ends of a line, and no end of the last one.  That line is a reading of
another device than the one that the changes follow, so it is held back. -/
theorem replay_renders_mixed_layout :
    let items : List Item :=
      [.frame [0x14, 0x00, 0xAB] (by decide), .track (some (-7)), .trackOnly true,
        .frame [0x14, 0x00, 0x0C, 0x37] (by decide)]
    let text := " 1 4\t00 aB\r\n\ttrack  -7 \ntrack-only on\n14 00 0C37".toList
    let s : Session Collector :=
      { processor := { dispatcher := {}, maxBody := 64, publisher := {} } }
    let after := s.replay (Utf8.encode (String.ofList text))
    Renders items text ∧
      after = s.feed [.ingest [0x14, 0x00, 0xAB], .retarget (.follow (some (-7))),
        .retarget (.setOnly true), .ingest [0x14, 0x00, 0x0C, 0x37]] ∧
      after.processor.publisher.events.toList =
        [.response 171 20 none [""], .telemetry none none none] ∧
      after.processor.stats = { frames := 2, suppressed := 1, events := 2 } ∧
      after.tracking = .strict (-7) := by
  intro items text s after
  have hframe : Line items[0] " 1 4\t00 aB".toList :=
    .frame (.cons (by decide) (by decide) (.cons (by decide) (by decide)
      (.cons (by decide) (by decide) .nil)))
  have hnumber : Text.signedDecimal (-7) = "-7" :=
    @Text.signedDecimal_neg_of_lt 7 (by decide) (by decide)
  have hwords : items[1].words? = some ("track", "-7") :=
    congrArg (fun word => some ("track", word)) hnumber
  have htrack : Line items[1] ("\t".toList ++ ("track".toList ++ "  ".toList ++ "-7".toList) ++
      " ".toList) :=
    .change hwords (List.all_eq_true.1 rfl) (List.all_eq_true.1 rfl) (by decide)
      (List.all_eq_true.1 rfl)
  have honly : Line items[2] ([] ++ ("track-only".toList ++ " ".toList ++ "on".toList) ++ []) :=
    .change rfl (List.all_eq_true.1 rfl) (List.all_eq_true.1 rfl) (by decide)
      (List.all_eq_true.1 rfl)
  have hreading : Line items[3] "14 00 0C37".toList :=
    .frame (.cons (by decide) (by decide) (.cons (by decide) (by decide)
      (.cons (by decide) (by decide) (.cons (by decide) (by decide) .nil))))
  have hrenders : Renders items text :=
    .cons hframe (Or.inr rfl) (.cons htrack (Or.inl rfl) (.cons honly (Or.inl rfl)
      (.last hreading)))
  obtain ⟨-, hreplay, -⟩ := replay_renders hrenders
  have hevents : after.processor.publisher.events.toList =
      [.response 171 20 none [""], .telemetry none none none] := by decide +kernel
  have hstats : after.processor.stats = { frames := 2, suppressed := 1, events := 2 } := by
    decide +kernel
  have htracking : after.tracking = .strict (-7) := by decide +kernel
  exact ⟨hrenders, hreplay s, hevents, hstats, htracking⟩

end Script
end DeviceFeed
