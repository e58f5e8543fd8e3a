import DeviceFeed.Replay
import DeviceFeed.Proofs.Script.Rendering

/-!
# Replaying scripts one after the other

What a script of text gives to a session is what its lines give, one after the
other.  So replaying a script and then another one is replaying them in one piece, if
the first one ends with its last line.  Lines that give nothing may be put anywhere
between the lines of a script: blank ones, comments, and lines that cannot be read.
-/

namespace DeviceFeed
namespace Script

/-! ## What a text gives -/

/-- A text is read to the end, and it gives what its lines give. -/
theorem inputs_encode (text : String) :
    (read (Utf8.encode text)).2 = none ∧
      inputs (Utf8.encode text) = (lines (Utf8.encode text)).filterMap lineInput? := by
  have htext := isText_of_mem_lines text.toList
  rw [String.ofList_toList] at htext
  exact ⟨readFrom_eq_none_iff.2 htext, inputs_readFrom htext 1⟩

theorem inputs_append {first second : String}
    (h : first = "" ∨ first.toList.getLast? = some '\n') :
    inputs (Utf8.encode (first ++ second)) =
      inputs (Utf8.encode first) ++ inputs (Utf8.encode second) := by
  have hfinished : Finished (Utf8.encode first) := by
    apply finished_of_getLast?
    rcases h with rfl | h
    · exact Or.inl rfl
    · obtain ⟨front, hfront⟩ := List.getLast?_eq_some_iff.1 h
      have hfirst : first = String.ofList front ++ String.ofList ['\n'] := by
        rw [← String.ofList_append, ← hfront, String.ofList_toList]
      have hfeed : Utf8.encode (String.ofList ['\n']) = [0x0A] := rfl
      rw [hfirst, Utf8.encode_append, hfeed]
      exact Or.inr List.getLast?_concat
  rw [(inputs_encode _).2, (inputs_encode first).2, (inputs_encode second).2,
    Utf8.encode_append, hfinished.lines_append, List.filterMap_append]

/-- The first line gives what it says, and the rest gives the rest. -/
theorem inputs_line {line : List Char} (hline : '\n' ∉ line) (rest : List Char) :
    inputs (Utf8.encode (String.ofList (line ++ '\n' :: rest))) =
      (input? (String.ofList line)).toList ++ inputs (Utf8.encode (String.ofList rest)) := by
  rw [(inputs_encode _).2, (inputs_encode _).2, lines_encode_append_feed hline,
    List.filterMap_cons, lineInput?_dropReturn_encode]
  cases input? (String.ofList line) with
  | none => rfl
  | some input => rfl

theorem inputs_of_no_feed {line : List Char} (hline : '\n' ∉ line) :
    inputs (Utf8.encode (String.ofList line)) = (input? (String.ofList line)).toList := by
  rw [(inputs_encode _).2, lines_encode_of_no_feed hline]
  by_cases hempty : line = []
  · rw [hempty]
    rfl
  · rw [if_neg hempty, List.filterMap_cons, lineInput?_encode]
    cases input? (String.ofList line) with
    | none => rfl
    | some input => rfl

/-! ## Noise -/

/-- A line that only people read: it is blank, or a comment, or it cannot be read.  A
carriage return at its end is a blank like any other. -/
inductive Noise : List Char → Prop
  | blank {line : List Char} (h : ∀ c ∈ line, Text.isBlank c = true) : Noise line
  | comment {line more : List Char} (h : Text.trim line = '#' :: more) : Noise line
  | unreadable {line : List Char} {defect : Defect}
      (h : Script.entry (String.ofList (Text.trim line)) = .invalid defect) : Noise line

/-- The second text is the first one with noise between its lines, in front of them or
behind the last one.  Only the last line of all may lack its end. -/
inductive Padded : List Char → List Char → Prop
  | same (text : List Char) : Padded text text
  | line {line text padded : List Char} (hline : '\n' ∉ line) (h : Padded text padded) :
      Padded (line ++ '\n' :: text) (line ++ '\n' :: padded)
  | noise {line text padded : List Char} (hnoise : Noise line) (hline : '\n' ∉ line)
      (h : Padded text padded) : Padded text (line ++ '\n' :: padded)
  | unfinished {line : List Char} (hnoise : Noise line) (hline : '\n' ∉ line) : Padded [] line

theorem Noise.input?_eq_none {line : List Char} (h : Noise line) :
    input? (String.ofList line) = none := by
  rw [input?, entry?, String.toList_ofList]
  cases h with
  | blank h =>
      rw [Text.trim_of_blanks h]
      rfl
  | comment h =>
      rw [h]
      rfl
  | unreadable h =>
      cases htrim : Text.trim line with
      | nil => rfl
      | cons c cs =>
          rw [htrim] at h
          split
          · rfl
          · rfl
          · rw [h]
            rfl

/-- Noise gives nothing. -/
theorem Padded.inputs_eq {text padded : List Char} (h : Padded text padded) :
    inputs (Utf8.encode (String.ofList padded)) = inputs (Utf8.encode (String.ofList text)) := by
  induction h with
  | same text => rfl
  | line hline h ih => rw [inputs_line hline, inputs_line hline, ih]
  | noise hnoise hline h ih => rw [inputs_line hline, hnoise.input?_eq_none, ih]; rfl
  | unfinished hnoise hline =>
      rw [inputs_of_no_feed hline, hnoise.input?_eq_none]
      rfl

end Script

/-! ## The replay tool -/

/-- The tool after the entries of a script, as far as the script can be read. -/
def Replay.Progress.replay (p : Progress) (script : Bytes) : Progress :=
  (Script.read script).1.foldl Progress.enter p

/-- The tool gives its session what the script gives, whatever it notes down. -/
theorem Replay.Progress.session_replay (p : Progress) (script : Bytes) :
    (p.replay script).session = p.session.replay script :=
  session_foldl_enter _ p

theorem Replay.replayScript_eq_finish {script : Bytes} (h : (Script.read script).2 = none)
    (s : Session Attended) (config : Config) :
    replayScript s config script = finish (Progress.replay ⟨s, #[.configured config]⟩ script) := by
  simp only [replayScript, h, Progress.replay]

namespace Script

/-! ## Composition -/

/-- A script and what follows its last line can be replayed in one piece or one after
the other, and noise between the lines of a script makes no difference.  This holds of
the publisher, the counters and the tracking of every session, and so of what the tool
goes through when it replays a text. -/
theorem replay_composes {first second text padded : String}
    (hend : first = "" ∨ first.toList.getLast? = some '\n')
    (hpadded : Padded text.toList padded.toList) :
    (∀ {P : Type} [Publisher P] (s : Session P),
        s.replay (Utf8.encode (first ++ second)) =
            (s.replay (Utf8.encode first)).replay (Utf8.encode second) ∧
          s.replay (Utf8.encode padded) = s.replay (Utf8.encode text)) ∧
      (∀ p : Replay.Progress,
        (p.replay (Utf8.encode (first ++ second))).session =
            ((p.replay (Utf8.encode first)).replay (Utf8.encode second)).session ∧
          (p.replay (Utf8.encode padded)).session = (p.replay (Utf8.encode text)).session) ∧
      ∀ (s : Session Attended) (config : Config) (any : String),
        Replay.replayScript s config (Utf8.encode any) =
          Replay.finish (Replay.Progress.replay ⟨s, #[.configured config]⟩ (Utf8.encode any)) := by
  have hsession {P : Type} [Publisher P] (s : Session P) :
      s.replay (Utf8.encode (first ++ second)) =
          (s.replay (Utf8.encode first)).replay (Utf8.encode second) ∧
        s.replay (Utf8.encode padded) = s.replay (Utf8.encode text) := by
    constructor
    · rw [Session.replay, inputs_append hend]
      exact List.foldl_append
    · have hinputs := hpadded.inputs_eq
      rw [String.ofList_toList, String.ofList_toList] at hinputs
      rw [Session.replay, hinputs, Session.replay]
  refine ⟨hsession, ?_, ?_⟩
  · intro p
    obtain ⟨happend, hnoise⟩ := hsession p.session
    simp only [Replay.Progress.session_replay]
    exact ⟨happend, hnoise⟩
  · intro s config any
    exact Replay.replayScript_eq_finish (inputs_encode any).1 s config

/-- The first script retargets, and the second one has a comment and a line with an odd
digit in front of its only frame, a reading of the device that is now followed. -/
theorem replay_composes_around_noise :
    let first := "track 7\r\n"
    let text := "14 00 01 37"
    let padded := "  # live\r\n14 0\n14 00 01 37"
    let s : Session Collector :=
      { processor := { dispatcher := {}, maxBody := 64, publisher := {} } }
    let after := s.replay (Utf8.encode (first ++ padded))
    (first = "" ∨ first.toList.getLast? = some '\n') ∧ Padded text.toList padded.toList ∧
      after = (s.replay (Utf8.encode first)).replay (Utf8.encode text) ∧
      after.processor.publisher.events.toList =
        [.response 1 20 none ["7"], .telemetry (some 7) none none] ∧
      after.processor.stats = { frames := 1, events := 2 } ∧
      after.tracking = { deviceId := some 7 } := by
  intro first text padded s after
  have hend : first = "" ∨ first.toList.getLast? = some '\n' := by decide
  have hcomment : Noise "  # live\r".toList := @Noise.comment _ " live".toList (by decide)
  have hodd : Noise "14 0".toList := @Noise.unreadable _ (.oddDigits 3) (by decide)
  have hlines : padded.toList =
      "  # live\r".toList ++ '\n' :: ("14 0".toList ++ '\n' :: text.toList) := by decide
  have hpadded : Padded text.toList padded.toList := by
    rw [hlines]
    exact .noise hcomment (by decide) (.noise hodd (by decide) (.same _))
  obtain ⟨hsession, -, -⟩ := @replay_composes first padded text padded hend hpadded
  obtain ⟨happend, -⟩ := hsession s
  obtain ⟨-, hnoise⟩ := hsession (s.replay (Utf8.encode first))
  have hevents : after.processor.publisher.events.toList =
      [.response 1 20 none ["7"], .telemetry (some 7) none none] := by decide +kernel
  have hstats : after.processor.stats = { frames := 1, events := 2 } := by decide +kernel
  have htracking : after.tracking = { deviceId := some 7 } := by decide +kernel
  exact ⟨hend, hpadded, happend.trans hnoise, hevents, hstats, htracking⟩

end Script
end DeviceFeed
