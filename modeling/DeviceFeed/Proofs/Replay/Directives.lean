import DeviceFeed.Proofs.CommandLine
import DeviceFeed.Proofs.Replay.Accounting

/-!
# Tracking options and directives

A replay can start with a choice of tracking, or the script can begin with two lines
that make the choice.  A session is the same after the two lines as if it had started
with the choice, so both ways count the same and publish the same events.
-/

namespace DeviceFeed

/-! ## The two lines -/

namespace Script

/-- What follows `track` in a line that chooses a device. -/
def deviceWord : Option Int64 → String
  | none => "off"
  | some id => Text.signedDecimal id.toInt

def switchWord (only : Bool) : String :=
  if only then "on" else "off"

/-- The two lines that choose the tracking. -/
def directives (id : Option Int64) (only : Bool) : String :=
  "track " ++ deviceWord id ++ "\n" ++ ("track-only " ++ switchWord only ++ "\n")

theorem renders_directives (id : Option Int64) (only : Bool) :
    Renders [.track id, .trackOnly only] (directives id only).toList := by
  have hword : Item.words? (.track id) = some ("track", deviceWord id) := by
    cases id with
    | none => rfl
    | some id => rfl
  have hline {item : Item} {first second : String} (h : item.words? = some (first, second)) :
      Line item (first.toList ++ [' '] ++ second.toList) := by
    have hgap : ∀ c ∈ [' '], isPadding c = true := by
      intro c hc
      obtain rfl := List.mem_singleton.1 hc
      rfl
    have hchange := @Line.change item first second h [] [' '] [] nofun hgap
      (List.cons_ne_nil _ _) nofun
    rwa [List.nil_append, List.append_nil] at hchange
  have hswitch : Item.words? (.trackOnly only) = some ("track-only", switchWord only) := rfl
  have hrenders := Renders.cons (hline hword) (Or.inl rfl)
    (Renders.cons (hline hswitch) (Or.inl rfl) .nil)
  rw [List.append_nil] at hrenders
  simp only [directives, String.toList_append]
  exact hrenders

/-- The two lines give two changes of tracking, and the rest of the script follows. -/
theorem inputs_directives (id : Option Int64) (only : Bool) (text : String) :
    inputs (Utf8.encode (directives id only ++ text)) =
      .retarget (.follow id) :: .retarget (.setOnly only) :: inputs (Utf8.encode text) := by
  have hend : (directives id only).toList.getLast? = some '\n' := by
    rw [directives, ← String.append_assoc, String.toList_append]
    exact List.getLast?_concat
  have hlines := (renders_directives id only).inputs_eq
  rw [String.ofList_toList] at hlines
  rw [inputs_append (Or.inr hend), hlines]
  rfl

end Script

namespace Replay

/-- After the two lines, a session is where it had started with the options. -/
theorem replay_directives {P : Type} [Publisher P] (options : Options) (config : Config)
    (d : Dispatcher) (publisher : P) (id : Option Int64) (only : Bool) (text : String) :
    (session options config d publisher).replay
        (Utf8.encode (Script.directives id only ++ text)) =
      (session (options.withTracking id only) config d publisher).replay (Utf8.encode text) := by
  rw [Session.replay, Script.inputs_directives]
  rfl

/-! ## Two replays -/

/-- The same files give the same settings. -/
theorem settings_withTracking {files others : String → Source} {options : Options}
    (h : ∀ name, options.config = some name → others name = files name) (id : Option Int64)
    (only : Bool) :
    settings others options = settings files (options.withTracking id only) := by
  unfold settings Options.withTracking
  cases hconfig : options.config with
  | none => rfl
  | some name => simp only [h name hconfig]

end Replay

namespace Outcome

/-- How many events a replay has lost. -/
def lost : Outcome → Nat
  | replayed _ _ lost _ => lost
  | _ => 0

/-- Two calls end alike, show the same on the standard error behind the log, and print
the same if neither has lost an event. -/
structure Agree (first second : Outcome) : Prop where
  exitCode : first.exitCode = second.exitCode
  closing : first.closing = second.closing
  stdout : first.lost = 0 → second.lost = 0 → first.stdout = second.stdout

theorem Agree.of_eq {first second : Outcome} (h : first = second) : first.Agree second := by
  rw [h]
  exact ⟨rfl, rfl, fun _ _ => rfl⟩

end Outcome

namespace Replay

variable {files others : String → Source} {input other : Source} {options : Options}
  {id : Option Int64} {only : Bool} {text : String}

theorem Prepared.agree {config : Config} {d : Dispatcher} {channel : Channel}
    (hfirst : Prepared files input (options.withTracking id only) config d channel
      (Utf8.encode text))
    (hsecond : Prepared others other options config d channel
      (Utf8.encode (Script.directives id only ++ text)))
    (printer another : Printer) :
    (run files input printer (options.withTracking id only)).Agree
      (run others other another options) := by
  obtain ⟨notices, hrun⟩ := hfirst.exists_outcome printer
  obtain ⟨more, hother⟩ := hsecond.exists_outcome another
  obtain ⟨-, -, hall⟩ := session_accounts hfirst.channel (options.withTracking id only)
    config d printer (Utf8.encode text)
  obtain ⟨-, -, hevery⟩ := session_accounts hsecond.channel options config d another
    (Utf8.encode (Script.directives id only ++ text))
  have hstats := stats_replay options config d (attended another channel)
    (attended printer channel) (Utf8.encode (Script.directives id only ++ text))
  rw [replay_directives options config d (attended printer channel)] at hstats
  rw [replay_directives options config d ({} : Collector)] at hevery
  rw [hrun, hother]
  constructor
  · rfl
  · simp only [Outcome.closing, hstats]
  · intro hkept hsaved
    simp only [Outcome.lost] at hkept hsaved
    simp only [Outcome.stdout, Outcome.output, hall hkept, hevery hsaved]

/-- A replay of a text with the options agrees with a replay without them of the two
lines and the text. -/
theorem run_directives
    (hconfig : ∀ name, options.config = some name → others name = files name)
    (hinput : options.input.elim input files = .file (Utf8.encode text))
    (hother : options.input.elim other others =
      .file (Utf8.encode (Script.directives id only ++ text)))
    (printer another : Printer) :
    (run files input printer (options.withTracking id only)).Agree
      (run others other another options) := by
  have hsettings := settings_withTracking hconfig id only
  have hcapacity : Channel.new (max (options.withTracking id only).capacity 1) =
      Channel.new (max options.capacity 1) := rfl
  cases hfound : settings files (options.withTracking id only) with
  | error error =>
      apply Outcome.Agree.of_eq
      simp only [run, hsettings, hfound]
  | ok config =>
      cases hchannel : Channel.new (max options.capacity 1) with
      | error error =>
          apply Outcome.Agree.of_eq
          simp only [run, hsettings, hfound, hcapacity, hchannel]
      | ok channel =>
          cases hd : Dispatcher.ofConfig config with
          | error clash =>
              apply Outcome.Agree.of_eq
              simp only [run, hsettings, hfound, hcapacity, hchannel, start_eq_error hd]
          | ok d =>
              have hfirst : Prepared files input (options.withTracking id only) config d channel
                  (Utf8.encode text) :=
                ⟨hfound, hd, hchannel, congrArg Source.content hinput, (Script.inputs_encode _).1⟩
              have hsecond : Prepared others other options config d channel
                  (Utf8.encode (Script.directives id only ++ text)) :=
                ⟨hsettings.trans hfound, hd, hchannel, congrArg Source.content hother,
                  (Script.inputs_encode _).1⟩
              exact hfirst.agree hsecond printer another

/-- Options that choose the tracking mean the two directives.  Given arguments that
choose none, the options can be put in front of them.  Any arguments that ask for the
same replay with the choice, on any text, agree with the arguments without it on the two
lines and the text, wherever the text comes from and whenever the printers take their
events. -/
theorem options_mean_directives (id : Option Int64) (only : Bool) {plain : List String}
    {options : Options} (hplain : CommandLine.request? plain = some (.replay options))
    (hdevice : options.trackDevice = none) (honly : options.trackOnly = false) :
    CommandLine.request? (CommandLine.trackingOptions id only ++ plain) =
        some (.replay (options.withTracking id only)) ∧
      ∀ {chosen : List String},
        CommandLine.request? chosen = some (.replay (options.withTracking id only)) →
          ∀ (files others : String → Source) (input other : Source) (text : String),
            (∀ name, options.config = some name → others name = files name) →
            options.input.elim input files = .file (Utf8.encode text) →
            options.input.elim other others =
              .file (Utf8.encode (Script.directives id only ++ text)) →
            ∀ printer another : Printer,
              (call files input printer chosen).Agree (call others other another plain) := by
  refine ⟨CommandLine.request?_trackingOptions hplain hdevice honly id only, ?_⟩
  intro chosen hchosen files others input other text hconfig hinput hother printer another
  have hagree := run_directives hconfig hinput hother printer another
  rw [call, call, hchosen, hplain]
  exact hagree

/-- The device -7 is followed strictly, so of two readings the one of device 7 is held back and
the other is printed, in both ways. -/
theorem options_mean_directives_for_negative_id :
    let text := "14 00 01 37\n14 00 02 2d 37\n"
    let directives := "track -7\ntrack-only on\n"
    let chosen := ["--track-device=-7", "--track-only", "--debug"]
    let first := call (fun _ => .missing) (.file (Utf8.encode text)) promptPrinter chosen
    let second := call (fun _ => .missing) (.file (Utf8.encode (directives ++ text)))
      promptPrinter ["--debug"]
    let printed :=
      "\x7b\"response\":\x7b\"id\":2,\"command\":20,\"response_code\":null," ++
        "\"body\":[\"-7\"]\x7d\x7d\n" ++
        "\x7b\"telemetry\":\x7b\"device_id\":-7,\"pin\":null,\"value\":null\x7d\x7d\n"
    let counted :=
      "\x7b\"frames\":2,\"malformed\":0,\"invalid_encoding\":0,\"unknown_commands\":0," ++
        "\"suppressed\":1,\"events\":2\x7d"
    CommandLine.request? ["--debug"] = some (.replay { debug := true }) ∧
      CommandLine.request? chosen =
        some (.replay { trackDevice := some (-7), trackOnly := true, debug := true }) ∧
      first.Agree second ∧ first.lost = 0 ∧ second.lost = 0 ∧
      first.stdout = printed ∧ first.closing = counted ∧
      second.stdout = printed ∧ second.closing = counted := by
  intro text directives chosen first second printed counted
  have hword : Text.signedDecimal (-7 : Int64).toInt = "-7" :=
    @Text.signedDecimal_neg_of_lt 7 (by decide) (by decide)
  have hdirectives : Script.directives (some (-7)) true = directives := by
    rw [Script.directives, Script.deviceWord, hword]
    rfl
  have hchosen : CommandLine.trackingOptions (some (-7)) true ++ ["--debug"] = chosen := by
    rw [CommandLine.trackingOptions, Option.map_some, hword]
    rfl
  have hplain : CommandLine.request? ["--debug"] = some (.replay { debug := true }) := by decide
  obtain ⟨hrequest, hagree⟩ := options_mean_directives (some (-7)) true hplain rfl rfl
  have hsource : Source.file (Utf8.encode (directives ++ text)) =
      .file (Utf8.encode (Script.directives (some (-7)) true ++ text)) := by
    rw [hdirectives]
  have hsame := hagree hrequest (fun _ => .missing) (fun _ => .missing) (.file (Utf8.encode text))
    (.file (Utf8.encode (directives ++ text))) text (fun _ _ => rfl) rfl hsource promptPrinter
    promptPrinter
  rw [hchosen] at hrequest hsame
  have hkept : first.lost = 0 := by decide +kernel
  have hsaved : second.lost = 0 := by decide +kernel
  have hprinted : first.stdout = printed := by decide +kernel
  have hcounted : first.closing = counted := by decide +kernel
  exact ⟨hplain, hrequest, hsame, hkept, hsaved, hprinted, hcounted,
    (hsame.stdout hkept hsaved).symm.trans hprinted, hsame.closing.symm.trans hcounted⟩

end Replay
end DeviceFeed
