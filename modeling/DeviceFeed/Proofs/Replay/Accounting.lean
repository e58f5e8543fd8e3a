import DeviceFeed.Proofs.Replay.Printing
import DeviceFeed.Proofs.Script.Composition
import DeviceFeed.Proofs.Session.Conservation
import DeviceFeed.Proofs.Session.Independence

/-!
# What a replay accounts for

The tool counts in several places: the processor counts frames and events, the channel
counts what it loses, and the printer prints the rest.  `Replay.Prepared` lists what a
replay needs, and a call that succeeds has found all of it.  Whenever the printer takes
its events, the counters are those of a session that collects the events instead, and
what is printed is what was collected apart from what was lost.
-/

namespace DeviceFeed

open Channel (Act)

/-! ## The frames of a script -/

namespace Script

/-- The bytes of the frame that a line spells, if it is text and parses as a frame. -/
def frame? (line : Bytes) : Option Bytes :=
  match Utf8.decode line with
  | .error _ => none
  | .ok text =>
    match entry? text with
    | some (.frame raw) => some raw
    | _ => none

theorem raw?_lineInput? (line : Bytes) :
    (lineInput? line).bind Input.raw? = frame? line := by
  unfold lineInput? frame?
  cases Utf8.decode line with
  | error fault => rfl
  | ok text =>
      simp only [input?]
      cases entry? text with
      | none => rfl
      | some e => cases e <;> rfl

/-- A script that is read to the end brings the frames of its lines. -/
theorem filterMap_raw?_inputs {script : Bytes} (h : (read script).2 = none) :
    ((inputs script).map Step.input).filterMap Step.raw? = (lines script).filterMap frame? := by
  have hinputs : inputs script = (lines script).filterMap lineInput? :=
    inputs_readFrom (readFrom_eq_none_iff.1 h) 1
  rw [hinputs, List.filterMap_map, List.filterMap_filterMap]
  exact congrArg (List.filterMap · (lines script)) (funext raw?_lineInput?)

end Script

namespace Replay

/-! ## Successful calls -/

/-- The session of the tool, with any publisher. -/
def session {P : Type} (options : Options) (config : Config) (d : Dispatcher) (publisher : P) :
    Session P :=
  Session.start d config.maxBody.toNat options.tracking .shared publisher

/-- The channel from the decoder to a printer. -/
def attended (printer : Printer) (channel : Channel) : Attended :=
  { channel := channel, schedule := fun number => [.take (printer number)] }

/-- All that a replay needs has been found. -/
structure Prepared (files : String → Source) (input : Source) (options : Options)
    (config : Config) (d : Dispatcher) (channel : Channel) (script : Bytes) : Prop where
  settings : settings files options = .ok config
  dispatcher : Dispatcher.ofConfig config = .ok d
  channel : Channel.new (max options.capacity 1) = .ok channel
  content : (options.input.elim input files).content = .ok script
  isText : (Script.read script).2 = none

section

variable {files : String → Source} {input : Source} {options : Options} {config : Config}
  {d : Dispatcher} {channel : Channel} {script : Bytes}

theorem start_eq_ok (hd : Dispatcher.ofConfig config = .ok d) (printer : Printer) :
    start options config printer channel =
      .ok (session options config d (attended printer channel)) := by
  rw [start, Processor.ofConfig, hd]
  rfl

theorem start_eq_error {clash : CodeClash} (hd : Dispatcher.ofConfig config = .error clash)
    (printer : Printer) : start options config printer channel = .error clash := by
  rw [start, Processor.ofConfig, hd]
  rfl

/-- A replay that is prepared goes through the whole script. -/
theorem Prepared.run_eq (h : Prepared files input options config d channel script)
    (printer : Printer) :
    run files input printer options =
      finish (Progress.replay
        ⟨session options config d (attended printer channel), #[.configured config]⟩ script) := by
  simp only [run, h.settings, h.channel, start_eq_ok h.dispatcher, h.content]
  exact replayScript_eq_finish h.isText _ config

/-- The events that a printer has printed in the end. -/
def printedEvents (s : Session Attended) : List Event :=
  s.processor.publisher.taken.toList ++ s.processor.publisher.channel.waiting

theorem Prepared.exists_outcome (h : Prepared files input options config d channel script)
    (printer : Printer) :
    let after := (session options config d (attended printer channel)).replay script
    ∃ notices, run files input printer options =
      .replayed notices (printedEvents after) after.processor.publisher.channel.lost
        after.processor.stats := by
  intro after
  have hsession := Progress.session_replay
    ⟨session options config d (attended printer channel), #[.configured config]⟩ script
  rw [h.run_eq printer, finish, hsession]
  exact ⟨_, rfl⟩

/-- A replay succeeds exactly if it is prepared. -/
theorem exitCode_run_eq_zero_iff {printer : Printer} :
    (run files input printer options).exitCode = 0 ↔
      ∃ config d channel script, Prepared files input options config d channel script := by
  constructor
  · intro h
    unfold run at h
    cases hsettings : settings files options with
    | error error =>
        rw [hsettings] at h
        cases h
    | ok config =>
        simp only [hsettings] at h
        cases hchannel : Channel.new (max options.capacity 1) with
        | error error =>
            rw [hchannel] at h
            cases h
        | ok channel =>
            simp only [hchannel] at h
            cases hd : Dispatcher.ofConfig config with
            | error clash =>
                rw [start_eq_error hd] at h
                cases h
            | ok d =>
                simp only [start_eq_ok hd] at h
                cases hcontent : (options.input.elim input files).content with
                | error error =>
                    rw [hcontent] at h
                    cases h
                | ok script =>
                    simp only [hcontent, replayScript] at h
                    refine ⟨config, d, channel, script, hsettings, hd, hchannel, hcontent, ?_⟩
                    cases hfault : (Script.read script).2 with
                    | none => rfl
                    | some fault =>
                        simp only [hfault] at h
                        cases h
  · rintro ⟨config, d, channel, script, h⟩
    obtain ⟨notices, hrun⟩ := h.exists_outcome printer
    rw [hrun]
    rfl

end

/-! ## Printed and collected events -/

/-- The printer only takes. -/
theorem closes_channelActs (options : Options) (config : Config) (d : Dispatcher)
    (printer : Printer) (channel : Channel) (inputs : List Input) :
    ∀ act ∈ (session options config d (attended printer channel)).channelActs
      (inputs.map .input), act.closes = false := by
  rw [Session.channelActs, Session.acts_inputs]
  apply Attended.closes_interleave
  · intro clock receipt hreceipt
    obtain rfl := List.mem_singleton.1 hreceipt
    rfl
  · intro act hact
    obtain ⟨event, -, rfl⟩ := List.mem_map.1 hact
    rfl

/-- The counters do not depend on the publisher. -/
theorem stats_replay {P Q : Type} [Publisher P] [Publisher Q] (options : Options)
    (config : Config) (d : Dispatcher) (p : P) (q : Q) (script : Bytes) :
    ((session options config d p).replay script).processor.stats =
      ((session options config d q).replay script).processor.stats := by
  rw [Session.replay, Session.replay, Session.feed_eq_run, Session.feed_eq_run,
    Session.stats_run, Session.stats_run]
  rfl

/-- A collector receives the events of all frames, and these are counted. -/
theorem collected_replay (options : Options) (config : Config) (d : Dispatcher)
    (script : Bytes) :
    let s := session options config d ({} : Collector)
    let events := (s.judgements ((Script.inputs script).map .input)).flatMap Judgement.events
    (s.replay script).processor.publisher.events.toList = events ∧
      (s.replay script).processor.stats.events = events.length := by
  intro s events
  constructor
  · have hsame : ((Script.inputs script).map Step.input).filterMap Step.input? =
        Script.inputs script := by
      rw [List.filterMap_map]
      exact List.filterMap_some
    have hevents := Session.collected_eq_events d config.maxBody.toNat options.tracking .shared
      ((Script.inputs script).map .input)
    rw [hsame] at hevents
    exact hevents
  · rw [Session.replay, Session.feed_eq_run, Session.stats_run_events]
    exact Nat.zero_add _

/-- Whenever the printer takes its events, the printed ones are collected events in
order, all but as many as the channel has lost. -/
theorem session_accounts {capacity : Nat} {channel : Channel}
    (hchannel : Channel.new capacity = .ok channel) (options : Options) (config : Config)
    (d : Dispatcher) (printer : Printer) (script : Bytes) :
    let after := (session options config d (attended printer channel)).replay script
    let collecting := (session options config d ({} : Collector)).replay script
    let collected := collecting.processor.publisher.events.toList
    (printedEvents after).Sublist collected ∧
      (printedEvents after).length + after.processor.publisher.channel.lost =
        after.processor.stats.events ∧
      (after.processor.publisher.channel.lost = 0 → printedEvents after = collected) := by
  intro after collecting collected
  obtain ⟨hcollected, hcounted⟩ := collected_replay options config d script
  have hafter : (session options config d (attended printer channel)).run
      ((Script.inputs script).map .input) = after :=
    (Session.feed_eq_run _ _).symm
  obtain ⟨-, -, hsublist, hcount, -⟩ := Session.streamed_run hchannel
    (s := session options config d (attended printer channel)) rfl rfl rfl
    ((Script.inputs script).map .input) hcollected.symm
  rw [Channel.collect_discarded (closes_channelActs options config d printer channel _),
    hafter] at hsublist hcount
  rw [List.append_nil] at hsublist
  have hlength : (printedEvents after).length + after.processor.publisher.channel.lost =
      after.processor.stats.events := by
    rw [hcount, printedEvents, List.length_append]
    rfl
  refine ⟨hsublist, hlength, ?_⟩
  intro hlost
  apply hsublist.eq_of_length
  have hstats : after.processor.stats = collecting.processor.stats :=
    stats_replay options config d _ _ script
  rw [hlost, Nat.add_zero, hstats, hcounted, ← hcollected] at hlength
  exact hlength

/-! ## Accounting -/

/-- A call that replays a script and succeeds has found its settings, its channel and
its script.  The counters that it shows account for the lines that parse as frames.
Each event that it counts is a line of the standard output or was lost.  The lines are
read as events that a collector would have received in this order, and nothing else is
missing among them when nothing was lost. -/
theorem replay_accounts {files : String → Source} {input : Source} {printer : Printer}
    {arguments : List String} {options : Options}
    (hrequest : CommandLine.request? arguments = some (.replay options))
    (hexit : (call files input printer arguments).exitCode = 0) :
    ∃ config d channel script, Prepared files input options config d channel script ∧
      let outcome := call files input printer arguments
      let after := (session options config d (attended printer channel)).replay script
      let collecting := (session options config d ({} : Collector)).replay script
      let stats := after.processor.stats
      let lost := after.processor.publisher.channel.lost
      outcome.closing = stats.json ∧
        stats.frames + stats.malformed + stats.invalidEncoding =
          ((Script.lines script).filterMap Script.frame?).length ∧
        ∃ (lines : List String) (events : List Event),
          Text.pieces (· == '\n') outcome.stdout.toList = lines.map String.toList ++ [[]] ∧
            lines.length + lost = stats.events ∧
            lines.mapM Event.ofJson = .ok events ∧
            events.Sublist collecting.processor.publisher.events.toList ∧
            (lost = 0 → events = collecting.processor.publisher.events.toList) := by
  have hcall : call files input printer arguments = run files input printer options := by
    rw [call, hrequest]
  rw [hcall] at hexit ⊢
  obtain ⟨config, d, channel, script, hprepared⟩ := exitCode_run_eq_zero_iff.1 hexit
  refine ⟨config, d, channel, script, hprepared, ?_⟩
  intro outcome after collecting stats lost
  obtain ⟨notices, hrun⟩ := hprepared.exists_outcome printer
  obtain ⟨hsublist, hlength, hall⟩ :=
    session_accounts hprepared.channel options config d printer script
  have hframes : stats.frames + stats.dropped =
      ((Script.lines script).filterMap Script.frame?).length := by
    rw [← Script.filterMap_raw?_inputs hprepared.isText]
    have hfed : after = (session options config d (attended printer channel)).run
        ((Script.inputs script).map .input) :=
      Session.feed_eq_run _ _
    simp only [stats, hfed]
    exact Session.frames_add_dropped_run rfl _
  refine ⟨congrArg Outcome.closing hrun, ?_, (printedEvents after).map Event.json,
    printedEvents after, ?_, ?_, Event.mapM_ofJson_json _, hsublist, hall⟩
  · rw [Nat.add_assoc]
    exact hframes
  · simp only [outcome, hrun]
    exact Outcome.pieces_stdout _ _ _ _
  · rw [List.length_map]
    exact hlength

/-- One slot and a printer that takes nothing before the end: of the two events of the
first frame one is printed, and the second line is too short for a frame. -/
theorem replay_accounts_with_one_slot :
    let arguments := ["--channel-capacity", "0"]
    let script := Utf8.encode "14 00 01 37\n14 00\n"
    let outcome := call (fun _ => .missing) (.file script) (fun _ => 0) arguments
    CommandLine.request? arguments = some (.replay { capacity := 0 }) ∧
      outcome.exitCode = 0 ∧ outcome.output.length = 1 ∧
      ∃ stats : Stats, outcome.closing = stats.json ∧
        stats.frames + stats.malformed + stats.invalidEncoding = 2 := by
  intro arguments script outcome
  have hrequest : CommandLine.request? arguments = some (.replay { capacity := 0 }) := by decide
  have hexit : outcome.exitCode = 0 := by decide
  obtain ⟨config, d, channel, found, hprepared, hclosing, hframes, -⟩ :=
    replay_accounts hrequest hexit
  obtain rfl : script = found := Except.ok.inj hprepared.content
  have hlines : ((Script.lines script).filterMap Script.frame?).length = 2 := by decide
  have hprinted : outcome.output.length = 1 := by decide
  exact ⟨hrequest, hexit, hprinted, _, hclosing, hframes.trans hlines⟩

end Replay
end DeviceFeed
