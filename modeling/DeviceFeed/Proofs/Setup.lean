import DeviceFeed.Proofs.Command
import DeviceFeed.Proofs.Session.Run

/-!
# Processors that are set up from a configuration

A processor is only made from a configuration in which no two commands share a code.  So a
frame with the code of a command is handled as a frame of this command, by a new processor as
well as by one that has been at work.
-/

namespace DeviceFeed

/-- The reading of a frame as one of the given command, unless its body should be text and is
not. -/
def Reading.readAs (command : Command) (frame : Frame) : Except Utf8.Fault Reading :=
  if command.isText then
    (Field.decode frame.body).map (⟨frame.header, command, frame.body, ·⟩)
  else
    .ok ⟨frame.header, command, frame.body, []⟩

theorem Reading.ofFrame_eq_readAs (table : CodeTable) (frame : Frame) :
    ofFrame table frame = readAs (table.resolve frame.header.command) frame :=
  rfl

namespace Processor

variable {P : Type}

/-! ## Setting up -/

/-- A clash is all that keeps a processor from being made. -/
theorem ofConfig_eq_error_iff {config : Config} {publisher : P} {clash : CodeClash} :
    ofConfig config publisher = .error clash ↔ config.table.clash? = some clash := by
  rw [ofConfig, Dispatcher.ofConfig]
  cases config.table.clash? with
  | none => simp [Except.map]
  | some found => simp [Except.map]

theorem clash?_of_ofConfig {config : Config} {publisher : P} {p : Processor P}
    (h : ofConfig config publisher = .ok p) : config.table.clash? = none := by
  rw [Option.eq_none_iff_forall_ne_some]
  intro clash hclash
  rw [ofConfig_eq_error_iff.2 hclash] at h
  cases h

theorem table_of_ofConfig {config : Config} {publisher : P} {p : Processor P}
    (h : ofConfig config publisher = .ok p) : p.dispatcher.table = config.table := by
  have hnone := clash?_of_ofConfig h
  simp only [ofConfig, Dispatcher.ofConfig, hnone, Except.map, Except.ok.injEq] at h
  rw [← h]

/-! ## Handling frames as those of a command -/

variable [Publisher P]

/-- Every frame with this code that is not too long is read as one of the command.  It is
dropped if its body should be text and is not, and otherwise its events are published. -/
def HandlesAs (p : Processor P) (code : UInt8) (command : Command) : Prop :=
  ∀ tracking raw frame, Frame.spelled? raw = some frame → frame.header.command = code →
    frame.body.length ≤ p.maxBody →
    p.process tracking raw =
      match Reading.readAs command frame with
      | .error fault =>
        p.reject (some frame.header) (.notText fault) (p.dispatcher.trace frame tracking)
      | .ok r =>
        p.accept frame.header tracking (r.dispatched p.dispatcher.reportUnknown tracking)
          (p.dispatcher.trace frame tracking)

theorem handlesAs_of_resolve {p : Processor P} {code : UInt8} {command : Command}
    (h : p.dispatcher.table.resolve code = command) : p.HandlesAs code command := by
  rintro tracking raw frame hframe rfl hsize
  have hdispatch : p.dispatcher.dispatch frame tracking =
      (Reading.readAs command frame).map
        (·.dispatched p.dispatcher.reportUnknown tracking) := by
    rw [Dispatcher.dispatch, Reading.ofFrame_eq_readAs, h]
  cases hread : Reading.readAs command frame with
  | error fault =>
      rw [hread] at hdispatch
      exact p.process_of_notText tracking hframe hsize hdispatch
  | ok r =>
      rw [hread] at hdispatch
      exact p.process_of_dispatched tracking hframe hsize hdispatch

/-- A table is accepted exactly if each of its codes resolves to the command that has it.  Then
every known command has one code that resolves to it, and any other code is unknown.  Otherwise
the first clash is reported; its code resolves to the first of the two commands, and no code to
the second one.  So a processor that could be made, with a listener or without one, handles the
code of a command as this command, at first and after any run. -/
theorem handles_configured_codes :
    (∀ table : CodeTable,
      (table.clash? = none ↔ table.ResolvesAll) ∧
      (table.clash? = none →
        (∀ command, command.isUnknown = false → ∃! code, table.resolve code = command) ∧
        ∀ code, code ∉ table.codes → table.resolve code = .unknown code) ∧
      ∀ clash, table.clash? = some clash →
        CodeTable.IsFirstClash table.entries clash ∧
        table.resolve clash.code = clash.first ∧ ∀ code, table.resolve code ≠ clash.second) ∧
    ∀ (config : Config) (publisher : P),
      (∀ clash, ofConfig config publisher = .error clash ↔ config.table.clash? = some clash) ∧
      ∀ p, ofConfig config publisher = .ok p → ∀ q, q = p ∨ q = p.withListener →
        ∀ tracking source steps command code, (command, code) ∈ config.table.entries →
          ((⟨q, tracking, source⟩ : Session P).run steps).processor.HandlesAs code command := by
  refine ⟨fun table => ⟨CodeTable.clash?_eq_none_iff, ?_, ?_⟩, ?_⟩
  · intro hnone
    have hall := CodeTable.clash?_eq_none_iff.1 hnone
    exact ⟨fun command => hall.existsUnique, fun code => CodeTable.resolve_of_not_mem⟩
  · intro clash hclash
    exact ⟨CodeTable.clash?_eq_some_iff.1 hclash, CodeTable.resolve_of_clash hclash⟩
  · intro config publisher
    refine ⟨fun clash => ofConfig_eq_error_iff, ?_⟩
    intro p hp q hq tracking source steps command code hentry
    have htable : q.dispatcher.table = config.table := by
      rw [← table_of_ofConfig hp]
      rcases hq with rfl | rfl
      · rfl
      · rfl
    have hresolve := CodeTable.clash?_eq_none_iff.1 (clash?_of_ofConfig hp) command code hentry
    apply handlesAs_of_resolve
    rw [Session.run_dispatcher, htable, hresolve]

/-- Three commands share a code in the one table; in the other one live readings have a code of
their own, and their usual one is free.  With that table one reading is forwarded, one of another
device than the followed one is held back, and a frame with the free code is unknown. -/
theorem handles_configured_codes_of_moved_hardware :
    let shared : CodeTable := { logEvent := 20, appSync := 20 }
    let config : Config := { table := { hardware := 30 } }
    let p : Processor Collector :=
      { dispatcher := { table := config.table }, maxBody := 65536, publisher := {} }
    let s : Session Collector := ⟨p.withListener, .strict 1, .shared⟩
    let steps : List Step :=
      [.input (.process [30, 0, 1, 0x31]), .input (.process [30, 0, 2, 0x32]),
        .input (.process [20, 0, 3, 0x31])]
    let after := s.run steps
    shared.clash? = some ⟨20, .hardware, .logEvent⟩ ∧ shared.resolve 20 = .hardware ∧
      (∀ code, shared.resolve code ≠ .logEvent) ∧
      config.table.clash? = none ∧ (∃! code, config.table.resolve code = .hardware) ∧
      20 ∉ config.table.codes ∧ config.table.resolve 20 = .unknown 20 ∧
      ofConfig config {} = .ok p ∧ after.processor.HandlesAs 30 .hardware ∧
      after.processor.publisher.events.toList =
        [.response 1 30 none ["1"], .telemetry (some 1) none none, .response 3 20 none []] ∧
      after.processor.stats = { frames := 3, unknownCommands := 1, suppressed := 1, events := 3 } ∧
      (s.replies steps).flatMap (·.trace.records) =
        [{ label := "Hardware", command := 30, messageId := 1, fields := ["1"],
           deviceId := some "1", tracking := some (.strict 1), isFollowed := some true },
          { label := "Hardware", command := 30, messageId := 2, fields := ["2"],
            deviceId := some "2", tracking := some (.strict 1), isFollowed := some false },
          { label := "Unknown", command := 20, messageId := 3 }] := by
  intro shared config p s steps after
  have hshared : shared.clash? = some ⟨20, .hardware, .logEvent⟩ := by decide
  have hnone : config.table.clash? = none := by decide
  have hfree : 20 ∉ config.table.codes := by decide
  obtain ⟨htables, hprocessors⟩ := handles_configured_codes (P := Collector)
  obtain ⟨-, -, hclashing⟩ := htables shared
  obtain ⟨-, hfirst, hsecond⟩ := hclashing _ hshared
  obtain ⟨-, hvalid, -⟩ := htables config.table
  obtain ⟨hunique, hunknown⟩ := hvalid hnone
  have hp : ofConfig config {} = .ok p := rfl
  have hhandles : after.processor.HandlesAs 30 .hardware :=
    (hprocessors config {}).2 p hp _ (Or.inr rfl) (.strict 1) .shared steps _ _
      (List.mem_of_getElem? (i := 1) rfl)
  refine ⟨hshared, hfirst, hsecond, hnone, hunique _ rfl, hfree, hunknown 20 hfree, hp, hhandles,
    ?_, ?_, ?_⟩
  · decide +kernel
  · decide +kernel
  · decide +kernel

end Processor
end DeviceFeed
