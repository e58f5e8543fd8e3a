import DeviceFeed.Proofs.Tracking
import DeviceFeed.Proofs.Session.Judgement

/-!
# Strict tracking isolates one device

At any point of a run, the choice that is read for the next frame decides alone
whether a live reading is published.  The counters, the events that the
publisher is handed and the debug record of the frame all follow from
`Dispatcher.dispatch_hardware`.
-/

namespace DeviceFeed

/-! ## One frame -/

/-- Without a followed device, strict tracking lets no live reading through. -/
theorem Dispatcher.contribution_of_strict_none {d : Dispatcher} {maxBody : Nat}
    {tracking : Tracking} {raw : Bytes} {frame : Frame}
    (hframe : Frame.spelled? raw = some frame)
    (hcommand : d.table.resolve frame.header.command = .hardware)
    (honly : tracking.only = true) (hnone : tracking.deviceId = none) :
    d.contribution maxBody tracking raw = [] := by
  -- nothing is followed, so no number can be the followed one
  rw [List.eq_nil_iff_forall_not_mem]
  intro event hmem
  obtain ⟨other, x, hother, hdispatch, hevent⟩ := exists_of_mem_contribution hmem
  obtain rfl : frame = other := Option.some.inj (hframe.symm.trans hother)
  obtain ⟨fields, first, record, -, -, hheld, hempty, -⟩ :=
    dispatch_hardware hcommand hdispatch
  have hsuppressed : x.suppressed = true := by
    rw [hheld, Tracking.HoldsBack, hnone]
    refine ⟨honly, ?_⟩
    rintro ⟨followed, hfollowed, -⟩
    cases hfollowed
  rw [hempty hsuppressed] at hevent
  cases hevent

variable {P : Type}

namespace Session

/-- The telemetry that a step contributes under strict tracking. -/
theorem telemetry_of_strict_contribution {s : Session P} {step : Step} {followed : Int64}
    {device pin : Option Int64} {value : Option String} (honly : s.observed.only = true)
    (hfollowed : s.observed.deviceId = some followed)
    (hmem : .telemetry device pin value ∈ s.contribution step) :
    device = some followed ∨
      ∃ raw frame, step.raw? = some raw ∧ Frame.spelled? raw = some frame ∧
        s.processor.dispatcher.table.resolve frame.header.command = .appSync := by
  cases hraw : step.raw? with
  | none =>
      rw [contribution, hraw] at hmem
      cases hmem
  | some raw =>
      rw [contribution_of_raw? hraw] at hmem
      obtain ⟨frame, x, hframe, hdispatch, hevent⟩ :=
        Dispatcher.exists_of_mem_contribution hmem
      rcases Dispatcher.telemetry_of_strict hdispatch honly hfollowed hevent with h | h
      · exact Or.inl h
      · exact Or.inr ⟨raw, frame, rfl, hframe, h⟩

end Session

variable [Publisher P]

/-- An accepted frame is dispatched, contributes its events, and counts as held
back if it is. -/
theorem Processor.process_of_eq_ok {p : Processor P} {tracking : Tracking} {raw : Bytes}
    {frame : Frame} {count : Nat} (hframe : Frame.spelled? raw = some frame)
    (h : (p.process tracking raw).result = .ok count) :
    ∃ d, p.dispatcher.dispatch frame tracking = .ok d ∧
      p.dispatcher.contribution p.maxBody tracking raw = d.events ∧
      (p.process tracking raw).processor.stats = p.stats.accept d ∧
      (p.process tracking raw).trace.records = (p.dispatcher.trace frame tracking).records ∧
      ∀ message ∈ (p.dispatcher.trace frame tracking).messages,
        message ∈ (p.process tracking raw).trace.messages := by
  obtain ⟨other, d, hother, hsize, hdispatch, hprocess⟩ := accepted_of_eq_ok h
  obtain rfl : frame = other := Option.some.inj (hframe.symm.trans hother)
  have hcontribution := Dispatcher.contribution_of_dispatched hframe hsize hdispatch
  refine ⟨d, hdispatch, hcontribution, ?_, ?_, ?_⟩
  · rw [hprocess]
    rfl
  · rw [hprocess, accept_records]
  · intro message hmessage
    rw [hprocess]
    exact List.mem_append_left _ (List.mem_append_left _ hmessage)

namespace Session

/-- Whenever a live reading is accepted in a run, it is held back exactly if the
choice of that moment is strict and the first field does not name the followed
device.  The counter, the published events and the debug record all agree on
this, and no other frame but a replayed reading yields telemetry of another
device while the choice is strict. -/
theorem strict_isolates (s : Session P) (steps : List Step) (step : Step) :
    let before := s.journaled.run steps
    let after := before.step step
    let tracking := before.observed
    let resolve := s.processor.dispatcher.table.resolve
    (s.source = .shared → tracking = s.tracking.after (steps.filterMap Step.update?)) ∧
      ∃ handed,
        after.1.processor.publisher.journal = before.processor.publisher.journal ++ handed ∧
        (∀ followed device pin value, tracking.only = true →
          tracking.deviceId = some followed → .telemetry device pin value ∈ handed →
          device = some followed ∨
            ∃ raw frame, step.raw? = some raw ∧ Frame.spelled? raw = some frame ∧
              resolve frame.header.command = .appSync) ∧
        ∀ raw frame, step.raw? = some raw → Frame.spelled? raw = some frame →
          resolve frame.header.command = .hardware →
          (tracking.only = true → tracking.deviceId = none → handed = []) ∧
          ∀ count, (before.processor.process tracking raw).result = .ok count →
            let suppressed :=
              after.1.processor.stats.suppressed = before.processor.stats.suppressed + 1
            ∃ fields first record isFollowed,
              Field.decode frame.body = .ok fields ∧ fields[0]? = some first ∧
              (suppressed ↔ tracking.HoldsBack first) ∧
              (suppressed → handed = []) ∧
              (¬suppressed → handed =
                [.response frame.header.messageId frame.header.command none fields,
                  .telemetry (Field.number (Field.stripPrefix first)) (Field.number? fields 2)
                    fields[3]?]) ∧
              (s.processor.dispatcher.sink = .listener → after.2.trace.records = [record]) ∧
              (s.processor.dispatcher.sink = .log →
                .recorded record ∈ after.2.trace.messages) ∧
              record.tracking = some tracking ∧ record.isFollowed = some isFollowed ∧
              (suppressed ↔ tracking.only = true ∧ isFollowed = false) := by
  intro before after tracking resolve
  have hdispatcher : before.processor.dispatcher = s.processor.dispatcher :=
    s.journaled.run_dispatcher steps
  refine ⟨?_, before.contribution step, before.journal_step step, ?_, ?_⟩
  · intro hshared
    have hsource : before.source = .shared := (s.journaled.run_source steps).trans hshared
    have hobserved : tracking = before.tracking := by
      change before.observed = before.tracking
      rw [observed, hsource]
    rw [hobserved]
    exact s.journaled.run_tracking steps
  · intro followed device pin value honly hfollowed hmem
    have htelemetry := telemetry_of_strict_contribution honly hfollowed hmem
    rw [hdispatcher] at htelemetry
    exact htelemetry
  · intro raw frame hraw hframe hcommand
    change s.processor.dispatcher.table.resolve _ = _ at hcommand
    rw [← hdispatcher] at hcommand
    rw [contribution_of_raw? hraw]
    refine ⟨Dispatcher.contribution_of_strict_none hframe hcommand, ?_⟩
    intro count hresult
    obtain ⟨d, hdispatch, hcontribution, hstats, hrecords, hmessages⟩ :=
      Processor.process_of_eq_ok hframe hresult
    obtain ⟨fields, first, record, hdecode, hfirst, hheld, hempty, hevents, htrace,
      htracking, hfollowed⟩ := Dispatcher.dispatch_hardware hcommand hdispatch
    have hsuppressed :
        after.1.processor.stats.suppressed = before.processor.stats.suppressed + 1 ↔
          d.suppressed = true := by
      have hafter : after.1.processor.stats = before.processor.stats.accept d := by
        rw [← hstats]
        exact congrArg (fun t : Session (Journaled P) => t.processor.stats) (step_frame hraw)
      rw [hafter, Stats.accept]
      cases d.suppressed with
      | true => simp
      | false => simp
    have hreply : after.2.trace = (before.processor.process tracking raw).trace :=
      congrArg Reply.trace (reply_of_eq_ok hraw hresult)
    refine ⟨fields, first, record, tracking.isFollowed (Field.stripPrefix first), hdecode, hfirst,
      hsuppressed.trans hheld, ?_, ?_, ?_, ?_, htracking, hfollowed, ?_⟩
    · intro h
      rw [hcontribution]
      exact hempty (hsuppressed.1 h)
    · intro h
      rw [hsuppressed, Bool.not_eq_true] at h
      rw [hcontribution]
      exact hevents h
    · intro hsink
      rw [← hdispatcher] at hsink
      rw [hreply, hrecords, htrace, hsink]
      rfl
    · intro hsink
      rw [← hdispatcher] at hsink
      rw [hreply]
      apply hmessages
      rw [htrace, hsink]
      exact List.mem_append_right _ List.mem_cons_self
    · exact hsuppressed.trans (hheld.trans Tracking.holdsBack_iff)

/-- After a change to device eight, a reading of device seven is held back. -/
theorem strict_isolates_after_retarget :
    let s : Session Collector :=
      { processor := { dispatcher := { sink := .listener }, maxBody := 64, publisher := {} }
        tracking := .strict 7 }
    let retarget : Step := .input (.retarget (.follow (some 8)))
    let reading : Step := .input (.process [20, 0, 1, 0x37])
    ((s.journaled.run [retarget]).step reading).1.processor.stats.suppressed =
        (s.journaled.run [retarget]).processor.stats.suppressed + 1 ∧
      ((s.journaled.run [retarget]).step reading).1.processor.publisher.journal =
        (s.journaled.run [retarget]).processor.publisher.journal ∧
      ∃ record, ((s.journaled.run [retarget]).step reading).2.trace.records = [record] ∧
        record.tracking = some (s.journaled.run [retarget]).observed ∧
        record.isFollowed = some false := by
  intro s retarget reading
  obtain ⟨-, handed, hjournal, -, hhardware⟩ := strict_isolates s [retarget] reading
  obtain ⟨count, hresult⟩ : ∃ count, ((s.journaled.run [retarget]).processor.process
      (s.journaled.run [retarget]).observed [20, 0, 1, 0x37]).result = .ok count := by
    have hok : ((s.journaled.run [retarget]).processor.process
        (s.journaled.run [retarget]).observed [20, 0, 1, 0x37]).result.isOk = true := by
      decide
    cases h : ((s.journaled.run [retarget]).processor.process
        (s.journaled.run [retarget]).observed [20, 0, 1, 0x37]).result with
    | ok count => exact ⟨count, rfl⟩
    | error why =>
        rw [h] at hok
        cases hok
  obtain ⟨fields, first, record, isFollowed, hdecode, hfirst, hheld, hempty, -, hlistener, -,
    htracking, hfollowed, hrecord⟩ := (hhardware _ _ rfl rfl rfl).2 count hresult
  have hfields : Field.decode [0x37] = .ok ["7"] := rfl
  obtain rfl : ["7"] = fields := Except.ok.inj (hfields.symm.trans hdecode)
  obtain rfl : "7" = first := Option.some.inj hfirst
  have hsuppressed := hheld.2 (Tracking.holdsBack_iff.2 (by decide))
  obtain ⟨-, rfl⟩ := hrecord.1 hsuppressed
  refine ⟨hsuppressed, ?_, record, hlistener rfl, htracking, hfollowed⟩
  rw [hjournal, hempty hsuppressed, List.append_nil]

end Session
end DeviceFeed
