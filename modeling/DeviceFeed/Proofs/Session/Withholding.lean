import DeviceFeed.Proofs.Tracking
import DeviceFeed.Proofs.Session.Judgement

/-!
# Strict tracking withholds live readings and nothing else

The same bytes are received twice, once under any history of tracking and once
while tracking is never strict.  Frame by frame, either both runs judge alike,
or the first one holds a live reading back of which the second one publishes
the answer and the telemetry.  `Judgement.Eased` states these two cases; the
published events and the counters of whole runs follow from it.
-/

namespace DeviceFeed

/-! ## One frame -/

namespace Reading

theorem isSuppressed_of_not_only {tracking : Tracking} (r : Reading)
    (h : tracking.only = false) : r.isSuppressed tracking = false := by
  unfold isSuppressed
  split
  · rw [Tracking.forwards, h]
    rfl
  · rfl

theorem dispatched_of_not_only {tracking : Tracking} (r : Reading) (reportUnknown : Bool)
    (h : tracking.only = false) :
    r.dispatched reportUnknown tracking = ⟨r.command, r.events reportUnknown, false⟩ := by
  rw [dispatched, r.isSuppressed_of_not_only h]
  rfl

end Reading

/-- The second judgement is what becomes of a frame when nothing is held back:
the same as the first one, or the two events of a live reading. -/
inductive Judgement.Eased : Judgement → Judgement → Prop where
  | same {judgement : Judgement} (h : judgement.isSuppressed = false) :
      Eased judgement judgement
  | held (frame : Frame) (r : Reading) :
      Eased (.accepted frame ⟨.hardware, [], true⟩)
        (.accepted frame ⟨.hardware, [r.echo, r.telemetry], false⟩)

theorem Judgement.Eased.events {judgement eased : Judgement}
    (h : judgement.Eased eased) :
    judgement.events = if judgement.isSuppressed then [] else eased.events := by
  cases h with
  | same hforwarded => rw [hforwarded]; rfl
  | held frame r => rfl

namespace Dispatcher

/-- Tracking that is not strict has no effect on a frame. -/
theorem judge_of_not_only (d : Dispatcher) (maxBody : Nat) {tracking : Tracking}
    (h : tracking.only = false) (raw : Bytes) :
    d.judge maxBody tracking raw = d.judge maxBody .loose raw := by
  have hdispatch : ∀ frame, d.dispatch frame tracking = d.dispatch frame .loose := by
    intro frame
    have hdispatched : ∀ r : Reading,
        r.dispatched d.reportUnknown tracking = r.dispatched d.reportUnknown .loose := by
      intro r
      rw [r.dispatched_of_not_only _ h, r.dispatched_of_not_only _ rfl]
    rw [dispatch, dispatch]
    simp only [hdispatched]
  unfold judge
  simp only [hdispatch]

/-- A frame under any tracking, against the same frame when nothing is held
back. -/
theorem judge_eased (d : Dispatcher) (maxBody : Nat) (tracking : Tracking) (raw : Bytes) :
    (d.judge maxBody tracking raw).Eased (d.judge maxBody .loose raw) := by
  unfold judge
  cases Frame.spelled? raw with
  | none => exact .same rfl
  | some frame =>
      by_cases hsize : maxBody < frame.body.length
      · simp only [if_pos hsize]
        exact .same rfl
      · simp only [if_neg hsize, dispatch]
        cases Reading.ofFrame d.table frame with
        | error fault => exact .same rfl
        | ok r =>
            have hnot : Tracking.loose.only = false := rfl
            have hloose := r.dispatched_of_not_only d.reportUnknown hnot
            simp only [Except.map, hloose]
            by_cases hheld : r.isSuppressed tracking = true
            · have hcommand := Reading.command_eq_hardware_of_isSuppressed hheld
              have hevents := Reading.events_of_hardware hcommand d.reportUnknown
              rw [Reading.dispatched, if_pos hheld, hevents, hcommand]
              exact .held frame r
            · rw [Reading.dispatched, if_neg hheld]
              exact .same rfl

end Dispatcher

/-! ## Lists of frames -/

/-- The counters of a run, against those of a run in which nothing is held
back. -/
structure Stats.Eased (stats eased : Stats) : Prop where
  frames : eased.frames = stats.frames
  malformed : eased.malformed = stats.malformed
  invalidEncoding : eased.invalidEncoding = stats.invalidEncoding
  unknownCommands : eased.unknownCommands = stats.unknownCommands
  suppressed : eased.suppressed = 0
  events : eased.events = stats.events + 2 * stats.suppressed

theorem Stats.Eased.count {stats eased : Stats} (h : stats.Eased eased)
    {judgement other : Judgement} (hjudgement : judgement.Eased other) :
    (stats.count judgement).Eased (eased.count other) := by
  obtain ⟨hframes, hmalformed, hencoding, hunknown, hsuppressed, hevents⟩ := h
  cases hjudgement with
  | held frame r =>
      constructor
      · exact congrArg (· + 1) hframes
      · exact hmalformed
      · exact hencoding
      · exact hunknown
      · exact hsuppressed
      · change eased.events + 2 = stats.events + 0 + 2 * (stats.suppressed + 1)
        omega
  | same hforwarded =>
      cases judgement with
      | accepted frame d =>
          have hkept : ∀ s : Stats, (s.accept d).suppressed = s.suppressed := by
            intro s
            change d.suppressed = false at hforwarded
            rw [Stats.accept, hforwarded]
            rfl
          constructor
          · exact congrArg (· + 1) hframes
          · exact hmalformed
          · exact hencoding
          · exact congrArg (· + _) hunknown
          · exact (hkept eased).trans hsuppressed
          · change eased.events + d.events.length =
              stats.events + d.events.length + 2 * (stats.accept d).suppressed
            rw [hkept]
            omega
      | dropped why =>
          cases why with
          | short size =>
              exact ⟨hframes, congrArg (· + 1) hmalformed, hencoding, hunknown, hsuppressed,
                hevents⟩
          | oversized size limit =>
              exact ⟨hframes, congrArg (· + 1) hmalformed, hencoding, hunknown, hsuppressed,
                hevents⟩
          | notText fault =>
              exact ⟨hframes, hmalformed, congrArg (· + 1) hencoding, hunknown, hsuppressed,
                hevents⟩

namespace Dispatcher

theorem eased_foldl_judge (d : Dispatcher) (maxBody : Nat) (frames : List (Tracking × Bytes))
    {stats eased : Stats} (h : stats.Eased eased) :
    ((frames.map fun x => d.judge maxBody x.1 x.2).foldl Stats.count stats).Eased
      ((frames.map fun x => d.judge maxBody .loose x.2).foldl Stats.count eased) := by
  induction frames generalizing stats eased with
  | nil => exact h
  | cons x frames ih => exact ih (h.count (d.judge_eased maxBody x.1 x.2))

/-- Frames contribute what they contribute when nothing is held back, except
for those that are held back. -/
theorem flatMap_events_judge (d : Dispatcher) (maxBody : Nat)
    (frames : List (Tracking × Bytes)) :
    (frames.map fun x => d.judge maxBody x.1 x.2).flatMap Judgement.events =
      (frames.filter fun x => !(d.judge maxBody x.1 x.2).isSuppressed).flatMap fun x =>
        d.contribution maxBody .loose x.2 := by
  induction frames with
  | nil => rfl
  | cons x frames ih =>
      rw [List.map_cons, List.flatMap_cons, ih, (d.judge_eased maxBody x.1 x.2).events,
        List.filter_cons, events_judge]
      cases (d.judge maxBody x.1 x.2).isSuppressed with
      | true => rfl
      | false => rfl

/-- A frame that is held back is a live reading, and otherwise contributes its
answer and its telemetry. -/
theorem contribution_of_isSuppressed {d : Dispatcher} {maxBody : Nat} {tracking : Tracking}
    {raw : Bytes} (h : (d.judge maxBody tracking raw).isSuppressed = true) :
    ∃ frame fields first,
      Frame.spelled? raw = some frame ∧
        d.table.resolve frame.header.command = .hardware ∧
        Field.decode frame.body = .ok fields ∧ fields[0]? = some first ∧
        tracking.HoldsBack first ∧
        d.contribution maxBody .loose raw =
          [.response frame.header.messageId frame.header.command none fields,
            .telemetry (Field.number (Field.stripPrefix first)) (Field.number? fields 2)
              fields[3]?] := by
  cases hjudge : d.judge maxBody tracking raw with
  | dropped why =>
      rw [hjudge] at h
      cases h
  | accepted frame x =>
      rw [hjudge] at h
      obtain ⟨hframe, hsize, hdispatch⟩ := judge_eq_accepted hjudge
      obtain ⟨hsound, hresolve⟩ := dispatch_sound hdispatch
      have hcommand : d.table.resolve frame.header.command = .hardware :=
        hresolve.symm.trans (hsound.hardware_of_suppressed h)
      obtain ⟨fields, first, -, hdecode, hfirst, hheld, -⟩ :=
        dispatch_hardware hcommand hdispatch
      obtain ⟨r, hread, -⟩ := dispatch_eq_ok hdispatch
      have hloose := dispatch_of_reading hread .loose
      obtain ⟨others, start, -, hothers, hstart, hforwarded, -, hevents, -⟩ :=
        dispatch_hardware hcommand hloose
      obtain rfl : fields = others := Except.ok.inj (hdecode.symm.trans hothers)
      obtain rfl : first = start := Option.some.inj (hfirst.symm.trans hstart)
      refine ⟨frame, fields, first, hframe, hcommand, hdecode, hfirst, hheld.1 h, ?_⟩
      rw [contribution_of_dispatched hframe hsize hloose]
      apply hevents
      by_contra hsuppressed
      rw [Bool.not_eq_false] at hsuppressed
      cases (hforwarded.1 hsuppressed).1

end Dispatcher

/-! ## Runs -/

namespace Session

variable {P : Type}

/-- The judgements of a run in which tracking is never strict, by the frames of
another run that receives the same bytes. -/
theorem judgements_of_not_only {s t : Session P} {steps others : List Step}
    (hprocessor : s.processor = t.processor)
    (hsame : steps.filterMap Step.raw? = others.filterMap Step.raw?)
    (hloose : ∀ x ∈ s.frames steps, x.1.only = false) :
    s.judgements steps = (t.frames others).map fun x =>
      t.processor.dispatcher.judge t.processor.maxBody .loose x.2 := by
  let judge := t.processor.dispatcher.judge t.processor.maxBody .loose
  calc
    s.judgements steps = (s.frames steps).map fun x => judge x.2 := by
      rw [judgements, hprocessor]
      apply List.map_congr_left
      intro x hx
      exact Dispatcher.judge_of_not_only _ _ (hloose x hx) x.2
    _ = ((s.frames steps).map Prod.snd).map judge := by rw [List.map_map]; rfl
    _ = ((t.frames others).map Prod.snd).map judge := by
      rw [map_snd_frames, map_snd_frames, hsame]
    _ = (t.frames others).map fun x => judge x.2 := by rw [List.map_map]; rfl

variable [Publisher P]

/-- A run under any tracking, against a run that receives the same bytes while
tracking is never strict.  The second run holds nothing back.  The first one
publishes the same events in the same order, without the answers and the
telemetry of the live readings that it holds back, and all counters that do not
count these agree. -/
theorem withholds_only_live_readings {config : Config} (hvalid : config.validate = .ok config)
    (publisher : P) (initial other : Tracking) (source otherSource : TrackingSource)
    (steps loosely : List Step)
    (hsame : loosely.filterMap Step.raw? = steps.filterMap Step.raw?) :
    ∃ p, Processor.ofConfig config publisher = .ok p ∧
      let s : Session P := ⟨p, initial, source⟩
      let loose : Session P := ⟨p, other, otherSource⟩
      (∀ x ∈ loose.frames loosely, x.1.only = false) →
        let stats := (s.run steps).processor.stats
        let eased := (loose.run loosely).processor.stats
        let maxBody := config.maxBody.toNat
        let withheld := fun x : Tracking × Bytes =>
          (p.dispatcher.judge maxBody x.1 x.2).isSuppressed
        let contribution := fun x : Tracking × Bytes =>
          p.dispatcher.contribution maxBody .loose x.2
        eased.suppressed = 0 ∧
          (loose.journaled.run loosely).processor.publisher.journal =
            (s.frames steps).flatMap contribution ∧
          (s.journaled.run steps).processor.publisher.journal =
            ((s.frames steps).filter fun x => !withheld x).flatMap contribution ∧
          stats.suppressed = (s.frames steps).countP withheld ∧
          (∀ x ∈ s.frames steps, withheld x = true →
            ∃ frame fields first,
              Frame.spelled? x.2 = some frame ∧
                config.table.resolve frame.header.command = .hardware ∧
                Field.decode frame.body = .ok fields ∧ fields[0]? = some first ∧
                x.1.HoldsBack first ∧
                contribution x =
                  [.response frame.header.messageId frame.header.command none fields,
                    .telemetry (Field.number (Field.stripPrefix first))
                      (Field.number? fields 2) fields[3]?]) ∧
          eased.frames = stats.frames ∧ eased.malformed = stats.malformed ∧
          eased.invalidEncoding = stats.invalidEncoding ∧
          eased.unknownCommands = stats.unknownCommands ∧
          eased.events = stats.events + 2 * stats.suppressed := by
  obtain ⟨p, hp, htable, -, hmax, -, hempty⟩ := Processor.exists_ofConfig hvalid publisher
  refine ⟨p, hp, ?_⟩
  intro s loose hloose stats eased maxBody withheld contribution
  have hmaxBody : p.maxBody = maxBody := hmax
  have hjudgements : s.judgements steps =
      (s.frames steps).map fun x => p.dispatcher.judge maxBody x.1 x.2 := by
    rw [← hmaxBody]
    rfl
  have hothers : loose.judgements loosely =
      (s.frames steps).map fun x => p.dispatcher.judge maxBody .loose x.2 := by
    rw [← hmaxBody]
    exact judgements_of_not_only (s := loose) (t := s) rfl hsame hloose
  have heased : stats.Eased eased := by
    have hstart : p.stats.Eased p.stats := by
      rw [hempty]
      exact ⟨rfl, rfl, rfl, rfl, rfl, rfl⟩
    have hstats : stats = (s.judgements steps).foldl Stats.count p.stats := s.stats_run steps
    have hcounts : eased = (loose.judgements loosely).foldl Stats.count p.stats :=
      loose.stats_run loosely
    rw [hstats, hcounts, hjudgements, hothers]
    exact Dispatcher.eased_foldl_judge _ _ _ hstart
  obtain ⟨hframes, hmalformed, hencoding, hunknown, hsuppressed, hevents⟩ := heased
  refine ⟨hsuppressed, ?_, ?_, ?_, ?_, hframes, hmalformed, hencoding, hunknown, hevents⟩
  · rw [journal_eq_flatMap_judgements, hothers, List.flatMap_map]
    simp only [Dispatcher.events_judge]
    rfl
  · rw [journal_eq_flatMap_judgements, hjudgements, Dispatcher.flatMap_events_judge]
  · have hcount := (s.stats_run_accepted steps).2
    have hzero : s.processor.stats.suppressed = 0 := congrArg Stats.suppressed hempty
    rw [hzero, Nat.zero_add, countP_accepted, hjudgements, List.countP_map] at hcount
    exact hcount
  · intro x _ hheld
    obtain ⟨frame, fields, first, hframe, hcommand, hrest⟩ :=
      Dispatcher.contribution_of_isSuppressed hheld
    rw [htable] at hcommand
    exact ⟨frame, fields, first, hframe, hcommand, hrest⟩

/-- Of two equal readings the first one is held back, since the choice changes
in between. -/
theorem withholds_only_live_readings_before_retarget :
    let reading : Bytes := [20, 0, 1, 0x37]
    let steps : List Step :=
      [.input (.ingest reading), .input (.ingest [4, 0, 2, 0x37]),
        .input (.retarget (.follow (some 7))), .input (.process reading)]
    let loosely : List Step :=
      [.input (.process reading), .input (.process [4, 0, 2, 0x37]), .input (.process reading)]
    let p : Processor Collector := { dispatcher := {}, maxBody := 65536, publisher := {} }
    let s : Session Collector := ⟨p, .strict 42, .shared⟩
    let loose : Session Collector := ⟨p, .loose, .shared⟩
    Config.validate {} = .ok {} ∧ Processor.ofConfig {} {} = .ok p ∧
      loosely.filterMap Step.raw? = steps.filterMap Step.raw? ∧
      (∀ x ∈ loose.frames loosely, x.1.only = false) ∧
      (s.run steps).processor.stats.suppressed = 1 ∧
      (s.journaled.run steps).processor.publisher.journal =
        [.connect "7", .response 1 20 none ["7"], .telemetry (some 7) none none] ∧
      (loose.run loosely).processor.stats.events =
        (s.run steps).processor.stats.events + 2 := by
  intro reading steps loosely p s loose
  have hvalid : Config.validate {} = .ok {} := rfl
  have hp : Processor.ofConfig {} {} = .ok p := rfl
  have hsame : loosely.filterMap Step.raw? = steps.filterMap Step.raw? := rfl
  have hloose : ∀ x ∈ loose.frames loosely, x.1.only = false := by decide
  obtain ⟨q, hq, hrest⟩ := withholds_only_live_readings hvalid ({} : Collector)
    (.strict 42) .loose .shared .shared steps loosely hsame
  obtain rfl : p = q := Except.ok.inj (hp.symm.trans hq)
  obtain ⟨-, -, hjournal, hsuppressed, -, -, -, -, -, hevents⟩ := hrest hloose
  have hone : (s.run steps).processor.stats.suppressed = 1 := by
    rw [hsuppressed]
    decide
  refine ⟨hvalid, hp, hsame, hloose, hone, ?_, ?_⟩
  · rw [hjournal]
    decide
  · rw [hevents, hone]

end Session
end DeviceFeed
