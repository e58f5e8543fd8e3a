import DeviceFeed.Proofs.Session.Run

/-!
# What a session publishes

A publisher is handed the events of one frame after the other, and each frame
is dispatched under the tracking that exactly the changes in front of it lead
to.  `Session.handed_step` says what one step adds, and `Session.handed_run`
carries it over to runs for every publisher that can be viewed as a history.
-/

namespace DeviceFeed

/-- The events that received bytes contribute: those of the frame they spell,
unless its body is too long or it cannot be dispatched. -/
def Dispatcher.contribution (d : Dispatcher) (maxBody : Nat) (tracking : Tracking)
    (raw : Bytes) : List Event :=
  match Frame.spelled? raw with
  | none => []
  | some frame =>
    if maxBody < frame.body.length then
      []
    else
      match d.dispatch frame tracking with
      | .error _ => []
      | .ok dispatched => dispatched.events

variable {P : Type} [Publisher P]

namespace Dispatcher

theorem contribution_of_short (d : Dispatcher) (maxBody : Nat) (tracking : Tracking)
    {raw : Bytes} (h : raw.length < 3) : d.contribution maxBody tracking raw = [] := by
  rw [contribution, Frame.spelled?_of_short h]

theorem contribution_of_oversized (d : Dispatcher) {maxBody : Nat} (tracking : Tracking)
    {raw : Bytes} {frame : Frame} (hframe : Frame.spelled? raw = some frame)
    (hsize : maxBody < frame.body.length) : d.contribution maxBody tracking raw = [] := by
  rw [contribution, hframe]
  exact if_pos hsize

theorem contribution_of_notText {d : Dispatcher} {maxBody : Nat} {tracking : Tracking}
    {raw : Bytes} {frame : Frame} {fault : Utf8.Fault}
    (hframe : Frame.spelled? raw = some frame)
    (hdispatch : d.dispatch frame tracking = .error fault) :
    d.contribution maxBody tracking raw = [] := by
  rw [contribution, hframe]
  simp only [hdispatch, ite_self]

theorem contribution_of_dispatched {d : Dispatcher} {maxBody : Nat} {tracking : Tracking}
    {raw : Bytes} {frame : Frame} {x : Dispatched}
    (hframe : Frame.spelled? raw = some frame) (hsize : frame.body.length ≤ maxBody)
    (hdispatch : d.dispatch frame tracking = .ok x) :
    d.contribution maxBody tracking raw = x.events := by
  rw [contribution, hframe]
  simp only [if_neg (Nat.not_lt.2 hsize), hdispatch]

theorem exists_of_mem_contribution {d : Dispatcher} {maxBody : Nat} {tracking : Tracking}
    {raw : Bytes} {event : Event} (h : event ∈ d.contribution maxBody tracking raw) :
    ∃ frame x, Frame.spelled? raw = some frame ∧ d.dispatch frame tracking = .ok x ∧
      event ∈ x.events := by
  unfold contribution at h
  split at h
  · cases h
  · next frame hframe =>
    split at h
    · cases h
    · split at h
      · cases h
      · next x hdispatch => exact ⟨frame, x, hframe, hdispatch, h⟩

end Dispatcher

/-- A frame publishes exactly the events that it contributes. -/
theorem Processor.process_publisher (p : Processor P) (tracking : Tracking) (raw : Bytes) :
    (p.process tracking raw).processor.publisher =
      (publishAll p.publisher (p.dispatcher.contribution p.maxBody tracking raw)).1 := by
  cases p.process_cases tracking raw with
  | short hshort hprocess =>
      rw [hprocess, Dispatcher.contribution_of_short _ _ _ hshort]
      rfl
  | oversized frame hframe hsize hprocess =>
      rw [hprocess, Dispatcher.contribution_of_oversized _ _ hframe hsize]
      rfl
  | notText frame fault hframe hsize hdispatch hprocess =>
      rw [hprocess, Dispatcher.contribution_of_notText hframe hdispatch]
      rfl
  | accepted frame d hframe hsize hdispatch hprocess =>
      rw [hprocess, Dispatcher.contribution_of_dispatched hframe hsize hdispatch]
      rfl

/-- A frame hands over exactly the events that it contributes. -/
theorem Processor.handed_process {handed : P → List Event} (hhistory : IsHistory handed)
    (p : Processor P) (tracking : Tracking) (raw : Bytes) :
    handed (p.process tracking raw).processor.publisher =
      handed p.publisher ++ p.dispatcher.contribution p.maxBody tracking raw := by
  rw [process_publisher, hhistory.publishAll]

namespace Session

/-! ## Steps and runs -/

/-- The events that a step contributes. -/
def contribution (s : Session P) (step : Step) : List Event :=
  (step.raw?.map
    (s.processor.dispatcher.contribution s.processor.maxBody s.observed)).getD []

omit [Publisher P] in
theorem contribution_of_raw? {s : Session P} {step : Step} {raw : Bytes}
    (h : step.raw? = some raw) :
    s.contribution step =
      s.processor.dispatcher.contribution s.processor.maxBody s.observed raw := by
  rw [contribution, h]
  rfl

/-- A step hands over what it contributes, if the history does not show what the
receiving side does. -/
theorem handed_step {handed : P → List Event} (hhistory : IsHistory handed)
    (s : Session P) {step : Step}
    (hreceive : ∀ receipt, step = .receive receipt → ∀ publisher,
      handed (Publisher.receive publisher receipt).1 = handed publisher) :
    handed (s.step step).1.processor.publisher =
      handed s.processor.publisher ++ s.contribution step := by
  cases hraw : step.raw? with
  | some raw =>
      rw [step_frame hraw, contribution_of_raw? hraw]
      exact Processor.handed_process hhistory s.processor s.observed raw
  | none =>
      rw [contribution, hraw, Option.map_none, Option.getD_none, List.append_nil]
      rcases update_or_receipt_of_raw?_eq_none hraw with ⟨update, rfl⟩ | ⟨receipt, rfl⟩
      · rfl
      · exact hreceive receipt rfl s.processor.publisher

/-- A run hands over the contributions of its frames, in order. -/
theorem handed_run {handed : P → List Event} (hhistory : IsHistory handed)
    (s : Session P) (hsource : s.source = .shared) (steps : List Step)
    (hreceive : ∀ receipt, Step.receive receipt ∈ steps → ∀ publisher,
      handed (Publisher.receive publisher receipt).1 = handed publisher) :
    handed (s.run steps).processor.publisher =
      handed s.processor.publisher ++
        (s.tracking.frames steps).flatMap fun (tracking, raw) =>
          s.processor.dispatcher.contribution s.processor.maxBody tracking raw := by
  induction steps generalizing s with
  | nil => simp [run, Tracking.frames]
  | cons step steps ih =>
      have hstep := handed_step hhistory s fun receipt h => hreceive receipt (h ▸ List.mem_cons_self)
      have hrest := ih (s.step step).1 ((s.step_source step).trans hsource)
        (fun receipt h => hreceive receipt (List.mem_cons_of_mem _ h))
      rw [step_dispatcher, step_maxBody, step_tracking] at hrest
      have hobserved : s.observed = s.tracking := by
        rw [observed, hsource]
      rw [run_cons, hrest, hstep, Tracking.frames_cons, List.flatMap_append, ← List.append_assoc]
      congr 2
      rw [contribution, hobserved]
      cases step.raw? with
      | none => rfl
      | some raw => simp

/-- Under a valid configuration a collector ends up with the contributions of
the given frames, in order and with nothing else.  Each frame contributes under
the tracking that exactly the changes in front of it lead to. -/
theorem collected_eq_contributions {config : Config} (hvalid : config.validate = .ok config)
    (initial : Tracking) (inputs : List Input) :
    ∃ p : Processor Collector, Processor.ofConfig config {} = .ok p ∧
      (Session.feed ⟨p, initial, .shared⟩ inputs).processor.publisher.events.toList =
        (initial.frames (inputs.map .input)).flatMap fun (tracking, raw) =>
          p.dispatcher.contribution config.maxBody.toNat tracking raw := by
  obtain ⟨p, hp, -, -, hmax, hpublisher, -⟩ :=
    Processor.exists_ofConfig hvalid ({} : Collector)
  refine ⟨p, hp, ?_⟩
  have hreceive : ∀ receipt, Step.receive receipt ∈ inputs.map Step.input →
      ∀ c : Collector, (Publisher.receive c receipt).1.events.toList = c.events.toList := by
    intro receipt hmem
    obtain ⟨input, -, heq⟩ := List.mem_map.1 hmem
    cases heq
  have hrun := handed_run Collector.isHistory ⟨p, initial, .shared⟩ rfl _ hreceive
  rw [feed_eq_run, hrun, hpublisher, hmax]
  rfl

/-- A device is followed until the choice changes; a frame that is too short
and a frame that is no text leave nothing. -/
theorem collected_eq_contributions_after_retarget :
    let frame : Bytes := [20, 0, 2, 0x34, 0x32, 0, 0x76, 0x77, 0, 0x32, 0, 0x35]
    Config.validate {} = .ok {} ∧
      ∃ p : Processor Collector, Processor.ofConfig {} {} = .ok p ∧
        (Session.feed ⟨p, .strict 42, .shared⟩
          [.ingest frame, .process [20], .ingest [4, 0, 3, 0xC3], .retarget (.follow (some 7)),
            .process frame]).processor.publisher.events.toList =
          [.response 2 20 none ["42", "vw", "2", "5"],
            .telemetry (some 42) (some 2) (some "5")] := by
  have hvalid : Config.validate {} = .ok {} := rfl
  refine ⟨hvalid, ?_⟩
  obtain ⟨p, hp, hevents⟩ := collected_eq_contributions hvalid (.strict 42)
    [.ingest [20, 0, 2, 0x34, 0x32, 0, 0x76, 0x77, 0, 0x32, 0, 0x35], .process [20],
      .ingest [4, 0, 3, 0xC3], .retarget (.follow (some 7)),
      .process [20, 0, 2, 0x34, 0x32, 0, 0x76, 0x77, 0, 0x32, 0, 0x35]]
  refine ⟨p, hp, hevents.trans ?_⟩
  obtain rfl : _ = p := Except.ok.inj hp
  decide

end Session
end DeviceFeed
