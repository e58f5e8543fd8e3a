import DeviceFeed.Proofs.Session.Judgement

/-!
# Answers and the requests that they settle

An answer settles the request with the same message id, so a run must answer
each request once and under its own id.  `Correlates` says of a single frame
which answer and which report its events contain.  Every dispatched frame has
this property, and the answers and reports of a whole run follow frame by
frame.
-/

namespace DeviceFeed

/-! ## Answers and reports -/

/-- The message id and the code that a frame carries. -/
def Header.ticket (header : Header) : UInt16 × UInt8 :=
  (header.messageId, header.command)

/-- The message id and the code that an answer carries. -/
def Event.answered? : Event → Option (UInt16 × UInt8)
  | .response id command _ _ => some (id, command)
  | _ => none

/-- The message id and the code in the report of a frame with an unassigned
code. -/
def Event.reported? : Event → Option (UInt16 × UInt8)
  | .unknown command id => some (id, command)
  | _ => none

/-- Whether an accepted frame settles a request.  A live reading does unless
tracking holds it back. -/
def CodeTable.answers (table : CodeTable) (handled : Frame × Dispatched) : Bool :=
  match table.resolve handled.1.header.command with
  | .response | .appSync | .unknown _ => true
  | .hardware => !handled.2.suppressed
  | .logEvent | .deviceConnect | .deviceDisconnect => false

/-- Whether an accepted frame gets a report beside its answer. -/
def CodeTable.reports (table : CodeTable) (reportUnknown : Bool)
    (handled : Frame × Dispatched) : Bool :=
  reportUnknown && (table.resolve handled.1.header.command).isUnknown

namespace Event

theorem answered?_of_messageId?_eq_none {event : Event} (h : event.messageId? = none) :
    event.answered? = none := by
  cases event with
  | response id command code body => cases h
  | _ => rfl

theorem reported?_of_messageId?_eq_none {event : Event} (h : event.messageId? = none) :
    event.reported? = none := by
  cases event with
  | unknown command id => cases h
  | _ => rfl

end Event

/-! ## One frame -/

/-- The events of an accepted frame answer and report that frame. -/
structure Correlates (table : CodeTable) (reportUnknown : Bool) (handled : Frame × Dispatched) :
    Prop where
  /-- A frame that is to be answered is answered once, before anything else. -/
  answer : table.answers handled = true →
    ∃ code body rest,
      handled.2.events =
          .response handled.1.header.messageId handled.1.header.command code body :: rest ∧
        ∀ event ∈ rest, event.answered? = none
  silent : table.answers handled = false →
    ∀ event ∈ handled.2.events, event.answered? = none
  /-- The report follows the answer and has the same code and message id. -/
  report : table.reports reportUnknown handled = true →
    handled.2.events =
      [.response handled.1.header.messageId handled.1.header.command none [],
        .unknown handled.1.header.command handled.1.header.messageId]
  unreported : table.reports reportUnknown handled = false →
    ∀ event ∈ handled.2.events, event.reported? = none
  messageId : ∀ event ∈ handled.2.events, ∀ id, event.messageId? = some id →
    id = handled.1.header.messageId

namespace Correlates

variable {table : CodeTable} {reportUnknown : Bool} {handled : Frame × Dispatched}

theorem of_silent (hanswers : table.answers handled = false)
    (hreports : table.reports reportUnknown handled = false)
    (hevents : ∀ event ∈ handled.2.events, event.messageId? = none) :
    Correlates table reportUnknown handled where
  answer h := by
    rw [hanswers] at h
    cases h
  silent _ event hmem := Event.answered?_of_messageId?_eq_none (hevents event hmem)
  report h := by
    rw [hreports] at h
    cases h
  unreported _ event hmem := Event.reported?_of_messageId?_eq_none (hevents event hmem)
  messageId event hmem id hid := by
    rw [hevents event hmem] at hid
    cases hid

theorem of_answer {code : Option UInt32} {body : List String} {rest : List Event}
    (hanswers : table.answers handled = true)
    (hreports : table.reports reportUnknown handled = false)
    (hevents : handled.2.events =
      .response handled.1.header.messageId handled.1.header.command code body :: rest)
    (hrest : ∀ event ∈ rest, event.messageId? = none) :
    Correlates table reportUnknown handled where
  answer _ :=
    ⟨code, body, rest, hevents,
      fun event hmem => Event.answered?_of_messageId?_eq_none (hrest event hmem)⟩
  silent h := by
    rw [hanswers] at h
    cases h
  report h := by
    rw [hreports] at h
    cases h
  unreported _ event hmem := by
    rw [hevents, List.mem_cons] at hmem
    rcases hmem with rfl | hmem
    · rfl
    · exact Event.reported?_of_messageId?_eq_none (hrest event hmem)
  messageId event hmem id hid := by
    rw [hevents, List.mem_cons] at hmem
    rcases hmem with rfl | hmem
    · exact (Option.some.inj hid).symm
    · rw [hrest event hmem] at hid
      cases hid

theorem of_report (hanswers : table.answers handled = true)
    (hreports : table.reports reportUnknown handled = true)
    (hevents : handled.2.events =
      [.response handled.1.header.messageId handled.1.header.command none [],
        .unknown handled.1.header.command handled.1.header.messageId]) :
    Correlates table reportUnknown handled where
  answer _ := by
    refine ⟨none, [], _, hevents, ?_⟩
    intro event hmem
    rw [List.mem_singleton] at hmem
    rw [hmem]
    rfl
  silent h := by
    rw [hanswers] at h
    cases h
  report _ := hevents
  unreported h := by
    rw [hreports] at h
    cases h
  messageId event hmem id hid := by
    simp only [hevents, List.mem_cons, List.not_mem_nil, or_false] at hmem
    rcases hmem with rfl | rfl
    · exact (Option.some.inj hid).symm
    · exact (Option.some.inj hid).symm

theorem filterMap_answered? (h : Correlates table reportUnknown handled) :
    handled.2.events.filterMap Event.answered? =
      if table.answers handled then [handled.1.header.ticket] else [] := by
  cases hanswers : table.answers handled with
  | true =>
      obtain ⟨code, body, rest, hevents, hrest⟩ := h.answer hanswers
      rw [hevents, List.filterMap_cons, List.filterMap_eq_nil_iff.2 hrest]
      rfl
  | false => exact List.filterMap_eq_nil_iff.2 (h.silent hanswers)

theorem filterMap_reported? (h : Correlates table reportUnknown handled) :
    handled.2.events.filterMap Event.reported? =
      if table.reports reportUnknown handled then [handled.1.header.ticket] else [] := by
  cases hreports : table.reports reportUnknown handled with
  | true =>
      rw [h.report hreports]
      rfl
  | false => exact List.filterMap_eq_nil_iff.2 (h.unreported hreports)

end Correlates

/-- A frame that is not held back is answered and reported as its command
asks. -/
theorem Reading.correlates {r : Reading} {table : CodeTable} {frame : Frame}
    (hheader : r.header = frame.header) (hresolve : table.resolve frame.header.command = r.command)
    (reportUnknown : Bool) :
    Correlates table reportUnknown (frame, ⟨r.command, r.events reportUnknown, false⟩) := by
  have hreports : r.command.isUnknown = false →
      table.reports reportUnknown (frame, ⟨r.command, r.events reportUnknown, false⟩) = false := by
    intro hknown
    rw [CodeTable.reports, hresolve, hknown, Bool.and_false]
  have hecho : r.events reportUnknown = [r.echo, r.telemetry] →
      ∃ body rest, r.events reportUnknown =
          .response frame.header.messageId frame.header.command none body :: rest ∧
        ∀ event ∈ rest, event.messageId? = none := by
    intro hevents
    refine ⟨r.fields, [r.telemetry], ?_, ?_⟩
    · rw [hevents, echo, hheader]
    · intro event hmem
      rw [List.mem_singleton] at hmem
      rw [hmem]
      rfl
  cases hcommand : r.command with
  | response =>
      rw [hcommand] at hreports hresolve
      have hevents : r.events reportUnknown = [.response frame.header.messageId
          frame.header.command (responseCode? r.body) []] := by
        rw [events, hcommand, answer, hheader]
      exact .of_answer (by simp only [CodeTable.answers, hresolve]) (hreports rfl) hevents
        (List.forall_mem_nil _)
  | hardware =>
      rw [hcommand] at hreports hresolve
      obtain ⟨body, rest, hevents, hrest⟩ := hecho (by rw [events, hcommand])
      exact .of_answer (by simp only [CodeTable.answers, hresolve]; rfl) (hreports rfl) hevents
        hrest
  | appSync =>
      rw [hcommand] at hreports hresolve
      obtain ⟨body, rest, hevents, hrest⟩ := hecho (by rw [events, hcommand])
      exact .of_answer (by simp only [CodeTable.answers, hresolve]) (hreports rfl) hevents hrest
  | logEvent =>
      rw [hcommand] at hreports hresolve
      refine .of_silent (by simp only [CodeTable.answers, hresolve]) (hreports rfl) ?_
      simp [events, hcommand, Event.messageId?]
  | deviceConnect =>
      rw [hcommand] at hreports hresolve
      refine .of_silent (by simp only [CodeTable.answers, hresolve]) (hreports rfl) ?_
      simp [events, hcommand, Event.messageId?]
  | deviceDisconnect =>
      rw [hcommand] at hreports hresolve
      refine .of_silent (by simp only [CodeTable.answers, hresolve]) (hreports rfl) ?_
      simp [events, hcommand, Event.messageId?]
  | unknown code =>
      rw [hcommand] at hresolve
      cases hreport : reportUnknown with
      | true =>
          refine .of_report (by simp only [CodeTable.answers, hresolve])
            (by rw [CodeTable.reports, hresolve]; rfl) ?_
          simp [events, hcommand, answer, hheader]
      | false =>
          have hevents : r.events false = [.response frame.header.messageId
              frame.header.command none []] := by
            simp [events, hcommand, answer, hheader]
          exact .of_answer (by simp only [CodeTable.answers, hresolve])
            (by rw [CodeTable.reports]; rfl) hevents (List.forall_mem_nil _)

theorem Dispatcher.correlates {d : Dispatcher} {frame : Frame} {tracking : Tracking}
    {x : Dispatched} (h : d.dispatch frame tracking = .ok x) :
    Correlates d.table d.reportUnknown (frame, x) := by
  obtain ⟨r, hread, rfl⟩ := dispatch_eq_ok h
  obtain ⟨hheader, -, hresolve, -⟩ := Reading.ofFrame_eq_ok hread
  by_cases hheld : r.isSuppressed tracking = true
  · have hcommand := Reading.command_eq_hardware_of_isSuppressed hheld
    rw [hcommand] at hresolve
    rw [Reading.dispatched, if_pos hheld]
    refine .of_silent ?_ ?_ (List.forall_mem_nil _)
    · simp only [CodeTable.answers, ← hresolve]
      rfl
    · rw [CodeTable.reports, ← hresolve]
      exact Bool.and_false _
  · rw [Reading.dispatched, if_neg hheld]
    exact Reading.correlates hheader hresolve.symm d.reportUnknown

/-! ## Runs -/

namespace Session

variable {P : Type}

theorem correlates_of_mem_accepted {s : Session P} {steps : List Step}
    {handled : Frame × Dispatched} (h : handled ∈ s.accepted steps) :
    Correlates s.processor.dispatcher.table s.processor.dispatcher.reportUnknown handled := by
  rw [accepted, judgements, List.filterMap_map, List.mem_filterMap] at h
  obtain ⟨⟨tracking, raw⟩, -, hhandled⟩ := h
  rw [Function.comp_apply] at hhandled
  cases hjudge : s.processor.dispatcher.judge s.processor.maxBody tracking raw with
  | dropped why =>
      rw [hjudge] at hhandled
      cases hhandled
  | accepted frame x =>
      rw [hjudge] at hhandled
      obtain rfl : (frame, x) = handled := Option.some.inj hhandled
      exact Dispatcher.correlates (Dispatcher.judge_eq_accepted hjudge).2.2

variable [Publisher P]

/-- If each accepted frame shows at most once in its own events, the published
events show these frames in order. -/
theorem filterMap_journal {s : Session P} {steps : List Step}
    {select : Event → Option (UInt16 × UInt8)} {chosen : Frame × Dispatched → Bool}
    (h : ∀ x ∈ s.accepted steps, x.2.events.filterMap select =
      if chosen x then [x.1.header.ticket] else []) :
    (s.journaled.run steps).processor.publisher.journal.filterMap select =
      ((s.accepted steps).filter chosen).map fun x => x.1.header.ticket := by
  rw [journal_eq_flatMap_accepted, List.filterMap_flatMap, List.flatMap_congr h,
    ← List.filterMap_eq_map, List.filterMap_filter, List.filterMap_eq_flatMap_toList]
  apply List.flatMap_congr
  intro x _
  cases chosen x with
  | true => rfl
  | false => rfl

/-- The answers that a run publishes are, in order, those to the accepted frames
that settle a request, and the reports are those of the accepted frames with an
unassigned code, if the configuration asks for reports.  Each accepted frame is
answered once and first, and no event carries the message id of another frame. -/
theorem answers_correlate {config : Config} (hvalid : config.validate = .ok config)
    (publisher : P) (initial : Tracking) (source : TrackingSource) (steps : List Step) :
    ∃ p, Processor.ofConfig config publisher = .ok p ∧
      let s : Session P := ⟨p, initial, source⟩
      let published := (s.journaled.run steps).processor.publisher.journal
      let accepted := s.accepted steps
      let reports := config.table.reports config.reportUnknown
      published = accepted.flatMap (fun x => x.2.events) ∧
        (s.run steps).processor.stats.frames = accepted.length ∧
        (s.run steps).processor.stats.suppressed = accepted.countP (·.2.suppressed) ∧
        published.filterMap Event.answered? =
          (accepted.filter config.table.answers).map (fun x => x.1.header.ticket) ∧
        published.filterMap Event.reported? =
          (accepted.filter reports).map (fun x => x.1.header.ticket) ∧
        ∀ handled ∈ accepted, Correlates config.table config.reportUnknown handled := by
  obtain ⟨p, hp, htable, hreport, -, -, hempty⟩ := Processor.exists_ofConfig hvalid publisher
  refine ⟨p, hp, ?_⟩
  intro s published accepted reports
  have hcorrelates : ∀ handled ∈ accepted,
      Correlates config.table config.reportUnknown handled := by
    intro handled hmem
    rw [← htable, ← hreport]
    exact correlates_of_mem_accepted hmem
  obtain ⟨hframes, hsuppressed⟩ := s.stats_run_accepted steps
  have hstart : s.processor.stats = {} := hempty
  rw [hstart] at hframes hsuppressed
  refine ⟨s.journal_eq_flatMap_accepted steps, hframes.trans (Nat.zero_add _),
    hsuppressed.trans (Nat.zero_add _), ?_, ?_, hcorrelates⟩
  · apply filterMap_journal
    intro x hmem
    exact (hcorrelates x hmem).filterMap_answered?
  · apply filterMap_journal
    intro x hmem
    exact (hcorrelates x hmem).filterMap_reported?

/-- A reading that is held back is not answered, the same reading of the device
that is followed then is, and an unassigned code is answered and reported. -/
theorem answers_correlate_around_retarget :
    let config : Config := { reportUnknown := true }
    let p : Processor Collector :=
      { dispatcher := { reportUnknown := true }, maxBody := 65536, publisher := {} }
    let s : Session Collector := ⟨p, .strict 42, .shared⟩
    let steps : List Step :=
      [.input (.ingest [20, 0, 1, 0x37]), .input (.retarget (.follow (some 7))),
        .input (.process [20, 0, 2, 0x37]), .input (.ingest [9, 0, 3]),
        .input (.process [4, 0, 4]), .input (.ingest [0, 0, 5, 0, 0, 0, 200])]
    config.validate = .ok config ∧ Processor.ofConfig config {} = .ok p ∧
      (s.journaled.run steps).processor.publisher.journal.filterMap Event.answered? =
        [(2, 20), (3, 9), (5, 0)] ∧
      (s.journaled.run steps).processor.publisher.journal.filterMap Event.reported? =
        [(3, 9)] := by
  intro config p s steps
  have hvalid : config.validate = .ok config := rfl
  have hp : Processor.ofConfig config {} = .ok p := rfl
  obtain ⟨q, hq, hrest⟩ :=
    answers_correlate hvalid ({} : Collector) (.strict 42) .shared steps
  obtain rfl : p = q := Except.ok.inj (hp.symm.trans hq)
  obtain ⟨-, -, -, hanswered, hreported, -⟩ := hrest
  refine ⟨hvalid, hp, ?_, ?_⟩
  · rw [hanswered]
    decide
  · rw [hreported]
    decide

end Session
end DeviceFeed
