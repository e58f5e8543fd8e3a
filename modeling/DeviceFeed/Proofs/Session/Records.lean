import DeviceFeed.Proofs.Session.Judgement

/-!
# One record per frame

A listener gets debug records while frames are handled.  This file proves that the
records of a run are those of its frames, one for each and in order: a dropped
frame leaves the record of its error, and any other frame, held back or not, leaves
the record of its reading.

The record of a dropped frame has the code and the message id of its header, or zeros
if the frame is too short for a header.  Zeros may also be what a header says.
-/

namespace DeviceFeed

/-! ## Records of dropped frames -/

/-- The record says why the given bytes were dropped. -/
structure Record.OfDropped (record : Record) (raw : Bytes) (why : Rejection) : Prop where
  label : record.label = "Dropped"
  error : record.error = some why.message
  short : raw.length < 3 → record.command = 0 ∧ record.messageId = 0
  header : ∀ frame, Frame.spelled? raw = some frame →
    record.command = frame.header.command ∧ record.messageId = frame.header.messageId

theorem Rejection.record_none_ofDropped (why : Rejection) {raw : Bytes} (h : raw.length < 3) :
    (why.record none).OfDropped raw why where
  label := rfl
  error := rfl
  short _ := ⟨rfl, rfl⟩
  header frame hframe := by
    rw [Frame.spelled?_of_short h] at hframe
    cases hframe

theorem Rejection.record_some_ofDropped (why : Rejection) {raw : Bytes} {frame : Frame}
    (hframe : Frame.spelled? raw = some frame) :
    (why.record (some frame.header)).OfDropped raw why where
  label := rfl
  error := rfl
  short h := by
    have hlength := Frame.length_of_spelled? hframe
    omega
  header other hother := by
    obtain rfl : frame = other := Option.some.inj (hframe.symm.trans hother)
    exact ⟨rfl, rfl⟩

/-! ## Records of accepted frames -/

/-- The record describes an accepted frame for which the given events were
published. -/
structure Record.OfAccepted (record : Record) (table : CodeTable) (frame : Frame)
    (handed : List Event) : Prop where
  label : record.label = (table.resolve frame.header.command).label
  command : record.command = frame.header.command
  messageId : record.messageId = frame.header.messageId
  error : record.error = none
  fields_of_text : table.resolve frame.header.command ∈
      [.hardware, .logEvent, .deviceConnect, .deviceDisconnect, .appSync] →
    Field.decode frame.body = .ok record.fields
  fields_of_other : table.resolve frame.header.command ∉
      [.hardware, .logEvent, .deviceConnect, .deviceDisconnect, .appSync] →
    record.fields = []
  responseCode : table.resolve frame.header.command = .response →
    handed = [.response frame.header.messageId frame.header.command record.responseCode []]

namespace Reading

theorem fields_record_of_isText {r : Reading} (h : r.command.isText = true)
    (tracking : Tracking) : (r.record tracking).fields = r.fields := by
  unfold record
  cases hcommand : r.command with
  | response =>
      rw [hcommand] at h
      cases h
  | unknown code =>
      rw [hcommand] at h
      cases h
  | _ => rfl

theorem fields_record_of_not_isText {r : Reading} (h : r.command.isText = false)
    (tracking : Tracking) : (r.record tracking).fields = [] := by
  unfold record
  cases hcommand : r.command with
  | response => rfl
  | unknown code => rfl
  | _ =>
      rw [hcommand] at h
      cases h

theorem events_of_response {r : Reading} (h : r.command = .response) (reportUnknown : Bool)
    (tracking : Tracking) :
    (r.dispatched reportUnknown tracking).events = [r.answer (responseCode? r.body)] := by
  have hforwarded : r.isSuppressed tracking = false := by
    rw [isSuppressed, h]
  rw [dispatched, hforwarded, if_neg Bool.false_ne_true]
  simp only [events, h]

/-- The record of a reading describes its frame, whatever tracking says. -/
theorem record_ofAccepted {table : CodeTable} {frame : Frame} {r : Reading}
    (h : ofFrame table frame = .ok r) (reportUnknown : Bool) (tracking : Tracking) :
    (r.record tracking).OfAccepted table frame (r.dispatched reportUnknown tracking).events := by
  obtain ⟨hheader, hbody, hcommand, hdecode⟩ := ofFrame_eq_ok h
  rw [← hheader] at hcommand
  have hbase : (r.record tracking).label = r.command.label ∧
      (r.record tracking).command = r.header.command ∧
      (r.record tracking).messageId = r.header.messageId ∧ (r.record tracking).error = none := by
    unfold record
    cases r.command <;> exact ⟨rfl, rfl, rfl, rfl⟩
  obtain ⟨hlabel, hcode, hid, herror⟩ := hbase
  rw [hcommand] at hlabel
  rw [hheader] at hcommand hlabel hcode hid
  refine ⟨hlabel, hcode, hid, herror, ?_, ?_, ?_⟩
  · intro htext
    rw [← hcommand, ← Command.isText_iff] at htext
    rw [fields_record_of_isText htext]
    exact hdecode htext
  · intro hother
    rw [← hcommand, ← Command.isText_iff, Bool.not_eq_true] at hother
    exact fields_record_of_not_isText hother tracking
  · intro hresponse
    rw [← hcommand] at hresponse
    have hrecord : (r.record tracking).responseCode = responseCode? r.body := by
      simp only [record, hresponse]
    rw [events_of_response hresponse, hrecord, answer, hheader]

end Reading

/-! ## One frame -/

variable {P : Type} [Publisher P]

/-- Whatever becomes of a frame, a listener gets one record of it. -/
theorem Processor.record_process {p : Processor P} (hsink : p.dispatcher.sink = .listener)
    (tracking : Tracking) (raw : Bytes) :
    ∃ record, (p.process tracking raw).trace.records = [record] ∧
      (∀ why, (p.process tracking raw).result = .error why → record.OfDropped raw why) ∧
      ∀ count, (p.process tracking raw).result = .ok count →
        ∃ frame, Frame.spelled? raw = some frame ∧
          record.OfAccepted p.dispatcher.table frame
            (p.dispatcher.contribution p.maxBody tracking raw) := by
  -- a dropped frame leaves one record, unless something was left before
  have hreject (header : Option Header) (why : Rejection) (trace : Trace)
      (hempty : trace.records = []) :
      (p.reject header why trace).trace.records = [why.record header] := by
    change trace.records ++ (p.dispatcher.sink.trace _).records = _
    rw [hempty, hsink]
    rfl
  cases p.process_cases tracking raw with
  | short hshort hprocess =>
      rw [hprocess]
      refine ⟨_, hreject _ _ _ rfl, ?_, ?_⟩
      · rintro _ ⟨⟩
        exact Rejection.record_none_ofDropped _ hshort
      · rintro count ⟨⟩
  | oversized frame hframe hsize hprocess =>
      rw [hprocess]
      refine ⟨_, hreject _ _ _ rfl, ?_, ?_⟩
      · rintro _ ⟨⟩
        exact Rejection.record_some_ofDropped _ hframe
      · rintro count ⟨⟩
  | notText frame fault hframe hsize hdispatch hprocess =>
      have hfailed : (p.dispatcher.trace frame tracking).records = [] := by
        rw [Dispatcher.dispatch] at hdispatch
        rw [Dispatcher.trace]
        cases hread : Reading.ofFrame p.dispatcher.table frame with
        | error other => rfl
        | ok r =>
            rw [hread] at hdispatch
            cases hdispatch
      rw [hprocess]
      refine ⟨_, hreject _ _ _ hfailed, ?_, ?_⟩
      · rintro _ ⟨⟩
        exact Rejection.record_some_ofDropped _ hframe
      · rintro count ⟨⟩
  | accepted frame d hframe hsize hdispatch hprocess =>
      have hhanded := Dispatcher.contribution_of_dispatched hframe hsize hdispatch
      obtain ⟨r, hread, rfl⟩ := Dispatcher.dispatch_eq_ok hdispatch
      have hrecords : (p.dispatcher.trace frame tracking).records = [r.record tracking] := by
        rw [Dispatcher.trace, hread, hsink]
        rfl
      rw [hprocess, accept_records, hrecords, hhanded]
      refine ⟨_, rfl, ?_, ?_⟩
      · rintro why ⟨⟩
      · intro count _
        exact ⟨frame, hframe, Reading.record_ofAccepted hread _ _⟩

/-! ## Runs -/

/-- A frame of a run, with what came of it. -/
structure Handling where
  raw : Bytes
  /-- The count or the error of the frame, also if errors are passed over. -/
  result : Except Rejection Nat
  reply : Reply
  /-- What the publisher was handed meanwhile. -/
  handed : List Event

/-- The record, and no other, describes what came of the frame. -/
structure Handling.DescribedBy (table : CodeTable) (handling : Handling) (record : Record) :
    Prop where
  records : handling.reply.trace.records = [record]
  returned : handling.reply.result = some handling.result ∨
    ∃ why, handling.result = .error why ∧ handling.reply.result = some (.ok 0) ∧
      .dropping why ∈ handling.reply.trace.messages
  dropped : ∀ why, handling.result = .error why → record.OfDropped handling.raw why
  accepted : ∀ count, handling.result = .ok count →
    ∃ frame, Frame.spelled? handling.raw = some frame ∧
      record.OfAccepted table frame handling.handed

namespace Session

/-- What comes of the bytes that a step brings. -/
def handling (s : Session (Journaled P)) (step : Step) (raw : Bytes) : Handling :=
  let after := s.step step
  { raw := raw
    result := (s.processor.process s.observed raw).result
    reply := after.2
    handed := after.1.processor.publisher.journal.drop s.processor.publisher.journal.length }

/-- What comes of the frames of a run, in order. -/
def handlings (s : Session (Journaled P)) : List Step → List Handling
  | [] => []
  | step :: more => (step.raw?.map (s.handling step)).toList ++ (s.step step).1.handlings more

theorem map_raw_handlings (s : Session (Journaled P)) (steps : List Step) :
    (s.handlings steps).map Handling.raw = steps.filterMap Step.raw? := by
  induction steps generalizing s with
  | nil => rfl
  | cons step steps ih =>
      rw [handlings, List.map_append, ih, List.filterMap_cons]
      cases step.raw? with
      | none => rfl
      | some raw => rfl

theorem exists_describedBy {s : Session (Journaled P)}
    (hsink : s.processor.dispatcher.sink = .listener) {step : Step} {raw : Bytes}
    (hraw : step.raw? = some raw) :
    ∃ record, (s.handling step raw).DescribedBy s.processor.dispatcher.table record := by
  obtain ⟨record, hrecords, hdropped, haccepted⟩ :=
    Processor.record_process hsink s.observed raw
  have hhanded : (s.handling step raw).handed =
      s.processor.dispatcher.contribution s.processor.maxBody s.observed raw := by
    change List.drop _ _ = _
    rw [journal_step, contribution_of_raw? hraw, List.drop_left]
  rw [← hhanded] at haccepted
  -- a dropped frame that is passed over leaves a message, but no further record
  have hreply : (s.step step).2.trace.records = [record] ∧
      ((s.step step).2.result = some (s.processor.process s.observed raw).result ∨
        ∃ why, (s.processor.process s.observed raw).result = .error why ∧
          (s.step step).2.result = some (.ok 0) ∧
          .dropping why ∈ (s.step step).2.trace.messages) := by
    rcases s.step_eq_afterFrame hraw with hstep | hstep
    · rw [hstep]
      exact ⟨hrecords, Or.inl rfl⟩
    · cases hresult : (s.processor.process s.observed raw).result with
      | ok count =>
          rw [hstep, Processor.ingest_of_eq_ok hresult]
          exact ⟨hrecords, Or.inl (congrArg some hresult)⟩
      | error why =>
          have hmessage : (s.step step).2.trace =
              (s.processor.process s.observed raw).trace ++ Trace.say (.dropping why) := by
            rw [hstep, Processor.ingest_of_eq_error hresult]
            rfl
          refine ⟨?_, Or.inr ⟨why, rfl, ?_, ?_⟩⟩
          · rw [hmessage]
            change _ ++ [] = _
            rw [List.append_nil, hrecords]
          · rw [hstep, Processor.ingest_of_eq_error hresult]
            rfl
          · rw [hmessage]
            exact List.mem_append_right _ List.mem_cons_self
  exact ⟨record, hreply.1, hreply.2, hdropped, haccepted⟩

theorem records_of_raw?_eq_none (s : Session (Journaled P)) {step : Step}
    (hraw : step.raw? = none) : (s.step step).2.trace.records = [] := by
  rcases update_or_receipt_of_raw?_eq_none hraw with ⟨update, rfl⟩ | ⟨receipt, rfl⟩
  · rfl
  · rfl

theorem forall₂_describedBy {s : Session (Journaled P)}
    (hsink : s.processor.dispatcher.sink = .listener) (steps : List Step) :
    List.Forall₂ (Handling.DescribedBy s.processor.dispatcher.table) (s.handlings steps)
      ((s.replies steps).flatMap (·.trace.records)) := by
  induction steps generalizing s with
  | nil => exact List.Forall₂.nil
  | cons step steps ih =>
      have hdispatcher := s.step_dispatcher step
      have hrest := ih (s := (s.step step).1) (by rw [hdispatcher, hsink])
      rw [hdispatcher] at hrest
      rw [handlings, replies, List.flatMap_cons]
      cases hraw : step.raw? with
      | none =>
          rw [records_of_raw?_eq_none s hraw]
          exact hrest
      | some raw =>
          obtain ⟨record, hrecord⟩ := exists_describedBy hsink hraw
          have hrecords : (s.step step).2.trace.records = [record] := hrecord.records
          rw [hrecords]
          exact List.Forall₂.cons hrecord hrest

/-- The records that a listener gets in a run correspond to the frames of the run,
one to one and in order, and each record describes its frame.  A record of zeros may
belong to a short frame as well as to one whose header says so. -/
theorem one_record_per_frame (p : Processor P) (initial : Tracking) (source : TrackingSource)
    (steps : List Step) :
    let s : Session P := { processor := p.withListener, tracking := initial, source := source }
    let handlings := s.journaled.handlings steps
    handlings.map Handling.raw = steps.filterMap Step.raw? ∧
      List.Forall₂ (Handling.DescribedBy p.dispatcher.table) handlings
        ((s.replies steps).flatMap (·.trace.records)) := by
  intro s handlings
  refine ⟨s.journaled.map_raw_handlings steps, ?_⟩
  rw [← (s.run_journaled steps).2]
  exact forall₂_describedBy (s := s.journaled) rfl steps

/-- A frame that is too short is passed over, a reading of another device than the followed one is
held back, and a response is answered.  Each leaves its record. -/
theorem one_record_per_frame_of_each_kind :
    let p : Processor Collector := { dispatcher := {}, maxBody := 64, publisher := {} }
    let s : Session Collector := { processor := p.withListener, tracking := .strict 7 }
    let short : Bytes := [0x14, 0x00]
    let reading : Bytes := [0x14, 0x00, 0x09, 0x37]
    let response : Bytes := [0x00, 0x00, 0x0A, 0x00, 0x00, 0x00, 0xC8]
    let steps : List Step :=
      [.input (.ingest short), .input (.retarget (.follow (some 8))), .input (.process reading),
        .input (.process response)]
    let records : List Record :=
      [{ label := "Dropped", command := 0, messageId := 0,
         error := some "Malformed frame: expected at least 3 bytes, got 2" },
        { label := "Hardware", command := 20, messageId := 9, fields := ["7"],
          deviceId := some "7", tracking := some (.strict 8), isFollowed := some false },
        { label := "Response", command := 0, messageId := 10, responseCode := some 200 }]
    (s.journaled.handlings steps).map Handling.raw = [short, reading, response] ∧
      (s.replies steps).filterMap (·.result) = [.ok 0, .ok 0, .ok 1] ∧
      (s.replies steps).flatMap (·.trace.records) = records ∧
      List.Forall₂ (Handling.DescribedBy p.dispatcher.table) (s.journaled.handlings steps)
        records := by
  intro p s short reading response steps records
  have hresults : (s.replies steps).filterMap (·.result) = [.ok 0, .ok 0, .ok 1] := by
    decide +kernel
  have hrecords : (s.replies steps).flatMap (·.trace.records) = records := by decide +kernel
  obtain ⟨hraws, hdescribed⟩ := one_record_per_frame p (.strict 7) .shared steps
  change List.Forall₂ _ _ ((s.replies steps).flatMap (·.trace.records)) at hdescribed
  rw [hrecords] at hdescribed
  exact ⟨hraws, hresults, hrecords, hdescribed⟩

/-- Zeros in the record of a dropped frame do not tell that it was too short for a header: four
bytes are dropped for the length of their body, and their header consists of zeros. -/
theorem zeros_recorded_of_four_bytes :
    let config : Config := { maxBody := 0 }
    let p : Processor Collector := { dispatcher := {}, maxBody := 0, publisher := {} }
    let s : Session Collector := { processor := p.withListener }
    let raw : Bytes := [0x00, 0x00, 0x00, 0x01]
    let record : Record :=
      { label := "Dropped", command := 0, messageId := 0,
        error := some "Malformed frame: body of 1 bytes exceeds limit of 0" }
    Processor.ofConfig config ({} : Collector) = .ok p ∧
      (s.replies [.input (.process raw)]).map (·.result) = [some (.error (.oversized 1 0))] ∧
      (s.replies [.input (.process raw)]).flatMap (·.trace.records) = [record] ∧
      ¬raw.length < 3 ∧
      ¬∀ (settings : Config) (q : Processor Collector) (tracking : Tracking) (bytes : Bytes)
          (why : Rejection), Processor.ofConfig settings {} = .ok q →
        (q.withListener.process tracking bytes).result = .error why →
          ∀ other ∈ (q.withListener.process tracking bytes).trace.records,
            (other.command = 0 ∧ other.messageId = 0 ↔ bytes.length < 3) := by
  intro config p s raw record
  have hp : Processor.ofConfig config ({} : Collector) = .ok p := rfl
  have hresult : (p.withListener.process {} raw).result = .error (.oversized 1 0) := by rfl
  have hrecords : (p.withListener.process {} raw).trace.records = [record] := by decide +kernel
  have hlong : ¬raw.length < 3 := by decide
  refine ⟨hp, congrArg ([some ·]) hresult, ?_, hlong, ?_⟩
  · exact (List.flatMap_singleton _ _).trans hrecords
  · intro hall
    have hmem : record ∈ (p.withListener.process {} raw).trace.records := by
      rw [hrecords]
      exact List.mem_singleton_self record
    exact hlong ((hall config p {} raw _ hp hresult record hmem).1 ⟨rfl, rfl⟩)

end Session
end DeviceFeed
