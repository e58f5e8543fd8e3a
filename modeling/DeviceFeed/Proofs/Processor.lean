import DeviceFeed.Proofs.Dispatch
import DeviceFeed.Proofs.Frame
import DeviceFeed.Proofs.Publisher

/-!
# What a processor can do with received bytes

`Processor.process_cases` lists the four things that `Processor.process` can
do, each with its exact condition.  Everything later about processors and
sessions is a case analysis over these four.
-/

namespace DeviceFeed
namespace Processor

variable {P : Type} [Publisher P]

/-! ## Accepting a frame -/

/-- A processor that has published the events of a frame and counted it. -/
def settle (p : Processor P) (d : Dispatched) : Processor P :=
  { p with
    publisher := (publishAll p.publisher d.events).1
    stats := p.stats.accept d }

theorem accept_records (p : Processor P) (header : Header) (tracking : Tracking)
    (d : Dispatched) (trace : Trace) :
    (p.accept header tracking d trace).trace.records = trace.records := by
  change (trace.records ++ _) ++ [] = trace.records
  cases d.suppressed <;> simp [Trace.say]

/-- What the handling of a frame has left behind stays in front. -/
theorem accept_trace (p : Processor P) (header : Header) (tracking : Tracking)
    (d : Dispatched) (trace : Trace) :
    (p.accept header tracking d trace).trace =
      trace ++ (p.accept header tracking d {}).trace := by
  change Trace.append (Trace.append _ _) _ = Trace.append _ (Trace.append (Trace.append _ _) _)
  simp [Trace.append]

/-! ## The four outcomes -/

theorem process_of_short (p : Processor P) (tracking : Tracking) {raw : Bytes}
    (h : raw.length < 3) :
    p.process tracking raw = p.reject none (.short raw.length) {} := by
  rw [process, Frame.parse_of_short h]

theorem process_of_oversized (p : Processor P) (tracking : Tracking) {raw : Bytes}
    {frame : Frame} (hframe : Frame.spelled? raw = some frame)
    (hsize : p.maxBody < frame.body.length) :
    p.process tracking raw =
      p.reject (some frame.header) (.oversized frame.body.length p.maxBody) {} := by
  rw [process, Frame.parse_of_spelled? hframe]
  exact if_pos hsize

theorem process_of_notText (p : Processor P) (tracking : Tracking) {raw : Bytes}
    {frame : Frame} {fault : Utf8.Fault} (hframe : Frame.spelled? raw = some frame)
    (hsize : frame.body.length ≤ p.maxBody)
    (hdispatch : p.dispatcher.dispatch frame tracking = .error fault) :
    p.process tracking raw =
      p.reject (some frame.header) (.notText fault) (p.dispatcher.trace frame tracking) := by
  rw [process, Frame.parse_of_spelled? hframe]
  simp only [if_neg (Nat.not_lt.2 hsize), hdispatch]

theorem process_of_dispatched (p : Processor P) (tracking : Tracking) {raw : Bytes}
    {frame : Frame} {d : Dispatched} (hframe : Frame.spelled? raw = some frame)
    (hsize : frame.body.length ≤ p.maxBody)
    (hdispatch : p.dispatcher.dispatch frame tracking = .ok d) :
    p.process tracking raw =
      p.accept frame.header tracking d (p.dispatcher.trace frame tracking) := by
  rw [process, Frame.parse_of_spelled? hframe]
  simp only [if_neg (Nat.not_lt.2 hsize), hdispatch]

/-- What becomes of received bytes under a given tracking. -/
inductive Outcome (p : Processor P) (tracking : Tracking) (raw : Bytes) : Prop where
  | short (h : raw.length < 3)
      (hprocess : p.process tracking raw = p.reject none (.short raw.length) {})
  | oversized (frame : Frame) (hframe : Frame.spelled? raw = some frame)
      (hsize : p.maxBody < frame.body.length)
      (hprocess : p.process tracking raw =
        p.reject (some frame.header) (.oversized frame.body.length p.maxBody) {})
  | notText (frame : Frame) (fault : Utf8.Fault) (hframe : Frame.spelled? raw = some frame)
      (hsize : frame.body.length ≤ p.maxBody)
      (hdispatch : p.dispatcher.dispatch frame tracking = .error fault)
      (hprocess : p.process tracking raw =
        p.reject (some frame.header) (.notText fault) (p.dispatcher.trace frame tracking))
  | accepted (frame : Frame) (d : Dispatched) (hframe : Frame.spelled? raw = some frame)
      (hsize : frame.body.length ≤ p.maxBody)
      (hdispatch : p.dispatcher.dispatch frame tracking = .ok d)
      (hprocess : p.process tracking raw =
        p.accept frame.header tracking d (p.dispatcher.trace frame tracking))

/-- Received bytes are dropped as too short, as too long or as no text, or
they are accepted. -/
theorem process_cases (p : Processor P) (tracking : Tracking) (raw : Bytes) :
    Outcome p tracking raw := by
  rcases Frame.short_or_exists_cons raw with hshort | ⟨command, high, low, body, rfl⟩
  · exact .short hshort (p.process_of_short tracking hshort)
  · have hframe := Frame.spelled?_cons command high low body
    by_cases hsize : p.maxBody < body.length
    · exact .oversized _ hframe hsize (p.process_of_oversized tracking hframe hsize)
    · rw [Nat.not_lt] at hsize
      cases hdispatch : p.dispatcher.dispatch ⟨⟨command, joinBytes high low⟩, body⟩ tracking with
      | error fault =>
          exact .notText _ fault hframe hsize hdispatch
            (p.process_of_notText tracking hframe hsize hdispatch)
      | ok d =>
          exact .accepted _ d hframe hsize hdispatch
            (p.process_of_dispatched tracking hframe hsize hdispatch)

theorem accepted_of_eq_ok {p : Processor P} {tracking : Tracking} {raw : Bytes} {count : Nat}
    (h : (p.process tracking raw).result = .ok count) :
    ∃ frame d, Frame.spelled? raw = some frame ∧ frame.body.length ≤ p.maxBody ∧
      p.dispatcher.dispatch frame tracking = .ok d ∧
      p.process tracking raw =
        p.accept frame.header tracking d (p.dispatcher.trace frame tracking) := by
  cases p.process_cases tracking raw with
  | short hshort hprocess =>
      rw [hprocess] at h
      cases h
  | oversized frame hframe hsize hprocess =>
      rw [hprocess] at h
      cases h
  | notText frame fault hframe hsize hdispatch hprocess =>
      rw [hprocess] at h
      cases h
  | accepted frame d hframe hsize hdispatch hprocess =>
      exact ⟨frame, d, hframe, hsize, hdispatch, hprocess⟩

/-! ## What never changes -/

theorem process_dispatcher (p : Processor P) (tracking : Tracking) (raw : Bytes) :
    (p.process tracking raw).processor.dispatcher = p.dispatcher := by
  cases p.process_cases tracking raw with
  | short _ h => rw [h]; rfl
  | oversized _ _ _ h => rw [h]; rfl
  | notText _ _ _ _ _ h => rw [h]; rfl
  | accepted _ _ _ _ _ h => rw [h]; rfl

theorem process_maxBody (p : Processor P) (tracking : Tracking) (raw : Bytes) :
    (p.process tracking raw).processor.maxBody = p.maxBody := by
  cases p.process_cases tracking raw with
  | short _ h => rw [h]; rfl
  | oversized _ _ _ h => rw [h]; rfl
  | notText _ _ _ _ _ h => rw [h]; rfl
  | accepted _ _ _ _ _ h => rw [h]; rfl

/-! ## Passing over dropped frames -/

theorem ingest_of_eq_ok {p : Processor P} {tracking : Tracking} {raw : Bytes} {count : Nat}
    (h : (p.process tracking raw).result = .ok count) :
    p.ingest tracking raw = p.process tracking raw := by
  rw [ingest]
  simp only [h]

theorem ingest_of_eq_error {p : Processor P} {tracking : Tracking} {raw : Bytes}
    {why : Rejection} (h : (p.process tracking raw).result = .error why) :
    p.ingest tracking raw =
      { p.process tracking raw with
        result := .ok 0
        trace := (p.process tracking raw).trace ++ Trace.say (.dropping why) } := by
  rw [ingest]
  simp only [h]

theorem ingest_processor (p : Processor P) (tracking : Tracking) (raw : Bytes) :
    (p.ingest tracking raw).processor = (p.process tracking raw).processor := by
  cases h : (p.process tracking raw).result with
  | ok count => rw [ingest_of_eq_ok h]
  | error why => rw [ingest_of_eq_error h]

/-! ## Two processors side by side -/

section

variable {Q : Type} [Publisher Q]

/-- What two processors that read frames alike do with the same bytes. -/
inductive Lockstep (p : Processor P) (q : Processor Q) (tracking : Tracking) (raw : Bytes) :
    Prop where
  | unread (header : Option Header) (why : Rejection)
      (hp : p.process tracking raw = p.reject header why {})
      (hq : q.process tracking raw = q.reject header why {})
  | notText (frame : Frame) (fault : Utf8.Fault)
      (hp : p.process tracking raw =
        p.reject (some frame.header) (.notText fault) (p.dispatcher.trace frame tracking))
      (hq : q.process tracking raw =
        q.reject (some frame.header) (.notText fault) (q.dispatcher.trace frame tracking))
  | accepted (frame : Frame) (d : Dispatched)
      (hp : p.process tracking raw =
        p.accept frame.header tracking d (p.dispatcher.trace frame tracking))
      (hq : q.process tracking raw =
        q.accept frame.header tracking d (q.dispatcher.trace frame tracking))

/-- Publishers, counters and sinks decide neither whether a frame is dropped nor
what it yields. -/
theorem process_lockstep {p : Processor P} {q : Processor Q}
    (htable : p.dispatcher.table = q.dispatcher.table)
    (hreport : p.dispatcher.reportUnknown = q.dispatcher.reportUnknown)
    (hmax : p.maxBody = q.maxBody) (tracking : Tracking) (raw : Bytes) :
    Lockstep p q tracking raw := by
  have hsame := Dispatcher.dispatch_congr htable hreport
  cases p.process_cases tracking raw with
  | short hshort hprocess =>
      exact .unread _ _ hprocess (q.process_of_short tracking hshort)
  | oversized frame hframe hsize hprocess =>
      rw [hmax] at hsize hprocess
      exact .unread _ _ hprocess (q.process_of_oversized tracking hframe hsize)
  | notText frame fault hframe hsize hdispatch hprocess =>
      rw [hmax] at hsize
      rw [hsame] at hdispatch
      exact .notText frame fault hprocess
        (q.process_of_notText tracking hframe hsize hdispatch)
  | accepted frame d hframe hsize hdispatch hprocess =>
      rw [hmax] at hsize
      rw [hsame] at hdispatch
      exact .accepted frame d hprocess
        (q.process_of_dispatched tracking hframe hsize hdispatch)

/-- Passing over dropped frames shows nothing that handling them does not. -/
theorem ingest_congr {p : Processor P} {q : Processor Q} {tracking : Tracking} {raw : Bytes}
    (hresult : (p.process tracking raw).result = (q.process tracking raw).result)
    (htrace : (p.process tracking raw).trace = (q.process tracking raw).trace) :
    (p.ingest tracking raw).result = (q.ingest tracking raw).result ∧
      (p.ingest tracking raw).trace = (q.ingest tracking raw).trace := by
  rw [ingest, ingest, hresult]
  split
  · exact ⟨hresult, htrace⟩
  · exact ⟨rfl, congrArg (· ++ _) htrace⟩

end

end Processor
end DeviceFeed
