import DeviceFeed.Proofs.Session.Run

/-!
# Dropped frames

This file says exactly which received bytes are dropped and why, and that a
dropped frame changes a single counter.  It follows that dropped frames can be
deleted from a run: `Processor.Alike` relates processors that differ at most in
the counters of dropped frames, every step keeps it, and a dropped frame stays
within it.
-/

namespace DeviceFeed

/-- Whether a frame is dropped for its length. -/
def Rejection.isMalformed : Rejection → Bool
  | .short _ => true
  | .oversized .. => true
  | .notText _ => false

namespace Processor

variable {P : Type}

/-- The bytes have no room for a header, or their body is over the limit. -/
def WrongSize (p : Processor P) (raw : Bytes) : Prop :=
  raw.length < 3 ∨ p.maxBody < raw.length - 3

/-- The bytes spell a frame whose command has a text body, and the body is not
valid UTF-8. -/
def NotText (p : Processor P) (raw : Bytes) : Prop :=
  ∃ frame, Frame.spelled? raw = some frame ∧
    p.dispatcher.table.resolve frame.header.command ∈
      [.hardware, .logEvent, .deviceConnect, .deviceDisconnect, .appSync] ∧
    ¬frame.body.toByteArray.IsValidUTF8

theorem not_wrongSize {p : Processor P} {raw : Bytes} {frame : Frame}
    (hframe : Frame.spelled? raw = some frame) (hsize : frame.body.length ≤ p.maxBody) :
    ¬p.WrongSize raw := by
  have hlength := Frame.length_of_spelled? hframe
  rintro (hshort | hlong) <;> omega

theorem notText_iff {p : Processor P} {raw : Bytes} {frame : Frame} (tracking : Tracking)
    (hframe : Frame.spelled? raw = some frame) :
    p.NotText raw ↔ ∃ fault, p.dispatcher.dispatch frame tracking = .error fault := by
  rw [Dispatcher.exists_dispatch_eq_error_iff, Command.isText_iff, NotText]
  constructor
  · rintro ⟨other, hother, h⟩
    rw [hframe, Option.some.injEq] at hother
    subst hother
    exact h
  · intro h
    exact ⟨frame, hframe, h⟩

variable [Publisher P]

/-! ## Which bytes are dropped -/

/-- What becomes of received bytes, by their length and their encoding. -/
inductive Verdict (p : Processor P) (tracking : Tracking) (raw : Bytes) : Prop where
  | malformed (hsize : p.WrongSize raw) (why : Rejection) (hwhy : why.isMalformed = true)
      (hresult : (p.process tracking raw).result = .error why)
      (hprocessor : (p.process tracking raw).processor =
        { p with stats := { p.stats with malformed := p.stats.malformed + 1 } })
  | notText (hsize : ¬p.WrongSize raw) (htext : p.NotText raw) (fault : Utf8.Fault)
      (hresult : (p.process tracking raw).result = .error (.notText fault))
      (hprocessor : (p.process tracking raw).processor =
        { p with stats := { p.stats with invalidEncoding := p.stats.invalidEncoding + 1 } })
  | accepted (hsize : ¬p.WrongSize raw) (htext : ¬p.NotText raw) (count : Nat)
      (hresult : (p.process tracking raw).result = .ok count)

theorem process_verdict (p : Processor P) (tracking : Tracking) (raw : Bytes) :
    p.Verdict tracking raw := by
  cases p.process_cases tracking raw with
  | short hshort hprocess =>
      refine .malformed (Or.inl hshort) (.short raw.length) rfl ?_ ?_
      · rw [hprocess]
        rfl
      · rw [hprocess]
        rfl
  | oversized frame hframe hsize hprocess =>
      have hlength := Frame.length_of_spelled? hframe
      refine .malformed (Or.inr (by omega)) (.oversized frame.body.length p.maxBody) rfl ?_ ?_
      · rw [hprocess]
        rfl
      · rw [hprocess]
        rfl
  | notText frame fault hframe hsize hdispatch hprocess =>
      have htext := (notText_iff tracking hframe).2 ⟨fault, hdispatch⟩
      refine .notText (not_wrongSize hframe hsize) htext fault ?_ ?_
      · rw [hprocess]
        rfl
      · rw [hprocess]
        rfl
  | accepted frame d hframe hsize hdispatch hprocess =>
      refine .accepted (not_wrongSize hframe hsize) ?_ d.events.length ?_
      · rw [notText_iff tracking hframe]
        rintro ⟨fault, hfault⟩
        rw [hdispatch] at hfault
        cases hfault
      · rw [hprocess]
        rfl

/-! ## Processors that differ in the counters of dropped frames -/

/-- Two processors differ at most in how many frames they have dropped. -/
structure Alike (p q : Processor P) : Prop where
  dispatcher : p.dispatcher = q.dispatcher
  maxBody : p.maxBody = q.maxBody
  publisher : p.publisher = q.publisher
  frames : p.stats.frames = q.stats.frames
  unknownCommands : p.stats.unknownCommands = q.stats.unknownCommands
  suppressed : p.stats.suppressed = q.stats.suppressed
  events : p.stats.events = q.stats.events

omit [Publisher P] in
theorem Alike.refl (p : Processor P) : p.Alike p :=
  ⟨rfl, rfl, rfl, rfl, rfl, rfl, rfl⟩

omit [Publisher P] in
theorem Alike.trans {p q r : Processor P} (hpq : p.Alike q) (hqr : q.Alike r) : p.Alike r where
  dispatcher := hpq.dispatcher.trans hqr.dispatcher
  maxBody := hpq.maxBody.trans hqr.maxBody
  publisher := hpq.publisher.trans hqr.publisher
  frames := hpq.frames.trans hqr.frames
  unknownCommands := hpq.unknownCommands.trans hqr.unknownCommands
  suppressed := hpq.suppressed.trans hqr.suppressed
  events := hpq.events.trans hqr.events

omit [Publisher P] in
theorem Alike.reject {p q : Processor P} (h : p.Alike q) (header : Option Header)
    (why : Rejection) (trace : Trace) :
    (p.reject header why trace).processor.Alike (q.reject header why trace).processor := by
  cases why <;> exact ⟨h.1, h.2, h.3, h.4, h.5, h.6, h.7⟩

theorem Alike.settle {p q : Processor P} (h : p.Alike q) (d : Dispatched) :
    (p.settle d).Alike (q.settle d) where
  dispatcher := h.dispatcher
  maxBody := h.maxBody
  publisher := by rw [Processor.settle, Processor.settle, h.publisher]
  frames := congrArg (· + 1) h.frames
  unknownCommands := congrArg (· + _) h.unknownCommands
  suppressed := congrArg (· + _) h.suppressed
  events := congrArg (· + _) h.events

/-- Processors that are alike treat the same bytes alike. -/
theorem Alike.process {p q : Processor P} (h : p.Alike q) (tracking : Tracking)
    (raw : Bytes) :
    (p.process tracking raw).result = (q.process tracking raw).result ∧
      (p.process tracking raw).trace = (q.process tracking raw).trace ∧
      (p.process tracking raw).processor.Alike (q.process tracking raw).processor := by
  have hreject : ∀ header why trace,
      (p.reject header why trace).trace = (q.reject header why trace).trace := by
    intro header why trace
    rw [Processor.reject, Processor.reject, h.dispatcher]
  have hlockstep : Lockstep p q tracking raw :=
    process_lockstep (by rw [h.dispatcher]) (by rw [h.dispatcher]) h.maxBody tracking raw
  cases hlockstep with
  | unread header why hp hq =>
      rw [hp, hq]
      exact ⟨rfl, hreject _ _ _, h.reject _ _ _⟩
  | notText frame fault hp hq =>
      rw [hp, hq, h.dispatcher]
      exact ⟨rfl, hreject _ _ _, h.reject _ _ _⟩
  | accepted frame d hp hq =>
      rw [hp, hq, h.dispatcher]
      refine ⟨rfl, ?_, h.settle d⟩
      rw [Processor.accept, Processor.accept, h.publisher]

theorem Alike.ingest {p q : Processor P} (h : p.Alike q) (tracking : Tracking)
    (raw : Bytes) :
    (p.ingest tracking raw).result = (q.ingest tracking raw).result ∧
      (p.ingest tracking raw).trace = (q.ingest tracking raw).trace ∧
      (p.ingest tracking raw).processor.Alike (q.ingest tracking raw).processor := by
  obtain ⟨hresult, htrace, halike⟩ := h.process tracking raw
  obtain ⟨hingest, htraces⟩ := ingest_congr hresult htrace
  refine ⟨hingest, htraces, ?_⟩
  rw [p.ingest_processor, q.ingest_processor]
  exact halike

/-- A dropped frame stays within the counters of dropped frames. -/
theorem alike_of_process_eq_error {p : Processor P} {tracking : Tracking} {raw : Bytes}
    {why : Rejection} (h : (p.process tracking raw).result = .error why) :
    (p.process tracking raw).processor.Alike p := by
  cases p.process_verdict tracking raw with
  | malformed _ _ _ _ hprocessor =>
      rw [hprocessor]
      exact ⟨rfl, rfl, rfl, rfl, rfl, rfl, rfl⟩
  | notText _ _ _ _ hprocessor =>
      rw [hprocessor]
      exact ⟨rfl, rfl, rfl, rfl, rfl, rfl, rfl⟩
  | accepted _ _ count hresult =>
      rw [hresult] at h
      cases h

end Processor

/-! ## Deleting dropped frames from a run -/

namespace Session

variable {P : Type}

/-- Two sessions differ at most in how many frames they have dropped. -/
structure Alike (s t : Session P) : Prop where
  processor : s.processor.Alike t.processor
  tracking : s.tracking = t.tracking
  source : s.source = t.source

theorem Alike.refl (s : Session P) : s.Alike s :=
  ⟨.refl _, rfl, rfl⟩

theorem Alike.trans {s t u : Session P} (hst : s.Alike t) (htu : t.Alike u) : s.Alike u :=
  ⟨hst.processor.trans htu.processor, hst.tracking.trans htu.tracking,
    hst.source.trans htu.source⟩

variable [Publisher P]

/-- Sessions that are alike take the same step alike. -/
theorem Alike.step {s t : Session P} (h : s.Alike t) (step : Step) :
    (s.step step).2 = (t.step step).2 ∧ (s.step step).1.Alike (t.step step).1 := by
  have hobserved : s.observed = t.observed := by
    rw [observed, observed, h.source, h.tracking]
  cases step with
  | input input =>
      cases input with
      | process raw =>
          obtain ⟨hresult, htrace, halike⟩ := h.processor.process s.observed raw
          rw [hobserved] at hresult htrace halike
          refine ⟨?_, ?_⟩
          · simp only [Session.step, enter, afterFrame, hobserved, hresult, htrace]
          · simp only [Session.step, enter, afterFrame, hobserved]
            exact ⟨halike, h.tracking, h.source⟩
      | ingest raw =>
          obtain ⟨hresult, htrace, halike⟩ := h.processor.ingest s.observed raw
          rw [hobserved] at hresult htrace halike
          refine ⟨?_, ?_⟩
          · simp only [Session.step, enter, afterFrame, hobserved, hresult, htrace]
          · simp only [Session.step, enter, afterFrame, hobserved]
            exact ⟨halike, h.tracking, h.source⟩
      | retarget update =>
          exact ⟨rfl, h.processor, congrArg (·.apply update) h.tracking, h.source⟩
  | receive receipt =>
      refine ⟨?_, ?_⟩
      · simp only [Session.step, h.processor.publisher]
      · simp only [Session.step, h.processor.publisher]
        exact ⟨{ h.processor with publisher := rfl }, h.tracking, h.source⟩

/-- The step brings a frame that is dropped. -/
def Drops (s : Session P) (step : Step) : Prop :=
  ∃ raw why, step.raw? = some raw ∧
    (s.processor.process s.observed raw).result = .error why

theorem Drops.step {s : Session P} {step : Step} (h : s.Drops step) :
    (s.step step).2.taken = [] ∧ (s.step step).1.Alike s := by
  obtain ⟨raw, why, hraw, hresult⟩ := h
  refine ⟨?_, ?_⟩
  · rcases s.step_eq_afterFrame hraw with hstep | hstep
    · rw [hstep]
      rfl
    · rw [hstep]
      rfl
  · rw [step_frame hraw]
    exact ⟨Processor.alike_of_process_eq_error hresult, rfl, rfl⟩

/-- The second list of steps is what is left of the first one when some of the
frames that the session drops on the way are deleted. -/
inductive Thinned : Session P → List Step → List Step → Prop
  | nil (s : Session P) : Thinned s [] []
  | keep (s : Session P) (step : Step) {steps kept : List Step}
      (hrest : Thinned (s.step step).1 steps kept) : Thinned s (step :: steps) (step :: kept)
  | delete (s : Session P) (step : Step) {steps kept : List Step} (hdrops : s.Drops step)
      (hrest : Thinned (s.step step).1 steps kept) : Thinned s (step :: steps) kept

/-- A run without some of the dropped frames ends alike, and the receiving side
takes the same events.  The run starts from a session that is alike, since the
deleted frames are counted in the full run only. -/
theorem Thinned.run {s : Session P} {steps kept : List Step} (h : Thinned s steps kept)
    {t : Session P} (halike : s.Alike t) :
    (s.run steps).Alike (t.run kept) ∧
      (s.replies steps).flatMap Reply.taken = (t.replies kept).flatMap Reply.taken := by
  induction h generalizing t with
  | nil s => exact ⟨halike, rfl⟩
  | keep s step hrest ih =>
      obtain ⟨hreply, hstep⟩ := halike.step step
      obtain ⟨hrun, htaken⟩ := ih hstep
      refine ⟨hrun, ?_⟩
      rw [replies, replies, List.flatMap_cons, List.flatMap_cons, hreply, htaken]
  | delete s step hdrops hrest ih =>
      obtain ⟨htaken, hstep⟩ := hdrops.step
      obtain ⟨hrun, hrest⟩ := ih (hstep.trans halike)
      refine ⟨hrun, ?_⟩
      rw [replies, List.flatMap_cons, htaken, hrest]
      rfl

/-- A frame is dropped exactly for its length or, if the length is fine, for a
text body that is no text.  A dropped frame changes one counter and nothing
else, so dropped frames can be deleted from a run without any effect on what is
published and on the other counters. -/
theorem drops_exactly_and_thins (s : Session P) :
    (∀ raw, let after := s.step (.input (.process raw))
      ((∃ why, after.2.result = some (.error why) ∧ why.isMalformed = true) ↔
        s.processor.WrongSize raw) ∧
      ((∃ fault, after.2.result = some (.error (.notText fault))) ↔
        ¬s.processor.WrongSize raw ∧ s.processor.NotText raw) ∧
      ((∃ count, after.2.result = some (.ok count)) ↔
        ¬s.processor.WrongSize raw ∧ ¬s.processor.NotText raw) ∧
      ∀ why, after.2.result = some (.error why) →
        let stats := s.processor.stats
        after.1 = { s with processor := { s.processor with stats :=
          if why.isMalformed then { stats with malformed := stats.malformed + 1 }
          else { stats with invalidEncoding := stats.invalidEncoding + 1 } } }) ∧
    ∀ steps kept, s.Thinned steps kept →
      let full := (s.run steps).processor
      let thin := (s.run kept).processor
      thin.publisher = full.publisher ∧
        (s.replies kept).flatMap Reply.taken = (s.replies steps).flatMap Reply.taken ∧
        (s.run kept).tracking = (s.run steps).tracking ∧
        thin.stats.frames = full.stats.frames ∧
        thin.stats.unknownCommands = full.stats.unknownCommands ∧
        thin.stats.suppressed = full.stats.suppressed ∧
        thin.stats.events = full.stats.events := by
  refine ⟨?_, ?_⟩
  · intro raw
    have hafter : s.step (.input (.process raw)) =
        s.afterFrame (s.processor.process s.observed raw) := rfl
    simp only [hafter, afterFrame, Option.some.injEq]
    cases s.processor.process_verdict s.observed raw with
    | malformed hsize why hwhy hresult hprocessor =>
        rw [hresult, hprocessor]
        have hnot : ∀ fault, why ≠ .notText fault := by
          rintro fault rfl
          cases hwhy
        refine ⟨by simp [hsize, hwhy], by simp [hsize, hnot], by simp [hsize], ?_⟩
        rintro other ⟨⟩
        rw [if_pos hwhy]
    | notText hsize htext fault hresult hprocessor =>
        rw [hresult, hprocessor]
        refine ⟨by simp [hsize, Rejection.isMalformed], by simp [hsize, htext],
          by simp [htext], ?_⟩
        rintro other ⟨⟩
        rfl
    | accepted hsize htext count hresult =>
        rw [hresult]
        exact ⟨by simp [hsize], by simp [htext], by simp [hsize, htext], by simp⟩
  · intro steps kept hthinned
    obtain ⟨⟨hprocessor, htracking, -⟩, htaken⟩ := hthinned.run (.refl s)
    exact ⟨hprocessor.publisher.symm, htaken.symm, htracking.symm, hprocessor.frames.symm,
      hprocessor.unknownCommands.symm, hprocessor.suppressed.symm, hprocessor.events.symm⟩

/-- Without the frame that is too short and the one that is no text, the same
event is collected. -/
theorem drops_exactly_and_thins_around_event :
    let s : Session Collector :=
      { processor := { dispatcher := {}, maxBody := 4, publisher := {} } }
    let good : Step := .input (.process [4, 0, 1, 0x61])
    let steps : List Step := [.input (.process [4, 0]), good, .input (.ingest [4, 0, 2, 0xC3])]
    s.Thinned steps [good] ∧
      (s.run [good]).processor.publisher = (s.run steps).processor.publisher ∧
      (s.run steps).processor.publisher.events.toList = [.connect "a"] := by
  intro s good steps
  have hthinned : s.Thinned steps [good] :=
    .delete s _ ⟨_, _, rfl, rfl⟩ (.keep _ good (.delete _ _ ⟨_, _, rfl, rfl⟩ (.nil _)))
  exact ⟨hthinned, ((drops_exactly_and_thins s).2 steps [good] hthinned).1, by decide⟩

end Session
end DeviceFeed
