import DeviceFeed.Proofs.Envelope
import DeviceFeed.Proofs.Tracking
import DeviceFeed.Proofs.Session.Journal

/-!
# Which inputs matter to which frames

Tracking matters to live readings only, the body of a response matters through
its first four bytes only, and the body of a frame with an unassigned code does
not matter at all.  So a change of tracking may come before or after any frame
that is not an accepted live reading, and no run shows the difference.
-/

namespace DeviceFeed

/-! ## The first four bytes -/

/-- Two bodies carry the same response code exactly if both are too short for
one or if they begin with the same four bytes. -/
theorem responseCode?_eq_iff (first second : Bytes) :
    responseCode? first = responseCode? second ↔
      first.length < 4 ∧ second.length < 4 ∨
        4 ≤ first.length ∧ 4 ≤ second.length ∧ first.take 4 = second.take 4 := by
  rcases short_or_exists_four first with ⟨hfirst, hnone⟩ | ⟨a, b, c, d, rest, rfl⟩
  · rcases short_or_exists_four second with ⟨hsecond, hother⟩ | ⟨a', b', c', d', rest', rfl⟩
    · simp [hnone, hother, hfirst, hsecond]
    · rw [hnone]
      simp only [responseCode?, reduceCtorEq, List.length_cons, false_iff]
      omega
  · rcases short_or_exists_four second with ⟨hsecond, hother⟩ | ⟨a', b', c', d', rest', rfl⟩
    · rw [hother]
      simp only [responseCode?, reduceCtorEq, List.length_cons, false_iff]
      omega
    · constructor
      · intro h
        obtain ⟨rfl, rfl, rfl, rfl⟩ := responseCode?_injective h
        exact Or.inr ⟨Nat.le_add_left 4 _, Nat.le_add_left 4 _, rfl⟩
      · rintro (⟨hshort, -⟩ | ⟨-, -, htake⟩)
        · simp only [List.length_cons] at hshort
          omega
        · simp only [List.take_succ_cons, List.take_zero, List.cons.injEq, and_true] at htake
          obtain ⟨rfl, rfl, rfl, rfl⟩ := htake
          rfl

/-! ## Dispatching -/

namespace Reading

theorem record_of_ne_hardware {r : Reading} (h : r.command ≠ .hardware)
    (tracking other : Tracking) : r.record tracking = r.record other := by
  unfold record
  cases hcommand : r.command with
  | hardware => exact absurd hcommand h
  | _ => rfl

end Reading

namespace Dispatcher

/-- A frame that is no live reading is handled alike under any tracking, and its
trace is the same. -/
theorem dispatch_of_ne_hardware {d : Dispatcher} {frame : Frame}
    (h : d.table.resolve frame.header.command ≠ .hardware) (tracking other : Tracking) :
    d.dispatch frame tracking = d.dispatch frame other ∧
      d.trace frame tracking = d.trace frame other := by
  cases hread : Reading.ofFrame d.table frame with
  | error fault => exact ⟨by rw [dispatch, dispatch, hread]; rfl, by rw [trace, trace, hread]⟩
  | ok r =>
      obtain ⟨-, -, hresolve, -⟩ := Reading.ofFrame_eq_ok hread
      have hcommand : r.command ≠ .hardware := by
        rw [hresolve]
        exact h
      constructor
      · rw [dispatch_of_reading hread, dispatch_of_reading hread,
          Reading.dispatched_of_ne_hardware hcommand, Reading.dispatched_of_ne_hardware hcommand]
      · simp only [trace, hread, Reading.record_of_ne_hardware hcommand tracking other]

/-- A body that is no text is no text under any tracking, and its trace is the
same. -/
theorem dispatch_of_eq_error {d : Dispatcher} {frame : Frame} {tracking : Tracking}
    {fault : Utf8.Fault} (h : d.dispatch frame tracking = .error fault) (other : Tracking) :
    d.dispatch frame other = .error fault ∧
      d.trace frame other = d.trace frame tracking := by
  cases hread : Reading.ofFrame d.table frame with
  | ok r =>
      rw [dispatch_of_reading hread] at h
      cases h
  | error cause =>
      rw [dispatch, hread] at h
      constructor
      · rw [dispatch, hread]
        exact h
      · rw [trace, trace, hread]

/-- A live reading is published or held back, as tracking has it. -/
theorem dispatch_ne_of_hardware {d : Dispatcher} {frame : Frame} {tracking : Tracking}
    {x : Dispatched} (hcommand : d.table.resolve frame.header.command = .hardware)
    (h : d.dispatch frame tracking = .ok x) :
    d.dispatch frame .loose ≠ d.dispatch frame ⟨none, true⟩ := by
  obtain ⟨r, hread, -⟩ := dispatch_eq_ok h
  have hpublished := dispatch_of_reading hread .loose
  have hheld := dispatch_of_reading hread ⟨none, true⟩
  obtain ⟨-, first, -, -, -, hloose, -⟩ := dispatch_hardware hcommand hpublished
  obtain ⟨-, other, -, -, -, hstrict, -⟩ := dispatch_hardware hcommand hheld
  intro hsame
  rw [hpublished, hheld, Except.ok.injEq] at hsame
  rw [hsame] at hloose
  have hback : (⟨none, true⟩ : Tracking).HoldsBack other := by
    refine ⟨rfl, ?_⟩
    rintro ⟨followed, hfollowed, -⟩
    cases hfollowed
  cases (hloose.1 (hstrict.2 hback)).1

/-- Tracking matters exactly to the commands that are tracked. -/
theorem exists_dispatch_ne_iff {d : Dispatcher} {frame : Frame} {tracking : Tracking}
    {x : Dispatched} (h : d.dispatch frame tracking = .ok x) :
    (∃ t t', d.dispatch frame t ≠ d.dispatch frame t') ↔
      (d.table.resolve frame.header.command).isTracked = true := by
  constructor
  · rintro ⟨t, t', hne⟩
    by_contra huntracked
    apply hne
    apply (dispatch_of_ne_hardware _ t t').1
    intro hcommand
    rw [hcommand] at huntracked
    exact huntracked rfl
  · intro htracked
    have hcommand : d.table.resolve frame.header.command = .hardware := by
      cases hresolve : d.table.resolve frame.header.command with
      | hardware => rfl
      | _ =>
          rw [hresolve] at htracked
          cases htracked
    exact ⟨_, _, dispatch_ne_of_hardware hcommand h⟩

/-- The body of a frame with an unassigned code is not looked at. -/
theorem dispatch_unknown {d : Dispatcher} {header : Header}
    (h : (d.table.resolve header.command).isUnknown = true) (first second : Bytes)
    (tracking : Tracking) :
    d.dispatch ⟨header, first⟩ tracking = d.dispatch ⟨header, second⟩ tracking := by
  cases hresolve : d.table.resolve header.command with
  | unknown code =>
      have hread : ∀ body : Bytes,
          Reading.ofFrame d.table ⟨header, body⟩ = .ok ⟨header, .unknown code, body, []⟩ := by
        intro body
        rw [Reading.ofFrame, hresolve]
        rfl
      rw [dispatch_of_reading (hread first), dispatch_of_reading (hread second)]
      rfl
  | _ =>
      rw [hresolve] at h
      cases h

end Dispatcher

/-! ## Runs -/

variable {P : Type} [Publisher P]

/-- Received bytes that are not an accepted live reading are processed alike
under any tracking. -/
theorem Processor.process_of_not_reading {p : Processor P} {tracking : Tracking} {raw : Bytes}
    (h : ¬∃ frame count, Frame.spelled? raw = some frame ∧
      p.dispatcher.table.resolve frame.header.command = .hardware ∧
      (p.process tracking raw).result = .ok count) (other : Tracking) :
    p.process other raw = p.process tracking raw := by
  cases p.process_cases tracking raw with
  | short hshort hprocess =>
      rw [hprocess]
      exact p.process_of_short other hshort
  | oversized frame hframe hsize hprocess =>
      rw [hprocess]
      exact p.process_of_oversized other hframe hsize
  | notText frame fault hframe hsize hdispatch hprocess =>
      obtain ⟨hother, htrace⟩ := Dispatcher.dispatch_of_eq_error hdispatch other
      rw [hprocess, p.process_of_notText other hframe hsize hother, htrace]
  | accepted frame d hframe hsize hdispatch hprocess =>
      have hcommand : p.dispatcher.table.resolve frame.header.command ≠ .hardware := by
        intro hhardware
        refine h ⟨frame, d.events.length, hframe, hhardware, ?_⟩
        rw [hprocess]
        rfl
      obtain ⟨hsame, htrace⟩ := Dispatcher.dispatch_of_ne_hardware hcommand other tracking
      have hother := hsame.trans hdispatch
      -- only the message about a frame that is held back names the tracking
      have hforwarded : d.suppressed = false := by
        obtain ⟨hsound, hresolve⟩ := Dispatcher.dispatch_sound hdispatch
        rw [← Bool.not_eq_true]
        intro hheld
        exact hcommand (hresolve.symm.trans (hsound.hardware_of_suppressed hheld))
      rw [hprocess, p.process_of_dispatched other hframe hsize hother, htrace, accept, accept,
        hforwarded]
      rfl

namespace Session

/-- A change of tracking and a frame that is not an accepted live reading may
come in either order. -/
theorem step_exchange {s : Session P} {step : Step} {raw : Bytes} (hraw : step.raw? = some raw)
    (h : ¬∃ frame count, Frame.spelled? raw = some frame ∧
      s.processor.dispatcher.table.resolve frame.header.command = .hardware ∧
      (s.processor.process s.observed raw).result = .ok count) (update : Tracking.Update) :
    let retarget : Step := .input (.retarget update)
    ((s.step retarget).1.step step).1 = ((s.step step).1.step retarget).1 ∧
      ((s.step retarget).1.step step).2 = (s.step step).2 := by
  intro retarget
  have hprocess := Processor.process_of_not_reading h (s.step retarget).1.observed
  cases step with
  | receive receipt => cases hraw
  | input input =>
      cases input with
      | retarget other => cases hraw
      | process bytes =>
          obtain rfl : bytes = raw := Option.some.inj hraw
          have hafter : (s.step retarget).1.step (.input (.process bytes)) =
              (s.step retarget).1.afterFrame (s.processor.process s.observed bytes) :=
            congrArg (s.step retarget).1.afterFrame hprocess
          rw [hafter]
          exact ⟨rfl, rfl⟩
      | ingest bytes =>
          obtain rfl : bytes = raw := Option.some.inj hraw
          have hingest : s.processor.ingest (s.step retarget).1.observed bytes =
              s.processor.ingest s.observed bytes := by
            rw [Processor.ingest, Processor.ingest, hprocess]
          have hafter : (s.step retarget).1.step (.input (.ingest bytes)) =
              (s.step retarget).1.afterFrame (s.processor.ingest s.observed bytes) :=
            congrArg (s.step retarget).1.afterFrame hingest
          rw [hafter]
          exact ⟨rfl, rfl⟩

theorem run_exchange {s : Session P} (before after : List Step) {step : Step} {raw : Bytes}
    (hraw : step.raw? = some raw)
    (h : ¬∃ frame count, Frame.spelled? raw = some frame ∧
      (s.run before).processor.dispatcher.table.resolve frame.header.command = .hardware ∧
      ((s.run before).processor.process (s.run before).observed raw).result = .ok count)
    (update : Tracking.Update) :
    let given := before ++ .input (.retarget update) :: step :: after
    let exchanged := before ++ step :: .input (.retarget update) :: after
    s.run exchanged = s.run given ∧
      (s.replies exchanged).filterMap Reply.result = (s.replies given).filterMap Reply.result ∧
      (s.replies exchanged).flatMap Reply.taken = (s.replies given).flatMap Reply.taken := by
  intro given exchanged
  obtain ⟨hafter, hreply⟩ := step_exchange hraw h update
  refine ⟨?_, ?_, ?_⟩
  · rw [run_append, run_append, run_cons, run_cons, run_cons, run_cons, hafter]
  · simp only [given, exchanged, replies_append, replies, List.filterMap_append,
      List.filterMap_cons, hafter, hreply]
    rfl
  · simp only [given, exchanged, replies_append, replies, List.flatMap_append,
      List.flatMap_cons, hafter, hreply]
    rfl

/-- Tracking matters exactly to tracked commands, the body of a response exactly
through its first four bytes, and the body of a frame with an unassigned code
not at all.  A change of tracking and a frame that is not an accepted live
reading may come in either order: the session ends in the same state, with the
same events handed over, and what is seen of the frames is the same. -/
theorem relevant_inputs (d : Dispatcher) (s : Session P) :
    (∀ frame tracking x, d.dispatch frame tracking = .ok x →
      ((∃ t t', d.dispatch frame t ≠ d.dispatch frame t') ↔
        (d.table.resolve frame.header.command).isTracked = true)) ∧
    (∀ header first second tracking, d.table.resolve header.command = .response →
      (d.dispatch ⟨header, first⟩ tracking = d.dispatch ⟨header, second⟩ tracking ↔
        first.length < 4 ∧ second.length < 4 ∨
          4 ≤ first.length ∧ 4 ≤ second.length ∧ first.take 4 = second.take 4)) ∧
    (∀ header first second tracking, (d.table.resolve header.command).isUnknown = true →
      d.dispatch ⟨header, first⟩ tracking = d.dispatch ⟨header, second⟩ tracking) ∧
    ∀ before after step raw update, step.raw? = some raw →
      let reached := s.run before
      (¬∃ frame count, Frame.spelled? raw = some frame ∧
        s.processor.dispatcher.table.resolve frame.header.command = .hardware ∧
        (reached.processor.process reached.observed raw).result = .ok count) →
      let given := before ++ .input (.retarget update) :: step :: after
      let exchanged := before ++ step :: .input (.retarget update) :: after
      s.journaled.run exchanged = s.journaled.run given ∧
        (s.replies exchanged).filterMap Reply.result =
          (s.replies given).filterMap Reply.result ∧
        (s.replies exchanged).flatMap Reply.taken = (s.replies given).flatMap Reply.taken := by
  refine ⟨?_, ?_, ?_, ?_⟩
  · intro frame tracking x h
    exact Dispatcher.exists_dispatch_ne_iff h
  · intro header first second tracking h
    rw [Dispatcher.dispatch_response h, Dispatcher.dispatch_response h,
      ← responseCode?_eq_iff]
    simp
  · intro header first second tracking h
    exact Dispatcher.dispatch_unknown h first second tracking
  · intro before after step raw update hraw reached h given exchanged
    -- the journal does not show in what becomes of the frame
    have hplain : (s.journaled.run before).plain = reached := (s.run_journaled before).1
    have hresult := ((s.journaled.run before).processor.plain_process
      (s.journaled.run before).observed raw).2.1
    have hunread : ¬∃ frame count, Frame.spelled? raw = some frame ∧
        (s.journaled.run before).processor.dispatcher.table.resolve frame.header.command =
          .hardware ∧
        ((s.journaled.run before).processor.process
          (s.journaled.run before).observed raw).result = .ok count := by
      rintro ⟨frame, count, hframe, hcommand, hcount⟩
      rw [run_dispatcher] at hcommand
      refine h ⟨frame, count, hframe, hcommand, ?_⟩
      rw [hresult] at hcount
      rw [← hplain]
      exact hcount
    obtain ⟨hrun, hresults, htaken⟩ := run_exchange before after hraw hunread update
    rw [(s.run_journaled _).2, (s.run_journaled _).2] at hresults htaken
    exact ⟨hrun, hresults, htaken⟩

/-- A live reading depends on tracking, a response does not depend on its fifth
byte, and a replayed reading may come before a change of tracking or after it. -/
theorem relevant_inputs_of_replayed_reading :
    let s : Session Collector :=
      { processor := { dispatcher := {}, maxBody := 64, publisher := {} }
        tracking := .strict 7 }
    let d := s.processor.dispatcher
    let live : Step := .input (.process [20, 0, 1, 0x38])
    let retarget : Step := .input (.retarget (.follow (some 8)))
    let replayed : Step := .input (.ingest [25, 0, 2, 0x38])
    (∃ t t', d.dispatch ⟨⟨20, 1⟩, [0x38]⟩ t ≠ d.dispatch ⟨⟨20, 1⟩, [0x38]⟩ t') ∧
      d.dispatch ⟨⟨0, 3⟩, [0, 0, 0, 200, 1]⟩ .loose =
        d.dispatch ⟨⟨0, 3⟩, [0, 0, 0, 200, 2]⟩ .loose ∧
      d.dispatch ⟨⟨9, 3⟩, [1]⟩ .loose = d.dispatch ⟨⟨9, 3⟩, [0xFF]⟩ .loose ∧
      s.journaled.run [live, replayed, retarget, live] =
        s.journaled.run [live, retarget, replayed, live] := by
  intro s d live retarget replayed
  obtain ⟨htracked, hresponse, hunknown, hexchange⟩ := relevant_inputs d s
  have hlive : d.dispatch ⟨⟨20, 1⟩, [0x38]⟩ .loose =
      .ok ⟨.hardware, [.response 1 20 none ["8"], .telemetry (some 8) none none], false⟩ := rfl
  have hsame := hresponse ⟨0, 3⟩ [0, 0, 0, 200, 1] [0, 0, 0, 200, 2] .loose rfl
  have hreplayed := hexchange [live] [live] replayed [25, 0, 2, 0x38] (.follow (some 8)) rfl
  refine ⟨(htracked _ _ _ hlive).2 rfl, hsame.2 (by decide), hunknown _ _ _ _ rfl, ?_⟩
  apply (hreplayed ?_).1
  rintro ⟨frame, count, hframe, hcommand, -⟩
  obtain rfl : _ = frame := Option.some.inj hframe
  cases hcommand

end Session
end DeviceFeed
