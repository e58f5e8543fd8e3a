import Mathlib.Algebra.Ring.Nat
import DeviceFeed.Proofs.Command
import DeviceFeed.Proofs.Session.Journal

/-!
# What the counters of a session count

Two invariants carry this file.  `Stats.Balanced` relates the counters to each
other; every handled frame keeps it, since a frame yields at most two events
and yields none exactly when it is a live reading that is held back.
`Session.Accounted` relates the counters to the calls that were made so far.
-/

namespace DeviceFeed

/-! ## Counters among each other -/

/-- The counters could have arisen from frames that yield at most two events
each, where only frames of a known command are held back. -/
structure Stats.Balanced (stats : Stats) : Prop where
  special_le : stats.suppressed + stats.unknownCommands ≤ stats.frames
  frames_le : stats.frames ≤ stats.events + stats.suppressed
  events_le : stats.events + 2 * stats.suppressed ≤ 2 * stats.frames

/-- No counter is greater than the other one. -/
structure Stats.AtMost (stats more : Stats) : Prop where
  frames : stats.frames ≤ more.frames
  malformed : stats.malformed ≤ more.malformed
  invalidEncoding : stats.invalidEncoding ≤ more.invalidEncoding
  unknownCommands : stats.unknownCommands ≤ more.unknownCommands
  suppressed : stats.suppressed ≤ more.suppressed
  events : stats.events ≤ more.events

namespace Stats

theorem balanced_empty : Balanced {} :=
  ⟨Nat.le_refl _, Nat.le_refl _, Nat.le_refl _⟩

theorem Balanced.reject {stats : Stats} (h : stats.Balanced) (why : Rejection) :
    (stats.reject why).Balanced := by
  cases why <;> exact ⟨h.special_le, h.frames_le, h.events_le⟩

theorem Balanced.accept {stats : Stats} (h : stats.Balanced) {d : Dispatched}
    (hsound : d.Sound) : (stats.accept d).Balanced := by
  obtain ⟨hspecial, hframes, hevents⟩ := h
  have hlength := hsound.length_le
  cases hsuppressed : d.suppressed with
  | true =>
      have hempty : d.events.length = 0 := hsound.suppressed_iff.1 hsuppressed
      have hknown : d.command.isUnknown = false := by
        rw [hsound.hardware_of_suppressed hsuppressed]
        rfl
      have haccept : stats.accept d =
          { stats with frames := stats.frames + 1, suppressed := stats.suppressed + 1 } := by
        rw [Stats.accept, hsuppressed, hknown, hempty]
        rfl
      rw [haccept]
      constructor
      · dsimp only
        omega
      · dsimp only
        omega
      · dsimp only
        omega
  | false =>
      have hpos : d.events.length ≠ 0 := by
        intro hempty
        rw [hsound.suppressed_iff.2 hempty] at hsuppressed
        cases hsuppressed
      have hunknown : (if d.command.isUnknown then 1 else 0) ≤ 1 := by
        split
        · exact Nat.le_refl 1
        · exact Nat.zero_le 1
      have hkept : (stats.accept d).suppressed = stats.suppressed := by
        rw [Stats.accept, hsuppressed]
        rfl
      constructor
      · rw [hkept]
        simp only [Stats.accept]
        omega
      · rw [hkept]
        simp only [Stats.accept]
        omega
      · rw [hkept]
        simp only [Stats.accept]
        omega

theorem AtMost.refl (stats : Stats) : stats.AtMost stats :=
  ⟨Nat.le_refl _, Nat.le_refl _, Nat.le_refl _, Nat.le_refl _, Nat.le_refl _, Nat.le_refl _⟩

theorem AtMost.reject {stats more : Stats} (h : stats.AtMost more) (why : Rejection) :
    stats.AtMost (more.reject why) := by
  obtain ⟨h₁, h₂, h₃, h₄, h₅, h₆⟩ := h
  cases why with
  | short size => exact ⟨h₁, Nat.le_succ_of_le h₂, h₃, h₄, h₅, h₆⟩
  | oversized size limit => exact ⟨h₁, Nat.le_succ_of_le h₂, h₃, h₄, h₅, h₆⟩
  | notText fault => exact ⟨h₁, h₂, Nat.le_succ_of_le h₃, h₄, h₅, h₆⟩

theorem AtMost.accept {stats more : Stats} (h : stats.AtMost more) (d : Dispatched) :
    stats.AtMost (more.accept d) where
  frames := Nat.le_succ_of_le h.frames
  malformed := h.malformed
  invalidEncoding := h.invalidEncoding
  unknownCommands := Nat.le_add_right_of_le h.unknownCommands
  suppressed := Nat.le_add_right_of_le h.suppressed
  events := Nat.le_add_right_of_le h.events

/-- A way in which one step can change the counters. -/
inductive Change (before after : Stats) : Prop where
  | same (h : after = before)
  | reject (why : Rejection) (h : after = before.reject why)
  | accept (d : Dispatched) (hsound : d.Sound) (h : after = before.accept d)

end Stats

variable {P : Type} [Publisher P]

theorem Session.stats_step (s : Session P) (step : Step) :
    Stats.Change s.processor.stats (s.step step).1.processor.stats := by
  cases hraw : step.raw? with
  | none =>
      rcases update_or_receipt_of_raw?_eq_none hraw with ⟨update, rfl⟩ | ⟨receipt, rfl⟩
      · exact .same rfl
      · exact .same rfl
  | some raw =>
      rw [step_frame hraw]
      cases s.processor.process_cases s.observed raw with
      | short hshort hprocess =>
          rw [hprocess]
          exact .reject (.short raw.length) rfl
      | oversized frame hframe hsize hprocess =>
          rw [hprocess]
          exact .reject (.oversized frame.body.length s.processor.maxBody) rfl
      | notText frame fault hframe hsize hdispatch hprocess =>
          rw [hprocess]
          exact .reject (.notText fault) rfl
      | accepted frame d hframe hsize hdispatch hprocess =>
          rw [hprocess]
          exact .accept d (Dispatcher.dispatch_sound hdispatch).1 rfl

/-- What dropping and handling single frames keeps true of the counters, a whole
run keeps true. -/
theorem Session.stats_run_induction {holds : Stats → Prop}
    (hreject : ∀ stats why, holds stats → holds (stats.reject why))
    (haccept : ∀ stats d, d.Sound → holds stats → holds (stats.accept d))
    {s : Session P} (hs : holds s.processor.stats) (steps : List Step) :
    holds (s.run steps).processor.stats := by
  refine run_induction (motive := fun t => holds t.processor.stats) ?_ hs steps
  intro t step ht
  cases t.stats_step step with
  | same hsame =>
      rw [hsame]
      exact ht
  | reject why hafter =>
      rw [hafter]
      exact hreject _ why ht
  | accept d hsound hafter =>
      rw [hafter]
      exact haccept _ d hsound ht

theorem Session.balanced_run {s : Session P} (h : s.processor.stats.Balanced)
    (steps : List Step) : (s.run steps).processor.stats.Balanced := by
  apply stats_run_induction
  · intro stats why hstats
    exact hstats.reject why
  · intro stats d hsound hstats
    exact hstats.accept hsound
  · exact h

/-- No counter decreases in a run. -/
theorem Session.stats_atMost_run (s : Session P) (steps : List Step) :
    s.processor.stats.AtMost (s.run steps).processor.stats := by
  apply stats_run_induction
  · intro stats why hstats
    exact hstats.reject why
  · intro stats d _ hstats
    exact hstats.accept d
  · exact .refl _

/-! ## Counters and calls -/

/-- One frame of a run as it looks from outside. -/
structure Call where
  raw : Bytes
  /-- Whether the frame was not dropped. -/
  accepted : Bool
  /-- The count that was returned, zero for an error. -/
  returned : Nat
  /-- What the publisher was handed meanwhile. -/
  handed : List Event

namespace Call

/-- The frame was accepted and published nothing. -/
def isSilent (call : Call) : Bool :=
  call.accepted && call.handed.isEmpty

/-- The frame was accepted and the table does not assign its code. -/
def isUnassigned (table : CodeTable) (call : Call) : Bool :=
  call.accepted &&
    (Frame.spelled? call.raw).any fun frame => frame.header.command ∉ table.codes

end Call

/-- The count that a reply returns, zero for an error. -/
def Reply.count (reply : Reply) : Nat :=
  match reply.result with
  | some (.ok count) => count
  | _ => 0

namespace Session

theorem count_step_of_eq_ok {s : Session P} {step : Step} {raw : Bytes} {count : Nat}
    (hraw : step.raw? = some raw)
    (h : (s.processor.process s.observed raw).result = .ok count) :
    (s.step step).2.count = count := by
  rw [reply_of_eq_ok hraw h]
  rfl

theorem count_step_of_eq_error {s : Session P} {step : Step} {raw : Bytes} {why : Rejection}
    (hraw : step.raw? = some raw)
    (h : (s.processor.process s.observed raw).result = .error why) :
    (s.step step).2.count = 0 := by
  rcases s.step_eq_afterFrame hraw with hstep | hstep
  · rw [hstep, afterFrame, h]
    rfl
  · rw [hstep, Processor.ingest_of_eq_error h]
    rfl

theorem count_step_of_raw?_eq_none {s : Session P} {step : Step} (hraw : step.raw? = none) :
    (s.step step).2.count = 0 := by
  rcases update_or_receipt_of_raw?_eq_none hraw with ⟨update, rfl⟩ | ⟨receipt, rfl⟩
  · rfl
  · rfl

/-- The call that a step makes when it brings the given bytes. -/
def call (s : Session (Journaled P)) (step : Step) (raw : Bytes) : Call :=
  let after := s.step step
  { raw := raw
    accepted := (s.processor.process s.observed raw).result.isOk
    returned := after.2.count
    handed := after.1.processor.publisher.journal.drop s.processor.publisher.journal.length }

/-- The calls of a run, in order. -/
def calls (s : Session (Journaled P)) : List Step → List Call
  | [] => []
  | step :: more => (step.raw?.map (s.call step)).toList ++ (s.step step).1.calls more

theorem length_calls (s : Session (Journaled P)) (steps : List Step) :
    (s.calls steps).length = (steps.filterMap Step.raw?).length := by
  induction steps generalizing s with
  | nil => rfl
  | cons step steps ih =>
      rw [calls, List.length_append, ih, List.filterMap_cons]
      cases step.raw? with
      | none => simp
      | some raw => simp [Nat.add_comm]

theorem sum_returned_calls (s : Session (Journaled P)) (steps : List Step) :
    ((s.calls steps).map Call.returned).sum = ((s.replies steps).map Reply.count).sum := by
  induction steps generalizing s with
  | nil => rfl
  | cons step steps ih =>
      rw [calls, replies, List.map_append, List.sum_append, ih, List.map_cons, List.sum_cons]
      cases hraw : step.raw? with
      | none => simp [count_step_of_raw?_eq_none hraw]
      | some raw => simp [call]

/-- The counters and the journal agree with the calls made so far. -/
structure Accounted (s : Session (Journaled P)) (calls : List Call) : Prop where
  length : s.processor.stats.frames + s.processor.stats.dropped = calls.length
  returned : s.processor.stats.events = (calls.map Call.returned).sum
  journal : s.processor.stats.events = s.processor.publisher.journal.length
  silent : s.processor.stats.suppressed = calls.countP Call.isSilent
  unassigned : s.processor.stats.unknownCommands =
    calls.countP (Call.isUnassigned s.processor.dispatcher.table)

theorem Accounted.of_eq_error {s : Session (Journaled P)} {calls : List Call}
    (h : s.Accounted calls) {step : Step} {raw : Bytes} {why : Rejection}
    (hraw : step.raw? = some raw)
    (hresult : (s.processor.process s.observed raw).result = .error why)
    (hprocessor : (s.processor.process s.observed raw).processor =
      { s.processor with stats := s.processor.stats.reject why }) :
    (s.step step).1.Accounted (calls ++ [s.call step raw]) := by
  have hstep : (s.step step).1 =
      { s with processor := { s.processor with stats := s.processor.stats.reject why } } := by
    rw [step_frame hraw, hprocessor]
  have hcall : s.call step raw = ⟨raw, false, 0, []⟩ := by
    simp [call, hresult, count_step_of_eq_error hraw hresult, hstep, Except.isOk, Except.toBool]
  rw [hstep, hcall]
  constructor
  · rw [List.length_append, ← h.length]
    cases why <;> simp only [Stats.reject, Stats.dropped, List.length_singleton] <;> omega
  · rw [List.map_append, List.sum_append, ← h.returned]
    cases why <;> rfl
  · rw [← h.journal]
    cases why <;> rfl
  · rw [List.countP_append, ← h.silent]
    cases why <;> rfl
  · rw [List.countP_append, ← h.unassigned]
    cases why <;> rfl

theorem Accounted.of_dispatched {s : Session (Journaled P)} {calls : List Call}
    (h : s.Accounted calls) {step : Step} {raw : Bytes} {frame : Frame} {d : Dispatched}
    (hraw : step.raw? = some raw) (hframe : Frame.spelled? raw = some frame)
    (hdispatch : s.processor.dispatcher.dispatch frame s.observed = .ok d)
    (hresult : (s.processor.process s.observed raw).result = .ok d.events.length)
    (hprocessor : (s.processor.process s.observed raw).processor = s.processor.settle d) :
    (s.step step).1.Accounted (calls ++ [s.call step raw]) := by
  have hstep : (s.step step).1 = { s with processor := s.processor.settle d } := by
    rw [step_frame hraw, hprocessor]
  have hjournal : (s.processor.settle d).publisher.journal =
      s.processor.publisher.journal ++ d.events :=
    Journaled.isHistory.publishAll s.processor.publisher d.events
  have hcall : s.call step raw = ⟨raw, true, d.events.length, d.events⟩ := by
    simp [call, hresult, count_step_of_eq_ok hraw hresult, hstep, hjournal, Except.isOk,
      Except.toBool]
  obtain ⟨hsound, hcommand⟩ := Dispatcher.dispatch_sound hdispatch
  have hsilent : d.suppressed = d.events.isEmpty := by
    rw [Bool.eq_iff_iff, hsound.suppressed_iff, List.isEmpty_iff_length_eq_zero]
  have hunassigned : d.command.isUnknown =
      decide (frame.header.command ∉ s.processor.dispatcher.table.codes) := by
    rw [Bool.eq_iff_iff, hcommand, CodeTable.isUnknown_resolve_iff, decide_eq_true_iff]
  rw [hstep, hcall]
  constructor
  · rw [List.length_append, ← h.length]
    simp only [Processor.settle, Stats.accept, Stats.dropped, List.length_singleton]
    omega
  · rw [List.map_append, List.sum_append, ← h.returned]
    rfl
  · rw [hjournal, List.length_append, ← h.journal]
    rfl
  · rw [List.countP_append, ← h.silent, List.countP_singleton]
    simp only [Processor.settle, Stats.accept, Call.isSilent, hsilent, Bool.true_and]
  · simp only [Processor.settle, List.countP_append, List.countP_singleton]
    rw [← h.unassigned]
    simp only [Stats.accept, Call.isUnassigned, hunassigned, hframe, Option.any_some,
      Bool.true_and]

theorem Accounted.step {s : Session (Journaled P)} {calls : List Call}
    (h : s.Accounted calls) (step : Step) :
    (s.step step).1.Accounted (calls ++ (step.raw?.map (s.call step)).toList) := by
  cases hraw : step.raw? with
  | none =>
      rw [Option.map_none, Option.toList_none, List.append_nil]
      rcases update_or_receipt_of_raw?_eq_none hraw with ⟨update, rfl⟩ | ⟨receipt, rfl⟩
      · exact ⟨h.length, h.returned, h.journal, h.silent, h.unassigned⟩
      · exact ⟨h.length, h.returned, h.journal, h.silent, h.unassigned⟩
  | some raw =>
      rw [Option.map_some, Option.toList_some]
      cases s.processor.process_cases s.observed raw with
      | short hshort hprocess =>
          exact h.of_eq_error hraw (by rw [hprocess]; rfl) (by rw [hprocess]; rfl)
      | oversized frame hframe hsize hprocess =>
          exact h.of_eq_error hraw (by rw [hprocess]; rfl) (by rw [hprocess]; rfl)
      | notText frame fault hframe hsize hdispatch hprocess =>
          exact h.of_eq_error hraw (by rw [hprocess]; rfl) (by rw [hprocess]; rfl)
      | accepted frame d hframe hsize hdispatch hprocess =>
          exact h.of_dispatched hraw hframe hdispatch (by rw [hprocess]; rfl)
            (by rw [hprocess]; rfl)

theorem Accounted.run {s : Session (Journaled P)} {calls : List Call}
    (h : s.Accounted calls) (steps : List Step) :
    (s.run steps).Accounted (calls ++ s.calls steps) := by
  induction steps generalizing s calls with
  | nil =>
      rw [Session.calls, List.append_nil]
      exact h
  | cons step steps ih =>
      have hrest := ih (h.step step)
      rw [List.append_assoc] at hrest
      exact hrest

omit [Publisher P] in
theorem Accounted.initial {s : Session P} (h : s.processor.stats = {}) :
    s.journaled.Accounted [] := by
  have hstats : s.journaled.processor.stats = {} := h
  constructor <;> rw [hstats] <;> rfl

/-- Every frame is handled or dropped, and counted as such. -/
theorem frames_add_dropped_run {s : Session P} (h : s.processor.stats = {})
    (steps : List Step) :
    (s.run steps).processor.stats.frames + (s.run steps).processor.stats.dropped =
      (steps.filterMap Step.raw?).length := by
  have hplain : (s.journaled.run steps).processor.stats = (s.run steps).processor.stats :=
    congrArg (fun t => t.processor.stats) (s.run_journaled steps).1
  have hlength := ((Accounted.initial h).run steps).length
  rwa [hplain, List.nil_append, length_calls] at hlength

/-- At every point of a run the counters of a session agree with the calls that
were made, with what they returned and with what the publisher was handed. -/
theorem stats_conserved {config : Config} (hvalid : config.validate = .ok config)
    (publisher : P) (initial : Tracking) (source : TrackingSource) (steps more : List Step) :
    ∃ p, Processor.ofConfig config publisher = .ok p ∧ ∀ q ∈ [p, p.withListener],
      let s : Session P := ⟨q, initial, source⟩
      let stats := (s.run steps).processor.stats
      let calls := s.journaled.calls steps
      stats.frames + stats.malformed + stats.invalidEncoding =
          (steps.filterMap Step.raw?).length ∧
        stats.events = ((s.replies steps).map Reply.count).sum ∧
        stats.events = (s.journaled.run steps).processor.publisher.journal.length ∧
        stats.suppressed = calls.countP Call.isSilent ∧
        stats.unknownCommands = calls.countP (Call.isUnassigned config.table) ∧
        stats.suppressed + stats.unknownCommands ≤ stats.frames ∧
        stats.frames - stats.suppressed ≤ stats.events ∧
        stats.events ≤ 2 * (stats.frames - stats.suppressed) ∧
        stats.AtMost (s.run (steps ++ more)).processor.stats ∧
        ((steps.filterMap Step.raw?).length < 2 ^ 63 →
          stats.frames < 2 ^ 64 ∧ stats.malformed < 2 ^ 64 ∧ stats.invalidEncoding < 2 ^ 64 ∧
            stats.unknownCommands < 2 ^ 64 ∧ stats.suppressed < 2 ^ 64 ∧
            stats.events < 2 ^ 64 ∧ stats.dropped < 2 ^ 64) := by
  obtain ⟨p, hp, htable, -, -, -, hempty⟩ := Processor.exists_ofConfig hvalid publisher
  refine ⟨p, hp, ?_⟩
  intro q hq s stats calls
  have hsettings : q.dispatcher.table = config.table ∧ q.stats = {} := by
    simp only [List.mem_cons, List.not_mem_nil, or_false] at hq
    rcases hq with rfl | rfl
    · exact ⟨htable, hempty⟩
    · exact ⟨htable, hempty⟩
  -- the calls are those of the journaled run, whose counters are the same
  have hplain : (s.journaled.run steps).processor.stats = stats :=
    congrArg (fun t => t.processor.stats) (s.run_journaled steps).1
  have hcodes : (s.journaled.run steps).processor.dispatcher.table = config.table := by
    rw [run_dispatcher]
    exact hsettings.1
  obtain ⟨hlength, hreturned, hjournal, hsilent, hunassigned⟩ :=
    (Accounted.initial (s := s) hsettings.2).run steps
  rw [hplain, List.nil_append] at hlength hreturned hsilent hunassigned
  rw [hplain] at hjournal
  rw [length_calls, Stats.dropped] at hlength
  rw [sum_returned_calls, (s.run_journaled steps).2] at hreturned
  rw [hcodes] at hunassigned
  obtain ⟨hspecial, hframes, hevents⟩ : stats.Balanced := by
    apply balanced_run
    change q.stats.Balanced
    rw [hsettings.2]
    exact Stats.balanced_empty
  refine ⟨by omega, hreturned, hjournal, hsilent, hunassigned, hspecial, by omega, by omega,
    ?_, ?_⟩
  · rw [run_append]
    exact stats_atMost_run _ more
  · intro hfew
    rw [Stats.dropped]
    omega

/-- One reading is held back, one frame has an unassigned code and one is too
short. -/
theorem stats_conserved_one_of_each :
    let steps : List Step := [.input (.process [20, 0, 1, 0x37]), .input (.ingest [9, 0, 2]),
      .input (.process [4, 0])]
    Config.validate {} = .ok {} ∧
      ∃ p : Processor Collector, Processor.ofConfig {} {} = .ok p ∧
        let s : Session Collector := ⟨p, .strict 42, .shared⟩
        (s.run steps).processor.stats =
            { frames := 2, malformed := 1, unknownCommands := 1, suppressed := 1, events := 1 } ∧
          (s.journaled.calls steps).countP Call.isSilent = 1 ∧
          (s.run steps).processor.stats.dropped < 2 ^ 64 := by
  intro steps
  have hvalid : Config.validate {} = .ok {} := rfl
  refine ⟨hvalid, ?_⟩
  obtain ⟨p, hp, hconserved⟩ :=
    stats_conserved hvalid ({} : Collector) (.strict 42) .shared steps []
  obtain ⟨-, -, -, hsilent, -, -, -, -, -, hbounds⟩ := hconserved p List.mem_cons_self
  have hstats : (Session.run ⟨p, .strict 42, .shared⟩ steps).processor.stats =
      { frames := 2, malformed := 1, unknownCommands := 1, suppressed := 1, events := 1 } := by
    obtain rfl : _ = p := Except.ok.inj hp
    decide
  obtain ⟨-, -, -, -, -, -, hdropped⟩ := hbounds (by decide)
  refine ⟨p, hp, hstats, ?_, hdropped⟩
  rw [← hsilent, hstats]

end Session
end DeviceFeed
