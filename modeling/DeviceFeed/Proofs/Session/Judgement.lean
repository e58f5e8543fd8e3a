import Mathlib.Data.List.Basic
import DeviceFeed.Proofs.Session.Delivery
import DeviceFeed.Proofs.Session.Journal

/-!
# A run is what becomes of its frames

A judgement says what becomes of received bytes: they are dropped, or they
spell a frame that is handled.  It depends on the bytes, on the settings and on
the tracking of that moment only.  This file reduces runs to lists of
judgements.  The counters after a run are those before it with one judgement
counted after the other, and the publisher is handed the events of the
judgements in order.
-/

namespace DeviceFeed

/-! ## Judgements -/

/-- What becomes of received bytes. -/
inductive Judgement where
  | dropped (why : Rejection)
  | accepted (frame : Frame) (dispatched : Dispatched)

namespace Judgement

/-- The events that are published. -/
def events : Judgement → List Event
  | dropped _ => []
  | accepted _ d => d.events

/-- Whether tracking holds the frame back. -/
def isSuppressed : Judgement → Bool
  | dropped _ => false
  | accepted _ d => d.suppressed

/-- An accepted frame, with what becomes of it. -/
def handled? : Judgement → Option (Frame × Dispatched)
  | dropped _ => none
  | accepted frame d => some (frame, d)

end Judgement

/-- The counters after received bytes. -/
def Stats.count (stats : Stats) : Judgement → Stats
  | .dropped why => stats.reject why
  | .accepted _ d => stats.accept d

namespace Dispatcher

/-- What becomes of received bytes under the given tracking. -/
def judge (d : Dispatcher) (maxBody : Nat) (tracking : Tracking) (raw : Bytes) : Judgement :=
  match Frame.spelled? raw with
  | none => .dropped (.short raw.length)
  | some frame =>
    if maxBody < frame.body.length then
      .dropped (.oversized frame.body.length maxBody)
    else
      match d.dispatch frame tracking with
      | .error fault => .dropped (.notText fault)
      | .ok x => .accepted frame x

theorem events_judge (d : Dispatcher) (maxBody : Nat) (tracking : Tracking) (raw : Bytes) :
    (d.judge maxBody tracking raw).events = d.contribution maxBody tracking raw := by
  unfold judge contribution
  cases Frame.spelled? raw with
  | none => rfl
  | some frame =>
      by_cases hsize : maxBody < frame.body.length
      · simp only [if_pos hsize]
        rfl
      · simp only [if_neg hsize]
        cases d.dispatch frame tracking with
        | error fault => rfl
        | ok x => rfl

/-- Accepted bytes spell a frame whose body is not too long, and the frame is
dispatched. -/
theorem judge_eq_accepted {d : Dispatcher} {maxBody : Nat} {tracking : Tracking} {raw : Bytes}
    {frame : Frame} {x : Dispatched} (h : d.judge maxBody tracking raw = .accepted frame x) :
    Frame.spelled? raw = some frame ∧ frame.body.length ≤ maxBody ∧
      d.dispatch frame tracking = .ok x := by
  unfold judge at h
  cases hframe : Frame.spelled? raw with
  | none =>
      rw [hframe] at h
      cases h
  | some other =>
      simp only [hframe] at h
      by_cases hsize : maxBody < other.body.length
      · rw [if_pos hsize] at h
        cases h
      · rw [if_neg hsize] at h
        cases hdispatch : d.dispatch other tracking with
        | error fault =>
            rw [hdispatch] at h
            cases h
        | ok y =>
            rw [hdispatch] at h
            cases h
            exact ⟨rfl, Nat.not_lt.1 hsize, hdispatch⟩

end Dispatcher

variable {P : Type}

/-- A frame counts as it is judged. -/
theorem Processor.stats_process [Publisher P] (p : Processor P) (tracking : Tracking)
    (raw : Bytes) :
    (p.process tracking raw).processor.stats =
      p.stats.count (p.dispatcher.judge p.maxBody tracking raw) := by
  unfold Dispatcher.judge
  cases p.process_cases tracking raw with
  | short hshort hprocess =>
      rw [hprocess, Frame.spelled?_of_short hshort]
      rfl
  | oversized frame hframe hsize hprocess =>
      simp only [hframe, if_pos hsize]
      rw [hprocess]
      rfl
  | notText frame fault hframe hsize hdispatch hprocess =>
      simp only [hframe, if_neg (Nat.not_lt.2 hsize), hdispatch]
      rw [hprocess]
      rfl
  | accepted frame d hframe hsize hdispatch hprocess =>
      simp only [hframe, if_neg (Nat.not_lt.2 hsize), hdispatch]
      rw [hprocess]
      rfl

namespace Session

/-! ## The frames of a run -/

/-- The frames among some steps, in order, each with the tracking that the
session reads for it. -/
def frames (s : Session P) (steps : List Step) : List (Tracking × Bytes) :=
  match s.source with
  | .shared => s.tracking.frames steps
  | .fixed tracking => (steps.filterMap Step.raw?).map (tracking, ·)

/-- What becomes of the frames among some steps. -/
def judgements (s : Session P) (steps : List Step) : List Judgement :=
  (s.frames steps).map fun x => s.processor.dispatcher.judge s.processor.maxBody x.1 x.2

/-- The frames among some steps that are accepted, with what becomes of them. -/
def accepted (s : Session P) (steps : List Step) : List (Frame × Dispatched) :=
  (s.judgements steps).filterMap Judgement.handled?

theorem frames_nil (s : Session P) : s.frames [] = [] := by
  unfold frames
  cases s.source with
  | shared => rfl
  | fixed tracking => rfl

theorem map_snd_frames (s : Session P) (steps : List Step) :
    (s.frames steps).map Prod.snd = steps.filterMap Step.raw? := by
  unfold frames
  cases s.source with
  | fixed tracking => simp [Function.comp_def]
  | shared =>
      simp only
      generalize s.tracking = tracking
      induction steps generalizing tracking with
      | nil => rfl
      | cons step steps ih =>
          rw [Tracking.frames_cons, List.map_append, ih, List.filterMap_cons]
          cases step.raw? with
          | none => rfl
          | some raw => rfl

theorem countP_accepted (s : Session P) (steps : List Step) :
    (s.accepted steps).countP (·.2.suppressed) =
      (s.judgements steps).countP Judgement.isSuppressed := by
  rw [accepted, List.countP_filterMap]
  apply List.countP_congr
  intro judgement _
  cases judgement with
  | dropped why => exact Iff.rfl
  | accepted frame d => exact Iff.rfl

variable [Publisher P]

theorem frames_cons (s : Session P) (step : Step) (steps : List Step) :
    s.frames (step :: steps) =
      (step.raw?.map (s.observed, ·)).toList ++ (s.step step).1.frames steps := by
  unfold frames observed
  rw [step_source]
  cases s.source with
  | shared =>
      simp only
      rw [Tracking.frames_cons, step_tracking]
  | fixed tracking =>
      simp only [List.filterMap_cons]
      cases step.raw? with
      | none => rfl
      | some raw => rfl

theorem judgements_cons (s : Session P) (step : Step) (steps : List Step) :
    s.judgements (step :: steps) =
      (step.raw?.map
        (s.processor.dispatcher.judge s.processor.maxBody s.observed)).toList ++
          (s.step step).1.judgements steps := by
  rw [judgements, judgements, frames_cons, List.map_append, step_dispatcher, step_maxBody]
  cases step.raw? with
  | none => rfl
  | some raw => rfl

/-! ## Counters and published events -/

/-- A run counts its judgements, one after the other. -/
theorem stats_run (s : Session P) (steps : List Step) :
    (s.run steps).processor.stats =
      (s.judgements steps).foldl Stats.count s.processor.stats := by
  induction steps generalizing s with
  | nil => rw [judgements, frames_nil]; rfl
  | cons step steps ih =>
      rw [run_cons, ih, judgements_cons, List.foldl_append]
      congr 1
      cases hraw : step.raw? with
      | some raw =>
          rw [step_frame hraw]
          exact s.processor.stats_process s.observed raw
      | none =>
          rcases update_or_receipt_of_raw?_eq_none hraw with ⟨update, rfl⟩ | ⟨receipt, rfl⟩
          · rfl
          · rfl

theorem journal_step (s : Session (Journaled P)) (step : Step) :
    (s.step step).1.processor.publisher.journal =
      s.processor.publisher.journal ++ s.contribution step :=
  handed_step Journaled.isHistory s fun receipt _ j => j.journal_receive receipt

/-- A run hands over the events of its judgements, in order. -/
theorem journal_run (s : Session (Journaled P)) (steps : List Step) :
    (s.run steps).processor.publisher.journal =
      s.processor.publisher.journal ++ (s.judgements steps).flatMap Judgement.events := by
  induction steps generalizing s with
  | nil => rw [judgements, frames_nil]; simp [run]
  | cons step steps ih =>
      rw [run_cons, ih, journal_step, judgements_cons, List.flatMap_append, List.append_assoc]
      congr 2
      cases hraw : step.raw? with
      | none =>
          rw [contribution, hraw]
          rfl
      | some raw =>
          rw [contribution_of_raw? hraw, ← Dispatcher.events_judge]
          simp

/-- A run from an empty journal publishes the events of its judgements. -/
theorem journal_eq_flatMap_judgements (s : Session P) (steps : List Step) :
    (s.journaled.run steps).processor.publisher.journal =
      (s.judgements steps).flatMap Judgement.events := by
  have hjudgements : s.journaled.judgements steps = s.judgements steps := rfl
  have hempty : s.journaled.processor.publisher.journal = [] := rfl
  rw [journal_run, hempty, hjudgements, List.nil_append]

theorem journal_eq_flatMap_accepted (s : Session P) (steps : List Step) :
    (s.journaled.run steps).processor.publisher.journal =
      (s.accepted steps).flatMap fun x => x.2.events := by
  have hevents : ∀ judgement : Judgement,
      judgement.handled?.toList.flatMap (fun x => x.2.events) = judgement.events := by
    intro judgement
    cases judgement with
    | dropped why => rfl
    | accepted frame d => exact List.flatMap_singleton _ _
  rw [journal_eq_flatMap_judgements, accepted, List.filterMap_eq_flatMap_toList,
    List.flatMap_assoc]
  simp only [hevents]

/-- The counters of handled frames and of held back ones agree with the accepted
frames. -/
theorem stats_run_accepted (s : Session P) (steps : List Step) :
    (s.run steps).processor.stats.frames =
        s.processor.stats.frames + (s.accepted steps).length ∧
      (s.run steps).processor.stats.suppressed =
        s.processor.stats.suppressed + (s.accepted steps).countP (·.2.suppressed) := by
  rw [stats_run, accepted]
  generalize s.judgements steps = judgements
  generalize s.processor.stats = stats
  induction judgements generalizing stats with
  | nil => exact ⟨rfl, rfl⟩
  | cons judgement judgements ih =>
      obtain ⟨hframes, hsuppressed⟩ := ih (stats.count judgement)
      rw [List.foldl_cons, hframes, hsuppressed]
      cases judgement with
      | dropped why => cases why <;> exact ⟨rfl, rfl⟩
      | accepted frame d =>
          simp only [Stats.count, Stats.accept, List.filterMap_cons, Judgement.handled?,
            List.length_cons, List.countP_cons]
          omega

/-- The counter of events agrees with the published ones. -/
theorem stats_run_events (s : Session P) (steps : List Step) :
    (s.run steps).processor.stats.events =
      s.processor.stats.events + ((s.judgements steps).flatMap Judgement.events).length := by
  rw [stats_run]
  generalize s.judgements steps = judgements
  generalize s.processor.stats = stats
  induction judgements generalizing stats with
  | nil => rfl
  | cons judgement judgements ih =>
      rw [List.foldl_cons, ih, List.flatMap_cons, List.length_append, ← Nat.add_assoc]
      congr 1
      cases judgement with
      | dropped why => cases why <;> rfl
      | accepted frame d => rfl

end Session
end DeviceFeed
