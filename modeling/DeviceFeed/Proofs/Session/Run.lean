import DeviceFeed.Setup
import DeviceFeed.Proofs.Processor

/-!
# Steps and runs of a session

This file says what one step can change in a session and carries it over to
runs.  A frame changes the processor only, a change of tracking changes the
shared choice only, and the receiving side changes the publisher only.  So the
tracking that a frame meets is the initial one after exactly the changes that
came before.
-/

namespace DeviceFeed

/-! ## Setting up -/

/-- A valid configuration yields a processor that follows it and has counted
nothing. -/
theorem Processor.exists_ofConfig {P : Type} {config : Config}
    (hvalid : config.validate = .ok config) (publisher : P) :
    ∃ p, ofConfig config publisher = .ok p ∧
      p.dispatcher.table = config.table ∧
      p.dispatcher.reportUnknown = config.reportUnknown ∧
      p.maxBody = config.maxBody.toNat ∧ p.publisher = publisher ∧ p.stats = {} := by
  cases hclash : config.table.clash? with
  | some clash => simp [Config.validate, hclash] at hvalid
  | none =>
      simp only [ofConfig, Dispatcher.ofConfig, hclash, Except.map]
      exact ⟨_, rfl, rfl, rfl, rfl, rfl, rfl⟩

/-! ## Frames and changes of tracking among the steps -/

/-- The bytes that an input brings. -/
def Input.raw? : Input → Option Bytes
  | .process raw => some raw
  | .ingest raw => some raw
  | .retarget _ => none

/-- The change of tracking that an input is. -/
def Input.update? : Input → Option Tracking.Update
  | .retarget update => some update
  | _ => none

/-- The bytes that a step brings. -/
def Step.raw? : Step → Option Bytes
  | .input i => i.raw?
  | .receive _ => none

/-- The change of tracking that a step is. -/
def Step.update? : Step → Option Tracking.Update
  | .input i => i.update?
  | .receive _ => none

/-- The choice after several changes, the first one first. -/
def Tracking.after (tracking : Tracking) (updates : List Update) : Tracking :=
  updates.foldl apply tracking

/-- The frames among some steps, in order, each with the choice that exactly
the changes in front of it lead to. -/
def Tracking.frames (initial : Tracking) (steps : List Step) : List (Tracking × Bytes) :=
  steps.zipIdx.filterMap fun (step, k) =>
    step.raw?.map fun raw => (initial.after ((steps.take k).filterMap Step.update?), raw)

theorem Tracking.frames_cons (initial : Tracking) (step : Step) (steps : List Step) :
    initial.frames (step :: steps) =
      (step.raw?.map fun raw => (initial, raw)).toList ++
        (initial.after step.update?.toList).frames steps := by
  -- a later position also looks back on the first step
  have hafter (k : Nat) :
      initial.after (((step :: steps).take (k + 1)).filterMap Step.update?) =
        (initial.after step.update?.toList).after ((steps.take k).filterMap Step.update?) := by
    rw [List.take_succ_cons, List.filterMap_cons]
    cases step.update? <;> rfl
  rw [frames, List.zipIdx_cons, List.filterMap_cons, Nat.zero_add,
    List.zipIdx_eq_map_add, List.filterMap_map]
  simp only [Function.comp_def, Nat.add_comm 1, hafter]
  cases step.raw? <;> rfl

namespace Session

variable {P : Type} [Publisher P]

/-! ## One step -/

/-- A step that brings bytes processes or ingests them. -/
theorem step_eq_afterFrame (s : Session P) {step : Step} {raw : Bytes}
    (h : step.raw? = some raw) :
    s.step step = s.afterFrame (s.processor.process s.observed raw) ∨
      s.step step = s.afterFrame (s.processor.ingest s.observed raw) := by
  cases step with
  | receive receipt => cases h
  | input input =>
      cases input with
      | retarget update => cases h
      | process bytes =>
          obtain rfl : bytes = raw := Option.some.inj h
          exact Or.inl rfl
      | ingest bytes =>
          obtain rfl : bytes = raw := Option.some.inj h
          exact Or.inr rfl

theorem step_frame {s : Session P} {step : Step} {raw : Bytes}
    (h : step.raw? = some raw) :
    (s.step step).1 =
      { s with processor := (s.processor.process s.observed raw).processor } := by
  rcases s.step_eq_afterFrame h with hstep | hstep
  · rw [hstep]
    rfl
  · rw [hstep, ← Processor.ingest_processor]
    rfl

/-- What is seen of an accepted frame, whether dropped frames are reported or
passed over. -/
theorem reply_of_eq_ok {s : Session P} {step : Step} {raw : Bytes} {count : Nat}
    (hraw : step.raw? = some raw)
    (h : (s.processor.process s.observed raw).result = .ok count) :
    (s.step step).2 =
      { result := some (.ok count), trace := (s.processor.process s.observed raw).trace } := by
  rcases s.step_eq_afterFrame hraw with hstep | hstep
  · rw [hstep, afterFrame, h]
  · rw [hstep, Processor.ingest_of_eq_ok h, afterFrame, h]

/-- What a step is that brings no frame. -/
theorem update_or_receipt_of_raw?_eq_none {step : Step} (h : step.raw? = none) :
    (∃ update, step = .input (.retarget update)) ∨ ∃ receipt, step = .receive receipt := by
  cases step with
  | input input =>
      cases input with
      | process raw => cases h
      | ingest raw => cases h
      | retarget update => exact Or.inl ⟨update, rfl⟩
  | receive receipt => exact Or.inr ⟨receipt, rfl⟩

theorem step_dispatcher (s : Session P) (step : Step) :
    (s.step step).1.processor.dispatcher = s.processor.dispatcher := by
  cases hraw : step.raw? with
  | some raw =>
      rw [step_frame hraw]
      exact s.processor.process_dispatcher _ _
  | none =>
      rcases update_or_receipt_of_raw?_eq_none hraw with ⟨update, rfl⟩ | ⟨receipt, rfl⟩
      · rfl
      · rfl

theorem step_maxBody (s : Session P) (step : Step) :
    (s.step step).1.processor.maxBody = s.processor.maxBody := by
  cases hraw : step.raw? with
  | some raw =>
      rw [step_frame hraw]
      exact s.processor.process_maxBody _ _
  | none =>
      rcases update_or_receipt_of_raw?_eq_none hraw with ⟨update, rfl⟩ | ⟨receipt, rfl⟩
      · rfl
      · rfl

theorem step_source (s : Session P) (step : Step) : (s.step step).1.source = s.source := by
  cases hraw : step.raw? with
  | some raw => rw [step_frame hraw]
  | none =>
      rcases update_or_receipt_of_raw?_eq_none hraw with ⟨update, rfl⟩ | ⟨receipt, rfl⟩
      · rfl
      · rfl

/-- A step changes the shared choice exactly by the change that it is. -/
theorem step_tracking (s : Session P) (step : Step) :
    (s.step step).1.tracking = s.tracking.after step.update?.toList := by
  cases step with
  | input input => cases input <;> rfl
  | receive receipt => rfl

/-! ## Runs -/

theorem run_cons (s : Session P) (step : Step) (steps : List Step) :
    s.run (step :: steps) = (s.step step).1.run steps :=
  rfl

theorem run_append (s : Session P) (first second : List Step) :
    s.run (first ++ second) = (s.run first).run second :=
  List.foldl_append

theorem replies_append (s : Session P) (first second : List Step) :
    s.replies (first ++ second) = s.replies first ++ (s.run first).replies second := by
  induction first generalizing s with
  | nil => rfl
  | cons step first ih =>
      rw [List.cons_append, replies, replies, ih, List.cons_append]
      rfl

theorem run_induction {motive : Session P → Prop}
    (hstep : ∀ t step, motive t → motive (t.step step).1) {s : Session P} (hs : motive s)
    (steps : List Step) : motive (s.run steps) := by
  induction steps generalizing s with
  | nil => exact hs
  | cons step steps ih => exact ih (hstep s step hs)

theorem feed_eq_run (s : Session P) (inputs : List Input) :
    s.feed inputs = s.run (inputs.map Step.input) := by
  rw [run, List.foldl_map]
  rfl

theorem run_dispatcher (s : Session P) (steps : List Step) :
    (s.run steps).processor.dispatcher = s.processor.dispatcher := by
  induction steps generalizing s with
  | nil => rfl
  | cons step steps ih => rw [run_cons, ih, step_dispatcher]

theorem run_source (s : Session P) (steps : List Step) :
    (s.run steps).source = s.source := by
  induction steps generalizing s with
  | nil => rfl
  | cons step steps ih => rw [run_cons, ih, step_source]

/-- After a run the shared choice is the initial one after the changes of the
run. -/
theorem run_tracking (s : Session P) (steps : List Step) :
    (s.run steps).tracking = s.tracking.after (steps.filterMap Step.update?) := by
  induction steps generalizing s with
  | nil => rfl
  | cons step steps ih =>
      rw [run_cons, ih, step_tracking, List.filterMap_cons]
      cases step.update? <;> rfl

end Session
end DeviceFeed
