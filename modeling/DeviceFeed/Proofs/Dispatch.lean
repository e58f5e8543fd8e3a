import DeviceFeed.Dispatch
import DeviceFeed.Proofs.Field.Body

/-!
# What dispatching a frame can yield

This file says once what `Dispatcher.dispatch` does: it fails on the frames
whose body should be text and is not, and a frame that is not held back yields
one or two events.  Only live readings are held back.
-/

namespace DeviceFeed

/-! ## Commands -/

namespace Command

theorem isText_iff {command : Command} :
    command.isText = true ↔
      command ∈ [hardware, logEvent, deviceConnect, deviceDisconnect, appSync] := by
  cases command <;> simp [isText]

end Command

/-! ## Readings -/

namespace Reading

theorem ofFrame_eq_ok {table : CodeTable} {frame : Frame} {r : Reading}
    (h : ofFrame table frame = .ok r) :
    r.header = frame.header ∧ r.body = frame.body ∧
      r.command = table.resolve frame.header.command ∧
      (r.command.isText = true → Field.decode frame.body = .ok r.fields) := by
  rw [ofFrame] at h
  split at h
  · cases hdecode : Field.decode frame.body with
    | error fault => simp [hdecode, Except.map] at h
    | ok fields =>
        rw [hdecode, Except.map, Except.ok.injEq] at h
        subst h
        exact ⟨rfl, rfl, rfl, fun _ => rfl⟩
  · next hbinary =>
    rw [Except.ok.injEq] at h
    subst h
    exact ⟨rfl, rfl, rfl, fun htext => absurd htext hbinary⟩

theorem ofFrame_of_decode {table : CodeTable} {frame : Frame} {fields : List String}
    (htext : (table.resolve frame.header.command).isText = true)
    (h : Field.decode frame.body = .ok fields) :
    ofFrame table frame =
      .ok ⟨frame.header, table.resolve frame.header.command, frame.body, fields⟩ := by
  rw [ofFrame, if_pos htext, h]
  rfl

/-- A reading fails exactly when the body should be text and is not. -/
theorem exists_ofFrame_eq_error_iff {table : CodeTable} {frame : Frame} :
    (∃ fault, ofFrame table frame = .error fault) ↔
      (table.resolve frame.header.command).isText = true ∧
        ¬frame.body.toByteArray.IsValidUTF8 := by
  rw [← Field.exists_decode_eq_error_iff, ofFrame]
  by_cases htext : (table.resolve frame.header.command).isText = true
  · rw [if_pos htext]
    cases Field.decode frame.body with
    | error fault => simp [Except.map, htext]
    | ok fields => simp [Except.map]
  · rw [if_neg htext]
    simp [htext]

theorem command_eq_hardware_of_isSuppressed {r : Reading} {tracking : Tracking}
    (h : r.isSuppressed tracking = true) : r.command = .hardware := by
  rw [isSuppressed] at h
  split at h
  · assumption
  · cases h

theorem isSuppressed_of_ne_hardware {r : Reading} (h : r.command ≠ .hardware)
    (tracking : Tracking) : r.isSuppressed tracking = false := by
  rw [← Bool.not_eq_true]
  intro hheld
  exact h (command_eq_hardware_of_isSuppressed hheld)

theorem dispatched_of_ne_hardware {r : Reading} (h : r.command ≠ .hardware)
    (reportUnknown : Bool) (tracking : Tracking) :
    r.dispatched reportUnknown tracking = ⟨r.command, r.events reportUnknown, false⟩ := by
  rw [dispatched, isSuppressed_of_ne_hardware h]
  rfl

/-- A frame that is not held back yields one or two events. -/
theorem length_events (r : Reading) (reportUnknown : Bool) :
    1 ≤ (r.events reportUnknown).length ∧ (r.events reportUnknown).length ≤ 2 := by
  unfold events
  split
  all_goals try simp
  split <;> simp

theorem command_dispatched (r : Reading) (reportUnknown : Bool) (tracking : Tracking) :
    (r.dispatched reportUnknown tracking).command = r.command := by
  rw [dispatched]
  split <;> rfl

theorem suppressed_dispatched (r : Reading) (reportUnknown : Bool) (tracking : Tracking) :
    (r.dispatched reportUnknown tracking).suppressed = r.isSuppressed tracking := by
  rw [dispatched]
  split
  · next h => exact h.symm
  · next h =>
    rw [Bool.not_eq_true] at h
    exact h.symm

end Reading

/-! ## Dispatching -/

/-- What a handled frame amounts to: either it is a live reading that is held
back without any event, or it yields one or two events. -/
structure Dispatched.Sound (d : Dispatched) : Prop where
  length_le : d.events.length ≤ 2
  suppressed_iff : d.suppressed = true ↔ d.events.length = 0
  hardware_of_suppressed : d.suppressed = true → d.command = .hardware

theorem Reading.dispatched_sound (r : Reading) (reportUnknown : Bool)
    (tracking : Tracking) : (r.dispatched reportUnknown tracking).Sound := by
  have hlength := r.length_events reportUnknown
  rw [dispatched]
  split
  · next h =>
    exact ⟨by simp, by simp, fun _ => command_eq_hardware_of_isSuppressed h⟩
  · refine ⟨hlength.2, ?_, fun h => by cases h⟩
    simp only [Bool.false_eq_true, false_iff]
    omega

namespace Dispatcher

theorem dispatch_eq_ok {d : Dispatcher} {frame : Frame} {tracking : Tracking}
    {x : Dispatched} (h : d.dispatch frame tracking = .ok x) :
    ∃ r, Reading.ofFrame d.table frame = .ok r ∧
      x = r.dispatched d.reportUnknown tracking := by
  rw [dispatch] at h
  cases hread : Reading.ofFrame d.table frame with
  | error fault => simp [hread, Except.map] at h
  | ok r =>
      rw [hread, Except.map, Except.ok.injEq] at h
      exact ⟨r, rfl, h.symm⟩

theorem dispatch_of_reading {d : Dispatcher} {frame : Frame} {r : Reading}
    (h : Reading.ofFrame d.table frame = .ok r) (tracking : Tracking) :
    d.dispatch frame tracking = .ok (r.dispatched d.reportUnknown tracking) := by
  rw [dispatch, h]
  rfl

theorem dispatch_sound {d : Dispatcher} {frame : Frame} {tracking : Tracking}
    {x : Dispatched} (h : d.dispatch frame tracking = .ok x) :
    x.Sound ∧ x.command = d.table.resolve frame.header.command := by
  obtain ⟨r, hread, rfl⟩ := dispatch_eq_ok h
  obtain ⟨-, -, hcommand, -⟩ := Reading.ofFrame_eq_ok hread
  exact ⟨r.dispatched_sound _ _, (r.command_dispatched _ _).trans hcommand⟩

/-- Dispatching fails exactly on a body that should be text and is not. -/
theorem exists_dispatch_eq_error_iff {d : Dispatcher} {frame : Frame}
    {tracking : Tracking} :
    (∃ fault, d.dispatch frame tracking = .error fault) ↔
      (d.table.resolve frame.header.command).isText = true ∧
        ¬frame.body.toByteArray.IsValidUTF8 := by
  rw [← Reading.exists_ofFrame_eq_error_iff, dispatch]
  cases Reading.ofFrame d.table frame <;> simp [Except.map]

/-- The table and the answer to unassigned codes are all that dispatching
takes from a dispatcher. -/
theorem dispatch_congr {d e : Dispatcher} (htable : d.table = e.table)
    (hreport : d.reportUnknown = e.reportUnknown) (frame : Frame) (tracking : Tracking) :
    d.dispatch frame tracking = e.dispatch frame tracking := by
  rw [dispatch, dispatch, htable, hreport]

end Dispatcher

end DeviceFeed
