import DeviceFeed.Proofs.Dispatch
import DeviceFeed.Proofs.Field.Prefix

/-!
# Which live readings tracking holds back

The filter, the events of a reading and its debug record each look at the first
field on their own.  This file proves that they agree: all three depend on the
number that the first field names after its prefix, and tracking holds a live
reading back exactly when it is strict and this is not the followed number.
-/

namespace DeviceFeed

/-! ## Held back -/

namespace Tracking

/-- Tracking is strict, and the first field of a live reading does not name the
followed device. -/
def HoldsBack (tracking : Tracking) (first : String) : Prop :=
  tracking.only = true ∧
    ¬∃ followed, tracking.deviceId = some followed ∧
      Field.number (Field.stripPrefix first) = some followed

theorem isFollowed_iff {tracking : Tracking} {id : String} :
    tracking.isFollowed id = true ↔
      ∃ followed, tracking.deviceId = some followed ∧ Field.number id = some followed := by
  rw [isFollowed]
  cases tracking.deviceId with
  | none => simp
  | some followed =>
      cases Field.number id with
      | none => simp
      | some number =>
          constructor
          · intro heq
            rw [beq_iff_eq] at heq
            exact ⟨followed, rfl, congrArg some heq.symm⟩
          · rintro ⟨other, hid, hnumber⟩
            rw [beq_iff_eq]
            exact (Option.some.inj hid).trans (Option.some.inj hnumber).symm

theorem holdsBack_iff {tracking : Tracking} {first : String} :
    tracking.HoldsBack first ↔
      tracking.only = true ∧ tracking.isFollowed (Field.stripPrefix first) = false := by
  rw [HoldsBack, ← isFollowed_iff, Bool.not_eq_true]

end Tracking

/-! ## Readings -/

namespace Reading

theorem deviceId_of_first {r : Reading} {first : String} (h : r.fields[0]? = some first) :
    r.deviceId = Field.stripPrefix first := by
  rw [deviceId, Field.deviceId?, h]
  rfl

/-- The device of a reading is the one that its first field names. -/
theorem deviceId_of_names {r : Reading} {first id : String} (h : r.fields[0]? = some first)
    (hid : Field.Names first id) : r.deviceId = id := by
  rw [deviceId_of_first h, Field.names_iff.1 hid]

theorem telemetry_of_first {r : Reading} {first : String} (h : r.fields[0]? = some first) :
    r.telemetry = .telemetry (Field.number (Field.stripPrefix first))
      (Field.number? r.fields 2) r.fields[3]? := by
  rw [telemetry, Field.deviceId?, h, Option.map_some, Option.bind_some]

/-- The filter holds a live reading back exactly when the first field says so. -/
theorem isSuppressed_iff {r : Reading} {tracking : Tracking} {first : String}
    (hcommand : r.command = .hardware) (hfirst : r.fields[0]? = some first) :
    r.isSuppressed tracking = true ↔ tracking.HoldsBack first := by
  rw [Tracking.holdsBack_iff, isSuppressed, hcommand]
  simp only [Tracking.forwards, deviceId_of_first hfirst]
  cases tracking.only with
  | true => simp
  | false => simp

theorem events_of_hardware {r : Reading} (h : r.command = .hardware) (reportUnknown : Bool) :
    r.events reportUnknown = [r.echo, r.telemetry] := by
  rw [events, h]

/-- Only live and replayed readings yield telemetry, and it is that of their
fields. -/
theorem command_of_telemetry_mem {r : Reading} {reportUnknown : Bool}
    {device pin : Option Int64} {value : Option String}
    (h : .telemetry device pin value ∈ r.events reportUnknown) :
    (r.command = .hardware ∨ r.command = .appSync) ∧
      r.telemetry = .telemetry device pin value := by
  cases hcommand : r.command with
  | hardware =>
      simp only [events, hcommand, echo, List.mem_cons, List.not_mem_nil, or_false,
        reduceCtorEq, false_or] at h
      exact ⟨Or.inl rfl, h.symm⟩
  | appSync =>
      simp only [events, hcommand, echo, List.mem_cons, List.not_mem_nil, or_false,
        reduceCtorEq, false_or] at h
      exact ⟨Or.inr rfl, h.symm⟩
  | response => simp [events, hcommand, answer] at h
  | logEvent => simp [events, hcommand] at h
  | deviceConnect => simp [events, hcommand] at h
  | deviceDisconnect => simp [events, hcommand] at h
  | unknown code =>
      cases reportUnknown with
      | true => simp [events, hcommand, answer] at h
      | false => simp [events, hcommand, answer] at h

theorem record_of_hardware {r : Reading} {first : String} (hcommand : r.command = .hardware)
    (hfirst : r.fields[0]? = some first) (tracking : Tracking) :
    (r.record tracking).tracking = some tracking ∧
      (r.record tracking).isFollowed =
        some (tracking.isFollowed (Field.stripPrefix first)) := by
  rw [record, hcommand, deviceId_of_first hfirst]
  exact ⟨rfl, rfl⟩

end Reading

/-! ## Dispatching -/

namespace Dispatcher

/-- What becomes of a live reading: the first field of the body decides, and
the debug record says so. -/
theorem dispatch_hardware {d : Dispatcher} {frame : Frame} {tracking : Tracking}
    {x : Dispatched} (hcommand : d.table.resolve frame.header.command = .hardware)
    (h : d.dispatch frame tracking = .ok x) :
    ∃ fields first record,
      Field.decode frame.body = .ok fields ∧ fields[0]? = some first ∧
        (x.suppressed = true ↔ tracking.HoldsBack first) ∧
        (x.suppressed = true → x.events = []) ∧
        (x.suppressed = false → x.events =
          [.response frame.header.messageId frame.header.command none fields,
            .telemetry (Field.number (Field.stripPrefix first)) (Field.number? fields 2)
              fields[3]?]) ∧
        d.trace frame tracking =
          Trace.say (.dispatching .hardware frame.header frame.body.length) ++
            d.sink.trace record ∧
        record.tracking = some tracking ∧
        record.isFollowed = some (tracking.isFollowed (Field.stripPrefix first)) := by
  obtain ⟨r, hread, rfl⟩ := dispatch_eq_ok h
  obtain ⟨hheader, -, hresolve, hdecode⟩ := Reading.ofFrame_eq_ok hread
  have hhardware : r.command = .hardware := hresolve.trans hcommand
  have hfields := hdecode (by rw [hhardware]; rfl)
  obtain ⟨first, hfirst⟩ := Field.exists_first_of_decode hfields
  have hsuppressed := r.suppressed_dispatched d.reportUnknown tracking
  obtain ⟨htracking, hfollowed⟩ :=
    Reading.record_of_hardware hhardware hfirst tracking
  refine ⟨r.fields, first, r.record tracking, hfields, hfirst, ?_, ?_, ?_, ?_, htracking,
    hfollowed⟩
  · rw [hsuppressed]
    exact Reading.isSuppressed_iff hhardware hfirst
  · rw [hsuppressed, Reading.dispatched]
    intro hheld
    rw [if_pos hheld]
  · rw [hsuppressed, Reading.dispatched]
    intro hheld
    rw [if_neg (by rw [hheld]; exact Bool.false_ne_true)]
    rw [Reading.events_of_hardware hhardware, Reading.telemetry_of_first hfirst, Reading.echo,
      hheader]
  · rw [trace, hread, hcommand]

/-- Under strict tracking, telemetry is that of the followed device or comes
from a replayed reading. -/
theorem telemetry_of_strict {d : Dispatcher} {frame : Frame} {tracking : Tracking}
    {x : Dispatched} {followed : Int64} {device pin : Option Int64} {value : Option String}
    (h : d.dispatch frame tracking = .ok x) (honly : tracking.only = true)
    (hfollowed : tracking.deviceId = some followed)
    (hmem : .telemetry device pin value ∈ x.events) :
    device = some followed ∨ d.table.resolve frame.header.command = .appSync := by
  obtain ⟨r, hread, rfl⟩ := dispatch_eq_ok h
  obtain ⟨-, -, hresolve, hdecode⟩ := Reading.ofFrame_eq_ok hread
  rw [Reading.dispatched] at hmem
  split at hmem
  · cases hmem
  · next hforwarded =>
    obtain ⟨hcommand | hcommand, htelemetry⟩ := Reading.command_of_telemetry_mem hmem
    · have hfields := hdecode (by rw [hcommand]; rfl)
      obtain ⟨first, hfirst⟩ := Field.exists_first_of_decode hfields
      rw [Reading.isSuppressed_iff hcommand hfirst, Tracking.HoldsBack] at hforwarded
      have hnumber : Field.number (Field.stripPrefix first) = some followed := by
        by_contra hother
        apply hforwarded
        refine ⟨honly, ?_⟩
        rintro ⟨number, hid, hnumber⟩
        rw [hfollowed, Option.some.injEq] at hid
        rw [← hid] at hnumber
        exact hother hnumber
      rw [Reading.telemetry_of_first hfirst, Event.telemetry.injEq, hnumber] at htelemetry
      exact Or.inl htelemetry.1.symm
    · exact Or.inr (hresolve.symm.trans hcommand)

end Dispatcher
end DeviceFeed
