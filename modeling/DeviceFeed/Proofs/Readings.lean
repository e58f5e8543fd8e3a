import DeviceFeed.Proofs.Tracking

/-!
# Live and replayed readings

Readings arrive live or replayed, under two codes.  Once a live one goes through, the code
makes no difference: both are answered by the fields of the body, and both yield the
telemetry of the first, the third and the fourth field.
-/

namespace DeviceFeed

/-! ## Readings that are published -/

/-- A frame with this code is published as a reading of the device: it is replayed, or it
is live and goes through. -/
def Dispatcher.Publishes (d : Dispatcher) (tracking : Tracking) (code : UInt8)
    (id : String) : Prop :=
  d.table.resolve code = .appSync ∨
    d.table.resolve code = .hardware ∧ tracking.forwards id = true

theorem Dispatcher.Publishes.isText {d : Dispatcher} {tracking : Tracking} {code : UInt8}
    {id : String} (h : d.Publishes tracking code id) : (d.table.resolve code).isText = true := by
  obtain hreplayed | ⟨hlive, -⟩ := h
  · rw [hreplayed]
    rfl
  · rw [hlive]
    rfl

namespace Reading

theorem dispatched_of_appSync {r : Reading} (h : r.command = .appSync) (reportUnknown : Bool)
    (tracking : Tracking) :
    r.dispatched reportUnknown tracking = ⟨r.command, [r.echo, r.telemetry], false⟩ := by
  have hne : r.command ≠ .hardware := by
    rw [h]
    exact Command.noConfusion
  rw [dispatched_of_ne_hardware hne, events, h]

theorem dispatched_of_forwards {r : Reading} {tracking : Tracking} (h : r.command = .hardware)
    (hforwards : tracking.forwards r.deviceId = true) (reportUnknown : Bool) :
    r.dispatched reportUnknown tracking = ⟨r.command, [r.echo, r.telemetry], false⟩ := by
  have hforwarded : r.isSuppressed tracking = false := by
    rw [isSuppressed, h]
    exact congrArg not hforwards
  rw [dispatched, hforwarded, events_of_hardware h]
  rfl

end Reading

namespace Dispatcher

/-- What a published reading yields, by the fields of its body. -/
theorem dispatch_of_publishes {d : Dispatcher} {header : Header} {body : Bytes}
    {tracking : Tracking} {fields : List String} {first id : String}
    (hdecode : Field.decode body = .ok fields) (hfirst : fields[0]? = some first)
    (hid : Field.Names first id) (h : d.Publishes tracking header.command id) :
    d.dispatch ⟨header, body⟩ tracking =
      .ok ⟨d.table.resolve header.command,
        [.response header.messageId header.command none fields,
          .telemetry (Field.number id) (Field.number? fields 2) fields[3]?], false⟩ := by
  let r : Reading := ⟨header, d.table.resolve header.command, body, fields⟩
  have hread : Reading.ofFrame d.table ⟨header, body⟩ = .ok r :=
    Reading.ofFrame_of_decode h.isText hdecode
  have hdevice : r.deviceId = id := Reading.deviceId_of_names hfirst hid
  have htelemetry : r.telemetry =
      .telemetry (Field.number id) (Field.number? fields 2) fields[3]? := by
    rw [Reading.telemetry_of_first hfirst, Field.names_iff.1 hid]
  have hdispatched : r.dispatched d.reportUnknown tracking =
      ⟨r.command, [r.echo, r.telemetry], false⟩ := by
    obtain hreplayed | ⟨hlive, hforwards⟩ := h
    · exact Reading.dispatched_of_appSync hreplayed _ _
    · rw [← hdevice] at hforwards
      exact Reading.dispatched_of_forwards hlive hforwards _
  rw [dispatch_of_reading hread, hdispatched, htelemetry]
  rfl

/-- A body that is text is handled under every code. -/
theorem exists_dispatch_eq_ok {d : Dispatcher} {frame : Frame} {tracking : Tracking}
    (h : frame.body.toByteArray.IsValidUTF8) : ∃ x, d.dispatch frame tracking = .ok x := by
  cases hdispatch : d.dispatch frame tracking with
  | ok x => exact ⟨x, rfl⟩
  | error fault => exact absurd h (exists_dispatch_eq_error_iff.1 ⟨fault, hdispatch⟩).2

/-- A text body is never refused.  If it is published as a reading, live or replayed, it
yields an answer that repeats the body, and the telemetry that the first, the third and the
fourth field describe as far as there are any.  So readings with the same four fields in front
have the same telemetry, whichever way they came. -/
theorem publishes_readings_alike :
    (∀ body : Bytes, body.toByteArray.IsValidUTF8 →
      ∃ fields first id, Field.decode body = .ok fields ∧
        Utf8.encode (Field.join fields) = body ∧
        fields[0]? = some first ∧ Field.Names first id ∧
        ∀ (d : Dispatcher) (header : Header) (tracking : Tracking),
          (∃ x, d.dispatch ⟨header, body⟩ tracking = .ok x) ∧
          (d.Publishes tracking header.command id →
            d.dispatch ⟨header, body⟩ tracking =
              .ok ⟨d.table.resolve header.command,
                [.response header.messageId header.command none fields,
                  .telemetry (Field.number id) (fields[2]?.bind Field.number) fields[3]?],
                false⟩)) ∧
      ∀ (body other : Bytes) (fields others : List String) (first id : String),
        Field.decode body = .ok fields → Field.decode other = .ok others →
        fields.take 4 = others.take 4 → fields[0]? = some first → Field.Names first id →
        ∀ (d e : Dispatcher) (header another : Header) (tracking later : Tracking),
          d.Publishes tracking header.command id → e.Publishes later another.command id →
          ∃ telemetry,
            d.dispatch ⟨header, body⟩ tracking =
              .ok ⟨d.table.resolve header.command,
                [.response header.messageId header.command none fields, telemetry], false⟩ ∧
            e.dispatch ⟨another, other⟩ later =
              .ok ⟨e.table.resolve another.command,
                [.response another.messageId another.command none others, telemetry],
                false⟩ := by
  constructor
  · intro body htext
    obtain ⟨text, rfl⟩ := (Utf8.isValidUTF8_iff_exists_encode body).1 htext
    have hdecode := Field.decode_of_encode text
    obtain ⟨first, hfirst⟩ := Field.exists_first_of_decode hdecode
    have hid : Field.Names first (Field.stripPrefix first) := Field.names_iff.2 rfl
    refine ⟨Field.split text, first, Field.stripPrefix first, hdecode, ?_, hfirst, hid, ?_⟩
    · rw [Field.join_split]
    · intro d header tracking
      exact ⟨exists_dispatch_eq_ok htext, dispatch_of_publishes hdecode hfirst hid⟩
  · intro body other fields others first id hbody hother hfront hfirst hid d e header another
      tracking later hpublished hagain
    have hsame : ∀ position < 4, fields[position]? = others[position]? := by
      intro position hposition
      rw [← List.getElem?_take_of_lt hposition, hfront, List.getElem?_take_of_lt hposition]
    have hstart : others[0]? = some first := (hsame 0 (by decide)).symm.trans hfirst
    refine ⟨_, dispatch_of_publishes hbody hfirst hid hpublished, ?_⟩
    rw [dispatch_of_publishes hother hstart hid hagain, Field.number?, Field.number?,
      hsame 2 (by decide), hsame 3 (by decide)]

/-- A live reading of the followed device, and a replayed one that is not followed and has no
fifth field. -/
theorem publishes_readings_alike_without_fifth_field :
    let d : Dispatcher := {}
    let fields := ["0-4", "vw", "5", "on", "x"]
    let body : Bytes := [0x30, 0x2D, 0x34, 0, 0x76, 0x77, 0, 0x35, 0, 0x6F, 0x6E, 0, 0x78]
    let others := ["0-4", "vw", "5", "on"]
    let other : Bytes := [0x30, 0x2D, 0x34, 0, 0x76, 0x77, 0, 0x35, 0, 0x6F, 0x6E]
    let telemetry : Event := .telemetry (some 4) (some 5) (some "on")
    body.toByteArray.IsValidUTF8 ∧ Field.Names "0-4" "4" ∧
      d.Publishes (.strict 4) 20 "4" ∧ d.Publishes (.strict 9) 25 "4" ∧
      d.dispatch ⟨⟨20, 1⟩, body⟩ (.strict 4) =
        .ok ⟨.hardware, [.response 1 20 none fields, telemetry], false⟩ ∧
      d.dispatch ⟨⟨25, 2⟩, other⟩ (.strict 9) =
        .ok ⟨.appSync, [.response 2 25 none others, telemetry], false⟩ := by
  intro d fields body others other telemetry
  have htext : body.toByteArray.IsValidUTF8 :=
    (Utf8.isValidUTF8_iff_exists_encode body).2 ⟨Field.join fields, by decide⟩
  have hid : Field.Names "0-4" "4" := Or.inl rfl
  have hlive : d.Publishes (.strict 4) 20 "4" := Or.inr ⟨rfl, by decide⟩
  have hreplayed : d.Publishes (.strict 9) 25 "4" := Or.inl rfl
  have hbody : Field.decode body = .ok fields := by decide
  have hother : Field.decode other = .ok others := by decide
  obtain ⟨hpublished, hagree⟩ := publishes_readings_alike
  -- the first half gives the telemetry of the live reading
  obtain ⟨decoded, first, id, hdecode, -, hfirst, hnames, hdispatch⟩ := hpublished body htext
  obtain rfl : fields = decoded := Except.ok.inj (hbody.symm.trans hdecode)
  obtain rfl : "0-4" = first := Option.some.inj hfirst
  obtain rfl : "4" = id := (Field.names_iff.1 hid).symm.trans (Field.names_iff.1 hnames)
  have hyields := (hdispatch d ⟨20, 1⟩ (.strict 4)).2 hlive
  -- the second half carries it over to the replayed one
  obtain ⟨shared, hshared, hsecond⟩ := hagree body other fields others "0-4" "4" hbody hother rfl
    rfl hid d d ⟨20, 1⟩ ⟨25, 2⟩ (.strict 4) (.strict 9) hlive hreplayed
  rw [hshared] at hyields
  have htelemetry : shared = telemetry := by
    simp only [Except.ok.injEq, Dispatched.mk.injEq, List.cons.injEq, and_true, true_and] at hyields
    rw [hyields]
    decide
  rw [htelemetry] at hshared hsecond
  exact ⟨htext, hid, hlive, hreplayed, hshared, hsecond⟩

end Dispatcher
end DeviceFeed
