import DeviceFeed.Proofs.Tracking

/-!
# Events that name a device as text

Events that devices report about themselves name the device by the first field.  A device that
comes or goes is named without its prefix, and a log event by the field as it is.  So a name
that is sent back may lose a further prefix, and the names differ whenever there is a prefix.
-/

namespace DeviceFeed

/-! ## Events of text commands -/

/-- The device that an event names as text. -/
def Event.device? : Event → Option String
  | log device _ => some device
  | connect device => some device
  | disconnect device => some device
  | _ => none

/-- The event by which a command names a device, for the commands that name one: a log event
takes the first field as it is and a code from the second one, and the other two take the id in
the first field. -/
def Command.deviceEvent? (first id : String) (second : Option String) : Command → Option Event
  | logEvent => some (.log first second)
  | deviceConnect => some (.connect id)
  | deviceDisconnect => some (.disconnect id)
  | _ => none

/-- The body of the frame is text, and this is its first field. -/
def Frame.HasFirstField (frame : Frame) (first : String) : Prop :=
  ∃ fields, Field.decode frame.body = .ok fields ∧ fields[0]? = some first

/-- A command that tells that a device comes or goes. -/
def Command.IsPresence (command : Command) : Prop :=
  command = .deviceConnect ∨ command = .deviceDisconnect

theorem Command.IsPresence.isText {command : Command} (h : command.IsPresence) :
    command.isText = true := by
  rcases h with rfl | rfl
  · rfl
  · rfl

namespace Dispatcher

variable {d : Dispatcher} {frame : Frame} {fields : List String} {first id : String}

/-- A text body under a code that is not for live readings yields the events of its command. -/
theorem dispatch_of_decode {command : Command}
    (hcommand : d.table.resolve frame.header.command = command) (htext : command.isText = true)
    (hother : command ≠ .hardware) (hdecode : Field.decode frame.body = .ok fields)
    (tracking : Tracking) :
    d.dispatch frame tracking =
      .ok ⟨command,
        (⟨frame.header, command, frame.body, fields⟩ : Reading).events d.reportUnknown, false⟩ := by
  subst hcommand
  rw [dispatch_of_reading (Reading.ofFrame_of_decode htext hdecode),
    Reading.dispatched_of_ne_hardware hother]

/-- A text body under a code of a command that names its device yields the event of the
command. -/
theorem dispatch_deviceEvent (frame : Frame) {command : Command} {event : Event}
    (hcommand : d.table.resolve frame.header.command = command)
    (hevent : command.deviceEvent? first id fields[1]? = some event)
    (hdecode : Field.decode frame.body = .ok fields) (hfirst : fields[0]? = some first)
    (hid : Field.Names first id) (tracking : Tracking) :
    d.dispatch frame tracking = .ok ⟨command, [event], false⟩ := by
  have hdevice : (⟨frame.header, command, frame.body, fields⟩ : Reading).deviceId = id :=
    Reading.deviceId_of_names hfirst hid
  cases command with
  | logEvent =>
      obtain rfl := Option.some.inj hevent
      rw [dispatch_of_decode hcommand rfl (by decide) hdecode, Reading.events, hfirst]
      rfl
  | deviceConnect =>
      obtain rfl := Option.some.inj hevent
      rw [dispatch_of_decode hcommand rfl (by decide) hdecode, Reading.events, hdevice]
  | deviceDisconnect =>
      obtain rfl := Option.some.inj hevent
      rw [dispatch_of_decode hcommand rfl (by decide) hdecode, Reading.events, hdevice]
  | _ => cases hevent

/-! ## Devices that come or go -/

/-- The frame yields one event, that the device comes or that it goes. -/
def Announces (d : Dispatcher) (frame : Frame) (tracking : Tracking) (id : String) : Prop :=
  d.dispatch frame tracking = .ok ⟨.deviceConnect, [.connect id], false⟩ ∨
    d.dispatch frame tracking = .ok ⟨.deviceDisconnect, [.disconnect id], false⟩

theorem announces_of_first (h : (d.table.resolve frame.header.command).IsPresence)
    (hfirst : frame.HasFirstField first) (hid : Field.Names first id) (tracking : Tracking) :
    d.Announces frame tracking id := by
  obtain ⟨fields, hdecode, hfirst⟩ := hfirst
  rcases h with hconnect | hdisconnect
  · exact Or.inl (dispatch_deviceEvent frame hconnect rfl hdecode hfirst hid tracking)
  · exact Or.inr (dispatch_deviceEvent frame hdisconnect rfl hdecode hfirst hid tracking)

/-- Such a frame is accepted exactly if it has a first field. -/
theorem exists_dispatch_of_presence_iff (tracking : Tracking)
    (h : (d.table.resolve frame.header.command).IsPresence) :
    (∃ x, d.dispatch frame tracking = .ok x) ↔ ∃ first, frame.HasFirstField first := by
  constructor
  · rintro ⟨x, haccepted⟩
    obtain ⟨r, hread, -⟩ := dispatch_eq_ok haccepted
    obtain ⟨-, -, hcommand, hdecode⟩ := Reading.ofFrame_eq_ok hread
    have htext : r.command.isText = true := by
      rw [hcommand]
      exact h.isText
    obtain ⟨first, hfirst⟩ := Field.exists_first_of_decode (hdecode htext)
    exact ⟨first, r.fields, hdecode htext, hfirst⟩
  · rintro ⟨first, hfirst⟩
    rcases announces_of_first h hfirst (Field.names_iff.2 rfl) tracking with hconnect | hdisconnect
    · exact ⟨_, hconnect⟩
    · exact ⟨_, hdisconnect⟩

/-- Reading takes off one prefix of any number.  So a second reading changes nothing unless
there are two prefixes, and a device that comes or goes is named without any prefix unless its
field has two.  If its name is sent back as a first field, it is named in the same way again
unless the field had two prefixes. -/
theorem announces_up_to_second_prefix (field : String) :
    (Field.stripPrefix (Field.stripPrefix field) = Field.stripPrefix field ↔
      ¬['0', '-', '0', '-'] <+: field.toList) ∧
    (∃ n id, Field.IsBare id ∧ field = Field.prefixed n id ∧
      ∀ k, Field.stripPrefix^[k] field = Field.prefixed (n - k) id) ∧
    ∀ (d : Dispatcher) (frame : Frame) (tracking : Tracking),
      (d.table.resolve frame.header.command).IsPresence →
      ((∃ x, d.dispatch frame tracking = .ok x) ↔ ∃ first, frame.HasFirstField first) ∧
      (frame.HasFirstField field →
        ∃ id, Field.Names field id ∧ d.Announces frame tracking id ∧
          (Field.IsBare id ↔ ¬['0', '-', '0', '-'] <+: field.toList) ∧
          ∀ (e : Dispatcher) (back : Frame) (later : Tracking),
            (e.table.resolve back.header.command).IsPresence → back.HasFirstField id →
            ∃ again, e.Announces back later again ∧
              (again = id ↔ ¬['0', '-', '0', '-'] <+: field.toList)) := by
  refine ⟨Field.stripPrefix_stripPrefix_iff, ?_, ?_⟩
  · obtain ⟨n, id, hbare, rfl⟩ := Field.exists_prefixed field
    exact ⟨n, id, hbare, rfl, Field.iterate_stripPrefix hbare n⟩
  · intro d frame tracking hpresence
    refine ⟨exists_dispatch_of_presence_iff tracking hpresence, fun hfirst => ?_⟩
    have hid : Field.Names field (Field.stripPrefix field) := Field.names_iff.2 rfl
    refine ⟨_, hid, announces_of_first hpresence hfirst hid tracking,
      Field.isBare_stripPrefix_iff, ?_⟩
    intro e back later hback hagain
    exact ⟨_, announces_of_first hback hagain (Field.names_iff.2 rfl) later,
      Field.stripPrefix_stripPrefix_iff⟩

/-- A device that comes is named without its prefix, and goes under the same name. -/
theorem announces_up_to_second_prefix_of_fifteen :
    let d : Dispatcher := {}
    let came : Frame := ⟨⟨4, 1⟩, [0x30, 0x2D, 0x31, 0x35, 0]⟩
    let went : Frame := ⟨⟨71, 2⟩, [0x31, 0x35]⟩
    Field.stripPrefix (Field.stripPrefix "0-15") = Field.stripPrefix "0-15" ∧
      came.HasFirstField "0-15" ∧ d.Announces came {} "15" ∧ Field.IsBare "15" ∧
      went.HasFirstField "15" ∧ d.Announces went (.strict 1) "15" := by
  intro d came went
  have hone : ¬['0', '-', '0', '-'] <+: "0-15".toList := by decide
  have hcame : came.HasFirstField "0-15" := ⟨["0-15", ""], by decide, rfl⟩
  have hwent : went.HasFirstField "15" := ⟨["15"], by decide, rfl⟩
  obtain ⟨htwice, -, hpresence⟩ := announces_up_to_second_prefix "0-15"
  obtain ⟨id, hid, hannounces, hbare, hback⟩ := (hpresence d came {} (Or.inl rfl)).2 hcame
  obtain rfl : "15" = id := Field.names_iff.1 hid
  obtain ⟨again, hagain, hsame⟩ := hback d went (.strict 1) (Or.inr rfl) hwent
  obtain rfl : again = "15" := hsame.2 hone
  exact ⟨htwice.2 hone, hcame, hannounces, hbare.2 hone, hwent, hagain⟩

/-- A device with two prefixes is named with one of them, and without any when this name is sent
back. -/
theorem second_prefix_is_announced :
    let d : Dispatcher := {}
    let came : Frame := ⟨⟨4, 1⟩, Utf8.encode "0-0-42"⟩
    let back : Frame := ⟨⟨4, 2⟩, Utf8.encode "0-42"⟩
    Field.stripPrefix "0-0-42" = "0-42" ∧ Field.stripPrefix "0-42" = "42" ∧
      d.Announces came {} "0-42" ∧ d.Announces back {} "42" ∧
      (¬∀ field, Field.stripPrefix (Field.stripPrefix field) = Field.stripPrefix field) ∧
      ¬∀ (d : Dispatcher) (frame : Frame) (tracking : Tracking) (id : String),
        d.Announces frame tracking id → Field.IsBare id := by
  intro d came back
  have hcame : d.Announces came {} "0-42" := Or.inl (by decide)
  have hback : d.Announces back {} "42" := Or.inl (by decide)
  refine ⟨by decide, by decide, hcame, hback, fun hall => ?_, fun hall => ?_⟩
  · exact absurd (hall "0-0-42") (by decide)
  · exact hall d came {} "0-42" hcame (by decide)

/-! ## Log events -/

/-- A text body yields one event under each of the three codes.  A log event names the device by
the first field as it is, and the other two name it without its prefix.  So all three name it
alike exactly if the field has no prefix. -/
theorem text_events_name_device {body : Bytes} (h : body.toByteArray.IsValidUTF8) :
    ∃ fields first id, Field.decode body = .ok fields ∧ fields[0]? = some first ∧
      Field.Names first id ∧ (first = id ↔ Field.IsBare first) ∧
      ∀ (d : Dispatcher) (header : Header) (tracking : Tracking),
        (d.table.resolve header.command = .logEvent →
          d.dispatch ⟨header, body⟩ tracking = .ok ⟨.logEvent, [.log first fields[1]?], false⟩) ∧
        (d.table.resolve header.command = .deviceConnect →
          d.dispatch ⟨header, body⟩ tracking = .ok ⟨.deviceConnect, [.connect id], false⟩) ∧
        (d.table.resolve header.command = .deviceDisconnect →
          d.dispatch ⟨header, body⟩ tracking =
            .ok ⟨.deviceDisconnect, [.disconnect id], false⟩) := by
  obtain ⟨text, rfl⟩ := (Utf8.isValidUTF8_iff_exists_encode body).1 h
  have hdecode := Field.decode_of_encode text
  obtain ⟨first, hfirst⟩ := Field.exists_first_of_decode hdecode
  have hid : Field.Names first (Field.stripPrefix first) := Field.names_iff.2 rfl
  refine ⟨Field.split text, first, _, hdecode, hfirst, hid, eq_comm.trans Field.isBare_iff.symm, ?_⟩
  intro d header tracking
  refine ⟨fun hlog => ?_, fun hconnect => ?_, fun hdisconnect => ?_⟩
  · exact dispatch_deviceEvent ⟨header, _⟩ hlog rfl hdecode hfirst hid tracking
  · exact dispatch_deviceEvent ⟨header, _⟩ hconnect rfl hdecode hfirst hid tracking
  · exact dispatch_deviceEvent ⟨header, _⟩ hdisconnect rfl hdecode hfirst hid tracking

/-- A field without a prefix is a name for all three. -/
theorem text_events_name_device_fifteen :
    let d : Dispatcher := {}
    let body : Bytes := [0x31, 0x35, 0, 0x33]
    body.toByteArray.IsValidUTF8 ∧ Field.IsBare "15" ∧
      d.dispatch ⟨⟨64, 1⟩, body⟩ {} = .ok ⟨.logEvent, [.log "15" (some "3")], false⟩ ∧
      d.dispatch ⟨⟨4, 2⟩, body⟩ {} = .ok ⟨.deviceConnect, [.connect "15"], false⟩ ∧
      d.dispatch ⟨⟨71, 3⟩, body⟩ {} = .ok ⟨.deviceDisconnect, [.disconnect "15"], false⟩ := by
  intro d body
  have htext : body.toByteArray.IsValidUTF8 :=
    (Utf8.isValidUTF8_iff_exists_encode body).2 ⟨Field.join ["15", "3"], by decide⟩
  have hbody : Field.decode body = .ok ["15", "3"] := by decide
  have hbare : Field.IsBare "15" := by decide
  obtain ⟨fields, first, id, hdecode, hfirst, -, hsame, hdispatch⟩ := text_events_name_device htext
  obtain rfl : ["15", "3"] = fields := Except.ok.inj (hbody.symm.trans hdecode)
  obtain rfl : "15" = first := Option.some.inj hfirst
  obtain rfl : "15" = id := hsame.2 hbare
  exact ⟨htext, hbare, (hdispatch d ⟨64, 1⟩ {}).1 rfl, (hdispatch d ⟨4, 2⟩ {}).2.1 rfl,
    (hdispatch d ⟨71, 3⟩ {}).2.2 rfl⟩

/-- A log event names the device with its prefix, and the other two name it without. -/
theorem log_keeps_prefix :
    let d : Dispatcher := {}
    let body : Bytes := Utf8.encode "0-15"
    d.dispatch ⟨⟨64, 1⟩, body⟩ {} = .ok ⟨.logEvent, [.log "0-15" none], false⟩ ∧
      d.dispatch ⟨⟨4, 1⟩, body⟩ {} = .ok ⟨.deviceConnect, [.connect "15"], false⟩ ∧
      d.dispatch ⟨⟨71, 1⟩, body⟩ {} = .ok ⟨.deviceDisconnect, [.disconnect "15"], false⟩ ∧
      ¬∀ (d : Dispatcher) (body : Bytes) (tracking : Tracking) (log connect disconnect : Header),
        body.toByteArray.IsValidUTF8 → d.table.resolve log.command = .logEvent →
        d.table.resolve connect.command = .deviceConnect →
        d.table.resolve disconnect.command = .deviceDisconnect →
        ∃ a b c id, d.dispatch ⟨log, body⟩ tracking = .ok ⟨.logEvent, [a], false⟩ ∧
          d.dispatch ⟨connect, body⟩ tracking = .ok ⟨.deviceConnect, [b], false⟩ ∧
          d.dispatch ⟨disconnect, body⟩ tracking = .ok ⟨.deviceDisconnect, [c], false⟩ ∧
          a.device? = some id ∧ b.device? = some id ∧ c.device? = some id := by
  intro d body
  have hlog : d.dispatch ⟨⟨64, 1⟩, body⟩ {} = .ok ⟨.logEvent, [.log "0-15" none], false⟩ := by
    decide
  have hconnect : d.dispatch ⟨⟨4, 1⟩, body⟩ {} =
      .ok ⟨.deviceConnect, [.connect "15"], false⟩ := by
    decide
  refine ⟨hlog, hconnect, by decide, fun hall => ?_⟩
  have htext : body.toByteArray.IsValidUTF8 :=
    (Utf8.isValidUTF8_iff_exists_encode body).2 ⟨"0-15", rfl⟩
  obtain ⟨a, b, c, id, ha, hb, -, hlogged, hconnected, -⟩ :=
    hall d body {} ⟨64, 1⟩ ⟨4, 1⟩ ⟨71, 1⟩ htext rfl rfl rfl
  rw [hlog, Except.ok.injEq, Dispatched.mk.injEq, List.cons.injEq] at ha
  rw [hconnect, Except.ok.injEq, Dispatched.mk.injEq, List.cons.injEq] at hb
  rw [← ha.2.1.1] at hlogged
  rw [← hb.2.1.1, ← hlogged] at hconnected
  exact absurd hconnected (by decide)

end Dispatcher
end DeviceFeed
