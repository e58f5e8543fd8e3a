import DeviceFeed.Proofs.Readings

/-!
# Blanks around device ids

The number in a field may stand among blanks, but a prefix is only taken off at the very front.
So blanks around the field of a reading make no difference, unless they stand in front of a
prefix: such a reading is one of no device.
-/

namespace DeviceFeed

/-! ## Numbers behind prefixes -/

namespace Field

/-- Trimming is all that blanks around a number need. -/
theorem number_congr_of_trim {text other : String}
    (h : Text.trim text.toList = Text.trim other.toList) : number text = number other := by
  rw [number, number, h]

/-- An id with its prefix is no number. -/
theorem number_prefixed (id : String) : number ("0-" ++ id) = none := by
  have htrim : Text.trim ("0-" ++ id).toList = '0' :: '-' :: Text.trimRight id.toList := by
    rw [toList_prefixed]
    exact Text.trimRight_append_cons rfl ['0'] id.toList
  have hinteger : Numeral.integer? ('0' :: '-' :: Text.trimRight id.toList) = none := rfl
  have hnumeral : Numeral.parse? ('0' :: '-' :: Text.trimRight id.toList) = none := rfl
  rw [number, htrim, hinteger, hnumeral]
  rfl

/-! ## Prefixes among blanks -/

/-- A text of blanks. -/
def Blanks (text : String) : Prop :=
  ∀ c ∈ text.toList, Text.isBlank c = true

/-- Blanks in front of an id with a prefix. -/
def HidesPrefix (front id : String) : Prop :=
  front ≠ "" ∧ ¬IsBare id

variable {front id back : String}

/-- Blanks cannot complete a prefix. -/
theorem prefix_of_prefix_append_blanks {cs back : List Char}
    (hback : ∀ c ∈ back, Text.isBlank c = true) (h : ['0', '-'] <+: cs ++ back) :
    ['0', '-'] <+: cs := by
  have hsolid : ∀ c ∈ ['0', '-'], Text.isBlank c = false :=
    List.forall_mem_cons.2 ⟨rfl, List.forall_mem_singleton.2 rfl⟩
  rcases List.prefix_or_prefix_of_prefix h (List.prefix_append cs back) with hwithin | ⟨more, hmore⟩
  · exact hwithin
  · rw [← hmore, List.prefix_append_right_inj] at h
    cases more with
    | nil =>
        rw [← hmore, List.append_nil]
    | cons c more =>
        have hblank := hback c (h.subset List.mem_cons_self)
        have hc : c ∈ ['0', '-'] := by
          rw [← hmore]
          exact List.mem_append_right _ List.mem_cons_self
        rw [hsolid c hc] at hblank
        cases hblank

theorem dropPrefix_append_blanks {back : List Char} (hback : ∀ c ∈ back, Text.isBlank c = true)
    (cs : List Char) : dropPrefix (cs ++ back) = dropPrefix cs ++ back := by
  by_cases hprefix : ['0', '-'] <+: cs
  · obtain ⟨rest, rfl⟩ := hprefix
    rfl
  · rw [dropPrefix_of_bare hprefix,
      dropPrefix_of_bare fun h => hprefix (prefix_of_prefix_append_blanks hback h)]

theorem number_stripPrefix_append (hback : Blanks back) :
    number (stripPrefix (id ++ back)) = number (stripPrefix id) := by
  apply number_congr_of_trim
  rw [stripPrefix, stripPrefix, String.toList_ofList, String.toList_ofList, String.toList_append,
    dropPrefix_append_blanks hback, Text.trim_append_blanks hback]

/-- Behind blanks there is no prefix to take off. -/
theorem stripPrefix_of_blanks (hfront : Blanks front) (hne : front ≠ "") :
    stripPrefix (front ++ id) = front ++ id := by
  apply stripPrefix_of_bare
  rintro ⟨rest, hrest⟩
  obtain ⟨c, more, hcons⟩ := List.exists_cons_of_ne_nil (mt String.toList_eq_nil_iff.1 hne)
  rw [String.toList_append, hcons] at hrest
  have hc : '0' = c := (List.cons.inj hrest).1
  have hblank := hfront c (hcons ▸ List.mem_cons_self)
  rw [← hc] at hblank
  exact absurd hblank (by decide)

theorem number_padded (hfront : Blanks front) (hback : Blanks back) :
    number (front ++ id ++ back) = number id := by
  apply number_congr_of_trim
  rw [String.toList_append, String.toList_append, Text.trim_append_blanks hback,
    Text.trim_blanks_append hfront]

/-- An id with a hidden prefix is no number. -/
theorem number_stripPrefix_of_hidesPrefix (hfront : Blanks front) (hback : Blanks back)
    (h : HidesPrefix front id) : number (stripPrefix (front ++ id ++ back)) = none := by
  obtain ⟨hempty, hprefix⟩ := h
  rw [String.append_assoc, stripPrefix_of_blanks hfront hempty, ← String.append_assoc,
    number_padded hfront hback]
  rcases names_iff.2 (rfl : stripPrefix id = stripPrefix id) with hid | ⟨-, hbare⟩
  · rw [hid]
    exact number_prefixed _
  · exact absurd hbare hprefix

/-- Blanks around an id make no difference unless they hide the prefix of a number. -/
theorem number_stripPrefix_padded (hfront : Blanks front) (hback : Blanks back)
    (h : HidesPrefix front id → number (stripPrefix id) = none) :
    number (stripPrefix (front ++ id ++ back)) = number (stripPrefix id) := by
  by_cases hhidden : HidesPrefix front id
  · rw [number_stripPrefix_of_hidesPrefix hfront hback hhidden, h hhidden]
  · by_cases hempty : front = ""
    · rw [hempty, String.empty_append, number_stripPrefix_append hback]
    · have hbare : IsBare id := not_not.1 fun hprefix => hhidden ⟨hempty, hprefix⟩
      rw [String.append_assoc, stripPrefix_of_blanks hfront hempty, ← String.append_assoc,
        number_padded hfront hback, isBare_iff.1 hbare]

/-- Blanks are no separators. -/
theorem separator_not_mem_padded (hfront : Blanks front) (hback : Blanks back)
    (h : separator ∉ id.toList) : separator ∉ (front ++ id ++ back).toList := by
  have hsolid : Text.isBlank separator = false := rfl
  rw [String.toList_append, String.toList_append, List.mem_append, List.mem_append]
  rintro ((hin | hin) | hin)
  · exact absurd (hfront _ hin) (ne_true_of_eq_false hsolid)
  · exact h hin
  · exact absurd (hback _ hin) (ne_true_of_eq_false hsolid)

end Field

/-! ## Readings -/

/-- The device of telemetry, which may be missing. -/
def Event.telemetryDevice? : Event → Option (Option Int64)
  | telemetry device _ _ => some device
  | _ => none

/-- The device of the telemetry that a frame yields, if it yields any. -/
def Dispatched.telemetryDevice? (x : Dispatched) : Option (Option Int64) :=
  x.events.findSome? Event.telemetryDevice?

/-- A command of readings, live or replayed. -/
def Command.IsReading (command : Command) : Prop :=
  command = .hardware ∨ command = .appSync

theorem Tracking.forwards_congr {id other : String} (h : Field.number id = Field.number other)
    (tracking : Tracking) : tracking.forwards id = tracking.forwards other := by
  rw [forwards, forwards, isFollowed, isFollowed, h]

theorem Tracking.forwards_of_no_number {id : String} (h : Field.number id = none)
    (tracking : Tracking) : tracking.forwards id = !tracking.only := by
  have hother : tracking.isFollowed id = false := by
    rw [isFollowed, h]
    cases tracking.deviceId <;> rfl
  rw [forwards, hother, Bool.or_false]

namespace Dispatcher

variable {d : Dispatcher} {header : Header} {body : Bytes} {fields : List String}
  {first id : String} {tracking : Tracking}

/-- A reading that is not published is live and held back. -/
theorem dispatch_of_not_publishes (hcommand : (d.table.resolve header.command).IsReading)
    (hdecode : Field.decode body = .ok fields) (hfirst : fields[0]? = some first)
    (hid : Field.Names first id) (h : ¬d.Publishes tracking header.command id) :
    d.dispatch ⟨header, body⟩ tracking = .ok ⟨.hardware, [], true⟩ := by
  have hlive : d.table.resolve header.command = .hardware :=
    hcommand.resolve_right fun hreplayed => h (Or.inl hreplayed)
  have hheld : tracking.forwards id = false := by
    rw [← Bool.not_eq_true]
    exact fun hforwards => h (Or.inr ⟨hlive, hforwards⟩)
  have htext : (d.table.resolve header.command).isText = true := by
    rw [hlive]
    rfl
  have hdevice : (⟨header, .hardware, body, fields⟩ : Reading).deviceId = id :=
    Reading.deviceId_of_names hfirst hid
  rw [dispatch_of_reading (Reading.ofFrame_of_decode htext hdecode), hlive, Reading.dispatched,
    Reading.isSuppressed, hdevice, hheld]
  rfl

/-- A reading is held back unless it is published, and then its telemetry is that of the device
which the first field names. -/
theorem dispatch_reading (hcommand : (d.table.resolve header.command).IsReading)
    (hdecode : Field.decode body = .ok fields) (hfirst : fields[0]? = some first)
    (hid : Field.Names first id) (tracking : Tracking) :
    ∃ x, d.dispatch ⟨header, body⟩ tracking = .ok x ∧
      (x.suppressed = false ↔ d.Publishes tracking header.command id) ∧
      x.telemetryDevice? = if x.suppressed then none else some (Field.number id) := by
  by_cases hpublishes : d.Publishes tracking header.command id
  · exact ⟨_, dispatch_of_publishes hdecode hfirst hid hpublishes, iff_of_true rfl hpublishes, rfl⟩
  · exact ⟨_, dispatch_of_not_publishes hcommand hdecode hfirst hid hpublishes,
      iff_of_false Bool.noConfusion hpublishes, rfl⟩

/-- Blanks around the first field of a reading change neither whether it is held back nor the
device of its telemetry, unless they stand in front of a prefix with a number behind it.  A
reading with blanks in front of a prefix is held back whenever tracking is strict, and its
telemetry is that of no device. -/
theorem padded_readings (d : Dispatcher) (header : Header) (tracking : Tracking)
    {front id back : String} {rest : List String} (hfront : Field.Blanks front)
    (hback : Field.Blanks back) (hid : Field.separator ∉ id.toList)
    (hrest : ∀ field ∈ rest, Field.separator ∉ field.toList)
    (hcommand : (d.table.resolve header.command).IsReading) :
    ∃ x y,
      d.dispatch ⟨header, Utf8.encode (Field.join (id :: rest))⟩ tracking = .ok x ∧
      d.dispatch ⟨header, Utf8.encode (Field.join ((front ++ id ++ back) :: rest))⟩ tracking =
        .ok y ∧
      (x.suppressed = false ↔
        d.Publishes tracking header.command (Field.stripPrefix id)) ∧
      (x.suppressed = false →
        x.telemetryDevice? = some (Field.number (Field.stripPrefix id))) ∧
      (¬Field.HidesPrefix front id ∨ Field.number (Field.stripPrefix id) = none →
        y.suppressed = x.suppressed ∧ y.telemetryDevice? = x.telemetryDevice?) ∧
      (Field.HidesPrefix front id →
        (y.suppressed = true ↔
          d.table.resolve header.command = .hardware ∧ tracking.only = true) ∧
        (y.suppressed = false → y.telemetryDevice? = some none)) := by
  have hdecode (field : String) (hfield : Field.separator ∉ field.toList) :
      Field.decode (Utf8.encode (Field.join (field :: rest))) = .ok (field :: rest) :=
    Field.decode_eq_ok_iff.2
      ⟨List.cons_ne_nil _ _, List.forall_mem_cons.2 ⟨hfield, hrest⟩, rfl⟩
  have hpadded := hdecode _ (Field.separator_not_mem_padded hfront hback hid)
  obtain ⟨x, hx, hxpublishes, hxdevice⟩ :=
    dispatch_reading hcommand (hdecode id hid) rfl (Field.names_iff.2 rfl) tracking
  obtain ⟨y, hy, hypublishes, hydevice⟩ :=
    dispatch_reading hcommand hpadded rfl (Field.names_iff.2 rfl) tracking
  refine ⟨x, y, hx, hy, hxpublishes, ?_, ?_, ?_⟩
  · intro hforwarded
    rw [hxdevice, hforwarded]
    rfl
  · intro hplain
    have hnumber := Field.number_stripPrefix_padded hfront hback
      fun hhidden => hplain.resolve_left (not_not.2 hhidden)
    have hsuppressed : y.suppressed = x.suppressed := by
      rw [Bool.eq_iff_iff, ← not_iff_not, Bool.not_eq_true, Bool.not_eq_true, hypublishes,
        hxpublishes, Publishes, Publishes, Tracking.forwards_congr hnumber]
    exact ⟨hsuppressed, by rw [hydevice, hxdevice, hsuppressed, hnumber]⟩
  · intro hhidden
    have hnumber := Field.number_stripPrefix_of_hidesPrefix hfront hback hhidden
    constructor
    · rw [← Bool.not_eq_false, hypublishes, Publishes, Tracking.forwards_of_no_number hnumber]
      rcases hcommand with hlive | hreplayed
      · simp [hlive]
      · simp [hreplayed]
    · intro hforwarded
      rw [hydevice, hforwarded, hnumber]
      rfl

/-- The followed device is found between blanks, but not behind blanks with its prefix. -/
theorem padded_readings_of_seven :
    let d : Dispatcher := {}
    let body (first : String) : Bytes := Utf8.encode (Field.join (first :: ["vw", "5"]))
    Field.Blanks "\u3000" ∧ Field.Blanks "\t" ∧ ¬Field.HidesPrefix "\u3000" "007" ∧
      Field.HidesPrefix "\u3000" "0-7" ∧ d.Publishes (.strict 7) 20 "007" ∧
      (∃ y, d.dispatch ⟨⟨20, 1⟩, body ("\u3000" ++ "007" ++ "\t")⟩ (.strict 7) = .ok y ∧
        y.suppressed = false ∧ y.telemetryDevice? = some (Field.number "007")) ∧
      ∃ y, d.dispatch ⟨⟨20, 2⟩, body ("\u3000" ++ "0-7" ++ "\t")⟩ (.strict 7) = .ok y ∧
        y.suppressed = true := by
  intro d body
  have hfront : Field.Blanks "\u3000" := List.forall_mem_singleton.2 rfl
  have hback : Field.Blanks "\t" := List.forall_mem_singleton.2 rfl
  have hrest : ∀ field ∈ ["vw", "5"], Field.separator ∉ field.toList := by decide
  have hseven : Field.separator ∉ "007".toList := by decide
  have hprefixed : Field.separator ∉ "0-7".toList := by decide
  have hplain : ¬Field.HidesPrefix "\u3000" "007" := fun h => h.2 (by decide)
  have hhidden : Field.HidesPrefix "\u3000" "0-7" := ⟨by decide, by decide⟩
  have hlive : (d.table.resolve 20).IsReading := Or.inl rfl
  have hbare : Field.stripPrefix "007" = "007" := by decide
  have hpublishes : d.Publishes (.strict 7) 20 "007" := Or.inr ⟨rfl, by decide⟩
  obtain ⟨x, y, -, hy, hx, hdevice, hsame, -⟩ :=
    padded_readings d ⟨20, 1⟩ (.strict 7) hfront hback hseven hrest hlive
  rw [hbare] at hx hdevice
  have hforwarded := hx.2 hpublishes
  obtain ⟨hsuppressed, htelemetry⟩ := hsame (Or.inl hplain)
  obtain ⟨-, z, -, hz, -, -, -, hheld⟩ :=
    padded_readings d ⟨20, 2⟩ (.strict 7) hfront hback hprefixed hrest hlive
  exact ⟨hfront, hback, hplain, hhidden, hpublishes,
    ⟨y, hy, hsuppressed.trans hforwarded, htelemetry.trans (hdevice hforwarded)⟩,
    z, hz, (hheld hhidden).1.2 ⟨rfl, rfl⟩⟩

/-- A reading of the followed device goes through, and the same one with a blank in front of the
prefix is held back. -/
theorem blank_hides_prefix :
    let d : Dispatcher := {}
    let header : Header := ⟨20, 1⟩
    d.dispatch ⟨header, Utf8.encode "0-7"⟩ (.strict 7) =
        .ok ⟨.hardware, [.response 1 20 none ["0-7"], .telemetry (some 7) none none], false⟩ ∧
      d.dispatch ⟨header, Utf8.encode " 0-7"⟩ (.strict 7) = .ok ⟨.hardware, [], true⟩ ∧
      ¬∀ (d : Dispatcher) (header : Header) (front id back : String) (rest : List String)
        (tracking : Tracking) (x y : Dispatched),
        Field.Blanks front → Field.Blanks back → Field.separator ∉ id.toList →
        (∀ field ∈ rest, Field.separator ∉ field.toList) →
        (d.table.resolve header.command).IsReading →
        d.dispatch ⟨header, Utf8.encode (Field.join (id :: rest))⟩ tracking = .ok x →
        d.dispatch ⟨header, Utf8.encode (Field.join ((front ++ id ++ back) :: rest))⟩ tracking =
          .ok y →
        y.suppressed = x.suppressed := by
  intro d header
  have hplain : d.dispatch ⟨header, Utf8.encode "0-7"⟩ (.strict 7) =
      .ok ⟨.hardware, [.response 1 20 none ["0-7"], .telemetry (some 7) none none], false⟩ := by
    decide
  have hpadded : d.dispatch ⟨header, Utf8.encode " 0-7"⟩ (.strict 7) =
      .ok ⟨.hardware, [], true⟩ := by
    decide
  refine ⟨hplain, hpadded, fun hall => ?_⟩
  have hblank : Field.Blanks " " := List.forall_mem_singleton.2 rfl
  have hsame := hall d header " " "0-7" "" [] (.strict 7) _ _ hblank (List.forall_mem_nil _)
    (by decide) (List.forall_mem_nil _) (Or.inl rfl) hplain hpadded
  cases hsame

end Dispatcher
end DeviceFeed
