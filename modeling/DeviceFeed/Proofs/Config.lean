import DeviceFeed.Config
import DeviceFeed.Proofs.Command
import DeviceFeed.Proofs.Json.Sparse

/-!
# Configurations in JSON

A text that stands for a configuration writes what differs from the defaults, in the
configuration itself and in its code table, and perhaps more.  Reading it yields the
configuration, unless two commands share a code.
-/

namespace DeviceFeed

open Json (Slot Sparse SpacedObject Accumulates Gap Reads)

/-! ## Code tables -/

namespace CodeTable

/-- The codes of a table, each by the name of its command. -/
def slots (t : CodeTable) : List Slot :=
  (t.entries.zip ({} : CodeTable).entries).map fun (e, usual) =>
    ⟨e.1.key, fun text => text = Json.nat e.2.toNat, e.2 = usual.2⟩

theorem slots_eq (t : CodeTable) : t.slots =
    [⟨"response", fun text => text = Json.nat t.response.toNat, t.response = 0⟩,
      ⟨"hardware", fun text => text = Json.nat t.hardware.toNat, t.hardware = 20⟩,
      ⟨"log_event", fun text => text = Json.nat t.logEvent.toNat, t.logEvent = 64⟩,
      ⟨"device_connect", fun text => text = Json.nat t.deviceConnect.toNat, t.deviceConnect = 4⟩,
      ⟨"device_disconnect", fun text => text = Json.nat t.deviceDisconnect.toNat,
        t.deviceDisconnect = 71⟩,
      ⟨"app_sync", fun text => text = Json.nat t.appSync.toNat, t.appSync = 25⟩] :=
  rfl

/-- The text is an object that stands for the table. -/
def Written (t : CodeTable) (text : String) : Prop :=
  ∃ entries, Sparse t.slots entries ∧ SpacedObject entries text

/-- The usual table with the codes of another one for some names. -/
def patched (t : CodeTable) (names : List String) : CodeTable where
  response := if "response" ∈ names then t.response else ({} : CodeTable).response
  hardware := if "hardware" ∈ names then t.hardware else ({} : CodeTable).hardware
  logEvent := if "log_event" ∈ names then t.logEvent else ({} : CodeTable).logEvent
  deviceConnect :=
    if "device_connect" ∈ names then t.deviceConnect else ({} : CodeTable).deviceConnect
  deviceDisconnect :=
    if "device_disconnect" ∈ names then t.deviceDisconnect else ({} : CodeTable).deviceDisconnect
  appSync := if "app_sync" ∈ names then t.appSync else ({} : CodeTable).appSync

theorem accumulates (t : CodeTable) : Accumulates shape t.slots t.patched t := by
  have hreads (code : UInt8) (text : String) (h : text = Json.nat code.toNat) :
      Reads Json.Reader.uint8 text code := by
    rw [h]
    exact Json.reads_uint8 code
  have hskips : Json.SkipsBlanks Json.Reader.uint8 := (Json.skipsBlanks_value _).bind _
  constructor
  · simp only [slots_eq, List.forall_mem_cons]
    refine ⟨⟨_, rfl, Json.fills_member hskips (hreads t.response) ?_⟩,
      ⟨_, rfl, Json.fills_member hskips (hreads t.hardware) ?_⟩,
      ⟨_, rfl, Json.fills_member hskips (hreads t.logEvent) ?_⟩,
      ⟨_, rfl, Json.fills_member hskips (hreads t.deviceConnect) ?_⟩,
      ⟨_, rfl, Json.fills_member hskips (hreads t.deviceDisconnect) ?_⟩,
      ⟨_, rfl, Json.fills_member hskips (hreads t.appSync) ?_⟩, nofun⟩
    -- a new code changes nothing for the other names
    all_goals
      intro seen
      simp [patched]
  · rfl
  · decide
  · rfl
  · intro filled habsent
    simp only [slots_eq, List.forall_mem_cons] at habsent
    obtain ⟨hresponse, hhardware, hlogEvent, hconnect, hdisconnect, hsync, -⟩ := habsent
    cases t
    simp only [patched, mk.injEq, ite_eq_left_iff]
    exact ⟨fun h => (hresponse h).symm, fun h => (hhardware h).symm, fun h => (hlogEvent h).symm,
      fun h => (hconnect h).symm, fun h => (hdisconnect h).symm, fun h => (hsync h).symm⟩

/-- An object that stands for a table is read as the table. -/
theorem reads_written {t : CodeTable} {text : String} (h : t.Written text) :
    Reads reader text t := by
  obtain ⟨entries, hsparse, hobject⟩ := h
  exact t.accumulates.reads_object hsparse hobject

/-- Compact tables write all codes. -/
theorem written_json (t : CodeTable) : t.Written t.json := by
  refine ⟨_, Json.sparse_of_forall₂ ?_ ?_, Json.spacedObject_object _⟩
  · exact .cons ⟨rfl, rfl⟩ (.cons ⟨rfl, rfl⟩ (.cons ⟨rfl, rfl⟩ (.cons ⟨rfl, rfl⟩
      (.cons ⟨rfl, rfl⟩ (.cons ⟨rfl, rfl⟩ .nil)))))
  · change (shape.members.map (·.name)).Nodup
    decide

/-- A table may write a single code, with an escape in its name. -/
theorem written_hardware (code : UInt8) :
    ({ hardware := code } : CodeTable).Written
      ("\x7b\"\\u0068ardware\":" ++ Json.nat code.toNat ++ "\x7d") := by
  have hunit : Json.SpellsUnit ['0', '0', '6', '8'] 'h'.toNat :=
    .cons ⟨by decide, .inl rfl⟩ (.cons ⟨by decide, .inl rfl⟩ (.cons ⟨by decide, .inl rfl⟩
      (.cons ⟨by decide, .inl rfl⟩ .nil)))
  have hname : Json.SpelledAll "hardware".toList _ :=
    .cons (.unit hunit) (Json.spelledAll_escape "ardware".toList)
  have hobject : SpacedObject [("hardware", Json.nat code.toNat)] _ :=
    ⟨"", _, Json.gap_empty,
      .cons (.intro Json.gap_empty hname Json.gap_empty Json.gap_empty) .nil, rfl⟩
  have hquote : Json.quote (['\\', 'u', '0', '0', '6', '8'] ++
      "ardware".toList.flatMap Json.escape) = "\"\\u0068ardware\"" := by decide
  have hstart : "\x7b\"\\u0068ardware\":" = "\x7b" ++ ("\"\\u0068ardware\"" ++ ":") := by
    decide
  rw [hquote, Json.commas, String.intercalate_singleton] at hobject
  simp only [String.append_empty, String.empty_append] at hobject
  rw [hstart, @String.append_assoc "\x7b"]
  refine ⟨_, ?_, hobject⟩
  constructor
  · intro slot hslot value hvalue
    obtain ⟨hname, rfl⟩ := Prod.mk.inj (List.mem_singleton.1 hvalue)
    simp only [slots_eq, List.mem_cons, List.not_mem_nil, or_false] at hslot
    rcases hslot with rfl | rfl | rfl | rfl | rfl | rfl
    case inr.inl => exact .of_text rfl
    all_goals exact absurd hname (by decide)
  · simp [slots_eq]
  · simp [slots_eq]
  · intro name value hentry hother
    obtain ⟨rfl, -⟩ := Prod.mk.inj (List.mem_singleton.1 hentry)
    exact absurd (.tail _ (.head _)) hother

end CodeTable

/-! ## Configurations -/

namespace Config

/-- The settings of a configuration, each by its name. -/
def slots (c : Config) : List Slot :=
  [⟨"debug", fun text => text = Json.bool c.debug, c.debug = ({} : Config).debug⟩,
    ⟨"command_codes", c.table.Written, c.table = ({} : Config).table⟩,
    ⟨"max_body_len", fun text => text = Json.nat c.maxBody.toNat,
      c.maxBody = ({} : Config).maxBody⟩,
    ⟨"report_unknown", fun text => text = Json.bool c.reportUnknown,
      c.reportUnknown = ({} : Config).reportUnknown⟩]

/-- The text is an object that stands for the configuration, perhaps with blanks around it. -/
def Written (c : Config) (text : String) : Prop :=
  ∃ before entries object after, Gap before ∧ Sparse c.slots entries ∧
    SpacedObject entries object ∧ Gap after ∧ text = before ++ object ++ after

/-- The usual configuration with the settings of another one for some names. -/
def patched (c : Config) (names : List String) : Config where
  debug := if "debug" ∈ names then c.debug else ({} : Config).debug
  table := if "command_codes" ∈ names then c.table else ({} : Config).table
  maxBody := if "max_body_len" ∈ names then c.maxBody else ({} : Config).maxBody
  reportUnknown :=
    if "report_unknown" ∈ names then c.reportUnknown else ({} : Config).reportUnknown

theorem accumulates (c : Config) : Accumulates shape c.slots c.patched c := by
  have hbool (b : Bool) (text : String) (h : text = Json.bool b) :
      Reads Json.Reader.bool text b := by
    rw [h]
    exact Json.reads_bool b
  have hsize (text : String) (h : text = Json.nat c.maxBody.toNat) :
      Reads Json.Reader.uint64 text c.maxBody := by
    rw [h]
    exact Json.reads_uint64 c.maxBody
  have htable (text : String) (h : c.table.Written text) : Reads CodeTable.reader text c.table :=
    CodeTable.reads_written h
  constructor
  · simp only [slots, List.forall_mem_cons]
    refine ⟨⟨_, rfl, Json.fills_member (Json.skipsBlanks_value _) (hbool c.debug) ?_⟩,
      ⟨_, rfl, Json.fills_member (Json.skipsBlanks_value _) htable ?_⟩,
      ⟨_, rfl, Json.fills_member ((Json.skipsBlanks_value _).bind _) hsize ?_⟩,
      ⟨_, rfl, Json.fills_member (Json.skipsBlanks_value _) (hbool c.reportUnknown) ?_⟩, nofun⟩
    all_goals
      intro seen
      simp [patched]
  · rfl
  · decide
  · rfl
  · intro filled habsent
    simp only [slots, List.forall_mem_cons] at habsent
    obtain ⟨hdebug, htable, hbody, hreport, -⟩ := habsent
    cases c
    simp only [patched, mk.injEq, ite_eq_left_iff]
    exact ⟨fun h => (hdebug h).symm, fun h => (htable h).symm, fun h => (hbody h).symm,
      fun h => (hreport h).symm⟩

/-- Compact configurations write all settings. -/
theorem written_json (c : Config) : c.Written c.json := by
  refine ⟨"", _, c.json, "", Json.gap_empty, Json.sparse_of_forall₂ ?_ ?_,
    Json.spacedObject_object _, Json.gap_empty, ?_⟩
  · exact .cons ⟨rfl, rfl⟩ (.cons ⟨rfl, c.table.written_json⟩ (.cons ⟨rfl, rfl⟩
      (.cons ⟨rfl, rfl⟩ .nil)))
  · change (shape.members.map (·.name)).Nodup
    decide
  · rw [String.empty_append, String.append_empty]

/-- A text that stands for a configuration is read as the configuration and then checked. -/
theorem ofJson_of_written {c : Config} {text : String} (h : c.Written text) :
    ofJson text = c.validate := by
  obtain ⟨before, entries, object, after, hbefore, hsparse, hobject, hafter, rfl⟩ := h
  have hreads : Reads (Json.Reader.struct shape) (before ++ object) c :=
    (c.accumulates.reads_object hsparse hobject).gap (Json.skipsBlanks_value _) hbefore
  rw [ofJson, Json.parse_of_reads_gap hreads hafter]

theorem validate_of_distinct {c : Config} (h : (c.table.entries.map Prod.snd).Nodup) :
    c.validate = .ok c := by
  have hclash : c.table.clash? = none := (CodeTable.firstClash?_eq_none_iff _).2 h
  rw [validate, hclash]

theorem validate_of_not_distinct {c : Config} (h : ¬(c.table.entries.map Prod.snd).Nodup) :
    ∃ clash, c.table.clash? = some clash ∧ c.validate = .error (.clash clash) := by
  cases hclash : c.table.clash? with
  | none => exact absurd ((CodeTable.firstClash?_eq_none_iff _).1 hclash) h
  | some clash => exact ⟨clash, rfl, by rw [validate, hclash]⟩

theorem distinct_of_validate {c d : Config} (h : c.validate = .ok d) :
    c = d ∧ (c.table.entries.map Prod.snd).Nodup := by
  rw [validate] at h
  cases hclash : c.table.clash? with
  | none =>
      rw [hclash] at h
      exact ⟨Except.ok.inj h, (CodeTable.firstClash?_eq_none_iff _).1 hclash⟩
  | some clash =>
      rw [hclash] at h
      cases h

theorem distinct_of_ofJson {text : String} {c : Config} (h : ofJson text = .ok c) :
    (c.table.entries.map Prod.snd).Nodup := by
  rw [ofJson] at h
  split at h
  next d _ =>
    obtain ⟨rfl, hdistinct⟩ := distinct_of_validate h
    exact hdistinct
  next => cases h

/-- A configuration may write a table among blanks and a member that nobody asks for. -/
theorem written_with_table {t : CodeTable} {table : String} (h : t.Written table) :
    ({ table := t, reportUnknown := true } : Config).Written
      (" \x7b\"report_unknown\" : true,\n\"note\":null,\"command_codes\":" ++ table ++
        "\x7d") := by
  have hblank : Gap " " := by decide
  have hfeed : Gap "\n" := by decide
  have hobject : SpacedObject
      [("report_unknown", " true"), ("note", "null"), ("command_codes", table)] _ :=
    ⟨"", _, Json.gap_empty,
      .cons (.intro Json.gap_empty (Json.spelledAll_escape _) hblank Json.gap_empty)
        (.cons (.intro hfeed (Json.spelledAll_escape _) Json.gap_empty Json.gap_empty)
          (.cons (.intro Json.gap_empty (Json.spelledAll_escape _) Json.gap_empty Json.gap_empty)
            .nil)), rfl⟩
  have hreport : Json.quote ("report_unknown".toList.flatMap Json.escape) =
      "\"report_unknown\"" := by decide
  have hnote : Json.quote ("note".toList.flatMap Json.escape) = "\"note\"" := by decide
  have hcodes : Json.quote ("command_codes".toList.flatMap Json.escape) =
      "\"command_codes\"" := by decide
  have hstart : " \x7b\"report_unknown\" : true,\n\"note\":null,\"command_codes\":" =
      " " ++ ("\x7b" ++ ("\"report_unknown\"" ++ " " ++ ":" ++ " true" ++ "," ++
        ("\n" ++ "\"note\"" ++ ":" ++ "null" ++ "," ++ ("\"command_codes\"" ++ ":")))) := by
    decide
  rw [hreport, hnote, hcodes, Json.commas, String.intercalate_cons_cons,
    String.intercalate_cons_cons, String.intercalate_singleton] at hobject
  refine ⟨" ", _, _, "", hblank, ?_, hobject, Json.gap_empty, ?_⟩
  · constructor
    · intro slot hslot value hvalue
      simp only [slots, List.mem_cons, List.not_mem_nil, or_false] at hslot
      rcases hslot with rfl | rfl | rfl | rfl
      · exact absurd hvalue (by simp)
      · obtain rfl : value = table := by simpa using hvalue
        exact .of_text h
      · exact absurd hvalue (by simp)
      · obtain rfl : value = " true" := by simpa using hvalue
        exact ⟨" ", "true", hblank, rfl, rfl⟩
    · simp [slots]
    · simp [slots]
    · intro name value hentry hother
      simp only [List.mem_cons, Prod.mk.injEq, List.not_mem_nil, or_false] at hentry
      rcases hentry with ⟨rfl, -⟩ | ⟨-, rfl⟩ | ⟨rfl, -⟩
      · exact absurd (.tail _ (.tail _ (.tail _ (.head _)))) hother
      · exact .of_text .null
      · exact absurd (.tail _ (.head _)) hother
  · rw [hstart]
    simp only [String.append_assoc, String.append_empty, String.empty_append]

/-- A text that writes what differs from the usual settings, in any order and with members that
nobody asks for, is read as the configuration, and refused exactly if two commands share a code
in the end, with this clash.  So is the compact text of a configuration, and each configuration
that is read from any text is read back from its compact text. -/
theorem ofJson_sparse (c : Config) :
    (∀ text, c.Written text →
      ((c.table.entries.map Prod.snd).Nodup → ofJson text = .ok c) ∧
      (¬(c.table.entries.map Prod.snd).Nodup →
        ∃ clash, c.table.clash? = some clash ∧ ofJson text = .error (.clash clash))) ∧
    ((c.table.entries.map Prod.snd).Nodup → ofJson c.json = .ok c) ∧
    ∀ text, ofJson text = .ok c → ofJson c.json = .ok c := by
  refine ⟨fun text htext => ⟨fun hdistinct => ?_, fun hclash => ?_⟩, fun hdistinct => ?_,
    fun text htext => ?_⟩
  · rw [ofJson_of_written htext, validate_of_distinct hdistinct]
  · obtain ⟨clash, hfirst, hrefused⟩ := validate_of_not_distinct hclash
    exact ⟨clash, hfirst, by rw [ofJson_of_written htext, hrefused]⟩
  · rw [ofJson_of_written c.written_json, validate_of_distinct hdistinct]
  · rw [ofJson_of_written c.written_json, validate_of_distinct (distinct_of_ofJson htext)]

/-- With another code for live readings, the code of log events is taken or not. -/
theorem ofJson_sparse_hardware :
    let written (code : UInt8) : String :=
      " \x7b\"report_unknown\" : true,\n\"note\":null,\"command_codes\":" ++
        ("\x7b\"\\u0068ardware\":" ++ Json.nat code.toNat ++ "\x7d") ++ "\x7d"
    let config (code : UInt8) : Config := { table := { hardware := code }, reportUnknown := true }
    ofJson (written 21) = .ok (config 21) ∧
      ofJson (config 21).json = .ok (config 21) ∧
      ∃ clash, (config 64).table.clash? = some clash ∧
        ofJson (written 64) = .error (.clash clash) := by
  intro written config
  have hwritten (code : UInt8) : (config code).Written (written code) :=
    written_with_table (CodeTable.written_hardware code)
  have hread := ((ofJson_sparse (config 21)).1 _ (hwritten 21)).1 (by decide)
  exact ⟨hread, (ofJson_sparse (config 21)).2.2 _ hread,
    ((ofJson_sparse (config 64)).1 _ (hwritten 64)).2 (by decide)⟩

end Config

end DeviceFeed
