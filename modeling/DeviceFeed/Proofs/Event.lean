import DeviceFeed.Event.Reader
import DeviceFeed.Proofs.Json.Structures

/-!
# Written events are read back

The content of an event is an object whose members fill the structure of its kind one
after another, and the event is the alternative with the name of its kind.
-/

namespace DeviceFeed.Event

open Json (Reads Reader OneLine object)

/-! ## The contents -/

theorem reads_response (id : UInt16) (command : UInt8) (code : Option UInt32)
    (body : List String) :
    Reads (Reader.struct responseShape) (object (response id command code body).members)
      (id, command, code, body) := by
  refine Json.reads_struct (.fill rfl (by decide) (Json.reads_member (Json.reads_uint16 id) _)
    (.fill rfl (by decide) (Json.reads_member (Json.reads_uint8 command) _)
    (.fill rfl (by decide) (Json.reads_member ?_ _)
    (.fill rfl (by decide) (Json.reads_member ?_ _) (.done _ _))))) (by decide)
  · exact Json.reads_option Json.reads_uint32 (fun c => Json.opens_nat c.toNat) code
  · exact Json.reads_list Json.reads_string Json.opens_string body

theorem reads_telemetry (deviceId pin : Option Int64) (value : Option String) :
    Reads (Reader.struct telemetryShape) (object (telemetry deviceId pin value).members)
      (deviceId, pin, value) := by
  have hint := Json.reads_option Json.reads_int64 (fun i => Json.opens_int i.toInt)
  have hvalue := Json.reads_option Json.reads_string Json.opens_string value
  exact Json.reads_struct (.fill rfl (by decide) (Json.reads_member (hint deviceId) _)
    (.fill rfl (by decide) (Json.reads_member (hint pin) _)
    (.fill rfl (by decide) (Json.reads_member hvalue _) (.done _ _)))) (by decide)

theorem reads_log (deviceId : String) (eventCode : Option String) :
    Reads (Reader.struct logShape) (object (log deviceId eventCode).members)
      (deviceId, eventCode) := by
  have hcode := Json.reads_option Json.reads_string Json.opens_string eventCode
  exact Json.reads_struct (.fill rfl (by decide) (Json.reads_member (Json.reads_string deviceId) _)
    (.fill rfl (by decide) (Json.reads_member hcode _) (.done _ _))) (by decide)

theorem reads_device (kindName deviceId : String) :
    Reads (Reader.struct (deviceShape kindName)) (object [("device_id", Json.string deviceId)])
      deviceId := by
  refine Json.reads_struct
    (.fill rfl (by decide) (Json.reads_member (Json.reads_string deviceId) _) (.done _ _)) ?_
  intro m hm _
  obtain rfl := List.mem_singleton.1 hm
  exact List.mem_cons_self

theorem reads_unknown (command : UInt8) (id : UInt16) :
    Reads (Reader.struct unknownShape) (object (unknown command id).members) (command, id) :=
  Json.reads_struct (.fill rfl (by decide) (Json.reads_member (Json.reads_uint8 command) _)
    (.fill rfl (by decide) (Json.reads_member (Json.reads_uint16 id) _) (.done _ _))) (by decide)

/-! ## Events -/

theorem reads_json (event : Event) : Reads reader event.json event := by
  cases event with
  | response id command code body =>
      exact Json.reads_oneOf rfl ((reads_response id command code body).bind fun _ => rfl)
  | telemetry deviceId pin value =>
      exact Json.reads_oneOf rfl ((reads_telemetry deviceId pin value).bind fun _ => rfl)
  | log deviceId eventCode =>
      exact Json.reads_oneOf rfl ((reads_log deviceId eventCode).bind fun _ => rfl)
  | connect deviceId =>
      exact Json.reads_oneOf rfl ((reads_device "Connect" deviceId).map connect)
  | disconnect deviceId =>
      exact Json.reads_oneOf rfl ((reads_device "Disconnect" deviceId).map disconnect)
  | unknown command id =>
      exact Json.reads_oneOf rfl ((reads_unknown command id).bind fun _ => rfl)

/-- The text of an event is parsed as the event. -/
theorem ofJson_json (event : Event) : ofJson event.json = .ok event :=
  Json.parse_of_reads event.reads_json

theorem mapM_ofJson_json (events : List Event) :
    (events.map json).mapM ofJson = .ok events := by
  induction events with
  | nil => rfl
  | cons event events ih =>
      rw [List.map_cons, List.mapM_cons, ofJson_json, ih]
      rfl

theorem oneLine_json (event : Event) : OneLine event.json := by
  have hstring := Json.oneLine_option Json.oneLine_string
  have hint := Json.oneLine_option fun i : Int64 => Json.oneLine_int i.toInt
  have hmembers : ∀ m ∈ event.members, OneLine m.2 := by
    cases event with
    | response id command code body =>
        have hbody : ∀ text ∈ body.map Json.string, OneLine text := by
          intro text htext
          obtain ⟨s, -, rfl⟩ := List.mem_map.1 htext
          exact Json.oneLine_string s
        have hcode := Json.oneLine_option fun c : UInt32 => Json.oneLine_nat c.toNat
        simp only [members, List.forall_mem_cons]
        exact ⟨Json.oneLine_nat _, Json.oneLine_nat _, hcode code, Json.oneLine_array hbody, nofun⟩
    | telemetry deviceId pin value =>
        simp only [members, List.forall_mem_cons]
        exact ⟨hint deviceId, hint pin, hstring value, nofun⟩
    | log deviceId eventCode =>
        simp only [members, List.forall_mem_cons]
        exact ⟨Json.oneLine_string deviceId, hstring eventCode, nofun⟩
    | connect deviceId =>
        simp only [members, List.forall_mem_cons]
        exact ⟨Json.oneLine_string deviceId, nofun⟩
    | disconnect deviceId =>
        simp only [members, List.forall_mem_cons]
        exact ⟨Json.oneLine_string deviceId, nofun⟩
    | unknown command id =>
        simp only [members, List.forall_mem_cons]
        exact ⟨Json.oneLine_nat _, Json.oneLine_nat _, nofun⟩
  apply Json.oneLine_object
  intro m hm
  obtain rfl := List.mem_singleton.1 hm
  exact Json.oneLine_object hmembers

end DeviceFeed.Event
