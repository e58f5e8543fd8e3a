import DeviceFeed.Field
import DeviceFeed.Proofs.Text.Utf8
import DeviceFeed.Proofs.Text.Words

/-!
# Fields and bodies

Splitting a text and joining its fields undo each other, as long as no field has a NUL
character in it, and so do decoding and encoding.  So bodies of text correspond to lists of
fields one to one.
-/

namespace DeviceFeed.Field

/-! ## Splitting and joining -/

theorem toList_join (fields : List String) :
    (join fields).toList = [separator].intercalate (fields.map String.toList) := by
  rw [join, String.toList_intercalate]
  rfl

theorem map_toList_split (text : String) :
    (split text).map String.toList = text.toList.splitOn separator := by
  rw [split, Text.pieces_eq_splitOnP, List.map_map, List.splitOn_eq_splitOnP]
  conv_rhs => rw [← List.map_id (List.splitOnP _ _)]
  exact List.map_congr_left fun piece _ => String.toList_ofList

theorem split_ne_nil (text : String) : split text ≠ [] := by
  rw [split]
  exact fun hnil => Text.pieces_ne_nil _ _ (List.map_eq_nil_iff.1 hnil)

theorem separator_not_mem_of_mem_split {text field : String} (h : field ∈ split text) :
    separator ∉ field.toList := by
  obtain ⟨piece, hpiece, rfl⟩ := List.mem_map.1 h
  rw [String.toList_ofList]
  intro hmem
  have hother := Text.not_separator_of_mem_pieces hpiece separator hmem
  rw [beq_self_eq_true] at hother
  cases hother

theorem join_split (text : String) : join (split text) = text := by
  apply String.toList_injective
  rw [toList_join, map_toList_split, List.intercalate_splitOn]

theorem split_join {fields : List String} (hne : fields ≠ [])
    (h : ∀ field ∈ fields, separator ∉ field.toList) : split (join fields) = fields := by
  have hlists : ∀ cs ∈ fields.map String.toList, separator ∉ cs := by
    intro cs hcs
    obtain ⟨field, hfield, rfl⟩ := List.mem_map.1 hcs
    exact h field hfield
  apply List.map_injective_iff.2 fun _ _ hlists => String.toList_injective hlists
  rw [map_toList_split, toList_join,
    List.splitOn_intercalate separator hlists (mt List.map_eq_nil_iff.1 hne)]

/-! ## Decoding and encoding -/

theorem decode_of_encode (text : String) : decode (Utf8.encode text) = .ok (split text) := by
  rw [decode, Utf8.decode_encode]
  rfl

theorem exists_text_of_decode {body : Bytes} {fields : List String}
    (h : decode body = .ok fields) :
    ∃ text, Utf8.encode text = body ∧ fields = split text := by
  rw [decode] at h
  cases hdecode : Utf8.decode body with
  | error fault =>
      rw [hdecode] at h
      cases h
  | ok text =>
      rw [hdecode] at h
      exact ⟨text, Utf8.decode_eq_ok_iff.1 hdecode, (Except.ok.inj h).symm⟩

/-- A body is decoded as the fields that it encodes. -/
theorem decode_eq_ok_iff {body : Bytes} {fields : List String} :
    decode body = .ok fields ↔
      fields ≠ [] ∧ (∀ field ∈ fields, separator ∉ field.toList) ∧
        Utf8.encode (join fields) = body := by
  constructor
  · intro h
    obtain ⟨text, hencode, rfl⟩ := exists_text_of_decode h
    rw [join_split]
    exact ⟨split_ne_nil text, fun field => separator_not_mem_of_mem_split, hencode⟩
  · rintro ⟨hne, hfields, rfl⟩
    rw [decode_of_encode, split_join hne hfields]

/-- A text body always has a first field. -/
theorem exists_first_of_decode {body : Bytes} {fields : List String}
    (h : decode body = .ok fields) : ∃ first, fields[0]? = some first := by
  obtain ⟨first, rest, rfl⟩ := List.exists_cons_of_ne_nil (decode_eq_ok_iff.1 h).1
  exact ⟨first, rfl⟩

/-- A body fails as its bytes do. -/
theorem decode_eq_error_iff {body : Bytes} {fault : Utf8.Fault} :
    decode body = .error fault ↔ Utf8.decode body = .error fault := by
  rw [decode]
  cases Utf8.decode body with
  | error other => simp [Except.map]
  | ok text => simp [Except.map]

theorem exists_decode_eq_error_iff {body : Bytes} :
    (∃ fault, decode body = .error fault) ↔ ¬body.toByteArray.IsValidUTF8 := by
  simp only [decode_eq_error_iff, Utf8.exists_decode_eq_error_iff]

/-- There is one field more than the body has zero bytes. -/
theorem length_of_decode {body : Bytes} {fields : List String} (h : decode body = .ok fields) :
    fields.length = body.count 0 + 1 := by
  obtain ⟨text, rfl, rfl⟩ := exists_text_of_decode h
  rw [split, List.length_map, Text.length_pieces, Utf8.count_encode (by decide)]
  rfl

/-- A body is decoded just as the fields without NUL characters, at least one, whose joined text
it encodes.  So only bodies that are not text fail, there is one field more than there are zero
bytes, and each list of such fields is decoded from exactly one body. -/
theorem decode_bijective :
    (∀ body fields, decode body = .ok fields ↔
        fields ≠ [] ∧ (∀ field ∈ fields, separator ∉ field.toList) ∧
          Utf8.encode (join fields) = body) ∧
      (∀ body, (∃ fault, decode body = .error fault) ↔ ¬body.toByteArray.IsValidUTF8) ∧
      (∀ body fields, decode body = .ok fields →
        fields ≠ [] ∧ fields.length = body.count 0 + 1) ∧
      ∀ fields, fields ≠ [] → (∀ field ∈ fields, separator ∉ field.toList) →
        ∃! body, decode body = .ok fields := by
  refine ⟨fun body fields => decode_eq_ok_iff, fun body => exists_decode_eq_error_iff, ?_, ?_⟩
  · intro body fields h
    exact ⟨(decode_eq_ok_iff.1 h).1, length_of_decode h⟩
  · intro fields hne hfields
    refine ⟨Utf8.encode (join fields), decode_eq_ok_iff.2 ⟨hne, hfields, rfl⟩, ?_⟩
    intro body hbody
    exact (decode_eq_ok_iff.1 hbody).2.2.symm

/-- Empty fields are kept, and a field may have characters of several bytes. -/
theorem decode_bijective_with_empty_fields :
    let body : Bytes := [0x34, 0, 0, 0xC3, 0xA9, 0]
    let fields := ["4", "", "é", ""]
    decode body = .ok fields ∧ fields.length = body.count 0 + 1 ∧
      ∀ other, decode other = .ok fields → other = body := by
  intro body fields
  obtain ⟨hdecode, -, hlength, hunique⟩ := decode_bijective
  have hne : fields ≠ [] := by decide
  have hfields : ∀ field ∈ fields, separator ∉ field.toList := by decide
  have hbody : decode body = .ok fields :=
    (hdecode body fields).2 ⟨hne, hfields, by decide⟩
  refine ⟨hbody, (hlength body fields hbody).2, ?_⟩
  intro other hother
  exact (hunique fields hne hfields).unique hother hbody

end DeviceFeed.Field
