import DeviceFeed.Json.Shape
import DeviceFeed.Proofs.Json.Spelling
import Mathlib.Data.List.Forall2

/-!
# Written lists and structures are read back

`following` is what stands between the opening mark of a list or an object and its
end: each text, with a comma in front of all but the first.  A reader of items or of
members goes along it.  `Gathers` says what the members of an object make of a structure,
member by member, and the reader of the object is shown to do the same, wherever blanks
stand and however the names are spelled.  `Fills` is the case in which no member is passed
over.
-/

namespace DeviceFeed.Json

variable {α β : Type}

/-! ## Texts with commas -/

/-- The bytes of several texts inside a list or an object. -/
def following (isFirst : Bool) : List String → Bytes
  | [] => []
  | text :: more =>
    (if isFirst then [] else [byte ',']) ++ (Utf8.encode text ++ following false more)

theorem encode_commas (texts : List String) :
    Utf8.encode (commas texts) = following true texts := by
  have hcons (text : String) (more : List String) :
      Utf8.encode (commas (text :: more)) = Utf8.encode text ++ following false more := by
    induction more generalizing text with
    | nil => rw [commas, String.intercalate_singleton, following, List.append_nil]
    | cons next more ih =>
        rw [commas, String.intercalate_cons_cons, Utf8.encode_append, Utf8.encode_append,
          List.append_assoc]
        exact congrArg (fun bytes => Utf8.encode text ++ (byte ',' :: bytes)) (ih next)
  cases texts with
  | nil => exact Utf8.encode_nil
  | cons text more => exact hcons text more

/-- There are not more texts than bytes in front of the rest. -/
theorem length_lt_following (texts : List String) (b : UInt8) (rest : Bytes) :
    texts.length < (following true texts ++ b :: rest).length + 1 := by
  have hmore (texts : List String) : texts.length ≤ (following false texts).length := by
    induction texts with
    | nil => exact Nat.le_refl 0
    | cons text more ih =>
        rw [following, List.length_append, List.length_append, List.length_cons]
        change _ ≤ 1 + _
        omega
  rw [List.length_append, List.length_cons]
  cases texts with
  | nil => exact Nat.zero_lt_succ _
  | cons text more =>
      have hlength := hmore more
      rw [following, List.length_append, List.length_append, List.length_cons]
      omega

/-- A value is never followed by what could belong to a number. -/
theorem delimits_following {b : UInt8} (hb : isNumberByte b = false) (texts : List String)
    (rest : Bytes) : Delimits (following false texts ++ b :: rest) := by
  cases texts with
  | nil => exact delimits_cons hb rest
  | cons text more =>
      have hcomma : isNumberByte (byte ',') = false := rfl
      exact delimits_cons hcomma _

/-! ## Lists -/

namespace Reader

theorem hasItem_end (isFirst : Bool) (rest : Bytes) :
    hasItem isFirst (byte ']' :: rest) = .ok false (byte ']' :: rest) := by
  have hend : isBlankByte (byte ']') = false := rfl
  rw [hasItem, bind_of_ok (peekToken_cons hend rest)]
  rfl

theorem hasItem_following (isFirst : Bool) {text : String} (h : Opens text)
    (more : List String) (rest : Bytes) :
    hasItem isFirst (following isFirst (text :: more) ++ rest) =
      .ok true (Utf8.encode text ++ (following false more ++ rest)) := by
  obtain ⟨b, left, htext, hblank, -, hb⟩ := h
  rw [following, htext]
  cases isFirst with
  | true =>
      simp only [if_true, List.nil_append, List.cons_append, List.append_assoc]
      rw [hasItem, bind_of_ok (peekToken_cons hblank _)]
      change (if _ then _ else _ : Reader Bool) _ = _
      rw [if_neg hb]
      rfl
  | false =>
      have hcomma : isBlankByte (byte ',') = false := rfl
      simp only [if_neg Bool.false_ne_true, List.cons_append, List.nil_append, List.append_assoc]
      rw [hasItem, bind_of_ok (peekToken_cons hcomma _)]
      refine (bind_of_ok (advance_cons _ _)).trans ?_
      refine (bind_of_ok (peekToken_cons hblank _)).trans ?_
      change (if _ then _ else _ : Reader Bool) _ = _
      rw [if_neg hb]
      rfl

/-- The items of a list are read one after another. -/
theorem items_following {read : Reader α} {write : α → String}
    (h : ∀ a, Reads read (write a) a) (hopens : ∀ a, Opens (write a)) (as : List α)
    (isFirst : Bool) {fuel : Nat} (hfuel : as.length < fuel) (rest : Bytes) :
    items read isFirst fuel (following isFirst (as.map write) ++ byte ']' :: rest) =
      .ok as (byte ']' :: rest) := by
  induction as generalizing isFirst fuel with
  | nil =>
      obtain ⟨fuel, rfl⟩ := Nat.exists_eq_add_one_of_ne_zero (Nat.ne_of_gt hfuel)
      rw [items]
      exact bind_of_ok (hasItem_end isFirst rest)
  | cons a as ih =>
      obtain ⟨fuel, rfl⟩ := Nat.exists_eq_add_one_of_ne_zero (Nat.ne_of_gt (Nat.zero_lt_of_lt hfuel))
      have hend : isNumberByte (byte ']') = false := rfl
      have hitem := hasItem_following isFirst (hopens a) (as.map write) (byte ']' :: rest)
      have hread := h a _ (delimits_following hend (as.map write) rest)
      have hmore := ih false (Nat.lt_of_succ_lt_succ hfuel)
      rw [items, List.map_cons, bind_of_ok hitem, if_pos rfl, bind_of_ok hread,
        bind_of_ok hmore]
      rfl

theorem closing_of_ok {read : Reader α} {close : Reader Unit} {bytes left after : Bytes} {a : α}
    (h : read bytes = .ok a left) (hclose : close left = .ok () after) :
    closing read close bytes = .ok a after := by
  rw [closing, h]
  simp only [hclose]

end Reader

theorem reads_list {read : Reader α} {write : α → String} (h : ∀ a, Reads read (write a) a)
    (hopens : ∀ a, Opens (write a)) (as : List α) :
    Reads (Reader.list read) (array (as.map write)) as := by
  intro rest _
  have hstart : isBlankByte (byte '[') = false := rfl
  have hend : isBlankByte (byte ']') = false := rfl
  have htext : Utf8.encode (array (as.map write)) ++ rest =
      byte '[' :: (following true (as.map write) ++ byte ']' :: rest) := by
    rw [array, Utf8.encode_append, Utf8.encode_append, encode_commas, List.append_assoc,
      List.append_assoc]
    rfl
  have hfuel := length_lt_following (as.map write) (byte ']') rest
  rw [List.length_map] at hfuel
  have hitems := Reader.items_following h hopens as true hfuel rest
  have hclose : Reader.closeList (byte ']' :: rest) = .ok () rest := by
    rw [Reader.closeList, Reader.bind_of_ok (Reader.peekToken_cons hend rest)]
    rfl
  rw [htext, Reader.list]
  refine Reader.value_of_first hstart ?_
  rw [if_pos rfl]
  exact (Reader.bind_of_ok (Reader.advance_cons _ _)).trans (Reader.closing_of_ok hitems hclose)

/-! ## Objects -/

/-- What written members make of a structure. The names on the left are set before, the ones
on the right in the end. -/
inductive Fills (members : List (Member α)) :
    List String → α → List (String × String) → List String → α → Prop where
  | done (seen : List String) (a : α) : Fills members seen a [] seen a
  | fill {seen filled : List String} {a b c : α} {m : Member α} {name text : String}
      {more : List (String × String)} (hfind : members.find? (·.name == name) = some m)
      (hnew : name ∉ seen) (hread : Reads (m.fill a) text b)
      (hmore : Fills members (name :: seen) b more filled c) :
      Fills members seen a ((name, text) :: more) filled c

/-- What written members make of a structure that passes over the ones it does not have. -/
inductive Gathers (members : List (Member α)) :
    List String → α → List (String × String) → List String → α → Prop where
  | done (seen : List String) (a : α) : Gathers members seen a [] seen a
  | fill {seen filled : List String} {a b c : α} {m : Member α} {name text : String}
      {more : List (String × String)} (hfind : members.find? (·.name == name) = some m)
      (hnew : name ∉ seen) (hread : Reads (m.fill a) text b)
      (hmore : Gathers members (name :: seen) b more filled c) :
      Gathers members seen a ((name, text) :: more) filled c
  | skip {seen filled : List String} {a b : α} {name text : String}
      {more : List (String × String)} (hfind : members.find? (·.name == name) = none)
      (hskip : ∀ size, Reads (Reader.skip size) text ())
      (hmore : Gathers members seen a more filled b) :
      Gathers members seen a ((name, text) :: more) filled b

theorem Fills.gathers {members : List (Member α)} {seen filled : List String} {a b : α}
    {entries : List (String × String)} (h : Fills members seen a entries filled b) :
    Gathers members seen a entries filled b := by
  induction h with
  | done seen a => exact .done seen a
  | fill hfind hnew hread _ ih => exact .fill hfind hnew hread ih

theorem reads_member {name : String} {required : Bool} {read : Reader β} {set : α → β → α}
    {text : String} {b : β} (h : Reads read text b) (a : α) :
    Reads ((member name required read set).fill a) text (set a b) :=
  h.map (set a)

/-- A written member: the name is spelled in any way and has blanks around it, and blanks may
follow the value. The ones in front of the value belong to it. -/
inductive SpacedEntry : String × String → String → Prop where
  | intro {name text before behind after : String} {written : List Char} (hbefore : Gap before)
      (hname : SpelledAll name.toList written) (hbehind : Gap behind) (hafter : Gap after) :
      SpacedEntry (name, text) (before ++ quote written ++ behind ++ ":" ++ text ++ after)

/-- An object with some members, in order. -/
def SpacedObject (entries : List (String × String)) (text : String) : Prop :=
  ∃ gap texts, Gap gap ∧ List.Forall₂ SpacedEntry entries texts ∧
    text = "\x7b" ++ gap ++ commas texts ++ "\x7d"

theorem spacedEntry_entry (e : String × String) : SpacedEntry e (entry e) := by
  have hentry : SpacedEntry (e.1, e.2) _ :=
    .intro gap_empty (spelledAll_escape e.1.toList) gap_empty gap_empty
  rw [String.empty_append, String.append_empty, String.append_empty] at hentry
  exact hentry

/-- Compact objects have no blanks and no more escapes than needed. -/
theorem spacedObject_object (entries : List (String × String)) :
    SpacedObject entries (object entries) := by
  refine ⟨"", entries.map entry, gap_empty, ?_, ?_⟩
  · rw [List.forall₂_map_right_iff, List.forall₂_same]
    exact fun e _ => spacedEntry_entry e
  · rw [String.append_empty]
    rfl

/-- The bytes of a written member. -/
theorem SpacedEntry.exists_bytes {name text written : String}
    (h : SpacedEntry (name, text) written) :
    ∃ before spelled behind after, Gap before ∧ SpelledAll name.toList spelled ∧ Gap behind ∧
      Gap after ∧ ∀ rest, Utf8.encode written ++ rest =
        Utf8.encode before ++ byte '"' :: (Utf8.encode (String.ofList (spelled ++ ['"'])) ++
          (Utf8.encode behind ++ byte ':' :: (Utf8.encode text ++ (Utf8.encode after ++ rest)))) := by
  cases h with
  | @intro _ _ before behind after spelled hbefore hname hbehind hafter =>
      refine ⟨before, spelled, behind, after, hbefore, hname, hbehind, hafter, fun rest => ?_⟩
      have hcolon : Utf8.encode ":" = [byte ':'] := by decide
      simp only [Utf8.encode_append, quote, encode_quote, hcolon, List.append_assoc,
        List.cons_append, List.nil_append]

namespace Reader

theorem hasMember_end (isFirst : Bool) {gap : String} (hgap : Gap gap) (rest : Bytes) :
    hasMember isFirst (Utf8.encode gap ++ byte '\x7d' :: rest) =
      .ok false (byte '\x7d' :: rest) := by
  have hend : isBlankByte (byte '\x7d') = false := rfl
  rw [hasMember, (skipsBlanks_peekToken.bind _) gap hgap, bind_of_ok (peekToken_cons hend rest)]
  rfl

theorem hasMember_quote (isFirst : Bool) {gap before : String} (hgap : Gap gap)
    (hbefore : Gap before) (rest : Bytes) :
    hasMember isFirst (Utf8.encode gap ++ ((if isFirst then [] else [byte ',']) ++
        (Utf8.encode before ++ byte '"' :: rest))) = .ok true (byte '"' :: rest) := by
  have hquote : isBlankByte (byte '"') = false := rfl
  have hpeek : peekToken (Utf8.encode before ++ byte '"' :: rest) =
      .ok (some (byte '"')) (byte '"' :: rest) := by
    rw [skipsBlanks_peekToken before hbefore, peekToken_cons hquote]
  rw [hasMember, (skipsBlanks_peekToken.bind _) gap hgap]
  cases isFirst with
  | true =>
      rw [if_pos rfl, List.nil_append, bind_of_ok hpeek]
      rfl
  | false =>
      have hcomma : isBlankByte (byte ',') = false := rfl
      rw [if_neg Bool.false_ne_true, List.singleton_append, bind_of_ok (peekToken_cons hcomma _)]
      refine (bind_of_ok (advance_cons _ _)).trans ?_
      refine (bind_of_ok hpeek).trans ?_
      rfl

theorem colon_gap {gap : String} (hgap : Gap gap) (rest : Bytes) :
    colon (Utf8.encode gap ++ byte ':' :: rest) = .ok () rest := by
  have hcolon : isBlankByte (byte ':') = false := rfl
  rw [colon, (skipsBlanks_peekToken.bind _) gap hgap, bind_of_ok (peekToken_cons hcolon rest)]
  rfl

/-- The reader of members goes on behind the next name. -/
theorem fillMembers_cons {members : List (Member α)} {seen : List String} {a : α}
    {name text written : String} (hentry : SpacedEntry (name, text) written) (isFirst : Bool)
    {gap : String} (hgap : Gap gap) (size fuel : Nat) (more : List String) (rest : Bytes) :
    ∃ behind after, Gap behind ∧ Gap after ∧
      fillMembers members size (fuel + 1) isFirst seen a
          (Utf8.encode gap ++ (following isFirst (written :: more) ++ rest)) =
        (match members.find? (fun m : Member α => m.name == name) with
          | none => do
            colon
            skip size
            fillMembers members size fuel false seen a
          | some m =>
            if name ∈ seen then fail (.duplicateField name)
            else do
              colon
              let filled ← m.fill a
              fillMembers members size fuel false (name :: seen) filled)
          (Utf8.encode behind ++ byte ':' :: (Utf8.encode text ++
            (Utf8.encode after ++ (following false more ++ rest)))) := by
  obtain ⟨before, spelled, behind, after, hbefore, hname, hbehind, hafter, hbytes⟩ :=
    hentry.exists_bytes
  refine ⟨behind, after, hbehind, hafter, ?_⟩
  rw [following, fillMembers, List.append_assoc, List.append_assoc, hbytes]
  refine (bind_of_ok (hasMember_quote isFirst hgap hbefore _)).trans ?_
  rw [if_pos rfl]
  refine (bind_of_ok (advance_cons _ _)).trans ?_
  refine (bind_of_ok (stringBody_spelled hname _)).trans ?_
  rfl

/-- The members of an object are read one after another. -/
theorem fillMembers_of_gathers {members : List (Member α)} {seen filled : List String} {a b : α}
    {entries : List (String × String)} (h : Gathers members seen a entries filled b)
    {texts : List String} (htexts : List.Forall₂ SpacedEntry entries texts) (isFirst : Bool)
    {gap : String} (hgap : Gap gap) {fuel : Nat} (hfuel : entries.length < fuel) (size : Nat)
    (rest : Bytes) :
    fillMembers members size fuel isFirst seen a
        (Utf8.encode gap ++ (following isFirst texts ++ byte '\x7d' :: rest)) =
      .ok (filled, b) (byte '\x7d' :: rest) := by
  have hend : isNumberByte (byte '\x7d') = false := rfl
  induction h generalizing texts isFirst gap fuel with
  | done seen a =>
      obtain ⟨fuel, rfl⟩ := Nat.exists_eq_add_one_of_ne_zero (Nat.ne_of_gt hfuel)
      obtain rfl := List.forall₂_nil_left_iff.1 htexts
      rw [fillMembers]
      exact bind_of_ok (hasMember_end isFirst hgap rest)
  | @fill seen filled a b c m name text more hfind hnew hread hmore ih =>
      obtain ⟨fuel, rfl⟩ :=
        Nat.exists_eq_add_one_of_ne_zero (Nat.ne_of_gt (Nat.zero_lt_of_lt hfuel))
      obtain ⟨written, others, hentry, hothers, rfl⟩ := List.forall₂_cons_left_iff.1 htexts
      obtain ⟨behind, after, hbehind, hafter, hcons⟩ :=
        fillMembers_cons hentry isFirst hgap size fuel others (byte '\x7d' :: rest)
      have hvalue := hread _ (hafter.delimits (delimits_following hend others rest))
      have hrest := ih hothers false hafter (Nat.lt_of_succ_lt_succ hfuel)
      rw [hcons]
      simp only [hfind]
      rw [if_neg hnew]
      refine (bind_of_ok (colon_gap hbehind _)).trans ?_
      exact (bind_of_ok hvalue).trans hrest
  | @skip seen filled a b name text more hfind hskip hmore ih =>
      obtain ⟨fuel, rfl⟩ :=
        Nat.exists_eq_add_one_of_ne_zero (Nat.ne_of_gt (Nat.zero_lt_of_lt hfuel))
      obtain ⟨written, others, hentry, hothers, rfl⟩ := List.forall₂_cons_left_iff.1 htexts
      obtain ⟨behind, after, hbehind, hafter, hcons⟩ :=
        fillMembers_cons hentry isFirst hgap size fuel others (byte '\x7d' :: rest)
      have hvalue := hskip size _ (hafter.delimits (delimits_following hend others rest))
      have hrest := ih hothers false hafter (Nat.lt_of_succ_lt_succ hfuel)
      rw [hcons]
      simp only [hfind]
      refine (bind_of_ok (colon_gap hbehind _)).trans ?_
      exact (bind_of_ok hvalue).trans hrest

end Reader

theorem encode_entry (name text : String) :
    Utf8.encode (entry (name, text)) =
      byte '"' :: (Utf8.encode (String.ofList (name.toList.flatMap escape ++ ['"'])) ++
        byte ':' :: Utf8.encode text) := by
  rw [entry, string, Utf8.encode_append, Utf8.encode_append, encode_quote, List.append_assoc]
  rfl

theorem encode_object (entries : List (String × String)) (rest : Bytes) :
    Utf8.encode (object entries) ++ rest =
      byte '\x7b' :: (following true (entries.map entry) ++ byte '\x7d' :: rest) := by
  rw [object, Utf8.encode_append, Utf8.encode_append, encode_commas, List.append_assoc,
    List.append_assoc]
  rfl

/-- An object is read as the structure that its members make. -/
theorem reads_object {shape : Shape α} {entries : List (String × String)} {text : String}
    {filled : List String} {a : α} (h : Gathers shape.members [] shape.blank entries filled a)
    (hrequired : ∀ m ∈ shape.members, m.required = true → m.name ∈ filled)
    (htext : SpacedObject entries text) : Reads (Reader.struct shape) text a := by
  obtain ⟨gap, texts, hgap, htexts, rfl⟩ := htext
  intro rest _
  have hstart : isBlankByte (byte '\x7b') = false := rfl
  have hend : isBlankByte (byte '\x7d') = false := rfl
  have hbytes : Utf8.encode ("\x7b" ++ gap ++ commas texts ++ "\x7d") ++ rest =
      byte '\x7b' :: (Utf8.encode gap ++ (following true texts ++ byte '\x7d' :: rest)) := by
    have hopen : Utf8.encode "\x7b" = [byte '\x7b'] := by decide
    have hclose : Utf8.encode "\x7d" = [byte '\x7d'] := by decide
    simp only [Utf8.encode_append, encode_commas, hopen, hclose, List.append_assoc,
      List.cons_append, List.nil_append]
  have hfuel : entries.length <
      (Utf8.encode gap ++ (following true texts ++ byte '\x7d' :: rest)).length + 1 := by
    have hfew := length_lt_following texts (byte '\x7d') rest
    rw [htexts.length_eq, List.length_append]
    omega
  have hfill := Reader.fillMembers_of_gathers h htexts true hgap hfuel
    (Utf8.encode gap ++ (following true texts ++ byte '\x7d' :: rest)).length rest
  have hpresent : shape.members.find? (fun m => m.required && !filled.contains m.name) = none := by
    rw [List.find?_eq_none]
    intro m hm
    rw [Bool.and_eq_true]
    rintro ⟨hneeded, habsent⟩
    have hin := hrequired m hm hneeded
    rw [← List.contains_iff_mem] at hin
    rw [hin] at habsent
    cases habsent
  have hbody : Reader.objectBody shape
      (Utf8.encode gap ++ (following true texts ++ byte '\x7d' :: rest)) =
        .ok a (byte '\x7d' :: rest) := by
    refine (Reader.bind_of_ok hfill).trans ?_
    simp only [hpresent]
    rfl
  have hclose : Reader.closeObject (byte '\x7d' :: rest) = .ok () rest := by
    rw [Reader.closeObject, Reader.bind_of_ok (Reader.peekToken_cons hend rest)]
    rfl
  rw [hbytes, Reader.struct]
  refine Reader.value_of_first hstart ?_
  rw [if_neg (by decide), if_pos rfl]
  exact (Reader.bind_of_ok (Reader.advance_cons _ _)).trans (Reader.closing_of_ok hbody hclose)

theorem reads_struct {shape : Shape α} {entries : List (String × String)}
    {filled : List String} {a : α} (h : Fills shape.members [] shape.blank entries filled a)
    (hrequired : ∀ m ∈ shape.members, m.required = true → m.name ∈ filled) :
    Reads (Reader.struct shape) (object entries) a :=
  reads_object h.gathers hrequired (spacedObject_object entries)

/-! ## Alternatives -/

theorem alternative_quote {known : List (String × β)} {name : String} {found : β}
    (h : known.find? (·.1 == name) = some (name, found)) (rest : Bytes) :
    Reader.alternative known
        (byte '"' :: (Utf8.encode (String.ofList (name.toList.flatMap escape ++ ['"'])) ++ rest)) =
      .ok found rest := by
  have hquote : isBlankByte (byte '"') = false := rfl
  refine Reader.value_of_first hquote ?_
  refine (Reader.bind_of_ok (Reader.advance_cons _ _)).trans ?_
  refine (Reader.bind_of_ok (Reader.stringBody_spelled (spelledAll_escape _) rest)).trans ?_
  simp only [h]
  rfl

theorem expectName_quote (rest : Bytes) :
    Reader.expectName (byte '"' :: rest) = .ok () (byte '"' :: rest) := by
  have hquote : isBlankByte (byte '"') = false := rfl
  rw [Reader.expectName, Reader.bind_of_ok (Reader.peekToken_cons hquote rest)]
  rfl

/-- An object with a name and its content is read as the alternative of that name. -/
theorem reads_oneOf {known : List (String × Reader.Content α)} {name text : String}
    {read : Reader α} {a : α}
    (hfind : known.find? (·.1 == name) = some (name, .members read))
    (hread : Reads read text a) : Reads (Reader.oneOf known) (object [(name, text)]) a := by
  intro rest _
  have hstart : isBlankByte (byte '\x7b') = false := rfl
  have hend : isBlankByte (byte '\x7d') = false := rfl
  have hlast : isNumberByte (byte '\x7d') = false := rfl
  have hcontent := hread _ (delimits_cons hlast rest)
  have htext : following true [entry (name, text)] ++ byte '\x7d' :: rest =
      byte '"' :: (Utf8.encode (String.ofList (name.toList.flatMap escape ++ ['"'])) ++
        byte ':' :: (Utf8.encode text ++ byte '\x7d' :: rest)) := by
    rw [following, following, encode_entry, if_pos rfl]
    simp only [List.nil_append, List.append_nil, List.cons_append, List.append_assoc]
  rw [encode_object, List.map_singleton, htext, Reader.oneOf]
  refine (Reader.bind_of_ok (Reader.peekToken_cons hstart _)).trans ?_
  refine (Reader.bind_of_ok (Reader.advance_cons _ _)).trans ?_
  refine (Reader.bind_of_ok (expectName_quote _)).trans ?_
  refine (Reader.bind_of_ok (alternative_quote hfind _)).trans ?_
  refine (Reader.bind_of_ok (Reader.colon_gap gap_empty _)).trans ?_
  refine (Reader.bind_of_ok hcontent).trans ?_
  refine (Reader.bind_of_ok (Reader.peekToken_cons hend rest)).trans ?_
  rfl

/-- A text is parsed if it is read up to blanks at its end. -/
theorem parse_of_reads_gap {read : Reader α} {text gap : String} {a : α} (h : Reads read text a)
    (hgap : Gap gap) : parse read (text ++ gap) = .ok a := by
  have hread := h _ (hgap.delimits delimits_nil)
  have hend : Reader.peekToken (Utf8.encode gap ++ []) = .ok none [] :=
    skipsBlanks_peekToken gap hgap []
  rw [List.append_nil] at hread hend
  rw [parse, Utf8.encode_append]
  rw [Reader.bind_of_ok hread, Reader.bind_of_ok hend]
  rfl

theorem parse_of_reads {read : Reader α} {text : String} {a : α} (h : Reads read text a) :
    parse read text = .ok a := by
  have hparse := parse_of_reads_gap h gap_empty
  rwa [String.append_empty] at hparse

/-! ## One line -/

theorem oneLine_commas {texts : List String} (h : ∀ text ∈ texts, OneLine text) :
    OneLine (commas texts) := by
  have hcomma : OneLine "," := by decide
  induction texts with
  | nil => exact (by decide : OneLine "")
  | cons text more ih =>
      have htext := h text List.mem_cons_self
      have hmore := ih fun other hother => h other (List.mem_cons_of_mem _ hother)
      cases more with
      | nil =>
          rw [commas, String.intercalate_singleton]
          exact htext
      | cons next more =>
          rw [commas, String.intercalate_cons_cons]
          exact (htext.append hcomma).append hmore

theorem oneLine_array {texts : List String} (h : ∀ text ∈ texts, OneLine text) :
    OneLine (array texts) := by
  have hopen : OneLine "[" := by decide
  have hclose : OneLine "]" := by decide
  exact (hopen.append (oneLine_commas h)).append hclose

theorem oneLine_object {members : List (String × String)} (h : ∀ m ∈ members, OneLine m.2) :
    OneLine (object members) := by
  have hopen : OneLine "\x7b" := by decide
  have hclose : OneLine "\x7d" := by decide
  have hcolon : OneLine ":" := by decide
  have hentries : ∀ text ∈ members.map entry, OneLine text := by
    intro text htext
    obtain ⟨m, hm, rfl⟩ := List.mem_map.1 htext
    exact ((oneLine_string m.1).append hcolon).append (h m hm)
  exact (hopen.append (oneLine_commas hentries)).append hclose

end DeviceFeed.Json
