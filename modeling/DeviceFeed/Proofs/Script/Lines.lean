import DeviceFeed.Script
import DeviceFeed.Proofs.Text.Utf8
import DeviceFeed.Proofs.Text.Words

/-!
# The lines of a script

A line ends at the first line feed, and a carriage return in front of it does not
belong to the line.  This file follows the reader of a script from line to line.
-/

namespace DeviceFeed

namespace Script

/-! ## Ends of lines -/

theorem beq_feed_of_not_mem {line : Bytes} (hline : 0x0A ∉ line) :
    ∀ b ∈ line, (b == 0x0A) = false := by
  intro b hb
  rw [beq_eq_false_iff_ne]
  rintro rfl
  exact hline hb

theorem lines_append_feed {line : Bytes} (hline : 0x0A ∉ line) (rest : Bytes) :
    lines (line ++ 0x0A :: rest) = dropReturn line :: lines rest := by
  have hfront := beq_feed_of_not_mem hline
  obtain ⟨piece, more, hrest⟩ :=
    List.exists_cons_of_ne_nil (Text.pieces_ne_nil (· == (0x0A : UInt8)) rest)
  rw [lines, lines, Text.pieces_append_separator hfront rfl, hrest]
  rfl

/-- The last line may lack its end. -/
theorem lines_of_no_feed {line : Bytes} (hline : 0x0A ∉ line) (hne : line ≠ []) :
    lines line = [line] := by
  rw [lines, Text.pieces_of_no_separator (beq_feed_of_not_mem hline), linesOf, if_neg hne]

theorem dropReturn_append (line : Bytes) : dropReturn (line ++ [0x0D]) = line := by
  rw [dropReturn, List.getLast?_concat, if_pos rfl, List.dropLast_concat]

theorem dropReturn_of_no_return {line : Bytes} (h : 0x0D ∉ line) : dropReturn line = line := by
  rw [dropReturn, if_neg]
  intro hlast
  exact h (List.mem_of_getLast? hlast)

/-- A script in which every line has its end. -/
inductive Finished : Bytes → Prop
  | nil : Finished []
  | line {line rest : Bytes} (hline : 0x0A ∉ line) (hrest : Finished rest) :
      Finished (line ++ 0x0A :: rest)

theorem finished_of_getLast? {script : Bytes} (h : script = [] ∨ script.getLast? = some 0x0A) :
    Finished script := by
  induction script using Text.line_induction (0x0A : UInt8) with
  | last line hline =>
      rcases h with rfl | h
      · exact .nil
      · exact absurd (List.mem_of_getLast? h) hline
  | line line rest hline ih =>
      refine .line hline (ih ?_)
      rcases h with h | h
      · simp at h
      · rw [List.getLast?_append_of_ne_nil _ (List.cons_ne_nil _ _), List.getLast?_cons] at h
        cases hlast : rest.getLast? with
        | none => exact Or.inl (List.getLast?_eq_none_iff.1 hlast)
        | some b =>
            rw [hlast] at h
            exact Or.inr h

/-- The lines of a script go on where those of a finished one end. -/
theorem Finished.lines_append {first : Bytes} (h : Finished first) (second : Bytes) :
    lines (first ++ second) = lines first ++ lines second := by
  induction h with
  | nil => rfl
  | line hline hrest ih =>
      rw [List.append_assoc, List.cons_append, lines_append_feed hline, lines_append_feed hline,
        ih, List.cons_append]

/-! ## Lines of a text -/

/-- A line of a text may lose a carriage return, which trimming takes off anyway. -/
theorem exists_dropReturn_encode (line : List Char) :
    ∃ kept, dropReturn (Utf8.encode (String.ofList line)) = Utf8.encode (String.ofList kept) ∧
      Text.trim kept = Text.trim line := by
  rcases List.eq_nil_or_concat line with rfl | ⟨front, c, rfl⟩
  · exact ⟨[], rfl, rfl⟩
  · have hencode : Utf8.encode (String.ofList (front ++ [c])) =
        Utf8.encode (String.ofList front) ++ Utf8.encodeChar c := by
      rw [String.ofList_append, Utf8.encode_append, Utf8.encode_cons]
      exact congrArg _ (List.append_nil _)
    rw [List.concat_eq_append, hencode]
    by_cases hreturn : c = '\r'
    · subst hreturn
      have hblank : ∀ c ∈ ['\r'], Text.isBlank c = true := List.forall_mem_singleton.2 rfl
      exact ⟨front, dropReturn_append _, (Text.trim_append_blanks hblank front).symm⟩
    · refine ⟨front ++ [c], ?_, rfl⟩
      rw [hencode, dropReturn, if_neg]
      intro hlast
      rw [List.getLast?_append_of_ne_nil _ (Utf8.encodeChar_ne_nil c)] at hlast
      obtain ⟨hvalue, -⟩ := Utf8.encodeChar_of_mem (List.mem_of_getLast? hlast) (by decide)
      exact hreturn (Char.toNat_inj.1 hvalue)

theorem feed_not_mem_encode {line : List Char} (hline : '\n' ∉ line) :
    0x0A ∉ Utf8.encode (String.ofList line) := by
  apply Utf8.not_mem_encode (by decide)
  intro c hc hvalue
  obtain rfl : c = '\n' := Char.toNat_inj.1 hvalue
  exact hline hc

theorem lines_encode_append_feed {line : List Char} (hline : '\n' ∉ line) (rest : List Char) :
    lines (Utf8.encode (String.ofList (line ++ '\n' :: rest))) =
      dropReturn (Utf8.encode (String.ofList line)) ::
        lines (Utf8.encode (String.ofList rest)) := by
  have hend : Utf8.encode (String.ofList ('\n' :: rest)) =
      0x0A :: Utf8.encode (String.ofList rest) :=
    Utf8.encode_cons '\n' rest
  rw [String.ofList_append, Utf8.encode_append, hend,
    lines_append_feed (feed_not_mem_encode hline)]

/-- The last line may lack its end, unless it is empty. -/
theorem lines_encode_of_no_feed {line : List Char} (hline : '\n' ∉ line) :
    lines (Utf8.encode (String.ofList line)) =
      if line = [] then [] else [Utf8.encode (String.ofList line)] := by
  by_cases hempty : line = []
  · rw [hempty]
    rfl
  · rw [if_neg hempty]
    exact lines_of_no_feed (feed_not_mem_encode hline) (Utf8.encode_ne_nil hempty)

/-- Every line of a text is a text. -/
theorem isText_of_mem_lines (text : List Char) :
    ∀ line ∈ lines (Utf8.encode (String.ofList text)), Utf8.IsText line := by
  induction text using Text.line_induction '\n' with
  | last line hline =>
      rw [lines_encode_of_no_feed hline]
      intro other hmem
      split at hmem
      · cases hmem
      · exact ⟨_, (List.mem_singleton.1 hmem).symm⟩
  | line line rest hline ih =>
      obtain ⟨kept, hkept, -⟩ := exists_dropReturn_encode line
      rw [lines_encode_append_feed hline, hkept, List.forall_mem_cons]
      exact ⟨⟨_, rfl⟩, ih⟩

/-! ## Reading line by line -/

/-- What a line of text gives to a session, if anything. -/
def input? (line : String) : Option Input :=
  entry? line |>.bind Entry.input?

/-- What a line gives to a session, if it is text and gives anything. -/
def lineInput? (line : Bytes) : Option Input :=
  match Utf8.decode line with
  | .ok text => input? text
  | .error _ => none

theorem lineInput?_encode (line : String) : lineInput? (Utf8.encode line) = input? line := by
  rw [lineInput?, Utf8.decode_encode]

/-- What a line says depends on the line without surrounding blanks only. -/
theorem entry?_ofList_congr {first second : List Char} (h : Text.trim first = Text.trim second) :
    entry? (String.ofList first) = entry? (String.ofList second) := by
  unfold entry?
  rw [String.toList_ofList, String.toList_ofList, h]

theorem lineInput?_dropReturn_encode (line : List Char) :
    lineInput? (dropReturn (Utf8.encode (String.ofList line))) = input? (String.ofList line) := by
  obtain ⟨kept, hkept, htrim⟩ := exists_dropReturn_encode line
  rw [hkept, lineInput?_encode, input?, entry?_ofList_congr htrim, input?]

/-- What a line of text says, with the number of the line. -/
def item? (number : Nat) (text : String) : Option (Nat × Entry) :=
  entry? text |>.map (number, ·)

theorem mem_item?_iff {number k : Nat} {text : String} {e : Entry} :
    (k, e) ∈ (item? number text).toList ↔ k = number ∧ entry? text = some e := by
  rw [Option.mem_toList, item?, Option.map_eq_some_iff]
  constructor
  · rintro ⟨other, hentry, heq⟩
    obtain ⟨rfl, rfl⟩ := Prod.mk.inj heq
    exact ⟨rfl, hentry⟩
  · rintro ⟨rfl, hentry⟩
    exact ⟨e, hentry, rfl⟩

/-- A line of text is read, and reading goes on after it. -/
theorem readFrom_encode (number : Nat) (text : String) (more : List Bytes) :
    readFrom number (Utf8.encode text :: more) =
      ((item? number text).toList ++ (readFrom (number + 1) more).1,
        (readFrom (number + 1) more).2) := by
  rw [readFrom, Utf8.decode_encode]
  cases hentry : entry? text with
  | none => simp only [item?, hentry, Option.map_none, Option.toList_none, List.nil_append]
  | some e => simp only [item?, hentry, Option.map_some, Option.toList_some, List.singleton_append]

/-- Reading ends at a line that is not text. -/
theorem readFrom_of_fault {line : Bytes} {fault : Utf8.Fault}
    (h : Utf8.decode line = .error fault) (number : Nat) (more : List Bytes) :
    readFrom number (line :: more) = ([], some ⟨number, fault⟩) := by
  rw [readFrom, h]

/-- A line that says something is read, and reading goes on after it. -/
theorem readFrom_cons {number : Nat} {text : List Char} {e : Entry} (more : List Bytes)
    (hentry : entry? (String.ofList text) = some e) :
    readFrom number (Utf8.encode (String.ofList text) :: more) =
      ((number, e) :: (readFrom (number + 1) more).1, (readFrom (number + 1) more).2) := by
  rw [readFrom_encode, item?, hentry]
  rfl

/-- Only lines that are text are read to the end, and all of these are. -/
theorem readFrom_eq_none_iff {lines : List Bytes} {number : Nat} :
    (readFrom number lines).2 = none ↔ ∀ line ∈ lines, Utf8.IsText line := by
  induction lines generalizing number with
  | nil => exact iff_of_true rfl (List.forall_mem_nil _)
  | cons line more ih =>
      rw [List.forall_mem_cons]
      rcases Utf8.isText_or_exists_fault line with ⟨text, rfl⟩ | ⟨fault, hfault⟩
      · rw [readFrom_encode, ih]
        exact ⟨fun h => ⟨⟨text, rfl⟩, h⟩, fun h => h.2⟩
      · rw [readFrom_of_fault hfault]
        exact iff_of_false (Option.some_ne_none _) fun h => Utf8.not_isText_of_fault hfault h.1

/-- Lines that are text give what each of them gives. -/
theorem inputs_readFrom {lines : List Bytes} (h : ∀ line ∈ lines, Utf8.IsText line)
    (number : Nat) :
    (readFrom number lines).1.filterMap (fun item => item.2.input?) =
      lines.filterMap lineInput? := by
  induction lines generalizing number with
  | nil => rfl
  | cons line more ih =>
      rw [List.forall_mem_cons] at h
      obtain ⟨⟨text, rfl⟩, hmore⟩ := h
      rw [readFrom_encode, List.filterMap_append, ih hmore, List.filterMap_cons,
        lineInput?_encode, input?, item?]
      cases entry? text with
      | none => rfl
      | some e => cases he : e.input? <;> simp [he]

/-- What holds of all that a line can say holds of all entries. -/
theorem forall_mem_readFrom {holds : Entry → Prop} (h : ∀ text e, entry? text = some e → holds e)
    (lines : List Bytes) (number : Nat) : ∀ item ∈ (readFrom number lines).1, holds item.2 := by
  induction lines generalizing number with
  | nil => exact List.forall_mem_nil _
  | cons line more ih =>
      rcases Utf8.isText_or_exists_fault line with ⟨text, rfl⟩ | ⟨fault, hfault⟩
      · rw [readFrom_encode, List.forall_mem_append]
        refine ⟨?_, ih (number + 1)⟩
        rintro ⟨k, e⟩ hitem
        exact h text e (mem_item?_iff.1 hitem).2
      · rw [readFrom_of_fault hfault]
        exact List.forall_mem_nil _

end Script
end DeviceFeed
