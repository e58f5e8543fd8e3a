import DeviceFeed.Proofs.Script.Lines

/-!
# Lines and their numbers

A script is read from its first line on, and each entry comes with the number of the line that
says it.  This file says what the lines of a script are, follows a reader that is asked for one
entry after the other, and tells which lines it reports, up to the first one that is not text.
-/

namespace DeviceFeed
namespace Script

/-! ## The lines of a script -/

/-- The script consists of the lines.  A line ends at a line feed, and one carriage return in
front of it belongs to the end.  The last line may lack its end, and then it is not empty. -/
inductive HasLines : Bytes → List Bytes → Prop
  | nil : HasLines [] []
  | unfinished {line : Bytes} (hline : 0x0A ∉ line) (hne : line ≠ []) : HasLines line [line]
  | feed {line rest : Bytes} {more : List Bytes} (hline : 0x0A ∉ line)
      (hreturn : line.getLast? ≠ some 0x0D) (hrest : HasLines rest more) :
      HasLines (line ++ 0x0A :: rest) (line :: more)
  | returnFeed {line rest : Bytes} {more : List Bytes} (hline : 0x0A ∉ line)
      (hrest : HasLines rest more) : HasLines (line ++ 0x0D :: 0x0A :: rest) (line :: more)

theorem HasLines.lines_eq {script : Bytes} {ls : List Bytes} (h : HasLines script ls) :
    lines script = ls := by
  induction h with
  | nil => rfl
  | unfinished hline hne => exact lines_of_no_feed hline hne
  | feed hline hreturn hrest ih => rw [lines_append_feed hline, dropReturn, if_neg hreturn, ih]
  | @returnFeed line rest more hline hrest ih =>
      have hreturned : 0x0A ∉ line ++ [0x0D] := by
        rw [List.mem_append, not_or]
        exact ⟨hline, by decide⟩
      rw [List.append_cons, lines_append_feed hreturned, dropReturn_append, ih]

theorem hasLines_lines (script : Bytes) : HasLines script (lines script) := by
  induction script using Text.line_induction (0x0A : UInt8) with
  | last line hline =>
      by_cases hempty : line = []
      · rw [hempty]
        exact .nil
      · rw [lines_of_no_feed hline hempty]
        exact .unfinished hline hempty
  | line line rest hline ih =>
      rw [lines_append_feed hline, dropReturn]
      split
      next hreturn =>
        obtain ⟨front, rfl⟩ := List.getLast?_eq_some_iff.1 hreturn
        rw [List.dropLast_concat, ← List.append_cons]
        exact .returnFeed (fun hmem => hline (List.mem_append_left _ hmem)) ih
      next hreturn => exact .feed hline hreturn ih

theorem hasLines_iff {script : Bytes} {ls : List Bytes} :
    HasLines script ls ↔ ls = lines script := by
  constructor
  · exact fun h => h.lines_eq.symm
  · rintro rfl
    exact hasLines_lines script

/-! ## Asking for one entry after the other -/

/-- A reader in front of the lines that it has not read yet. -/
structure Reader where
  unread : List Bytes
  /-- How many lines it has read. -/
  count : Nat

/-- A reader in front of a script. -/
def Reader.of (script : Bytes) : Reader :=
  ⟨lines script, 0⟩

/-- The next entry with the number of its line, and the reader behind it.  At the end there is
none, and a line that is not text makes it fail. -/
def nextFrom (count : Nat) : List Bytes → Except ScriptFault (Option ((Nat × Entry) × Reader))
  | [] => .ok none
  | line :: more =>
    match Utf8.decode line with
    | .error fault => .error ⟨count + 1, fault⟩
    | .ok text =>
      match entry? text with
      | none => nextFrom (count + 1) more
      | some e => .ok (some ((count + 1, e), ⟨more, count + 1⟩))

def Reader.next (r : Reader) : Except ScriptFault (Option ((Nat × Entry) × Reader)) :=
  nextFrom r.count r.unread

/-- Asked again and again, the reader gives the entries and then ends as it is said. -/
inductive Reader.Yields : Reader → List (Nat × Entry) → Option ScriptFault → Prop
  | stop {r : Reader} (h : r.next = .ok none) : Yields r [] none
  | fail {r : Reader} {fault : ScriptFault} (h : r.next = .error fault) : Yields r [] (some fault)
  | entry {r after : Reader} {item : Nat × Entry} {items : List (Nat × Entry)}
      {ending : Option ScriptFault} (h : r.next = .ok (some (item, after)))
      (hafter : Yields after items ending) : Yields r (item :: items) ending

theorem Reader.Yields.of_next_eq {r other : Reader} {items : List (Nat × Entry)}
    {ending : Option ScriptFault} (h : r.Yields items ending) (hnext : other.next = r.next) :
    other.Yields items ending := by
  cases h with
  | stop h => exact .stop (hnext.trans h)
  | fail h => exact .fail (hnext.trans h)
  | entry h hafter => exact .entry (hnext.trans h) hafter

/-- What a reader gives begins with what it gives next. -/
theorem Reader.Yields.inversion {r : Reader} {items : List (Nat × Entry)}
    {ending : Option ScriptFault} (h : r.Yields items ending) :
    match r.next with
    | .ok none => items = [] ∧ ending = none
    | .ok (some (item, after)) => ∃ more, items = item :: more ∧ after.Yields more ending
    | .error fault => items = [] ∧ ending = some fault := by
  rcases h with h | h | ⟨h, hafter⟩
  · rw [h]
    exact ⟨rfl, rfl⟩
  · rw [h]
    exact ⟨rfl, rfl⟩
  · rw [h]
    exact ⟨_, rfl, hafter⟩

/-- There is one way only of asking a reader. -/
theorem Reader.Yields.unique {r : Reader} {items others : List (Nat × Entry)}
    {ending last : Option ScriptFault} (h : r.Yields items ending)
    (hother : r.Yields others last) : others = items ∧ last = ending := by
  induction h generalizing others with
  | stop h =>
      have hinversion := hother.inversion
      rwa [h] at hinversion
  | fail h =>
      have hinversion := hother.inversion
      rwa [h] at hinversion
  | entry h hafter ih =>
      have hinversion := hother.inversion
      rw [h] at hinversion
      obtain ⟨more, rfl, hmore⟩ := hinversion
      obtain ⟨rfl, rfl⟩ := ih hmore
      exact ⟨rfl, rfl⟩

/-- Reading all lines at once is asking for one entry after the other. -/
theorem yields_readFrom (ls : List Bytes) (count : Nat) :
    Reader.Yields ⟨ls, count⟩ (readFrom (count + 1) ls).1 (readFrom (count + 1) ls).2 := by
  induction ls generalizing count with
  | nil => exact .stop rfl
  | cons line more ih =>
      rcases Utf8.isText_or_exists_fault line with ⟨text, rfl⟩ | ⟨fault, hfault⟩
      · have hnext : Reader.next ⟨Utf8.encode text :: more, count⟩ =
            match entry? text with
            | none => Reader.next ⟨more, count + 1⟩
            | some e => .ok (some ((count + 1, e), ⟨more, count + 1⟩)) := by
          rw [Reader.next, nextFrom, Utf8.decode_encode]
          rfl
        rw [readFrom_encode, item?]
        cases hentry : entry? text with
        | none =>
            rw [hentry] at hnext
            exact (ih (count + 1)).of_next_eq hnext
        | some e =>
            rw [hentry] at hnext
            exact .entry hnext (ih (count + 1))
      · have hnext : Reader.next ⟨line :: more, count⟩ = .error ⟨count + 1, fault⟩ := by
          rw [Reader.next, nextFrom, hfault]
        rw [readFrom_of_fault hfault]
        exact .fail hnext

theorem yields_iff {script : Bytes} {items : List (Nat × Entry)} {ending : Option ScriptFault} :
    (Reader.of script).Yields items ending ↔ read script = (items, ending) := by
  have hyields : (Reader.of script).Yields (read script).1 (read script).2 :=
    yields_readFrom (lines script) 0
  constructor
  · intro h
    obtain ⟨hitems, hending⟩ := h.unique hyields
    exact Prod.ext hitems hending
  · intro h
    rwa [h] at hyields

/-! ## Which lines are reported -/

/-- The line stands behind so many others, all of which are text. -/
structure Reached (ls : List Bytes) (before : Nat) (line : Bytes) : Prop where
  getElem? : ls[before]? = some line
  isText : ∀ front ∈ ls.take before, Utf8.IsText front

theorem reached_zero {first line : Bytes} {more : List Bytes} :
    Reached (first :: more) 0 line ↔ line = first := by
  constructor
  · intro h
    exact (Option.some.inj h.getElem?).symm
  · rintro rfl
    exact ⟨rfl, List.forall_mem_nil _⟩

theorem reached_succ {first line : Bytes} {more : List Bytes} {before : Nat} :
    Reached (first :: more) (before + 1) line ↔
      Utf8.IsText first ∧ Reached more before line := by
  constructor
  · rintro ⟨hline, htext⟩
    rw [List.take_succ_cons, List.forall_mem_cons] at htext
    exact ⟨htext.1, hline, htext.2⟩
  · rintro ⟨hfirst, hline, htext⟩
    refine ⟨hline, ?_⟩
    rw [List.take_succ_cons, List.forall_mem_cons]
    exact ⟨hfirst, htext⟩

/-- A line that is reached is the first one, or it is reached behind the first one. -/
theorem exists_reached_cons {first : Bytes} {more : List Bytes} {holds : Nat → Bytes → Prop} :
    (∃ before line, Reached (first :: more) before line ∧ holds before line) ↔
      holds 0 first ∨ Utf8.IsText first ∧
        ∃ before line, Reached more before line ∧ holds (before + 1) line := by
  constructor
  · rintro ⟨before, line, hreached, hholds⟩
    cases before with
    | zero =>
        obtain rfl := reached_zero.1 hreached
        exact Or.inl hholds
    | succ before =>
        obtain ⟨hfirst, hmore⟩ := reached_succ.1 hreached
        exact Or.inr ⟨hfirst, before, line, hmore, hholds⟩
  · rintro (hholds | ⟨hfirst, before, line, hreached, hholds⟩)
    · exact ⟨0, first, reached_zero.2 rfl, hholds⟩
    · exact ⟨before + 1, line, reached_succ.2 ⟨hfirst, hreached⟩, hholds⟩

theorem not_reached_nil {before : Nat} {line : Bytes} : ¬Reached [] before line :=
  fun h => nomatch h.getElem?

/-- The line is a text that says the entry. -/
def Says (line : Bytes) (e : Entry) : Prop :=
  ∃ text, Utf8.encode text = line ∧ entry? text = some e

theorem says_encode {text : String} {e : Entry} :
    Says (Utf8.encode text) e ↔ entry? text = some e := by
  constructor
  · rintro ⟨other, hother, hentry⟩
    rwa [← Utf8.encode_injective hother]
  · intro hentry
    exact ⟨text, rfl, hentry⟩

/-- The entries are those of the lines that are reached. -/
theorem mem_readFrom_iff {ls : List Bytes} {number k : Nat} {e : Entry} :
    (k, e) ∈ (readFrom number ls).1 ↔
      ∃ before line, Reached ls before line ∧ k = number + before ∧ Says line e := by
  induction ls generalizing number with
  | nil =>
      refine iff_of_false List.not_mem_nil ?_
      rintro ⟨before, line, hreached, -⟩
      exact not_reached_nil hreached
  | cons first more ih =>
      rw [exists_reached_cons]
      rcases Utf8.isText_or_exists_fault first with ⟨text, rfl⟩ | ⟨fault, hfault⟩
      · rw [readFrom_encode, List.mem_append, ih, says_encode]
        refine or_congr mem_item?_iff ?_
        · simp only [Nat.add_assoc, Nat.add_comm 1]
          exact (and_iff_right ⟨text, rfl⟩).symm
      · have hno := Utf8.not_isText_of_fault hfault
        rw [readFrom_of_fault hfault]
        refine iff_of_false List.not_mem_nil ?_
        rintro (⟨-, text, htext, -⟩ | ⟨htext, -⟩)
        · exact hno ⟨text, htext⟩
        · exact hno htext

/-- Reading ends at the first line that is not text. -/
theorem readFrom_eq_some_iff {ls : List Bytes} {number k : Nat} {fault : Utf8.Fault} :
    (readFrom number ls).2 = some ⟨k, fault⟩ ↔
      ∃ before line, Reached ls before line ∧ k = number + before ∧
        Utf8.decode line = .error fault := by
  induction ls generalizing number with
  | nil =>
      refine iff_of_false (Option.some_ne_none _).symm ?_
      rintro ⟨before, line, hreached, -⟩
      exact not_reached_nil hreached
  | cons first more ih =>
      rw [exists_reached_cons]
      rcases Utf8.isText_or_exists_fault first with ⟨text, rfl⟩ | ⟨other, hother⟩
      · rw [readFrom_encode, ih, Utf8.decode_encode]
        simp only [Nat.add_assoc, Nat.add_comm 1, reduceCtorEq, and_false, false_or]
        exact (and_iff_right ⟨text, rfl⟩).symm
      · have hno := Utf8.not_isText_of_fault hother
        rw [readFrom_of_fault hother, hother]
        simp [hno, eq_comm]

/-- Later entries come from later lines. -/
theorem pairwise_readFrom (ls : List Bytes) (number : Nat) :
    (readFrom number ls).1.Pairwise fun first second => first.1 < second.1 := by
  induction ls generalizing number with
  | nil => exact .nil
  | cons first more ih =>
      rcases Utf8.isText_or_exists_fault first with ⟨text, rfl⟩ | ⟨fault, hfault⟩
      · rw [readFrom_encode, List.pairwise_append]
        refine ⟨?_, ih (number + 1), ?_⟩
        · cases item? number text with
          | none => exact .nil
          | some item => exact List.pairwise_singleton _ _
        · rintro ⟨k, e⟩ hfirst ⟨l, g⟩ hsecond
          obtain ⟨before, line, -, rfl, -⟩ := mem_readFrom_iff.1 hsecond
          obtain ⟨rfl, -⟩ := mem_item?_iff.1 hfirst
          exact Nat.lt_of_lt_of_le (Nat.lt_succ_self _) (Nat.le_add_right _ _)
      · rw [readFrom_of_fault hfault]
        exact .nil

/-! ## Ends of lines -/

/-- The characters with a carriage return in front of every line feed. -/
def withReturns (cs : List Char) : List Char :=
  cs.flatMap fun c => if c = '\n' then ['\r', '\n'] else [c]

theorem withReturns_of_no_feed {line : List Char} (hline : '\n' ∉ line) :
    withReturns line = line := by
  have hsame : ∀ c ∈ line, (if c = '\n' then ['\r', '\n'] else [c]) = [c] := by
    intro c hc
    rw [if_neg]
    rintro rfl
    exact hline hc
  rw [withReturns, List.flatMap_congr hsame, List.flatMap_singleton']

theorem withReturns_line {line : List Char} (hline : '\n' ∉ line) (rest : List Char) :
    withReturns (line ++ '\n' :: rest) = line ++ ['\r'] ++ '\n' :: withReturns rest := by
  have hfront : withReturns (line ++ '\n' :: rest) =
      withReturns line ++ '\r' :: '\n' :: withReturns rest := List.flatMap_append
  rw [hfront, withReturns_of_no_feed hline, List.append_assoc]
  rfl

/-- A carriage return in front of every line feed changes nothing.  One of the carriage returns in
front of a line feed belongs to the end of the line, and the others are blanks. -/
theorem readFrom_withReturns (text : List Char) (number : Nat) :
    readFrom number (lines (Utf8.encode (String.ofList (withReturns text)))) =
      readFrom number (lines (Utf8.encode (String.ofList text))) := by
  induction text using Text.line_induction '\n' generalizing number with
  | last line hline => rw [withReturns_of_no_feed hline]
  | line line rest hline ih =>
      have hreturned : '\n' ∉ line ++ ['\r'] := by
        rw [List.mem_append, not_or]
        exact ⟨hline, by decide⟩
      have hdrop : dropReturn (Utf8.encode (String.ofList (line ++ ['\r']))) =
          Utf8.encode (String.ofList line) := by
        rw [String.ofList_append, Utf8.encode_append]
        exact dropReturn_append _
      obtain ⟨kept, hkept, htrim⟩ := exists_dropReturn_encode line
      rw [withReturns_line hline, lines_encode_append_feed hreturned,
        lines_encode_append_feed hline, hdrop, hkept, readFrom_encode, readFrom_encode, ih,
        item?, item?, entry?_ofList_congr htrim]

/-! ## The report of a reader -/

theorem entry?_eq_some_iff {text : String} {e : Entry} :
    entry? text = some e ↔ ∃ c cs, Text.trim text.toList = c :: cs ∧ c ≠ '#' ∧
      entry (String.ofList (c :: cs)) = e := by
  unfold entry?
  split
  next htrim => simp [htrim]
  next cs htrim => simp [htrim]
  next trimmed hne hcomment =>
    obtain ⟨c, cs, htrim⟩ := List.exists_cons_of_ne_nil hne
    have hc : c ≠ '#' := by
      rintro rfl
      exact hcomment cs htrim
    simp [htrim, hc]

/-- A script has certain lines, and a reader that is asked again and again reports some of them.
It reports exactly the lines in front of the first one that is not text, or all lines, that are
neither blank nor comments, each with what it says without the blanks around it and with its
number counted from one, in order.  Then it fails with the number of the first line that is not
text, or it is at the end if there is none.  It makes no difference whether the lines of a text end
with line feeds or with a carriage return in front of each. -/
theorem reports_lines_in_order :
    (∀ script : Bytes, ∃ ls items ending,
      (∀ others, HasLines script others ↔ others = ls) ∧
      (∀ others last, (Reader.of script).Yields others last ↔ others = items ∧ last = ending) ∧
      read script = (items, ending) ∧
      (∀ k e, (k, e) ∈ items ↔ ∃ before line, Reached ls before line ∧ k = before + 1 ∧
        ∃ text c cs, Utf8.encode text = line ∧ Text.trim text.toList = c :: cs ∧ c ≠ '#' ∧
          entry (String.ofList (c :: cs)) = e) ∧
      items.Pairwise (fun first second => first.1 < second.1) ∧
      (∀ k fault, ending = some ⟨k, fault⟩ ↔ ∃ before line, Reached ls before line ∧
        k = before + 1 ∧ Utf8.decode line = .error fault) ∧
      (ending = none ↔ ∀ line ∈ ls, Utf8.IsText line)) ∧
    ∀ text : List Char,
      read (Utf8.encode (String.ofList (withReturns text))) =
        read (Utf8.encode (String.ofList text)) := by
  constructor
  · intro script
    refine ⟨lines script, (read script).1, (read script).2, fun others => hasLines_iff, ?_, rfl, ?_,
      pairwise_readFrom _ _, ?_, readFrom_eq_none_iff⟩
    · intro others last
      rw [yields_iff, Prod.ext_iff, eq_comm, @eq_comm _ (read script).2]
    · intro k e
      rw [read, mem_readFrom_iff]
      simp only [Says, entry?_eq_some_iff, Nat.add_comm 1, exists_and_left]
    · intro k fault
      rw [read, readFrom_eq_some_iff]
      simp only [Nat.add_comm 1]
  · intro text
    exact readFrom_withReturns text 1

/-- The second line is a comment, the third one is blank, and the fifth one is not text. -/
example : read (Utf8.encode "14 00 01\n# live\n \r\ntrack 7\r\n" ++ [0xFF, 0x0A, 0x31]) =
    ([(1, .frame [0x14, 0x00, 0x01]), (4, .track (some 7))], some ⟨5, ⟨0, some 1⟩⟩) := by
  decide

end Script
end DeviceFeed
