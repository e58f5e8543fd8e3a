import DeviceFeed.Text.Blank
import Mathlib.Data.List.Basic
import Mathlib.Data.List.TakeWhile
import Mathlib.Tactic.Common

/-!
# Cutting a text at separators

This file follows a text from the left.  What stands in front of the first
separator is the first piece, blanks in front do not count for words, and trimming
takes off the blanks at both ends and nothing else.
-/

namespace DeviceFeed.Text

/-! ## Pieces -/

section

variable {α : Type} {isSeparator : α → Bool}

theorem pieces_cons_of_separator {c : α} (h : isSeparator c = true) (cs : List α) :
    pieces isSeparator (c :: cs) = [] :: pieces isSeparator cs :=
  if_pos h

theorem pieces_ne_nil (isSeparator : α → Bool) (cs : List α) : pieces isSeparator cs ≠ [] := by
  cases cs with
  | nil => exact List.cons_ne_nil _ _
  | cons c cs =>
      change consPiece isSeparator c (pieces isSeparator cs) ≠ []
      unfold consPiece
      split
      · exact List.cons_ne_nil _ _
      · split
        · exact List.cons_ne_nil _ _
        · exact List.cons_ne_nil _ _

/-- Without a separator between them, characters in front belong to the first
piece. -/
theorem pieces_append {front cs piece : List α} {more : List (List α)}
    (hfront : ∀ c ∈ front, isSeparator c = false) (hcs : pieces isSeparator cs = piece :: more) :
    pieces isSeparator (front ++ cs) = (front ++ piece) :: more := by
  induction front with
  | nil => exact hcs
  | cons c front ih =>
      have hc := hfront c List.mem_cons_self
      have hrest := ih fun d hd => hfront d (List.mem_cons_of_mem _ hd)
      change consPiece isSeparator c (pieces isSeparator (front ++ cs)) = _
      rw [hrest, consPiece, if_neg (ne_true_of_eq_false hc)]
      rfl

theorem pieces_of_no_separator {cs : List α} (h : ∀ c ∈ cs, isSeparator c = false) :
    pieces isSeparator cs = [cs] := by
  have hpieces := pieces_append h (rfl : pieces isSeparator [] = [[]])
  rwa [List.append_nil] at hpieces

theorem pieces_append_separator {front : List α} (hfront : ∀ c ∈ front, isSeparator c = false)
    {c : α} (hc : isSeparator c = true) (cs : List α) :
    pieces isSeparator (front ++ c :: cs) = front :: pieces isSeparator cs := by
  rw [pieces_append hfront (pieces_cons_of_separator hc cs), List.append_nil]

/-- Lines without a newline inside are the pieces of what is written for them. -/
theorem pieces_unlines {lines : List String} (h : ∀ line ∈ lines, '\n' ∉ line.toList) :
    pieces (· == '\n') (unlines lines).toList = lines.map String.toList ++ [[]] := by
  induction lines with
  | nil =>
      rw [unlines, String.toList_join]
      rfl
  | cons line lines ih =>
      have hline : ∀ c ∈ line.toList, (c == '\n') = false := by
        intro c hc
        rw [beq_eq_false_iff_ne]
        rintro rfl
        exact h line List.mem_cons_self hc
      have hcons : (unlines (line :: lines)).toList =
          line.toList ++ '\n' :: (unlines lines).toList := by
        rw [unlines, unlines, String.toList_join, String.toList_join, List.map_cons,
          List.flatMap_cons, String.toList_append, List.append_assoc]
        rfl
      rw [hcons, pieces_append_separator hline (beq_self_eq_true _),
        ih fun other hother => h other (List.mem_cons_of_mem _ hother)]
      rfl

/-- A character that is no separator belongs to the first piece. -/
theorem exists_pieces_cons {c : α} (hc : isSeparator c = false) (cs : List α) :
    ∃ piece more, pieces isSeparator cs = piece :: more ∧
      pieces isSeparator (c :: cs) = (c :: piece) :: more := by
  obtain ⟨piece, more, hcs⟩ := List.exists_cons_of_ne_nil (pieces_ne_nil isSeparator cs)
  have hfront : ∀ d ∈ [c], isSeparator d = false := List.forall_mem_singleton.2 hc
  exact ⟨piece, more, hcs, pieces_append hfront hcs⟩

/-- Cutting at separators is the library's splitting. -/
theorem pieces_eq_splitOnP (isSeparator : α → Bool) (cs : List α) :
    pieces isSeparator cs = cs.splitOnP isSeparator := by
  induction cs with
  | nil => rfl
  | cons c cs ih =>
      rw [List.splitOnP_cons_eq_if_modifyHead, ← ih]
      cases hc : isSeparator c with
      | true => rw [pieces_cons_of_separator hc, if_pos rfl]
      | false =>
          obtain ⟨piece, more, hcs, hpieces⟩ := exists_pieces_cons hc cs
          rw [hpieces, hcs, if_neg Bool.false_ne_true, List.modifyHead_cons]

/-- There is one piece more than there are separators. -/
theorem length_pieces (isSeparator : α → Bool) (cs : List α) :
    (pieces isSeparator cs).length = cs.countP isSeparator + 1 := by
  induction cs with
  | nil => rfl
  | cons c cs ih =>
      cases hc : isSeparator c with
      | true =>
          rw [pieces_cons_of_separator hc, List.length_cons, ih, List.countP_cons_of_pos hc]
      | false =>
          obtain ⟨piece, more, hcs, hpieces⟩ := exists_pieces_cons hc cs
          rw [List.countP_cons_of_neg (ne_true_of_eq_false hc), ← ih, hpieces, hcs,
            List.length_cons, List.length_cons]

/-- No piece has a separator in it. -/
theorem not_separator_of_mem_pieces {cs piece : List α} (hpiece : piece ∈ pieces isSeparator cs) :
    ∀ c ∈ piece, isSeparator c = false := by
  induction cs generalizing piece with
  | nil =>
      obtain rfl := List.mem_singleton.1 hpiece
      exact fun c hc => absurd hc List.not_mem_nil
  | cons d cs ih =>
      cases hd : isSeparator d with
      | true =>
          rw [pieces_cons_of_separator hd] at hpiece
          rcases List.mem_cons.1 hpiece with rfl | hmem
          · exact fun c hc => absurd hc List.not_mem_nil
          · exact ih hmem
      | false =>
          obtain ⟨first, more, hcs, hpieces⟩ := exists_pieces_cons hd cs
          rw [hcs] at ih
          rw [hpieces] at hpiece
          rcases List.mem_cons.1 hpiece with rfl | hmem
          · rw [List.forall_mem_cons]
            exact ⟨hd, ih List.mem_cons_self⟩
          · exact ih (List.mem_cons_of_mem _ hmem)

theorem mem_of_mem_pieces {cs piece : List α} (hpiece : piece ∈ pieces isSeparator cs) {c : α}
    (hc : c ∈ piece) : c ∈ cs := by
  induction cs generalizing piece with
  | nil =>
      obtain rfl := List.mem_singleton.1 hpiece
      exact hc
  | cons d cs ih =>
      cases hd : isSeparator d with
      | true =>
          rw [pieces_cons_of_separator hd] at hpiece
          rcases List.mem_cons.1 hpiece with rfl | hmem
          · cases hc
          · exact List.mem_cons_of_mem _ (ih hmem hc)
      | false =>
          obtain ⟨first, more, hcs, hpieces⟩ := exists_pieces_cons hd cs
          rw [hcs] at ih
          rw [hpieces] at hpiece
          rcases List.mem_cons.1 hpiece with rfl | hmem
          · rcases List.mem_cons.1 hc with rfl | hin
            · exact List.mem_cons_self
            · exact List.mem_cons_of_mem _ (ih List.mem_cons_self hin)
          · exact List.mem_cons_of_mem _ (ih (List.mem_cons_of_mem _ hmem) hc)

/-- What holds of a text without separators, and of a text when it holds of what follows the
first separator, holds of every text. -/
@[elab_as_elim]
theorem line_induction (separator : α) {motive : List α → Prop}
    (last : ∀ line, separator ∉ line → motive line)
    (line : ∀ line rest, separator ∉ line → motive rest → motive (line ++ separator :: rest))
    (text : List α) : motive text := by
  induction hlength : text.length using Nat.strongRecOn generalizing text with
  | ind length ih =>
      by_cases hseparator : separator ∈ text
      · obtain ⟨front, rest, rfl, hfront⟩ := List.eq_append_cons_of_mem hseparator
        have hshorter : rest.length < length := by
          rw [← hlength, List.length_append, List.length_cons]
          omega
        exact line front rest hfront (ih rest.length hshorter rest rfl)
      · exact last text hseparator

end

/-! ## Words -/

theorem mem_of_mem_words {cs word : List Char} (hword : word ∈ words cs) {c : Char}
    (hc : c ∈ word) : c ∈ cs :=
  mem_of_mem_pieces (List.mem_filter.1 hword).1 hc

/-- A text is cut into words at each of its blanks. -/
theorem words_append_cons {c : Char} (hc : isBlank c = true) (front rest : List Char) :
    words (front ++ c :: rest) = words front ++ words rest := by
  simp only [words, pieces_eq_splitOnP]
  rw [List.splitOnP_append_cons front rest hc, List.filter_append]

/-- Blanks in front belong to no word. -/
theorem words_append_blanks {front : List Char} (hfront : ∀ c ∈ front, isBlank c = true)
    (cs : List Char) : words (front ++ cs) = words cs := by
  induction front with
  | nil => rfl
  | cons c front ih =>
      rw [List.forall_mem_cons] at hfront
      exact (words_append_cons hfront.1 [] (front ++ cs)).trans (ih hfront.2)

theorem words_of_word {word : List Char} (hne : word ≠ [])
    (hword : ∀ c ∈ word, isBlank c = false) : words word = [word] := by
  rw [words, pieces_of_no_separator hword]
  simp [hne]

/-- A word ends at the first blank. -/
theorem words_append_word {word gap : List Char} (hne : word ≠ [])
    (hword : ∀ c ∈ word, isBlank c = false) (hgap : gap ≠ [])
    (hblank : ∀ c ∈ gap, isBlank c = true) (cs : List Char) :
    words (word ++ gap ++ cs) = word :: words cs := by
  obtain ⟨c, gap, rfl⟩ := List.exists_cons_of_ne_nil hgap
  rw [List.forall_mem_cons] at hblank
  rw [List.append_assoc, List.cons_append, words_append_cons hblank.1, words_of_word hne hword,
    words_append_blanks hblank.2, List.singleton_append]

/-- The text consists of the words, with blanks between them and perhaps around them. -/
inductive HasWords : List Char → List (List Char) → Prop
  | nil : HasWords [] []
  | blank {c : Char} {rest : List Char} {ws : List (List Char)} (hc : isBlank c = true)
      (hrest : HasWords rest ws) : HasWords (c :: rest) ws
  | last {word : List Char} (hne : word ≠ []) (hword : ∀ c ∈ word, isBlank c = false) :
      HasWords word [word]
  | word {word rest : List Char} {c : Char} {more : List (List Char)} (hne : word ≠ [])
      (hword : ∀ c ∈ word, isBlank c = false) (hc : isBlank c = true)
      (hrest : HasWords rest more) : HasWords (word ++ c :: rest) (word :: more)

theorem HasWords.words_eq {cs : List Char} {ws : List (List Char)} (h : HasWords cs ws) :
    words cs = ws := by
  induction h with
  | nil => rfl
  | @blank c rest ws hc hrest ih => exact (words_append_cons hc [] rest).trans ih
  | last hne hword => exact words_of_word hne hword
  | word hne hword hc hrest ih =>
      rw [words_append_cons hc, words_of_word hne hword, ih, List.singleton_append]

/-- A character in front that is no blank is a word of its own or belongs to the first one. -/
theorem HasWords.exists_cons {cs : List Char} {ws : List (List Char)} (h : HasWords cs ws)
    {c : Char} (hc : isBlank c = false) : ∃ others, HasWords (c :: cs) others := by
  have hsingle : ∀ d ∈ [c], isBlank d = false := List.forall_mem_singleton.2 hc
  cases h with
  | nil => exact ⟨_, .last (List.cons_ne_nil c []) hsingle⟩
  | blank hblank hrest => exact ⟨_, .word (List.cons_ne_nil c []) hsingle hblank hrest⟩
  | last hne hword =>
      exact ⟨_, .last (List.cons_ne_nil c _) (List.forall_mem_cons.2 ⟨hc, hword⟩)⟩
  | word hne hword hblank hrest =>
      exact ⟨_, .word (List.cons_ne_nil c _) (List.forall_mem_cons.2 ⟨hc, hword⟩) hblank hrest⟩

theorem hasWords_words (cs : List Char) : HasWords cs (words cs) := by
  induction cs with
  | nil => exact .nil
  | cons c cs ih =>
      cases hc : isBlank c with
      | true =>
          rw [(ih.blank hc).words_eq]
          exact ih.blank hc
      | false =>
          obtain ⟨others, hothers⟩ := ih.exists_cons hc
          rwa [hothers.words_eq]

theorem hasWords_iff {cs : List Char} {ws : List (List Char)} : HasWords cs ws ↔ ws = words cs := by
  constructor
  · exact fun h => h.words_eq.symm
  · rintro rfl
    exact hasWords_words cs

/-! ## Trimming -/

theorem dropWhile_isBlank {cs : List Char} (hhead : ∀ c, cs.head? = some c → isBlank c = false) :
    cs.dropWhile isBlank = cs := by
  cases cs with
  | nil => rfl
  | cons c cs => exact List.dropWhile_cons_of_neg (ne_true_of_eq_false (hhead c rfl))

/-- Blanks in front make no difference. -/
theorem trim_blanks_append {front : List Char} (hfront : ∀ c ∈ front, isBlank c = true)
    (cs : List Char) : trim (front ++ cs) = trim cs := by
  rw [trim, List.dropWhile_append_of_pos hfront, trim]

/-- Blanks behind make no difference. -/
theorem trim_append_blanks {back : List Char} (hback : ∀ c ∈ back, isBlank c = true)
    (cs : List Char) : trim (cs ++ back) = trim cs := by
  rw [trim, trim, List.dropWhile_append]
  by_cases hempty : cs.dropWhile isBlank = []
  · rw [hempty, List.dropWhile_eq_nil_iff.2 hback]
    rfl
  · have hreverse : ∀ c ∈ back.reverse, isBlank c = true := fun c hc =>
      hback c (List.mem_reverse.1 hc)
    rw [if_neg (by simpa using hempty), trimRight, List.reverse_append,
      List.dropWhile_append_of_pos hreverse, trimRight]

/-- Blanks around a text that neither begins nor ends with one are taken off. -/
theorem trim_append {front cs back : List Char} (hfront : ∀ c ∈ front, isBlank c = true)
    (hhead : ∀ c, cs.head? = some c → isBlank c = false)
    (hlast : ∀ c, cs.getLast? = some c → isBlank c = false)
    (hback : ∀ c ∈ back, isBlank c = true) : trim (front ++ cs ++ back) = cs := by
  have hreverse : ∀ c, cs.reverse.head? = some c → isBlank c = false := by
    intro c hc
    rw [List.head?_reverse] at hc
    exact hlast c hc
  rw [trim_append_blanks hback, trim_blanks_append hfront, trim, dropWhile_isBlank hhead,
    trimRight, dropWhile_isBlank hreverse, List.reverse_reverse]

/-- The text is made of the given characters and blanks around them. -/
def Surrounds (text : String) (cs : List Char) : Prop :=
  ∃ front back, (∀ c ∈ front, isBlank c = true) ∧ (∀ c ∈ back, isBlank c = true) ∧
    text.toList = front ++ cs ++ back

/-- There may be no blanks at all. -/
theorem surrounds_of_toList_eq {text : String} {cs : List Char} (h : text.toList = cs) :
    Surrounds text cs :=
  ⟨[], [], List.forall_mem_nil _, List.forall_mem_nil _, by rw [h, List.append_nil]; rfl⟩

theorem Surrounds.trim_eq {text : String} {cs : List Char} (h : Surrounds text cs)
    (hcs : ∀ c ∈ cs, isBlank c = false) : trim text.toList = cs := by
  obtain ⟨front, back, hfront, hback, htext⟩ := h
  rw [htext]
  exact trim_append hfront (fun c hc => hcs c (List.mem_of_head? hc))
    (fun c hc => hcs c (List.mem_of_getLast? hc)) hback

theorem trim_of_blanks {cs : List Char} (h : ∀ c ∈ cs, isBlank c = true) : trim cs = [] := by
  rw [trim, List.dropWhile_eq_nil_iff.2 h]
  rfl

/-- Trimming at the end stops at a character that is no blank. -/
theorem trimRight_append_cons {c : Char} (hc : isBlank c = false) (front rest : List Char) :
    trimRight (front ++ c :: rest) = front ++ c :: trimRight rest := by
  have hstop : (c :: front.reverse).dropWhile isBlank = c :: front.reverse :=
    List.dropWhile_cons_of_neg (ne_true_of_eq_false hc)
  have hreverse : (front ++ c :: rest).reverse = rest.reverse ++ c :: front.reverse := by
    simp
  rw [trimRight, trimRight, hreverse, List.dropWhile_append, hstop]
  split
  next hempty =>
    rw [List.isEmpty_iff.1 hempty]
    simp
  next => simp

theorem filter_dropWhile {p q : Char → Bool} (h : ∀ c, q c = true → p c = false)
    (cs : List Char) : (cs.dropWhile q).filter p = cs.filter p := by
  induction cs with
  | nil => rfl
  | cons c cs ih =>
      cases hq : q c with
      | true =>
          rw [List.dropWhile_cons_of_pos hq, ih,
            List.filter_cons_of_neg (ne_true_of_eq_false (h c hq))]
      | false => rw [List.dropWhile_cons_of_neg (ne_true_of_eq_false hq)]

/-- Trimming takes off nothing but blanks. -/
theorem filter_trim {p : Char → Bool} (h : ∀ c, isBlank c = true → p c = false)
    (cs : List Char) : (trim cs).filter p = cs.filter p := by
  rw [trim, trimRight, List.filter_reverse, filter_dropWhile h, List.filter_reverse,
    List.reverse_reverse, filter_dropWhile h]

theorem exists_trimRight_append (cs : List Char) : ∃ back, trimRight cs ++ back = cs := by
  have hsuffix := (cs.reverse.dropWhile_suffix isBlank).reverse
  rw [List.reverse_reverse] at hsuffix
  exact hsuffix

theorem mem_of_mem_trim {cs : List Char} {c : Char} (h : c ∈ trim cs) : c ∈ cs := by
  obtain ⟨back, hback⟩ := exists_trimRight_append (cs.dropWhile isBlank)
  apply (List.dropWhile_suffix isBlank).subset
  rw [← hback]
  exact List.mem_append_left _ h

/-- A trimmed text does not begin with a blank. -/
theorem isBlank_of_trim_eq_cons {cs rest : List Char} {c : Char} (h : trim cs = c :: rest) :
    isBlank c = false := by
  obtain ⟨back, hback⟩ := exists_trimRight_append (cs.dropWhile isBlank)
  have hdrop : cs.dropWhile isBlank = c :: (rest ++ back) := by
    rw [← hback]
    exact congrArg (· ++ back) h
  have hhead := List.head?_dropWhile_not isBlank cs
  rw [hdrop] at hhead
  exact hhead

end DeviceFeed.Text
