import DeviceFeed.Field
import Mathlib.Data.List.Infix
import Mathlib.Logic.Function.Iterate

/-!
# Prefixes of device ids

A device id may carry a prefix, and reading it takes one prefix off.  Each field is a bare id
behind some number of prefixes, so each further reading takes one more of them off, until the
bare id is left.  Only behind a second prefix does it make a difference how often a field is
read.
-/

namespace DeviceFeed.Field

/-! ## One prefix -/

/-- A field names a device by its id, or by the id with one prefix in front of it. -/
def Names (field id : String) : Prop :=
  field = "0-" ++ id ∨ field = id ∧ ¬['0', '-'] <+: field.toList

theorem dropPrefix_of_bare {cs : List Char} (h : ¬['0', '-'] <+: cs) :
    dropPrefix cs = cs := by
  unfold dropPrefix
  split
  · next rest => exact absurd (List.prefix_append ['0', '-'] rest) h
  · rfl

theorem toList_prefixed (id : String) : ("0-" ++ id).toList = ['0', '-'] ++ id.toList := by
  rw [String.toList_append]
  rfl

theorem stripPrefix_prefixed (id : String) : stripPrefix ("0-" ++ id) = id := by
  rw [stripPrefix, toList_prefixed]
  exact String.ofList_toList

theorem stripPrefix_of_bare {field : String} (h : ¬['0', '-'] <+: field.toList) :
    stripPrefix field = field := by
  rw [stripPrefix, dropPrefix_of_bare h, String.ofList_toList]

/-- Every field names exactly one device. -/
theorem names_iff {field id : String} : Names field id ↔ stripPrefix field = id := by
  constructor
  · rintro (rfl | ⟨rfl, hbare⟩)
    · exact stripPrefix_prefixed id
    · exact stripPrefix_of_bare hbare
  · rintro rfl
    by_cases hprefix : ['0', '-'] <+: field.toList
    · obtain ⟨rest, hrest⟩ := hprefix
      have hfield : field = "0-" ++ String.ofList rest := by
        apply String.toList_injective
        rw [toList_prefixed, String.toList_ofList, hrest]
      left
      rw [hfield, stripPrefix_prefixed]
    · exact Or.inr ⟨(stripPrefix_of_bare hprefix).symm, hprefix⟩

/-! ## Any number of prefixes -/

/-- An id without a prefix. -/
def IsBare (id : String) : Prop :=
  ¬['0', '-'] <+: id.toList

instance (id : String) : Decidable (IsBare id) :=
  inferInstanceAs (Decidable (¬['0', '-'] <+: id.toList))

/-- An id with some prefixes in front of it. -/
def prefixed : ℕ → String → String
  | 0, id => id
  | n + 1, id => "0-" ++ prefixed n id

theorem isBare_iff {id : String} : IsBare id ↔ stripPrefix id = id := by
  constructor
  · exact stripPrefix_of_bare
  · rintro hsame ⟨rest, hrest⟩
    have hdropped : stripPrefix id = String.ofList rest := by
      rw [stripPrefix, ← hrest]
      rfl
    have hlength := congrArg List.length hrest
    rw [← hsame, hdropped, String.toList_ofList, List.length_append] at hlength
    change 2 + rest.length = rest.length at hlength
    omega

/-- Taking prefixes off ends at the bare id. -/
theorem iterate_stripPrefix {id : String} (hbare : IsBare id) (n k : ℕ) :
    stripPrefix^[k] (prefixed n id) = prefixed (n - k) id := by
  induction k generalizing n with
  | zero => rfl
  | succ k ih =>
      rw [Function.iterate_succ_apply]
      cases n with
      | zero =>
          have hstays : stripPrefix (prefixed 0 id) = prefixed 0 id := stripPrefix_of_bare hbare
          rw [hstays, ih, Nat.zero_sub, Nat.zero_sub]
      | succ n =>
          have hone : stripPrefix (prefixed (n + 1) id) = prefixed n id := stripPrefix_prefixed _
          rw [hone, ih, Nat.succ_sub_succ]

/-- Every field consists of prefixes and a bare id. -/
theorem exists_prefixed (field : String) : ∃ n id, IsBare id ∧ field = prefixed n id := by
  induction hlength : field.length using Nat.strong_induction_on generalizing field with
  | _ length ih =>
      rcases names_iff.2 (rfl : stripPrefix field = stripPrefix field) with hfield | ⟨-, hbare⟩
      · have hshorter : (stripPrefix field).length < length := by
          rw [← hlength, hfield, String.length_append, stripPrefix_prefixed]
          exact Nat.lt_add_of_pos_left (by decide)
        obtain ⟨n, id, hbare, hrest⟩ := ih _ hshorter _ rfl
        exact ⟨n + 1, id, hbare, hfield.trans (congrArg _ hrest)⟩
      · exact ⟨0, field, hbare, rfl⟩

/-! ## Taking a prefix off twice -/

/-- What is left of a field starts with a prefix exactly if the field starts with two. -/
theorem isBare_stripPrefix_iff {field : String} :
    IsBare (stripPrefix field) ↔ ¬['0', '-', '0', '-'] <+: field.toList := by
  rcases names_iff.2 (rfl : stripPrefix field = stripPrefix field) with hfield | ⟨hsame, hbare⟩
  · conv_rhs => rw [hfield, toList_prefixed]
    exact not_congr (List.prefix_append_right_inj ['0', '-']).symm
  · rw [← hsame]
    refine iff_of_true hbare fun htwo => hbare ?_
    exact (List.prefix_append ['0', '-'] ['0', '-']).trans htwo

/-- A second reading changes nothing unless there are two prefixes. -/
theorem stripPrefix_stripPrefix_iff {field : String} :
    stripPrefix (stripPrefix field) = stripPrefix field ↔
      ¬['0', '-', '0', '-'] <+: field.toList := by
  rw [← isBare_iff, isBare_stripPrefix_iff]

end DeviceFeed.Field
