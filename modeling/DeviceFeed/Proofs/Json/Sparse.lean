import DeviceFeed.Proofs.Json.Structures
import Mathlib.Data.List.Nodup

/-!
# Sparse objects

An object need not write what a structure has by default, its members may come in any order,
and members that the structure does not have may stand between them.  After some members have
been read, a structure depends only on which of its own names were among them.  `Sparse` says
which objects are written for a structure in this way, and by induction on the members each
of them is read as the structure.
-/

namespace DeviceFeed.Json

variable {α β : Type}

/-- A member that may be written for a structure. -/
structure Slot where
  name : String
  /-- Whether a text stands for the value of the member. -/
  writes : String → Prop
  /-- Whether the member may be left out. -/
  isUsual : Prop

/-- A text with blanks in front of it. -/
def Behind (p : String → Prop) (value : String) : Prop :=
  ∃ gap text, Gap gap ∧ p text ∧ value = gap ++ text

/-- The members of an object that is written for a structure. -/
structure Sparse (slots : List Slot) (entries : List (String × String)) : Prop where
  writes : ∀ slot ∈ slots, ∀ value, (slot.name, value) ∈ entries → Behind slot.writes value
  once : ∀ slot ∈ slots, (entries.map Prod.fst).count slot.name ≤ 1
  usual : ∀ slot ∈ slots, slot.name ∉ entries.map Prod.fst → slot.isUsual
  /-- Members with other names hold scalars. -/
  other : ∀ name value, (name, value) ∈ entries → name ∉ slots.map Slot.name →
    Behind Scalar value

theorem Behind.of_text {p : String → Prop} {text : String} (h : p text) : Behind p text :=
  ⟨"", text, gap_empty, h, text.empty_append.symm⟩

/-- An object that writes each slot once leaves nothing out and adds nothing. -/
theorem sparse_of_forall₂ {slots : List Slot} {entries : List (String × String)}
    (h : List.Forall₂ (fun slot entry => entry.1 = slot.name ∧ slot.writes entry.2) slots entries)
    (hnodup : (slots.map Slot.name).Nodup) : Sparse slots entries := by
  have hwritten : ∀ entry ∈ entries, ∃ slot ∈ slots,
      entry.1 = slot.name ∧ slot.writes entry.2 := by
    clear hnodup
    induction h with
    | nil => intro entry hentry; cases hentry
    | @cons slot entry slots entries hfirst _ ih =>
        intro other hother
        rcases List.mem_cons.1 hother with rfl | hmore
        · exact ⟨slot, List.mem_cons_self, hfirst⟩
        · obtain ⟨found, hfound, hwrites⟩ := ih other hmore
          exact ⟨found, List.mem_cons_of_mem _ hfound, hwrites⟩
  have hnames : entries.map Prod.fst = slots.map Slot.name := by
    clear hnodup hwritten
    induction h with
    | nil => rfl
    | cons hfirst _ ih => rw [List.map_cons, List.map_cons, hfirst.1, ih]
  constructor
  · intro slot hslot value hvalue
    obtain ⟨found, hfound, hname, hwrites⟩ := hwritten _ hvalue
    obtain rfl := List.inj_on_of_nodup_map hnodup hslot hfound hname
    exact .of_text hwrites
  · intro slot _
    rw [hnames]
    exact List.nodup_iff_count_le_one.1 hnodup slot.name
  · intro slot hslot habsent
    rw [hnames] at habsent
    exact absurd (List.mem_map_of_mem hslot) habsent
  · intro name value hentry hother
    rw [← hnames] at hother
    exact absurd (List.mem_map_of_mem hentry) hother

/-- A structure that is filled slot by slot: after some names have been read, it depends on
these names only, and it is as wanted when each other slot has its usual value. -/
structure Accumulates (shape : Shape α) (slots : List Slot) (after : List String → α)
    (a : α) : Prop where
  known : ∀ slot ∈ slots, ∃ m, shape.members.find? (·.name == slot.name) = some m ∧
    ∀ seen value, Behind slot.writes value →
      Reads (m.fill (after seen)) value (after (slot.name :: seen))
  names : shape.members.map (·.name) = slots.map Slot.name
  optional : ∀ m ∈ shape.members, m.required = false
  blank : after [] = shape.blank
  complete : ∀ filled, (∀ slot ∈ slots, slot.name ∉ filled → slot.isUsual) → after filled = a

theorem Behind.reads {p : String → Prop} {value : String} (h : Behind p value) {read : Reader α}
    {a : α} (hskips : SkipsBlanks read) (hread : ∀ text, p text → Reads read text a) :
    Reads read value a := by
  obtain ⟨gap, text, hgap, htext, rfl⟩ := h
  exact (hread text htext).gap hskips hgap

/-- A member is filled in if it sets what its name adds. -/
theorem fills_member {name : String} {p : String → Prop} {after : List String → α}
    {required : Bool} {read : Reader β} {set : α → β → α} {b : β} (hskips : SkipsBlanks read)
    (hread : ∀ text, p text → Reads read text b)
    (hset : ∀ seen, set (after seen) b = after (name :: seen)) (seen : List String)
    (value : String) (hvalue : Behind p value) :
    Reads ((member name required read set).fill (after seen)) value (after (name :: seen)) := by
  rw [← hset seen]
  exact reads_member (hvalue.reads hskips hread) _

namespace Accumulates

variable {shape : Shape α} {slots : List Slot} {after : List String → α} {a : α}

theorem find?_eq_none (h : Accumulates shape slots after a) {name : String}
    (hname : name ∉ slots.map Slot.name) : shape.members.find? (·.name == name) = none := by
  rw [← h.names] at hname
  rw [List.find?_eq_none]
  intro m hm hsame
  exact hname (List.mem_map.2 ⟨m, hm, beq_iff_eq.1 hsame⟩)

/-- The members of a sparse object are gathered one after another. -/
theorem gathers (h : Accumulates shape slots after a) {entries : List (String × String)}
    (seen : List String)
    (hwrites : ∀ slot ∈ slots, ∀ value, (slot.name, value) ∈ entries →
      Behind slot.writes value)
    (honce : ∀ slot ∈ slots, (entries.map Prod.fst).count slot.name ≤ 1)
    (hother : ∀ name value, (name, value) ∈ entries → name ∉ slots.map Slot.name →
      Behind Scalar value)
    (hnew : ∀ slot ∈ slots, slot.name ∈ seen → slot.name ∉ entries.map Prod.fst) :
    ∃ filled, Gathers shape.members seen (after seen) entries filled (after filled) ∧
      ∀ slot ∈ slots, slot.name ∉ filled → slot.name ∉ seen ∧
        slot.name ∉ entries.map Prod.fst := by
  -- the names that were seen do not come again, so no member is refused as a duplicate
  induction entries generalizing seen with
  | nil => exact ⟨seen, .done seen _, fun slot _ habsent => ⟨habsent, List.not_mem_nil⟩⟩
  | cons entry entries ih =>
      obtain ⟨name, value⟩ := entry
      have hcount : ∀ slot ∈ slots, (entries.map Prod.fst).count slot.name ≤ 1 :=
        fun slot hslot => Nat.le_trans (List.count_le_count_cons) (honce slot hslot)
      have hmore := fun seen => ih seen
        (fun slot hslot value hmem => hwrites slot hslot value (List.mem_cons_of_mem _ hmem))
        hcount
        (fun name value hmem => hother name value (List.mem_cons_of_mem _ hmem))
      by_cases hname : name ∈ slots.map Slot.name
      · obtain ⟨slot, hslot, rfl⟩ := List.mem_map.1 hname
        obtain ⟨m, hfind, hread⟩ := h.known slot hslot
        have hfresh : slot.name ∉ seen := fun hseen =>
          hnew slot hslot hseen List.mem_cons_self
        have hlast : slot.name ∉ entries.map Prod.fst := by
          have honly := honce slot hslot
          rw [List.map_cons, List.count_cons_self] at honly
          exact List.count_eq_zero.1 (by omega)
        have hvalue := hread seen value (hwrites slot hslot value List.mem_cons_self)
        obtain ⟨filled, hgathers, habsent⟩ := hmore (slot.name :: seen) (by
          intro other hother hin
          rcases List.mem_cons.1 hin with hsame | hseen
          · rw [hsame]
            exact hlast
          · exact fun hmem => hnew other hother hseen (List.mem_cons_of_mem _ hmem))
        refine ⟨filled, .fill hfind hfresh hvalue hgathers, fun other hother hnot => ?_⟩
        obtain ⟨hseen, hentries⟩ := habsent other hother hnot
        rw [List.mem_cons, not_or] at hseen
        exact ⟨hseen.2, List.not_mem_cons_of_ne_of_not_mem hseen.1 hentries⟩
      · have hskip (size : Nat) : Reads (Reader.skip size) value () :=
          (hother name value List.mem_cons_self hname).reads (skipsBlanks_skip size)
            fun _ htext => reads_skip htext size
        obtain ⟨filled, hgathers, habsent⟩ := hmore seen
          fun slot hslot hseen hmem => hnew slot hslot hseen (List.mem_cons_of_mem _ hmem)
        refine ⟨filled, .skip (h.find?_eq_none hname) hskip hgathers,
          fun slot hslot hnot => ?_⟩
        obtain ⟨hseen, hentries⟩ := habsent slot hslot hnot
        have hne : slot.name ≠ name := fun heq => hname (heq ▸ List.mem_map_of_mem hslot)
        exact ⟨hseen, List.not_mem_cons_of_ne_of_not_mem hne hentries⟩

/-- A sparse object is read as the structure, with the usual values of what is left out. -/
theorem reads_object (h : Accumulates shape slots after a) {entries : List (String × String)}
    {text : String} (hsparse : Sparse slots entries) (hobject : SpacedObject entries text) :
    Reads (Reader.struct shape) text a := by
  obtain ⟨filled, hgathers, habsent⟩ := h.gathers [] hsparse.writes hsparse.once hsparse.other
    fun _ _ hin => absurd hin List.not_mem_nil
  have hfull : after filled = a := h.complete filled fun slot hslot hnot =>
    hsparse.usual slot hslot (habsent slot hslot hnot).2
  rw [h.blank, hfull] at hgathers
  refine Json.reads_object hgathers ?_ hobject
  intro m hm hrequired
  rw [h.optional m hm] at hrequired
  cases hrequired

end Accumulates

end DeviceFeed.Json
