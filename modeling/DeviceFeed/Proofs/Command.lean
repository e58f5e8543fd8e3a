import DeviceFeed.Command
import Mathlib.Data.List.Nodup

/-!
# Code tables

A code resolves to the first entry that has it, and a table is searched for the first two
entries that share a code.  Both go through the entries in the same order.  So a table without
a clash resolves each code to the command that has it, and in a table with one the second
command is never reached.
-/

namespace DeviceFeed
namespace CodeTable

section

variable {entries : List (Command × UInt8)} {clash : CodeClash}

/-! ## Looking a code up -/

/-- The command of the first entry that has a code. -/
def lookup? (entries : List (Command × UInt8)) (code : UInt8) : Option Command :=
  (entries.find? (·.2 == code)).map Prod.fst

theorem lookup?_cons (command : Command) (own code : UInt8) :
    lookup? ((command, own) :: entries) code =
      if code = own then some command else lookup? entries code := by
  unfold lookup?
  by_cases hcode : code = own
  · rw [if_pos hcode, List.find?_cons_of_pos (by simp [hcode])]
    rfl
  · rw [if_neg hcode, List.find?_cons_of_neg (by simpa using Ne.symm hcode)]

theorem mem_of_lookup? {command : Command} {code : UInt8}
    (h : lookup? entries code = some command) : (command, code) ∈ entries := by
  obtain ⟨⟨found, own⟩, hfind, rfl⟩ := Option.map_eq_some_iff.1 h
  have hcode : own = code := by simpa using List.find?_some hfind
  rw [← hcode]
  exact List.mem_of_find?_eq_some hfind

/-- The search for a code fails only if no entry has it. -/
theorem find?_code_eq_none_iff {code : UInt8} :
    entries.find? (·.2 == code) = none ↔ code ∉ entries.map Prod.snd := by
  simp only [List.find?_eq_none, List.mem_map, beq_iff_eq, not_exists, not_and]

theorem lookup?_eq_none_iff {code : UInt8} :
    lookup? entries code = none ↔ code ∉ entries.map Prod.snd := by
  rw [lookup?, Option.map_eq_none_iff, find?_code_eq_none_iff]

/-- The first entry that has a code is found. -/
theorem lookup?_of_first {i : ℕ} {command : Command} {code : UInt8}
    (h : entries[i]? = some (command, code))
    (hfirst : ∀ k < i, ∀ other, entries[k]? ≠ some (other, code)) :
    lookup? entries code = some command := by
  obtain ⟨hi, hget⟩ := List.getElem?_eq_some_iff.1 h
  have hfind : entries.find? (·.2 == code) = some (command, code) := by
    rw [List.find?_eq_some_iff_getElem]
    refine ⟨beq_self_eq_true code, i, hi, hget, ?_⟩
    intro k hk
    have hother := hfirst k hk entries[k].1
    rw [List.getElem?_eq_getElem (Nat.lt_trans hk hi), ne_eq, Option.some.injEq,
      Prod.ext_iff] at hother
    simpa using hother
  rw [lookup?, hfind]
  rfl

/-! ## Two entries with one code -/

/-- At these two places, the first one in front, a list has the commands of a clash, both with
its code. -/
structure ClashAt (entries : List (Command × UInt8)) (clash : CodeClash) (i j : ℕ) : Prop where
  lt : i < j
  first : entries[i]? = some (clash.first, clash.code)
  second : entries[j]? = some (clash.second, clash.code)

/-- A clash of a list before which there is no other: its first place is the least one, and its
second place the least one for the first. -/
def IsFirstClash (entries : List (Command × UInt8)) (clash : CodeClash) : Prop :=
  ∃ i j, ClashAt entries clash i j ∧
    ∀ other k l, ClashAt entries other k l → i < k ∨ i = k ∧ j ≤ l

theorem firstClash?_eq_none_iff (entries : List (Command × UInt8)) :
    firstClash? entries = none ↔ (entries.map Prod.snd).Nodup := by
  induction entries with
  | nil => exact iff_of_true rfl List.nodup_nil
  | cons entry entries ih =>
      obtain ⟨command, code⟩ := entry
      rw [List.map_cons, List.nodup_cons, ← ih, ← find?_code_eq_none_iff, firstClash?]
      cases entries.find? (·.2 == code) with
      | none => exact (and_iff_right rfl).symm
      | some other => exact iff_of_false (Option.some_ne_none _) fun h => Option.some_ne_none _ h.1

/-- The search goes through the pairs of places in order. -/
theorem isFirstClash_of_firstClash? (h : firstClash? entries = some clash) :
    IsFirstClash entries clash := by
  induction entries with
  | nil => cases h
  | cons entry entries ih =>
      obtain ⟨command, code⟩ := entry
      rw [firstClash?] at h
      cases hfind : entries.find? (·.2 == code) with
      | some found =>
          rw [hfind] at h
          obtain rfl := Option.some.inj h
          obtain ⟨hcode, place, hplace, rfl, hbefore⟩ := List.find?_eq_some_iff_getElem.1 hfind
          rw [beq_iff_eq] at hcode
          refine ⟨0, place + 1, ⟨place.succ_pos, rfl, ?_⟩, ?_⟩
          · rw [List.getElem?_cons_succ, List.getElem?_eq_getElem hplace]
            exact congrArg some (Prod.ext rfl hcode)
          · intro other k l hother
            cases k with
            | succ k => exact Or.inl k.succ_pos
            | zero =>
                refine Or.inr ⟨rfl, ?_⟩
                obtain ⟨l, rfl⟩ := Nat.exists_eq_succ_of_ne_zero (Nat.ne_zero_of_lt hother.lt)
                have hsame : code = other.code :=
                  congrArg Prod.snd (Option.some.inj hother.first)
                by_contra hless
                have hl : l < place := by omega
                obtain ⟨_, hget⟩ := List.getElem?_eq_some_iff.1 hother.second
                have hskipped := hbefore l hl
                rw [List.getElem_cons_succ] at hget
                rw [hget, hsame] at hskipped
                simp at hskipped
      | none =>
          rw [hfind] at h
          obtain ⟨i, j, hclash, hleast⟩ := ih h
          refine ⟨i + 1, j + 1, ⟨Nat.succ_lt_succ hclash.lt, hclash.first, hclash.second⟩, ?_⟩
          intro other k l hother
          obtain ⟨l, rfl⟩ := Nat.exists_eq_succ_of_ne_zero (Nat.ne_zero_of_lt hother.lt)
          cases k with
          | zero =>
              -- the first code does not occur again
              have hsame : code = other.code := congrArg Prod.snd (Option.some.inj hother.first)
              have hmem : (other.second, other.code) ∈ entries :=
                List.mem_of_getElem? hother.second
              exact absurd (beq_iff_eq.2 hsame.symm) (List.find?_eq_none.1 hfind _ hmem)
          | succ k =>
              have hbehind := hleast other k l
                ⟨Nat.lt_of_succ_lt_succ hother.lt, hother.first, hother.second⟩
              omega

/-- A list has at most one first clash. -/
theorem IsFirstClash.unique {other : CodeClash} (h : IsFirstClash entries clash)
    (hother : IsFirstClash entries other) : clash = other := by
  obtain ⟨i, j, hclash, hleast⟩ := h
  obtain ⟨k, l, hsecond, hleastToo⟩ := hother
  have hle := hleast other k l hsecond
  have hge := hleastToo clash i j hclash
  obtain ⟨rfl, rfl⟩ : i = k ∧ j = l := by omega
  have hfirst := Option.some.inj (hclash.first.symm.trans hsecond.first)
  have hlast := Option.some.inj (hclash.second.symm.trans hsecond.second)
  obtain ⟨code, first, second⟩ := clash
  obtain ⟨rfl, rfl⟩ := Prod.mk.inj hfirst
  obtain ⟨rfl, -⟩ := Prod.mk.inj hlast
  rfl

/-- The two entries of a clash agree in nothing in which all entries differ. -/
theorem ClashAt.ne_of_nodup {α : Type} {part : Command × UInt8 → α} {i j : ℕ}
    (h : ClashAt entries clash i j) (hnodup : (entries.map part).Nodup) :
    part (clash.first, clash.code) ≠ part (clash.second, clash.code) := by
  intro hsame
  have hplaces : (entries.map part)[i]? = (entries.map part)[j]? := by
    rw [List.getElem?_map, List.getElem?_map, h.first, h.second, Option.map_some, Option.map_some,
      hsame]
  obtain ⟨hj, -⟩ := List.getElem?_eq_some_iff.1 h.second
  have hi : i < (entries.map part).length := by
    rw [List.length_map]
    exact Nat.lt_trans h.lt hj
  exact Nat.ne_of_lt h.lt ((List.getElem?_inj hi hnodup).1 hplaces)

/-- Without a clash every entry is found by its code. -/
theorem lookup?_of_nodup (hnodup : (entries.map Prod.snd).Nodup) {command : Command}
    {code : UInt8} (h : (command, code) ∈ entries) : lookup? entries code = some command := by
  obtain ⟨i, hi⟩ := List.mem_iff_getElem?.1 h
  apply lookup?_of_first hi
  intro k hk other hother
  have hclash : ClashAt entries ⟨code, other, command⟩ k i := ⟨hk, hother, hi⟩
  exact hclash.ne_of_nodup hnodup rfl

/-- The search finds the first clash, and fails only if there is none. -/
theorem firstClash?_eq_some_iff :
    firstClash? entries = some clash ↔ IsFirstClash entries clash := by
  refine ⟨isFirstClash_of_firstClash?, fun h => ?_⟩
  cases hfound : firstClash? entries with
  | some found => rw [(isFirstClash_of_firstClash? hfound).unique h]
  | none =>
      obtain ⟨i, j, hclash, -⟩ := h
      exact absurd rfl (hclash.ne_of_nodup ((firstClash?_eq_none_iff entries).1 hfound))

/-- The code of the first clash is looked up as the first of the two commands. -/
theorem IsFirstClash.lookup?_code (h : IsFirstClash entries clash) :
    lookup? entries clash.code = some clash.first := by
  obtain ⟨i, j, hclash, hleast⟩ := h
  apply lookup?_of_first hclash.first
  -- an entry with the code further in front would make an earlier clash
  intro k hk other hother
  have hearlier := hleast ⟨clash.code, other, clash.first⟩ k i ⟨hk, hother, hclash.first⟩
  omega

/-- No code is looked up as the second command of the first clash. -/
theorem IsFirstClash.lookup?_ne_second (h : IsFirstClash entries clash)
    (hcommands : (entries.map Prod.fst).Nodup) (code : UInt8) :
    lookup? entries code ≠ some clash.second := by
  intro hlookup
  have hfound := h.lookup?_code
  obtain ⟨i, j, hclash, -⟩ := h
  have hmem := List.mem_of_getElem? hclash.second
  have hsame : code = clash.code :=
    congrArg Prod.snd (List.inj_on_of_nodup_map hcommands (mem_of_lookup? hlookup) hmem rfl)
  rw [hsame, hfound, Option.some.injEq] at hlookup
  exact hclash.ne_of_nodup hcommands hlookup

end

/-! ## Resolving -/

/-- The codes that a table assigns. -/
def codes (table : CodeTable) : List UInt8 :=
  table.entries.map Prod.snd

section

variable {table : CodeTable} {command : Command} {code : UInt8}

/-- A code resolves to the first entry that has it. -/
theorem resolve_eq_lookup? (table : CodeTable) (code : UInt8) :
    table.resolve code = (lookup? table.entries code).getD (.unknown code) := by
  have hnone : lookup? [] code = none := rfl
  simp only [entries, lookup?_cons, hnone, resolve,
    apply_ite fun found => Option.getD found (Command.unknown code), Option.getD_some,
    Option.getD_none]

/-- The commands of a table, in the order in which it is searched. -/
theorem map_fst_entries (table : CodeTable) : table.entries.map Prod.fst =
    [.response, .hardware, .logEvent, .deviceConnect, .deviceDisconnect, .appSync] :=
  rfl

theorem nodup_commands (table : CodeTable) : (table.entries.map Prod.fst).Nodup := by
  rw [map_fst_entries]
  decide

theorem isUnknown_of_mem_entries (h : (command, code) ∈ table.entries) :
    command.isUnknown = false := by
  have hcommand : command ∈ table.entries.map Prod.fst := List.mem_map_of_mem h
  rw [map_fst_entries] at hcommand
  cases command with
  | unknown code => simp at hcommand
  | _ => rfl

theorem lookup?_of_resolve (h : table.resolve code = command)
    (hknown : command.isUnknown = false) : lookup? table.entries code = some command := by
  rw [resolve_eq_lookup?] at h
  cases hlookup : lookup? table.entries code with
  | some found =>
      rw [hlookup] at h
      exact congrArg some h
  | none =>
      rw [hlookup] at h
      rw [← h] at hknown
      cases hknown

theorem resolve_of_lookup? (h : lookup? table.entries code = some command) :
    table.resolve code = command := by
  rw [resolve_eq_lookup?, h]
  rfl

/-- A code that no entry has resolves to itself as an unknown command. -/
theorem resolve_of_not_mem (h : code ∉ table.codes) : table.resolve code = .unknown code := by
  rw [resolve_eq_lookup?, lookup?_eq_none_iff.2 h]
  rfl

/-- A code resolves to the unknown command exactly when the table does not
assign it. -/
theorem isUnknown_resolve_iff : (table.resolve code).isUnknown = true ↔ code ∉ table.codes := by
  constructor
  · intro hunknown hmem
    cases hlookup : lookup? table.entries code with
    | some command =>
        have hknown := isUnknown_of_mem_entries (mem_of_lookup? hlookup)
        rw [resolve_of_lookup? hlookup, hknown] at hunknown
        cases hunknown
    | none => exact lookup?_eq_none_iff.1 hlookup hmem
  · intro hmem
    rw [resolve_of_not_mem hmem]
    rfl

/-- The code of each known command resolves to this command. -/
def ResolvesAll (table : CodeTable) : Prop :=
  ∀ command code, (command, code) ∈ table.entries → table.resolve code = command

/-- A table has no clash exactly if it resolves each of its codes to the command that has it. -/
theorem clash?_eq_none_iff : table.clash? = none ↔ table.ResolvesAll := by
  rw [clash?, firstClash?_eq_none_iff]
  constructor
  · intro hnodup command code hmem
    exact resolve_of_lookup? (lookup?_of_nodup hnodup hmem)
  · intro hall
    have hinj : ∀ entry ∈ table.entries, ∀ other ∈ table.entries, entry.2 = other.2 →
        entry = other := by
      intro entry hentry other hother hcode
      refine Prod.ext ?_ hcode
      rw [← hall _ _ hentry, ← hall _ _ hother, hcode]
    exact List.Nodup.map_on hinj table.nodup_commands.of_map

/-- Without a clash, each known command has one code. -/
theorem ResolvesAll.existsUnique (h : table.ResolvesAll) (hknown : command.isUnknown = false) :
    ∃! code, table.resolve code = command := by
  have hcommand : command ∈ table.entries.map Prod.fst := by
    rw [map_fst_entries]
    cases command with
    | unknown code => cases hknown
    | _ => simp
  obtain ⟨⟨_, code⟩, hentry, rfl⟩ := List.mem_map.1 hcommand
  refine ⟨code, h _ _ hentry, fun other hother => ?_⟩
  have hfound := mem_of_lookup? (lookup?_of_resolve hother hknown)
  exact congrArg Prod.snd (List.inj_on_of_nodup_map table.nodup_commands hfound hentry rfl)

theorem clash?_eq_some_iff {clash : CodeClash} :
    table.clash? = some clash ↔ IsFirstClash table.entries clash :=
  firstClash?_eq_some_iff

/-- Of the two commands of a clash, the first one gets the frames and the second one none. -/
theorem resolve_of_clash {clash : CodeClash} (h : table.clash? = some clash) :
    table.resolve clash.code = clash.first ∧ ∀ code, table.resolve code ≠ clash.second := by
  have hfirst := clash?_eq_some_iff.1 h
  refine ⟨resolve_of_lookup? hfirst.lookup?_code, fun code hresolve => ?_⟩
  have hknown : clash.second.isUnknown = false := by
    obtain ⟨i, j, hclash, -⟩ := hfirst
    exact isUnknown_of_mem_entries (List.mem_of_getElem? hclash.second)
  exact hfirst.lookup?_ne_second table.nodup_commands code (lookup?_of_resolve hresolve hknown)

end

end CodeTable
end DeviceFeed
