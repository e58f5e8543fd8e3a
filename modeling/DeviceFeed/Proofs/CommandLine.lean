import DeviceFeed.CommandLine
import DeviceFeed.Proofs.Text.Digits

/-!
# Options that choose the tracking

What the next arguments do to the options does not depend on what was read before:
they are refused, ask for a text, end the command line, or give one option.
`CommandLine.reads` says this once.  It follows that options which choose the tracking
can be put in front of a command line without changing anything else.
-/

namespace DeviceFeed

/-- The same options with another start of tracking. -/
def Options.withTracking (o : Options) (id : Option Int64) (only : Bool) : Options :=
  { o with trackDevice := id, trackOnly := only }

namespace CommandLine

/-! ## One step -/

/-- Gives an option, unless it was given before. -/
def Draft.give (d : Draft) (name : OptionName) (set : Options → Option Options) :
    Option Draft :=
  if name ∈ d.given then none
  else (set d.options).map fun options => ⟨options, name :: d.given⟩

/-- What giving an option does to the options. -/
inductive Sets : OptionName → (Options → Option Options) → Prop
  | value {name : OptionName} (hname : name.takesValue = true) (value : String) :
      Sets name fun o => Draft.assign o name value
  | switch {name : OptionName} (hname : name = .trackOnly ∨ name = .debug) :
      Sets name fun o => some (Draft.switchOn o name)

/-- What the next arguments do, whatever was read before them. -/
inductive Reads (arguments : List String) : Prop
  | settled (h : ∀ d, requestFrom d arguments = some (.replay d.options))
  | fixed (request : Option Request) (hrequest : ∀ o, request ≠ some (.replay o))
      (h : ∀ d, requestFrom d arguments = request)
  | gives {name : OptionName} {set : Options → Option Options} {rest : List String}
      (hset : Sets name set) (hshorter : rest.length < arguments.length)
      (h : ∀ d, requestFrom d arguments = (d.give name set).bind (requestFrom · rest))

/-- An option that takes no value. -/
theorem reads_switch {name : OptionName} {argument : String} (more : List String)
    (hend : argument ≠ "--") (hoption : option? argument.toList = some (name, none))
    (hname : name.takesValue = false) : Reads (argument :: more) := by
  cases name with
  | trackOnly =>
      refine .gives (.switch (Or.inl rfl)) (Nat.lt_succ_self _) fun d => ?_
      rw [requestFrom, if_neg hend, hoption]
      rfl
  | debug =>
      refine .gives (.switch (Or.inr rfl)) (Nat.lt_succ_self _) fun d => ?_
      rw [requestFrom, if_neg hend, hoption]
      rfl
  | help =>
      refine .fixed (some .help) (fun o => nofun) fun d => ?_
      rw [requestFrom, if_neg hend, hoption]
      rfl
  | version =>
      refine .fixed (some .version) (fun o => nofun) fun d => ?_
      rw [requestFrom, if_neg hend, hoption]
      rfl
  | _ => cases hname

/-- An option whose value is the next argument. -/
theorem reads_separate {name : OptionName} {argument : String} (more : List String)
    (hend : argument ≠ "--") (hoption : option? argument.toList = some (name, none))
    (hname : name.takesValue = true) : Reads (argument :: more) := by
  cases more with
  | nil =>
      refine .fixed none (fun o => nofun) fun d => ?_
      rw [requestFrom, if_neg hend, hoption]
      simp only [hname, if_true]
  | cons value rest =>
      by_cases hvalue : isValue value = true
      · have hshorter : rest.length < (argument :: value :: rest).length :=
          Nat.lt_succ_of_lt (Nat.lt_succ_self _)
        refine .gives (.value hname value) hshorter fun d => ?_
        rw [requestFrom, if_neg hend, hoption]
        simp only [hname, hvalue, if_true]
        rfl
      · refine .fixed none (fun o => nofun) fun d => ?_
        rw [requestFrom, if_neg hend, hoption]
        simp only [hname, hvalue, if_true]
        rfl

/-- An option that comes with its value. -/
theorem reads_joined {name : OptionName} {value argument : String} (more : List String)
    (hend : argument ≠ "--") (hoption : option? argument.toList = some (name, some value)) :
    Reads (argument :: more) := by
  cases hname : name.takesValue with
  | false =>
      refine .fixed none (fun o => nofun) fun d => ?_
      rw [requestFrom, if_neg hend, hoption]
      simp only [hname]
      rfl
  | true =>
      refine .gives (.value hname value) (Nat.lt_succ_self _) fun d => ?_
      rw [requestFrom, if_neg hend, hoption]
      simp only [hname]
      rfl

theorem reads (arguments : List String) : Reads arguments := by
  cases arguments with
  | nil => exact .settled fun d => rfl
  | cons argument more =>
      by_cases hend : argument = "--"
      · by_cases hmore : more = []
        · exact .settled fun d => by rw [requestFrom, if_pos hend, if_pos hmore]
        · exact .fixed none (fun o => nofun) fun d => by
            rw [requestFrom, if_pos hend, if_neg hmore]
      · cases hoption : option? argument.toList with
        | none =>
            refine .fixed none (fun o => nofun) fun d => ?_
            rw [requestFrom, if_neg hend, hoption]
        | some named =>
            obtain ⟨name, value?⟩ := named
            cases value? with
            | some value => exact reads_joined more hend hoption
            | none =>
                cases hname : name.takesValue with
                | false => exact reads_switch more hend hoption hname
                | true => exact reads_separate more hend hoption hname

/-! ## Tracking -/

/-- Only the two options that choose the tracking change it. -/
theorem Sets.tracking {name : OptionName} {set : Options → Option Options} (h : Sets name set)
    {o next : Options} (hset : set o = some next) :
    (if name = .trackDevice then next.trackDevice.isSome = true
      else next.trackDevice = o.trackDevice) ∧
      next.trackOnly = (o.trackOnly || name == .trackOnly) := by
  have hkept : o.trackOnly = (o.trackOnly || false) := (Bool.or_false _).symm
  cases h with
  | switch hname =>
      obtain rfl := Option.some.inj hset
      rcases hname with rfl | rfl
      · exact ⟨rfl, (Bool.or_true _).symm⟩
      · exact ⟨rfl, hkept⟩
  | value hname value =>
      cases name with
      | logLevel =>
          obtain rfl := Option.some.inj hset
          exact ⟨rfl, hkept⟩
      | input =>
          obtain ⟨file, -, rfl⟩ := Option.map_eq_some_iff.1 hset
          exact ⟨rfl, hkept⟩
      | config =>
          obtain ⟨file, -, rfl⟩ := Option.map_eq_some_iff.1 hset
          exact ⟨rfl, hkept⟩
      | trackDevice =>
          obtain ⟨id, -, rfl⟩ := Option.map_eq_some_iff.1 hset
          exact ⟨rfl, hkept⟩
      | channelCapacity =>
          obtain ⟨count, -, rfl⟩ := Option.map_eq_some_iff.1 hset
          exact ⟨rfl, hkept⟩
      | _ => cases hname

/-- Other options are given alike, whatever the tracking is. -/
theorem Sets.withTracking {name : OptionName} {set : Options → Option Options}
    (h : Sets name set) (hdevice : name ≠ .trackDevice) (honly : name ≠ .trackOnly)
    (o : Options) (id : Option Int64) (only : Bool) :
    set (o.withTracking id only) = (set o).map (·.withTracking id only) := by
  cases h with
  | switch hname =>
      rcases hname with rfl | rfl
      · exact absurd rfl honly
      · rfl
  | value hname value =>
      cases name with
      | trackDevice => exact absurd rfl hdevice
      | logLevel => rfl
      | input =>
          simp only [Draft.assign, Option.map_map]
          rfl
      | config =>
          simp only [Draft.assign, Option.map_map]
          rfl
      | channelCapacity =>
          simp only [Draft.assign, Option.map_map]
          rfl
      | _ => cases hname

theorem Draft.of_give {d next : Draft} {name : OptionName} {set : Options → Option Options}
    (h : d.give name set = some next) :
    name ∉ d.given ∧ set d.options = some next.options ∧ next.given = name :: d.given := by
  unfold give at h
  split at h
  · cases h
  · next hnew =>
    obtain ⟨options, hset, rfl⟩ := Option.map_eq_some_iff.1 h
    exact ⟨hnew, hset, rfl⟩

/-- A choice of tracking that was made is not taken back. -/
theorem tracking_of_requestFrom {arguments : List String} {d : Draft} {o : Options}
    (h : requestFrom d arguments = some (.replay o)) :
    (d.options.trackDevice.isSome = true → o.trackDevice.isSome = true) ∧
      (d.options.trackOnly = true → o.trackOnly = true) := by
  induction hlength : arguments.length using Nat.strongRecOn generalizing arguments d with
  | ind length ih =>
      cases reads arguments with
      | settled hsettled =>
          rw [hsettled] at h
          cases h
          exact ⟨id, id⟩
      | fixed request hrequest hfixed =>
          rw [hfixed] at h
          exact absurd h (hrequest o)
      | @gives name set rest hset hshorter hgives =>
          rw [hgives] at h
          obtain ⟨next, hgive, hrest⟩ := Option.bind_eq_some_iff.1 h
          obtain ⟨-, hnext, -⟩ := Draft.of_give hgive
          obtain ⟨hdevice, honly⟩ := hset.tracking hnext
          obtain ⟨hkept, hstill⟩ := ih rest.length (hlength ▸ hshorter) hrest rfl
          constructor
          · intro hsome
            apply hkept
            split at hdevice
            · exact hdevice
            · rw [hdevice]
              exact hsome
          · intro hon
            apply hstill
            rw [honly, hon, Bool.true_or]

/-- Drafts that differ in tracking, and in whether it was chosen, read the same arguments
alike, as long as these choose no tracking. -/
theorem requestFrom_withTracking {arguments : List String} {d e : Draft} {o : Options}
    {id : Option Int64} {only : Bool} (h : requestFrom d arguments = some (.replay o))
    (hdevice : o.trackDevice = none) (honly : o.trackOnly = false)
    (hoptions : e.options = d.options.withTracking id only)
    (hgiven : ∀ name ∈ e.given, name = .trackDevice ∨ name = .trackOnly ∨ name ∈ d.given) :
    requestFrom e arguments = some (.replay (o.withTracking id only)) := by
  induction hlength : arguments.length using Nat.strongRecOn generalizing arguments d e with
  | ind length ih =>
      cases reads arguments with
      | settled hsettled =>
          rw [hsettled] at h
          cases h
          rw [hsettled, hoptions]
      | fixed request hrequest hfixed =>
          rw [hfixed] at h
          exact absurd h (hrequest o)
      | @gives name set rest hset hshorter hgives =>
          rw [hgives] at h
          obtain ⟨next, hgive, hrest⟩ := Option.bind_eq_some_iff.1 h
          obtain ⟨hnew, hnext, hmore⟩ := Draft.of_give hgive
          obtain ⟨hset₁, hset₂⟩ := hset.tracking hnext
          obtain ⟨hkept, hstill⟩ := tracking_of_requestFrom hrest
          -- a choice of tracking among the arguments would still be there in the end
          have hother : name ≠ .trackDevice := by
            rintro rfl
            have hsome := hkept hset₁
            rw [hdevice] at hsome
            cases hsome
          have hanother : name ≠ .trackOnly := by
            rintro rfl
            have hon := hstill (hset₂.trans (Bool.or_true _))
            rw [honly] at hon
            cases hon
          have hfree : name ∉ e.given := by
            intro hmem
            rcases hgiven name hmem with hname | hname | hname
            · exact hother hname
            · exact hanother hname
            · exact hnew hname
          have hstep : e.give name set =
              some ⟨next.options.withTracking id only, name :: e.given⟩ := by
            rw [Draft.give, if_neg hfree, hoptions, hset.withTracking hother hanother, hnext]
            rfl
          rw [hgives, hstep]
          refine ih rest.length (hlength ▸ hshorter) hrest rfl ?_ rfl
          intro given hmem
          rw [hmore]
          rcases List.mem_cons.1 hmem with rfl | hmem
          · exact Or.inr (Or.inr List.mem_cons_self)
          · rcases hgiven given hmem with hname | hname | hname
            · exact Or.inl hname
            · exact Or.inr (Or.inl hname)
            · exact Or.inr (Or.inr (List.mem_cons_of_mem _ hname))

/-! ## Options in front -/

/-- The options that make a replay start with some tracking. -/
def trackingOptions (id : Option Int64) (only : Bool) : List String :=
  (id.map fun i => "--track-device=" ++ Text.signedDecimal i.toInt).toList ++
    if only then ["--track-only"] else []

theorem requestFrom_trackDevice (d : Draft) (i : Int64) (more : List String) :
    requestFrom d (("--track-device=" ++ Text.signedDecimal i.toInt) :: more) =
      (d.give .trackDevice fun o => some { o with trackDevice := some i }).bind
        (requestFrom · more) := by
  generalize htext : Text.signedDecimal i.toInt = text
  have hend : "--track-device=" ++ text ≠ "--" := by
    intro heq
    have hlist := congrArg String.toList heq
    rw [String.toList_append] at hlist
    simp at hlist
  have hoption : option? ("--track-device=" ++ text).toList = some (.trackDevice, some text) := by
    have hsplit (cs : List Char) : option? ("--track-device=".toList ++ cs) =
        some (.trackDevice, some (String.ofList cs)) := rfl
    rw [String.toList_append, hsplit, String.ofList_toList]
  have hassign (o : Options) : Draft.assign o .trackDevice text =
      some { o with trackDevice := some i } := by
    rw [Draft.assign, ← htext, Numeral.integer?_signedDecimal, Option.bind_some, int64?_toInt]
    rfl
  rw [requestFrom, if_neg hend, hoption]
  simp only [OptionName.takesValue, if_true, Draft.withValue, hassign]
  rfl

theorem requestFrom_trackOnly (d : Draft) (more : List String) :
    requestFrom d ("--track-only" :: more) =
      (d.give .trackOnly fun o => some { o with trackOnly := true }).bind
        (requestFrom · more) := by
  have hoption : option? "--track-only".toList = some (.trackOnly, none) := by decide
  rw [requestFrom, if_neg (by decide), hoption]
  rfl

/-- Options that choose the tracking can be put in front of a command line that chooses
none. -/
theorem request?_trackingOptions {arguments : List String} {o : Options}
    (h : request? arguments = some (.replay o)) (hdevice : o.trackDevice = none)
    (honly : o.trackOnly = false) (id : Option Int64) (only : Bool) :
    request? (trackingOptions id only ++ arguments) =
      some (.replay (o.withTracking id only)) := by
  have hrest {e : Draft} (hoptions : e.options = ({} : Options).withTracking id only)
      (hgiven : ∀ name ∈ e.given, name = .trackDevice ∨ name = .trackOnly) :
      requestFrom e arguments = some (.replay (o.withTracking id only)) := by
    apply requestFrom_withTracking h hdevice honly hoptions
    intro name hname
    rcases hgiven name hname with hname | hname
    · exact Or.inl hname
    · exact Or.inr (Or.inl hname)
  cases id with
  | none =>
      cases only with
      | false => exact hrest rfl nofun
      | true =>
          refine (requestFrom_trackOnly {} arguments).trans (hrest rfl ?_)
          intro name hname
          exact Or.inr (List.mem_singleton.1 hname)
  | some i =>
      cases only with
      | false =>
          refine (requestFrom_trackDevice {} i arguments).trans (hrest rfl ?_)
          intro name hname
          exact Or.inl (List.mem_singleton.1 hname)
      | true =>
          refine (requestFrom_trackDevice {} i _).trans ?_
          refine (requestFrom_trackOnly _ arguments).trans (hrest rfl ?_)
          intro name hname
          rcases List.mem_cons.1 hname with rfl | hname
          · exact Or.inr rfl
          · exact Or.inl (List.mem_singleton.1 hname)

end CommandLine
end DeviceFeed
