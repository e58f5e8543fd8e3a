import Mathlib.Algebra.Ring.Nat
import DeviceFeed.Channel

/-!
# Bounded channels conserve events

Events are published, taken, refused and discarded in any order.  This file
proves that a channel keeps them in order and accounts for each of them: what
was taken, what waits and what was discarded is, in order, what was admitted,
and the rest is counted as lost.
-/

namespace DeviceFeed
namespace Channel

/-! ## Runs -/

/-- What may happen to a channel. -/
inductive Act where
  | publish (event : Event)
  | receive (receipt : Receipt)
  deriving DecidableEq, Repr

/-- Whether an act publishes an event. -/
def Act.isPublish : Act → Bool
  | .publish _ => true
  | .receive _ => false

/-- The event that an act publishes. -/
def Act.event? : Act → Option Event
  | .publish event => some event
  | .receive _ => none

/-- Whether the receiving side refuses events from now on. -/
def Act.closes : Act → Bool
  | .receive .close | .receive .leave => true
  | _ => false

def act (c : Channel) : Act → Channel
  | .publish event => (c.publish event).1
  | .receive receipt => (c.receive receipt).1

def run (c : Channel) (acts : List Act) : Channel :=
  acts.foldl act c

/-- Whether an event is counted as lost. -/
def refuses (c : Channel) (event : Event) : Bool :=
  (c.publish event).1.lost != c.lost

/-- The published event, unless it is refused. -/
def admitted (c : Channel) : Act → List Event
  | .publish event => if c.refuses event then [] else [event]
  | .receive _ => []

/-- The events that the receiving side takes. -/
def taken (c : Channel) : Act → List Event
  | .publish _ => []
  | .receive receipt => (c.receive receipt).2

/-- The events that are still waiting when the receiving side leaves. -/
def discarded (c : Channel) : Act → List Event
  | .receive .leave => c.waiting
  | _ => []

/-- The events that the acts of a run yield, in order. -/
def collect (yield : Channel → Act → List Event) (c : Channel) : List Act → List Event
  | [] => []
  | act :: acts => yield c act ++ (c.act act).collect yield acts

/-! ## One act -/

/-- What an act does, by the state of the channel. -/
inductive Effect (c : Channel) : Act → Prop where
  | refused (event : Event) (h : c.isClosed = true ∨ c.free = 0)
      (hact : c.act (.publish event) = c.lose) (hrefuses : c.refuses event = true) :
      Effect c (.publish event)
  | admitted (event : Event) (hopen : c.isClosed = false) (hfree : c.free ≠ 0)
      (hact : c.act (.publish event) = { c with waiting := c.waiting ++ [event] })
      (hrefuses : c.refuses event = false) : Effect c (.publish event)
  | took (count : Nat)
      (hact : c.act (.receive (.take count)) = { c with waiting := c.waiting.drop count }) :
      Effect c (.receive (.take count))
  | closed (receiver : Receiver) (hclosed : receiver ≠ .listening)
      (hgone : c.receiver = .gone → receiver = .gone)
      (hact : c.act (.receive .close) = { c with receiver := receiver }) :
      Effect c (.receive .close)
  | left (hact : c.act (.receive .leave) = { c with waiting := [], receiver := .gone }) :
      Effect c (.receive .leave)

theorem publish_of_isClosed {c : Channel} (h : c.isClosed = true) (event : Event) :
    c.publish event = (c.lose, [.channelClosed event.kind]) := by
  rw [publish, if_pos h]

theorem publish_of_full {c : Channel} (hopen : c.isClosed = false) (h : c.free = 0)
    (event : Event) : c.publish event = (c.lose, [.channelFull event.kind]) := by
  rw [publish, hopen, if_neg Bool.false_ne_true, if_pos h]

theorem publish_of_free {c : Channel} (hopen : c.isClosed = false) (h : c.free ≠ 0)
    (event : Event) :
    c.publish event = ({ c with waiting := c.waiting ++ [event] }, []) := by
  rw [publish, hopen, if_neg Bool.false_ne_true, if_neg h]

theorem effect (c : Channel) (act : Act) : c.Effect act := by
  cases act with
  | publish event =>
      cases hclosed : c.isClosed with
      | true =>
          have hpublish := publish_of_isClosed hclosed event
          refine .refused event (Or.inl hclosed) (congrArg Prod.fst hpublish) ?_
          simp [refuses, hpublish, lose]
      | false =>
          by_cases hfree : c.free = 0
          · have hpublish := publish_of_full hclosed hfree event
            refine .refused event (Or.inr hfree) (congrArg Prod.fst hpublish) ?_
            simp [refuses, hpublish, lose]
          · have hpublish := publish_of_free hclosed hfree event
            refine .admitted event hclosed hfree (congrArg Prod.fst hpublish) ?_
            simp [refuses, hpublish]
  | receive receipt =>
      cases receipt with
      | take count => exact .took count rfl
      | leave => exact .left rfl
      | close =>
          cases hreceiver : c.receiver with
          | listening =>
              refine .closed .closed (by decide) (by simp [hreceiver]) ?_
              rw [act, receive, hreceiver]
          | closed =>
              refine .closed .closed (by decide) (by simp [hreceiver]) ?_
              rw [act, receive, hreceiver]
              simp only [← hreceiver]
          | gone =>
              refine .closed .gone (by decide) (fun _ => rfl) ?_
              rw [act, receive, hreceiver]
              simp only [← hreceiver]

theorem isClosed_iff {c : Channel} :
    c.isClosed = true ↔ c.receiver = .closed ∨ c.receiver = .gone := by
  unfold isClosed
  cases c.receiver <;> simp

theorem refuses_iff (c : Channel) (event : Event) :
    c.refuses event = true ↔ c.isClosed = true ∨ c.free = 0 := by
  cases c.effect (.publish event) with
  | refused _ h _ hrefuses => simp only [hrefuses, h]
  | admitted _ hopen hfree _ hrefuses => simp [hrefuses, hopen, hfree]

/-- An act moves events from one place to the next and loses none of those that
are in the channel. -/
theorem taken_append_waiting (c : Channel) (act : Act) :
    c.taken act ++ (c.act act).waiting ++ c.discarded act = c.waiting ++ c.admitted act := by
  cases c.effect act with
  | refused event _ hact hrefuses => simp [hact, hrefuses, admitted, taken, discarded, lose]
  | admitted event _ _ hact hrefuses => simp [hact, hrefuses, admitted, taken, discarded]
  | took count hact => simp [hact, admitted, taken, discarded, receive]
  | closed receiver _ _ hact => simp [hact, admitted, taken, discarded, receive]
  | left hact => simp [hact, admitted, taken, discarded, receive]

/-- An act publishes an event exactly if one is admitted or counted as lost. -/
theorem admitted_add_lost (c : Channel) (act : Act) :
    (c.admitted act).length + (c.act act).lost = c.lost + (if act.isPublish then 1 else 0) := by
  cases c.effect act with
  | refused event _ hact hrefuses => simp [hact, hrefuses, admitted, Act.isPublish, lose]
  | admitted event _ _ hact hrefuses =>
      simp [hact, hrefuses, admitted, Act.isPublish, Nat.add_comm]
  | took count hact => simp [hact, admitted, Act.isPublish]
  | closed receiver _ _ hact => simp [hact, admitted, Act.isPublish]
  | left hact => simp [hact, admitted, Act.isPublish]

theorem isClosed_act (c : Channel) (act : Act) :
    (c.act act).isClosed = (c.isClosed || act.closes) := by
  cases c.effect act with
  | refused event _ hact _ => simp [hact, isClosed, Act.closes, lose]
  | admitted event _ _ hact _ => simp [hact, isClosed, Act.closes]
  | took count hact => simp [hact, isClosed, Act.closes]
  | closed receiver hclosed _ hact => simp [hact, isClosed, Act.closes, hclosed]
  | left hact => simp [hact, isClosed, Act.closes]

theorem admitted_of_isClosed {c : Channel} (h : c.isClosed = true) (act : Act) :
    c.admitted act = [] := by
  cases act with
  | publish event => exact if_pos ((c.refuses_iff event).2 (Or.inl h))
  | receive receipt => rfl

/-- The waiting events have room in the slots. -/
def Fits (c : Channel) : Prop :=
  c.waiting.length ≤ c.capacity

theorem Fits.free_add_waiting {c : Channel} (h : c.Fits) :
    c.free + c.waiting.length = c.capacity :=
  Nat.sub_add_cancel h

theorem Fits.act {c : Channel} (h : c.Fits) (act : Act) :
    (c.act act).Fits ∧ (c.act act).capacity = c.capacity := by
  cases c.effect act with
  | refused event _ hact _ =>
      rw [hact]
      exact ⟨h, rfl⟩
  | admitted event _ hfree hact _ =>
      have hroom := h.free_add_waiting
      rw [hact, Fits, List.length_append, List.length_singleton]
      exact ⟨by dsimp only; omega, rfl⟩
  | took count hact =>
      rw [hact, Fits, List.length_drop]
      exact ⟨Nat.le_trans (Nat.sub_le _ _) h, rfl⟩
  | closed receiver _ _ hact =>
      rw [hact]
      exact ⟨h, rfl⟩
  | left hact =>
      rw [hact]
      exact ⟨Nat.zero_le _, rfl⟩

/-! ## Whole runs -/

theorem Fits.run {c : Channel} (h : c.Fits) (acts : List Act) :
    (c.run acts).Fits ∧ (c.run acts).capacity = c.capacity := by
  induction acts generalizing c with
  | nil => exact ⟨h, rfl⟩
  | cons act acts ih =>
      obtain ⟨hact, hcapacity⟩ := h.act act
      obtain ⟨hrun, hsame⟩ := ih hact
      exact ⟨hrun, hsame.trans hcapacity⟩

theorem isClosed_run (c : Channel) (acts : List Act) :
    (c.run acts).isClosed = (c.isClosed || acts.any Act.closes) := by
  induction acts generalizing c with
  | nil => simp [run]
  | cons act acts ih =>
      have hrest := ih (c.act act)
      rw [isClosed_act, Bool.or_assoc] at hrest
      rw [List.any_cons]
      exact hrest

theorem collect_admitted_of_isClosed {c : Channel} (h : c.isClosed = true) (acts : List Act) :
    c.collect admitted acts = [] := by
  induction acts generalizing c with
  | nil => rfl
  | cons act acts ih =>
      have hact : (c.act act).isClosed = true := by
        rw [isClosed_act, h, Bool.true_or]
      rw [collect, admitted_of_isClosed h, ih hact]
      rfl

theorem collect_admitted_add_lost (c : Channel) (acts : List Act) :
    (c.collect admitted acts).length + (c.run acts).lost =
      c.lost + acts.countP Act.isPublish := by
  induction acts generalizing c with
  | nil => simp [collect, run]
  | cons act acts ih =>
      have hact := c.admitted_add_lost act
      have hrest := ih (c.act act)
      have hrun : c.run (act :: acts) = (c.act act).run acts := rfl
      rw [collect, List.length_append, List.countP_cons, hrun]
      omega

theorem run_append (c : Channel) (first second : List Act) :
    c.run (first ++ second) = (c.run first).run second :=
  List.foldl_append

theorem collect_append (yield : Channel → Act → List Event) (c : Channel)
    (first second : List Act) :
    c.collect yield (first ++ second) =
      c.collect yield first ++ (c.run first).collect yield second := by
  induction first generalizing c with
  | nil => rfl
  | cons act first ih =>
      rw [List.cons_append, collect, collect, ih, List.append_assoc]
      rfl

theorem length_filterMap_event? (acts : List Act) :
    (acts.filterMap Act.event?).length = acts.countP Act.isPublish := by
  induction acts with
  | nil => rfl
  | cons act acts ih =>
      rw [List.filterMap_cons, List.countP_cons, ← ih]
      cases act with
      | publish event => rfl
      | receive receipt => rfl

/-- Events are admitted in the order in which they are published. -/
theorem collect_admitted_sublist (c : Channel) (acts : List Act) :
    (c.collect admitted acts).Sublist (acts.filterMap Act.event?) := by
  induction acts generalizing c with
  | nil => exact List.Sublist.refl _
  | cons act acts ih =>
      have hrest := ih (c.act act)
      cases act with
      | receive receipt => exact hrest
      | publish event =>
          have hevent : (c.admitted (.publish event)).Sublist [event] := by
            rw [admitted]
            split
            · exact List.nil_sublist _
            · exact List.Sublist.refl _
          exact hevent.append hrest

/-- An open channel with room for all that is to come loses nothing. -/
theorem lost_run_of_room {c : Channel} (hopen : c.isClosed = false) {acts : List Act}
    (hclosing : ∀ act ∈ acts, act.closes = false)
    (hroom : c.waiting.length + acts.countP Act.isPublish ≤ c.capacity) :
    (c.run acts).lost = c.lost := by
  induction acts generalizing c with
  | nil => rfl
  | cons act acts ih =>
      have hkept := hclosing act List.mem_cons_self
      have hmore : ∀ act ∈ acts, act.closes = false :=
        fun act h => hclosing act (List.mem_cons_of_mem _ h)
      have hstill : (c.act act).isClosed = false := by
        rw [isClosed_act, hopen, hkept]
        rfl
      rw [List.countP_cons] at hroom
      -- no act but publishing adds to what waits
      have hnext : (c.act act).waiting.length + acts.countP Act.isPublish ≤
            (c.act act).capacity ∧ (c.act act).lost = c.lost := by
        cases c.effect act with
        | refused event h _ _ =>
            have hfull : c.free = 0 := by
              rcases h with h | h
              · rw [hopen] at h
                cases h
              · exact h
            simp only [Act.isPublish, free, if_true] at hroom hfull
            omega
        | admitted event _ _ hact _ =>
            simp only [hact, List.length_append, List.length_singleton]
            simp only [Act.isPublish, if_true] at hroom
            exact ⟨by omega, trivial⟩
        | took count hact =>
            simp only [hact, List.length_drop]
            exact ⟨by omega, trivial⟩
        | closed receiver _ _ _ => cases hkept
        | left _ => cases hkept
      have hrun : c.run (act :: acts) = (c.act act).run acts := rfl
      rw [hrun, ih hstill hmore hnext.1, hnext.2]

/-- An abandoned channel stays empty. -/
theorem collect_of_gone {c : Channel} (hgone : c.receiver = .gone) (hempty : c.waiting = [])
    (acts : List Act) :
    c.collect taken acts = [] ∧ (c.run acts).waiting = [] ∧ c.collect discarded acts = [] := by
  induction acts generalizing c with
  | nil => exact ⟨rfl, hempty, rfl⟩
  | cons act acts ih =>
      have hclosed : c.isClosed = true := isClosed_iff.2 (Or.inr hgone)
      have hflow := c.taken_append_waiting act
      rw [hempty, admitted_of_isClosed hclosed, List.append_nil, List.append_eq_nil_iff,
        List.append_eq_nil_iff] at hflow
      obtain ⟨⟨htaken, hwaiting⟩, hdiscarded⟩ := hflow
      have hact : (c.act act).receiver = .gone := by
        cases c.effect act with
        | refused event _ hact _ => rw [hact]; exact hgone
        | admitted event _ _ hact _ => rw [hact]; exact hgone
        | took count hact => rw [hact]; exact hgone
        | closed receiver _ hkept hact => rw [hact]; exact hkept hgone
        | left hact => rw [hact]
      obtain ⟨hrest, hlast, hgiven⟩ := ih hact hwaiting
      rw [collect, collect, htaken, hdiscarded, hrest, hgiven]
      exact ⟨rfl, hlast, rfl⟩

/-- What was taken, what waits and what was discarded is what waited at first and
what was admitted since, in order. -/
theorem collect_taken_append_waiting (c : Channel) (acts : List Act) :
    c.collect taken acts ++ (c.run acts).waiting ++ c.collect discarded acts =
      c.waiting ++ c.collect admitted acts := by
  induction acts generalizing c with
  | nil => simp [collect, run]
  | cons act acts ih =>
      have hflow := c.taken_append_waiting act
      have hrun : c.run (act :: acts) = (c.act act).run acts := rfl
      rw [collect, collect, collect, hrun]
      by_cases hleave : act = .receive .leave
      · -- what is discarded now comes after everything else, since nothing else follows
        subst hleave
        have hgone : (c.act (.receive .leave)).receiver = .gone := rfl
        have hempty : (c.act (.receive .leave)).waiting = [] := rfl
        obtain ⟨htaken, hwaiting, hdiscarded⟩ := collect_of_gone hgone hempty acts
        rw [hempty] at hflow
        rw [htaken, hwaiting, hdiscarded,
          collect_admitted_of_isClosed (isClosed_iff.2 (Or.inr hgone))]
        simpa using hflow
      · have hkept : c.discarded act = [] := by
          cases act with
          | publish event => rfl
          | receive receipt =>
              cases receipt with
              | take count => rfl
              | close => rfl
              | leave => exact absurd rfl hleave
        rw [hkept, List.append_nil] at hflow
        rw [hkept, List.nil_append, List.append_assoc, List.append_assoc,
          ← List.append_assoc _ _ (collect discarded _ acts), ih, ← List.append_assoc, hflow,
          List.append_assoc]

/-- Only a receiver that leaves discards anything. -/
theorem collect_discarded {acts : List Act} (hclosing : ∀ act ∈ acts, act.closes = false)
    (c : Channel) : c.collect discarded acts = [] := by
  induction acts generalizing c with
  | nil => rfl
  | cons act acts ih =>
      have hkept := hclosing act List.mem_cons_self
      have hrest := ih (fun act h => hclosing act (List.mem_cons_of_mem _ h)) (c.act act)
      rw [collect, hrest, List.append_nil]
      cases c.effect act with
      | left _ => cases hkept
      | _ => rfl

/-! ## Runs of an empty channel -/

section

variable {c : Channel} (hempty : c.waiting = [])

include hempty

/-- Whatever passes through an empty channel was published, in this order. -/
theorem passed_sublist (acts : List Act) :
    (c.collect taken acts ++ (c.run acts).waiting ++ c.collect discarded acts).Sublist
      (acts.filterMap Act.event?) := by
  rw [collect_taken_append_waiting, hempty]
  exact c.collect_admitted_sublist acts

/-- Each published event passes through the channel or is counted as lost. -/
theorem length_published (hlost : c.lost = 0) (acts : List Act) :
    (acts.filterMap Act.event?).length =
      (c.collect taken acts).length + (c.run acts).waiting.length +
        (c.collect discarded acts).length + (c.run acts).lost := by
  have hpassed := congrArg List.length (c.collect_taken_append_waiting acts)
  have hcount := c.collect_admitted_add_lost acts
  rw [hempty, List.nil_append, List.length_append, List.length_append] at hpassed
  rw [length_filterMap_event?]
  omega

/-- An open channel with room for everything passes on everything. -/
theorem passed_eq_of_room (hopen : c.isClosed = false) {acts : List Act}
    (hclosing : ∀ act ∈ acts, act.closes = false)
    (hroom : (acts.filterMap Act.event?).length ≤ c.capacity) :
    c.collect taken acts ++ (c.run acts).waiting = acts.filterMap Act.event? := by
  have hsame : (c.run acts).lost = c.lost := by
    apply lost_run_of_room hopen hclosing
    rw [hempty, ← length_filterMap_event?]
    simpa using hroom
  have hcount := c.collect_admitted_add_lost acts
  have hall := c.collect_taken_append_waiting acts
  rw [collect_discarded hclosing, hempty, List.append_nil, List.nil_append] at hall
  rw [hall]
  apply (c.collect_admitted_sublist acts).eq_of_length
  rw [length_filterMap_event?]
  omega

end

end Channel
end DeviceFeed
