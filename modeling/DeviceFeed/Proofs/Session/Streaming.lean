import DeviceFeed.Proofs.Channel
import DeviceFeed.Proofs.Session.Judgement

/-!
# Sessions that publish into a channel

All that a run does to its publisher is to publish the events of its frames and
to let the receiving side act, and `Session.acts` lists these acts in order.  Which
acts they are does not depend on the publisher.  A receiver that works on its own
adds acts between them.  So what holds for the runs of channels holds for the
channel of a session, however the receiver interleaves with the frames.
-/

namespace DeviceFeed

open Channel (Act)

variable {P : Type} [Publisher P]

/-! ## Acts on publishers -/

/-- The publisher after an act. -/
def Publisher.act (publisher : P) : Act → P
  | .publish event => (Publisher.publish publisher event).1
  | .receive receipt => (Publisher.receive publisher receipt).1

theorem publishAll_eq_foldl_act (publisher : P) (events : List Event) :
    (publishAll publisher events).1 = (events.map Act.publish).foldl Publisher.act publisher := by
  induction events generalizing publisher with
  | nil => rfl
  | cons event events ih =>
      rw [publishAll_cons, List.map_cons, List.foldl_cons]
      exact ih _

theorem filterMap_event?_map_publish (events : List Event) :
    (events.map Act.publish).filterMap Act.event? = events := by
  rw [List.filterMap_map]
  exact List.filterMap_some

theorem Collector.foldl_act_publish (c : Collector) (events : List Event) :
    ((events.map Act.publish).foldl Publisher.act c).events.toList = c.events.toList ++ events := by
  rw [← publishAll_eq_foldl_act]
  exact Collector.isHistory.publishAll c events

/-- A function is called for every event, whatever the receiving side does. -/
theorem Callback.foldl_act {σ : Type} (c : Callback σ) (acts : List Act) :
    acts.foldl Publisher.act c =
      { c with state := (acts.filterMap Act.event?).foldl c.react c.state } := by
  induction acts generalizing c with
  | nil => rfl
  | cons act acts ih =>
      rw [List.foldl_cons, ih]
      cases act with
      | publish event => rfl
      | receive receipt => rfl

namespace Session

/-! ## The acts of a run -/

/-- What a step does to the publisher, in order. -/
def actsOf (s : Session P) : Step → List Act
  | .input input => (s.contribution (.input input)).map .publish
  | .receive receipt => [.receive receipt]

/-- What a run does to the publisher, in order. -/
def acts (s : Session P) : List Step → List Act
  | [] => []
  | step :: steps => s.actsOf step ++ (s.step step).1.acts steps

theorem step_publisher (s : Session P) (step : Step) :
    (s.step step).1.processor.publisher =
      (s.actsOf step).foldl Publisher.act s.processor.publisher := by
  cases step with
  | receive receipt => rfl
  | input input =>
      rw [actsOf, ← publishAll_eq_foldl_act]
      cases hraw : (Step.input input).raw? with
      | some raw =>
          rw [step_frame hraw, contribution_of_raw? hraw]
          exact s.processor.process_publisher s.observed raw
      | none =>
          rw [contribution, hraw]
          rcases update_or_receipt_of_raw?_eq_none hraw with ⟨update, hstep⟩ | ⟨receipt, hstep⟩
          · rw [hstep]
            rfl
          · cases hstep

theorem run_publisher (s : Session P) (steps : List Step) :
    (s.run steps).processor.publisher =
      (s.acts steps).foldl Publisher.act s.processor.publisher := by
  induction steps generalizing s with
  | nil => rfl
  | cons step steps ih =>
      rw [run_cons, ih, acts, List.foldl_append, step_publisher]

/-- A run publishes the events of its judgements, in order. -/
theorem filterMap_event?_acts (s : Session P) (steps : List Step) :
    (s.acts steps).filterMap Act.event? = (s.judgements steps).flatMap Judgement.events := by
  induction steps generalizing s with
  | nil =>
      rw [judgements, frames_nil]
      rfl
  | cons step steps ih =>
      rw [acts, List.filterMap_append, ih, judgements_cons, List.flatMap_append]
      congr 1
      cases step with
      | receive receipt => rfl
      | input input =>
          rw [actsOf, filterMap_event?_map_publish, contribution]
          cases (Step.input input).raw? with
          | none => rfl
          | some raw => simp [Dispatcher.events_judge]

/-- Without a receiving side, a run does nothing but publish. -/
theorem acts_inputs (s : Session P) (inputs : List Input) :
    s.acts (inputs.map .input) =
      ((s.judgements (inputs.map .input)).flatMap Judgement.events).map .publish := by
  have hpublish : s.acts (inputs.map .input) =
      ((s.acts (inputs.map .input)).filterMap Act.event?).map .publish := by
    induction inputs generalizing s with
    | nil => rfl
    | cons input inputs ih =>
        rw [List.map_cons, acts, List.filterMap_append, List.map_append, ← ih, actsOf,
          filterMap_event?_map_publish]
  rw [hpublish, filterMap_event?_acts]

end Session

/-! ## A receiver that works on its own -/

namespace Attended

/-- What happens to the channel when some acts are carried out: before each event
arrives, the receiver does what is due. -/
def interleave (schedule : Nat → List Receipt) : Nat → List Act → List Act
  | _, [] => []
  | clock, .publish event :: acts =>
    (schedule clock).map .receive ++ .publish event :: interleave schedule (clock + 1) acts
  | clock, .receive receipt :: acts => .receive receipt :: interleave schedule clock acts

/-- The receiver publishes nothing. -/
theorem filterMap_event?_interleave (schedule : Nat → List Receipt) (clock : Nat)
    (acts : List Act) :
    (interleave schedule clock acts).filterMap Act.event? = acts.filterMap Act.event? := by
  have hreceive (receipts : List Receipt) :
      (receipts.map Act.receive).filterMap Act.event? = [] := by
    rw [List.filterMap_map, List.filterMap_eq_nil_iff]
    intro receipt _
    rfl
  induction acts generalizing clock with
  | nil => rfl
  | cons act acts ih =>
      cases act with
      | receive receipt => exact ih clock
      | publish event =>
          rw [interleave, List.filterMap_append, hreceive, List.nil_append, List.filterMap_cons,
            List.filterMap_cons, ih]

/-- A receiver that only takes keeps the channel open. -/
theorem closes_interleave {schedule : Nat → List Receipt}
    (hschedule : ∀ clock, ∀ receipt ∈ schedule clock, Act.closes (.receive receipt) = false)
    {acts : List Act} (hacts : ∀ act ∈ acts, act.closes = false) (clock : Nat) :
    ∀ act ∈ interleave schedule clock acts, act.closes = false := by
  induction acts generalizing clock with
  | nil =>
      intro act hact
      cases hact
  | cons first acts ih =>
      have hrest := ih fun act hact => hacts act (List.mem_cons_of_mem _ hact)
      intro act hact
      cases first with
      | publish event =>
          rw [interleave, List.mem_append, List.mem_map, List.mem_cons] at hact
          rcases hact with ⟨receipt, hdue, rfl⟩ | rfl | hmore
          · exact hschedule clock receipt hdue
          · rfl
          · exact hrest (clock + 1) act hmore
      | receive receipt =>
          rcases List.mem_cons.1 hact with rfl | hmore
          · exact hacts _ List.mem_cons_self
          · exact hrest clock act hmore

/-- How an attended channel has come from another one by some acts on the channel. -/
structure Went (a b : Attended) (acts : List Act) : Prop where
  channel : b.channel = a.channel.run acts
  taken : b.taken.toList = a.taken.toList ++ a.channel.collect Channel.taken acts
  schedule : b.schedule = a.schedule

theorem Went.trans {a b c : Attended} {first second : List Act} (hab : a.Went b first)
    (hbc : b.Went c second) : a.Went c (first ++ second) where
  channel := by rw [hbc.channel, hab.channel, Channel.run_append]
  taken := by
    rw [hbc.taken, hab.taken, hab.channel, Channel.collect_append, List.append_assoc]
  schedule := hbc.schedule.trans hab.schedule

theorem went_attend (a : Attended) (receipt : Receipt) :
    a.Went (a.attend receipt) [.receive receipt] where
  channel := rfl
  taken := by simp [attend, Channel.collect, Channel.taken]
  schedule := rfl

theorem went_attendAll (a : Attended) (receipts : List Receipt) :
    a.Went (receipts.foldl attend a) (receipts.map .receive) ∧
      (receipts.foldl attend a).clock = a.clock := by
  induction receipts generalizing a with
  | nil => exact ⟨⟨rfl, (List.append_nil _).symm, rfl⟩, rfl⟩
  | cons receipt receipts ih =>
      obtain ⟨hrest, hclock⟩ := ih (a.attend receipt)
      exact ⟨(a.went_attend receipt).trans hrest, hclock⟩

theorem went_publish (a : Attended) (event : Event) :
    a.Went (a.publish event).1 ((a.schedule a.clock).map .receive ++ [.publish event]) ∧
      (a.publish event).1.clock = a.clock + 1 := by
  obtain ⟨hdue, -⟩ := a.went_attendAll (a.schedule a.clock)
  refine ⟨hdue.trans ?_, rfl⟩
  exact ⟨rfl, (List.append_nil _).symm, rfl⟩

theorem went_foldl_act (a : Attended) (acts : List Act) :
    a.Went (acts.foldl Publisher.act a) (interleave a.schedule a.clock acts) := by
  induction acts generalizing a with
  | nil => exact ⟨rfl, (List.append_nil _).symm, rfl⟩
  | cons act acts ih =>
      cases act with
      | receive receipt => exact (a.went_attend receipt).trans (ih (a.attend receipt))
      | publish event =>
          obtain ⟨hpublish, hclock⟩ := a.went_publish event
          have hrest := ih (a.publish event).1
          rw [hpublish.schedule, hclock] at hrest
          have hall := hpublish.trans hrest
          rw [List.append_assoc] at hall
          exact hall

end Attended

namespace Session

/-- What happens to an attended channel in a run, in order. -/
def channelActs (s : Session Attended) (steps : List Step) : List Act :=
  Attended.interleave s.processor.publisher.schedule s.processor.publisher.clock (s.acts steps)

/-- After a run the channel has gone through the acts of the run. -/
theorem went_run (s : Session Attended) (steps : List Step) :
    s.processor.publisher.Went (s.run steps).processor.publisher (s.channelActs steps) := by
  rw [run_publisher]
  exact s.processor.publisher.went_foldl_act (s.acts steps)

theorem filterMap_event?_channelActs (s : Session Attended) (steps : List Step) :
    (s.channelActs steps).filterMap Act.event? =
      (s.judgements steps).flatMap Judgement.events := by
  rw [channelActs, Attended.filterMap_event?_interleave, filterMap_event?_acts]

end Session
end DeviceFeed
