import DeviceFeed.Proofs.Stream
import DeviceFeed.Proofs.Session.Sinks
import DeviceFeed.Proofs.Session.Streaming

/-!
# Publishers do not influence decoding

The same frames are handled with events going to different places: into a
collector, to a function, or through a bounded channel whose receiver takes, closes
and leaves at any moment.  `Session.reports_eq` proves that results, counters and
debug records are the same.  What the publishers are handed is the same too, so
whatever passes through the channel is part of what the collector holds.
-/

namespace DeviceFeed

open Channel (Act)

/-! ## Publishers without debug records -/

/-- The debug record that a message writes to the log. -/
def Message.record? : Message → Option Record
  | .recorded record => some record
  | _ => none

/-- A publisher none of whose messages is a debug record. -/
def Reticent (P : Type) [Publisher P] : Prop :=
  ∀ (publisher : P) (event : Event), ∀ message ∈ (Publisher.publish publisher event).2,
    message.record? = none

theorem Collector.reticent : Reticent Collector := by
  intro c event message hmem
  cases hmem

theorem Callback.reticent (σ : Type) : Reticent (Callback σ) := by
  intro c event message hmem
  cases hmem

theorem Channel.reticent : Reticent Channel := by
  intro c event message hmem
  change message ∈ (c.publish event).2 at hmem
  rw [Channel.publish] at hmem
  split at hmem
  · obtain rfl := List.mem_singleton.1 hmem
    rfl
  · split at hmem
    · obtain rfl := List.mem_singleton.1 hmem
      rfl
    · cases hmem

theorem Attended.reticent : Reticent Attended := by
  intro a event
  exact Channel.reticent _ event

/-- The debug records of a trace: those for a listener, and those in the log. -/
def Trace.recorded (trace : Trace) : List Record × List Record :=
  (trace.records, trace.messages.filterMap Message.record?)

theorem Trace.recorded_append (first second : Trace) :
    (first ++ second).recorded =
      (first.recorded.1 ++ second.recorded.1, first.recorded.2 ++ second.recorded.2) := by
  have hlog : (first.messages ++ second.messages).filterMap Message.record? =
      first.messages.filterMap Message.record? ++ second.messages.filterMap Message.record? :=
    List.filterMap_append
  exact congrArg (first.records ++ second.records, ·) hlog

theorem Reticent.recorded {P : Type} [Publisher P] (h : Reticent P) (publisher : P)
    (event : Event) : Trace.recorded ⟨(Publisher.publish publisher event).2, []⟩ = ([], []) := by
  have hlog : (Publisher.publish publisher event).2.filterMap Message.record? = [] :=
    List.filterMap_eq_nil_iff.2 (h publisher event)
  rw [Trace.recorded, hlog]

/-! ## Reports -/

/-- What is reported of an input, apart from the other messages. -/
structure Report where
  result : Option (Except Rejection Nat)
  /-- The counters after the input. -/
  stats : Stats
  /-- The debug records for a listener, and those in the log. -/
  records : List Record × List Record

def Step.input? : Step → Option Input
  | .input i => some i
  | .receive _ => none

section

variable {P Q : Type} [Publisher P] [Publisher Q]

namespace Session

/-- What is reported of the inputs among some steps, in order. -/
def reports (s : Session P) : List Step → List Report
  | [] => []
  | .input input :: steps =>
    let entered := s.enter input
    ⟨entered.2.result, entered.1.processor.stats, entered.2.trace.recorded⟩ ::
      entered.1.reports steps
  | .receive receipt :: steps => (s.step (.receive receipt)).1.reports steps

/-- A session at its start. -/
def start (d : Dispatcher) (maxBody : Nat) (initial : Tracking) (source : TrackingSource)
    (publisher : P) : Session P :=
  { processor := { dispatcher := d, maxBody := maxBody, publisher := publisher }
    tracking := initial
    source := source }

end Session

/-- Frames are handled alike, wherever their events go. -/
theorem Reticent.simulates (hP : Reticent P) (hQ : Reticent Q) :
    Processor.Simulates (Processor.Matches fun (_ : P) (_ : Q) => True) Trace.recorded := by
  apply Processor.simulates_matches
  · intro a b c d hfront hback
    rw [Trace.recorded_append, Trace.recorded_append, hfront, hback]
  · intro p q event _
    refine ⟨trivial, ?_⟩
    rw [hP.recorded, hQ.recorded]

/-- The inputs alone decide what is reported, not the publisher and not its receiving
side. -/
theorem Session.reports_eq (hP : Reticent P) (hQ : Reticent Q) {s : Session P} {t : Session Q}
    (h : Related (Processor.Matches fun _ _ => True) s t) (steps : List Step) :
    s.reports steps = t.reports ((steps.filterMap Step.input?).map .input) := by
  induction steps generalizing s t with
  | nil => rfl
  | cons step steps ih =>
      cases step with
      | receive receipt =>
          -- only the publisher changes, and it need not be related
          obtain ⟨⟨hdispatcher, hmax, hstats, -⟩, htracking, hsource⟩ := h
          exact ih ⟨⟨hdispatcher, hmax, hstats, trivial⟩, htracking, hsource⟩
      | input input =>
          obtain ⟨hnext, hseen⟩ := (hP.simulates hQ).enter h input
          simp only [Reply.seen, Prod.mk.injEq] at hseen
          obtain ⟨hresult, -, hrecords⟩ := hseen
          have hrest := ih hnext
          rw [List.filterMap_cons]
          simp only [Step.input?, List.map_cons, reports, hresult, hrecords,
            hnext.processor.stats, hrest]

end

/-! ## Events -/

theorem Step.inputs_cons (i : Input) (steps : List Step) :
    ((Step.input i :: steps).filterMap Step.input?).map Step.input =
      .input i :: (steps.filterMap Step.input?).map .input :=
  rfl

theorem Tracking.frames_inputs (initial : Tracking) (steps : List Step) :
    initial.frames ((steps.filterMap Step.input?).map .input) = initial.frames steps := by
  induction steps generalizing initial with
  | nil => rfl
  | cons step steps ih =>
      cases step with
      | receive receipt =>
          rw [Tracking.frames_cons]
          exact ih initial
      | input input =>
          rw [Step.inputs_cons, Tracking.frames_cons, Tracking.frames_cons, ih]

theorem Step.filterMap_raw?_inputs (steps : List Step) :
    ((steps.filterMap Step.input?).map Step.input).filterMap Step.raw? =
      steps.filterMap Step.raw? := by
  induction steps with
  | nil => rfl
  | cons step steps ih =>
      cases step with
      | receive receipt => exact ih
      | input input =>
          rw [Step.inputs_cons, List.filterMap_cons, List.filterMap_cons, ih]

namespace Session

/-- The inputs alone decide what becomes of the frames. -/
theorem judgements_inputs {P : Type} (s : Session P) (steps : List Step) :
    s.judgements ((steps.filterMap Step.input?).map .input) = s.judgements steps := by
  have hframes : s.frames ((steps.filterMap Step.input?).map .input) = s.frames steps := by
    unfold frames
    cases s.source with
    | shared => exact Tracking.frames_inputs _ _
    | fixed tracking => simp only [Step.filterMap_raw?_inputs]
  rw [judgements, judgements, hframes]

/-- A collector that is given some inputs ends up with the events that any other
publisher is handed in steps with the same inputs. -/
theorem collected_eq_events (d : Dispatcher) (maxBody : Nat) (initial : Tracking)
    (source : TrackingSource) (steps : List Step) :
    ((start d maxBody initial source ({} : Collector)).feed
        (steps.filterMap Step.input?)).processor.publisher.events.toList =
      ((start d maxBody initial source ({} : Collector)).judgements steps).flatMap
        Judgement.events := by
  rw [feed_eq_run, run_publisher, acts_inputs, Collector.foldl_act_publish, judgements_inputs]
  rfl

end Session

/-! ## Streams through a queue -/

section

variable {B : Type}

/-- A stream as a publisher, with a receiver that works on its own as for
`Attended`. -/
structure Piped (queue : Queue B) where
  stream : Stream B
  schedule : Nat → List Receipt
  clock : Nat := 0
  taken : Array Event := #[]

namespace Piped

variable {queue : Queue B}

def attend (p : Piped queue) (receipt : Receipt) : Piped queue :=
  let (stream, events) := p.stream.receive queue receipt
  { p with stream := stream, taken := p.taken ++ events }

def publish (p : Piped queue) (event : Event) : Piped queue × List Message :=
  let attended := (p.schedule p.clock).foldl attend p
  let (stream, messages) := attended.stream.publish queue event
  ({ attended with stream := stream, clock := p.clock + 1 }, messages)

instance : Publisher (Piped queue) where
  publish := publish
  receive p receipt := (p.attend receipt, (p.stream.receive queue receipt).2)

theorem reticent : Reticent (Piped queue) := by
  intro p event message hmem
  change message ∈ (Stream.publish queue _ event).2 at hmem
  rw [Stream.publish] at hmem
  split at hmem
  · cases hmem
  · obtain rfl := List.mem_singleton.1 hmem
    rfl
  · obtain rfl := List.mem_singleton.1 hmem
    rfl

variable {buffered : B → List Event}

/-- A piped stream and an attended channel that cannot be told apart. -/
structure Follows (buffered : B → List Event) (a : Attended) (p : Piped queue) : Prop where
  stream : p.stream.Follows queue buffered a.channel
  fits : a.channel.Fits
  schedule : p.schedule = a.schedule
  clock : p.clock = a.clock
  taken : p.taken = a.taken

theorem Follows.attend {a : Attended} {p : Piped queue} (h : Follows buffered a p)
    (lawful : queue.Lawful buffered) (receipt : Receipt) :
    Follows buffered (a.attend receipt) (p.attend receipt) ∧
      (p.stream.receive queue receipt).2 = (a.channel.receive receipt).2 := by
  obtain ⟨hstream, hfits, hschedule, hclock, htaken⟩ := h
  obtain ⟨hnext, hevents⟩ := hstream.receive lawful hfits receipt
  refine ⟨⟨hnext, (hfits.act (.receive receipt)).1, hschedule, hclock, ?_⟩, hevents⟩
  simp only [Piped.attend, Attended.attend, htaken, hevents]

theorem Follows.attendAll {a : Attended} {p : Piped queue} (h : Follows buffered a p)
    (lawful : queue.Lawful buffered) (receipts : List Receipt) :
    Follows buffered (receipts.foldl Attended.attend a) (receipts.foldl Piped.attend p) := by
  induction receipts generalizing a p with
  | nil => exact h
  | cons receipt receipts ih => exact ih (h.attend lawful receipt).1

theorem Follows.publish {a : Attended} {p : Piped queue} (h : Follows buffered a p)
    (lawful : queue.Lawful buffered) (event : Event) :
    Follows buffered (a.publish event).1 (p.publish event).1 ∧
      (p.publish event).2 = (a.publish event).2 := by
  have hdue := h.attendAll lawful (a.schedule a.clock)
  obtain ⟨hstream, hfits, hschedule, -, htaken⟩ := hdue
  obtain ⟨hnext, hmessages⟩ := hstream.publish lawful event
  have hsame : (p.schedule p.clock).foldl Piped.attend p =
      (a.schedule a.clock).foldl Piped.attend p := by
    rw [h.schedule, h.clock]
  simp only [Piped.publish, hsame]
  refine ⟨⟨hnext, (hfits.act (.publish event)).1, hschedule, ?_, htaken⟩, hmessages⟩
  exact congrArg (· + 1) h.clock

end Piped

/-- A session that publishes into a stream through a lawful queue runs like one that
publishes into a channel. -/
theorem Session.replies_piped {queue : Queue B} {buffered : B → List Event}
    (lawful : queue.Lawful buffered) {s : Session Attended} {t : Session (Piped queue)}
    (h : Related (Processor.Matches (Piped.Follows buffered)) s t) (steps : List Step) :
    Related (Processor.Matches (Piped.Follows buffered)) (s.run steps) (t.run steps) ∧
      t.replies steps = s.replies steps := by
  rw [← List.map_inj_right fun _ _ => Reply.seen_id_injective]
  apply Processor.Simulates.run
  · apply Processor.simulates_matches
    · exact fun hfront hback => congrArg₂ (· ++ ·) hfront hback
    · intro a p event hfollows
      obtain ⟨hnext, hmessages⟩ := hfollows.publish lawful event
      exact ⟨hnext, congrArg (Trace.mk · []) hmessages⟩
  · intro p q hmatches receipt
    obtain ⟨hnext, hevents⟩ := hmatches.publisher.attend lawful receipt
    exact ⟨⟨hmatches.dispatcher, hmatches.maxBody, hmatches.stats, hnext⟩, hevents⟩
  · exact h

end

/-! ## Decoding is independent of the publisher -/

theorem Channel.new_eq_ok_iff {capacity : Nat} {channel : Channel} :
    new capacity = .ok channel ↔
      1 ≤ capacity ∧ capacity ≤ maxCapacity ∧ channel = { capacity := capacity } := by
  constructor
  · intro h
    rw [new] at h
    split at h
    · cases h
    · split at h
      · cases h
      · cases h
        exact ⟨by omega, by omega, rfl⟩
  · rintro ⟨hmin, hmax, rfl⟩
    exact new_eq_ok hmin hmax

namespace Session

variable {capacity : Nat} {channel : Channel}

/-- What passes through the channel of a session that starts with an empty one. -/
theorem streamed_run (hchannel : Channel.new capacity = .ok channel)
    {s : Session Attended} (hstart : s.processor.publisher.channel = channel)
    (hnone : s.processor.publisher.taken = #[]) (hstats : s.processor.stats = {})
    (steps : List Step) {events : List Event}
    (hevents : (s.judgements steps).flatMap Judgement.events = events) :
    let acts := s.channelActs steps
    let after := (s.run steps).processor
    let received := after.publisher.taken.toList
    let buffered := after.publisher.channel.waiting
    let discarded := channel.collect Channel.discarded acts
    channel.run acts = after.publisher.channel ∧ acts.filterMap Act.event? = events ∧
      (received ++ buffered ++ discarded).Sublist events ∧
      after.stats.events = received.length + buffered.length + discarded.length +
        after.publisher.channel.lost ∧
      ((∀ act ∈ acts, act.closes = false) → events.length ≤ capacity →
        received ++ buffered = events) := by
  intro acts after received buffered discarded
  obtain ⟨-, -, rfl⟩ := Channel.new_eq_ok_iff.1 hchannel
  have hwent := s.went_run steps
  have hrun := hwent.channel
  have htaken := hwent.taken
  rw [hstart] at hrun htaken
  rw [hnone] at htaken
  have hpublished : acts.filterMap Act.event? = events :=
    (s.filterMap_event?_channelActs steps).trans hevents
  have hreceived : received = Channel.collect Channel.taken { capacity := capacity } acts := htaken
  have hbuffered : buffered = (Channel.run { capacity := capacity } acts).waiting :=
    congrArg Channel.waiting hrun
  have hlost : after.publisher.channel.lost = (Channel.run { capacity := capacity } acts).lost :=
    congrArg Channel.lost hrun
  have hcount : after.stats.events = events.length := by
    rw [← hevents]
    have hrun := s.stats_run_events steps
    rw [hstats, Nat.zero_add] at hrun
    exact hrun
  rw [hreceived, hbuffered, hlost, hcount, ← hpublished]
  refine ⟨hrun.symm, rfl, ?_, ?_, ?_⟩
  · exact Channel.passed_sublist rfl acts
  · exact Channel.length_published rfl rfl acts
  · exact fun hclosing hroom => Channel.passed_eq_of_room rfl rfl hclosing hroom

/-- Under a valid configuration, with or without a listener, it makes no difference
to results, counters and debug records where events go: into a collector, to a
function, or through a channel of any capacity.  The receiver of the channel acts
whenever it likes, between the steps and, as its schedule says, between the events
of a frame.  What it received, what still waits and what it discarded is part of
what the collector holds, and the rest is counted as lost. -/
theorem publisher_never_decides {config : Config} (hvalid : config.validate = .ok config)
    (hchannel : Channel.new capacity = .ok channel) {σ : Type} (callback : Callback σ)
    (schedule : Nat → List Receipt) (initial : Tracking) (source : TrackingSource)
    (steps : List Step) :
    ∃ d : Dispatcher,
      (∀ {P : Type} (publisher : P), Processor.ofConfig config publisher =
        .ok { dispatcher := d, maxBody := config.maxBody.toNat, publisher := publisher }) ∧
      ∀ e ∈ [d, d.withListener],
        let inputs := steps.filterMap Step.input?
        let collecting := start e config.maxBody.toNat initial source ({} : Collector)
        let calling := start e config.maxBody.toNat initial source callback
        let streaming := start e config.maxBody.toNat initial source
          ({ channel := channel, schedule := schedule } : Attended)
        let events := (collecting.feed inputs).processor.publisher.events.toList
        let acts := streaming.channelActs steps
        let after := (streaming.run steps).processor
        let received := after.publisher.taken.toList
        let buffered := after.publisher.channel.waiting
        let discarded := channel.collect Channel.discarded acts
        calling.reports steps = collecting.reports (inputs.map .input) ∧
          streaming.reports steps = collecting.reports (inputs.map .input) ∧
          (calling.run steps).processor.publisher.state =
            events.foldl callback.react callback.state ∧
          (channel.run acts = after.publisher.channel ∧ acts.filterMap Act.event? = events ∧
            (received ++ buffered ++ discarded).Sublist events ∧
            after.stats.events = received.length + buffered.length + discarded.length +
              after.publisher.channel.lost ∧
            ((∀ act ∈ acts, act.closes = false) → events.length ≤ capacity →
              received ++ buffered = events)) ∧
          ∀ {B : Type} {queue : Queue B} {holds : B → List Event}, queue.Lawful holds →
            let piped := start e config.maxBody.toNat initial source
              ({ stream := { buffer := queue.new capacity }, schedule := schedule } : Piped queue)
            piped.replies steps = streaming.replies steps ∧
              piped.reports steps = collecting.reports (inputs.map .input) ∧
              Piped.Follows holds after.publisher (piped.run steps).processor.publisher := by
  obtain ⟨d, hd⟩ : ∃ d, Dispatcher.ofConfig config = .ok d := by
    cases hclash : config.table.clash? with
    | some clash => simp [Config.validate, hclash] at hvalid
    | none =>
        rw [Dispatcher.ofConfig, hclash]
        exact ⟨_, rfl⟩
  refine ⟨d, ?_, ?_⟩
  · intro P publisher
    rw [Processor.ofConfig, hd]
    rfl
  · intro e _ inputs collecting calling streaming events acts after received buffered discarded
    have hcollected : events = (collecting.judgements steps).flatMap Judgement.events :=
      collected_eq_events e config.maxBody.toNat initial source steps
    have hreports {P : Type} [Publisher P] (hP : Reticent P) (publisher : P) :
        (start e config.maxBody.toNat initial source publisher).reports steps =
          collecting.reports (inputs.map .input) :=
      reports_eq hP Collector.reticent ⟨⟨rfl, rfl, rfl, trivial⟩, rfl, rfl⟩ steps
    refine ⟨hreports (Callback.reticent σ) callback, hreports Attended.reticent _, ?_, ?_, ?_⟩
    · have hcalled : (calling.acts steps).filterMap Act.event? = events :=
        (calling.filterMap_event?_acts steps).trans hcollected.symm
      rw [run_publisher, Callback.foldl_act, hcalled]
      rfl
    · exact streamed_run hchannel rfl rfl rfl steps hcollected.symm
    · intro B queue holds lawful piped
      obtain ⟨hmin, hmax, hempty⟩ := Channel.new_eq_ok_iff.1 hchannel
      obtain ⟨hnone, hfree, hopen⟩ := lawful.new hmin hmax
      have hstream : Stream.Follows queue holds { buffer := queue.new capacity } channel := by
        rw [hempty]
        exact ⟨hnone, hfree, hopen, rfl⟩
      have hfits : channel.Fits := by
        rw [hempty]
        exact Nat.zero_le capacity
      have hrelated : Related (Processor.Matches (Piped.Follows holds)) streaming piped :=
        ⟨⟨rfl, rfl, rfl, ⟨hstream, hfits, rfl, rfl, rfl⟩⟩, rfl, rfl⟩
      obtain ⟨hrun, hreplies⟩ := replies_piped lawful hrelated steps
      exact ⟨hreplies, hreports Piped.reticent _, hrun.processor.publisher⟩

/-- A channel with one slot: the first event of a reading is taken just before the
second one arrives, which is discarded, and the event of the next frame is lost.  A
function that counts has seen all three. -/
theorem publisher_never_decides_with_one_slot :
    let channel : Channel := { capacity := 1 }
    let schedule (clock : Nat) : List Receipt := if clock = 1 then [.take 1] else []
    let steps : List Step :=
      [.input (.process [20, 0, 2, 0x34, 0x32]), .receive .leave, .input (.ingest [4, 0, 3, 0x34])]
    let maxBody := (Config.maxBody {}).toNat
    let s := start {} maxBody {} .shared ({ channel := channel, schedule := schedule } : Attended)
    let t := start {} maxBody {} .shared ({ state := 0, react n _ := n + 1 } : Callback Nat)
    let after := (s.run steps).processor
    Config.validate {} = .ok {} ∧ Channel.new 1 = .ok channel ∧
      s.reports steps = t.reports steps ∧
      after.publisher.taken.toList = [.response 2 20 none ["42"]] ∧
      channel.collect Channel.discarded (s.channelActs steps) = [.telemetry (some 42) none none] ∧
      after.publisher.channel.lost = 1 ∧ after.stats.events = 3 ∧
      (t.run steps).processor.publisher.state = 3 := by
  intro channel schedule steps maxBody s t after
  have hvalid : Config.validate {} = .ok {} := rfl
  have hchannel : Channel.new 1 = .ok channel := rfl
  obtain ⟨d, hd, hsame⟩ := publisher_never_decides hvalid hchannel
    ({ state := 0, react n _ := n + 1 } : Callback Nat) schedule {} .shared steps
  have hdispatcher := congrArg (fun made => made.toOption.map (·.dispatcher)) (hd ())
  obtain rfl : {} = d := Option.some.inj hdispatcher
  obtain ⟨hcalled, hstreamed, hstate, -, -⟩ := hsame {} List.mem_cons_self
  have hreceived : after.publisher.taken.toList = [.response 2 20 none ["42"]] := by decide
  have hdiscarded : channel.collect Channel.discarded (s.channelActs steps) =
      [.telemetry (some 42) none none] := by decide
  have hlost : after.publisher.channel.lost = 1 := by decide
  have hevents : after.stats.events = 3 := by decide
  refine ⟨hvalid, hchannel, hstreamed.trans hcalled.symm, hreceived, hdiscarded, hlost, hevents, ?_⟩
  refine hstate.trans ?_
  decide

end Session
end DeviceFeed
