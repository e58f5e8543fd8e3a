import DeviceFeed.Proofs.Message
import DeviceFeed.Proofs.Session.Independence

/-!
# The log accounts for the counters

A frame leaves messages in three parts of the decoder, and what they say is held against
the counters: `Processor.Accounts` compares the messages of some work with what it has
added to each counter and to the losses of the publisher.  It holds of one frame, by its
four outcomes, and of runs by putting messages one behind the other.  Passing over a
dropped frame leaves one message more than reporting it, and nothing else depends on this.
-/

namespace DeviceFeed

open Channel (Act)
open Message (count count_append)

variable {P : Type} [Publisher P]

/-! ## Publishers that report losses -/

/-- A publisher that counts the events that it loses and reports each of them at once. -/
structure ReportsLosses (lost : P → Nat) : Prop where
  publish (publisher : P) (event : Event) :
    ((Publisher.publish publisher event).2 = [] ∧
        lost (Publisher.publish publisher event).1 = lost publisher) ∨
      ∃ message, (Publisher.publish publisher event).2 = [message] ∧
        message.lost? = some event.kind ∧
        lost (Publisher.publish publisher event).1 = lost publisher + 1
  receive (publisher : P) (receipt : Receipt) :
    lost (Publisher.receive publisher receipt).1 = lost publisher

theorem Channel.reportsLosses : ReportsLosses Channel.lost where
  publish c event := by
    change ((c.publish event).2 = [] ∧ (c.publish event).1.lost = c.lost) ∨
      ∃ message, (c.publish event).2 = [message] ∧ message.lost? = some event.kind ∧
        (c.publish event).1.lost = c.lost + 1
    cases hopen : c.isClosed with
    | true =>
        rw [publish_of_isClosed hopen]
        exact Or.inr ⟨_, rfl, rfl, rfl⟩
    | false =>
        by_cases hfree : c.free = 0
        · rw [publish_of_full hopen hfree]
          exact Or.inr ⟨_, rfl, rfl, rfl⟩
        · rw [publish_of_free hopen hfree]
          exact Or.inl ⟨rfl, rfl⟩
  receive c receipt := by
    change (c.act (.receive receipt)).lost = c.lost
    cases c.effect (.receive receipt) with
    | took count hact => rw [hact]
    | closed receiver _ _ hact => rw [hact]
    | left hact => rw [hact]

theorem Attended.reportsLosses : ReportsLosses fun a : Attended => a.channel.lost := by
  have hattend (a : Attended) (receipt : Receipt) :
      (a.attend receipt).channel.lost = a.channel.lost :=
    Channel.reportsLosses.receive a.channel receipt
  have hall (a : Attended) (receipts : List Receipt) :
      (receipts.foldl attend a).channel.lost = a.channel.lost := by
    induction receipts generalizing a with
    | nil => rfl
    | cons receipt receipts ih => exact (ih (a.attend receipt)).trans (hattend a receipt)
  constructor
  · intro a event
    rw [← hall a (a.schedule a.clock)]
    exact Channel.reportsLosses.publish _ event
  · exact hattend

/-! ## Announcements -/

/-- Each reported loss stands right behind the message that announces its event. -/
def Announced (messages : List Message) : Prop :=
  ∀ before message after kind, messages = before ++ message :: after →
    message.lost? = some kind → before.getLast? = some (.publishing kind)

theorem announced_of_no_loss {messages : List Message}
    (h : ∀ message ∈ messages, message.lost? = none) : Announced messages := by
  rintro before message after kind rfl hlost
  rw [h message (by simp)] at hlost
  cases hlost

theorem announced_of_topics {messages : List Message} {topics : List Topic}
    (h : ∀ message ∈ messages, message.topic ∈ topics)
    (hfull : Topic.channelFull ∉ topics) (hclosed : Topic.channelClosed ∉ topics) :
    Announced messages :=
  announced_of_no_loss fun message hmem => Message.lost?_of_topic (h message hmem) hfull hclosed

theorem announced_nil : Announced [] :=
  announced_of_no_loss fun _ hmem => absurd hmem List.not_mem_nil

theorem announced_single {message : Message} (h : message.lost? = none) : Announced [message] := by
  apply announced_of_no_loss
  intro other hmem
  rw [List.mem_singleton.1 hmem, h]

theorem announced_report {message : Message} {kind : String}
    (h : message.lost? = some kind) : Announced [.publishing kind, message] := by
  intro before other after otherKind hsplit hlost
  match before with
  | [] =>
      obtain ⟨rfl, -⟩ := List.cons.inj hsplit
      cases hlost
  | [first] =>
      obtain ⟨rfl, hrest⟩ := List.cons.inj hsplit
      obtain ⟨rfl, -⟩ := List.cons.inj hrest
      obtain rfl : kind = otherKind := Option.some.inj (h.symm.trans hlost)
      rfl
  | first :: second :: front =>
      have hlength := congrArg List.length hsplit
      simp at hlength

theorem Announced.append {first second : List Message} (hfirst : Announced first)
    (hsecond : Announced second) : Announced (first ++ second) := by
  intro before message after kind hsplit hlost
  rcases List.append_eq_append_iff.1 hsplit with ⟨front, hbefore, hback⟩ | ⟨back, hfront, hback⟩
  · rw [hbefore, List.getLast?_append, hsecond front message after kind hback hlost]
    rfl
  · cases back with
    | nil =>
        rw [List.nil_append] at hback
        have hlast := hsecond [] message after kind hback.symm hlost
        cases hlast
    | cons other back =>
        rw [List.cons_append, List.cons.injEq] at hback
        obtain ⟨rfl, -⟩ := hback
        exact hfirst before message back kind hfront hlost

/-- A line that reports a loss stands right behind the line that announces the event, and
names the same kind. -/
theorem Announced.lines {messages : List Message} (h : Announced messages)
    {before more : List String} {line : String}
    (hlog : logLines .trace messages = before ++ line :: more)
    (hloss : opensWith Topic.channelFull.opening line = true ∨
      opensWith Topic.channelClosed.opening line = true) :
    ∃ kind, before.getLast? = some (Message.publishing kind).line ∧
      (line = (Message.channelFull kind).line ∨ line = (Message.channelClosed kind).line) := by
  rw [logLines_trace, List.map_eq_append_iff] at hlog
  obtain ⟨front, back, rfl, rfl, hback⟩ := hlog
  obtain ⟨message, after, rfl, rfl, -⟩ := List.map_eq_cons_iff.1 hback
  have hlast {kind : String} (hkind : message.lost? = some kind) :
      (front.map Message.line).getLast? = some (Message.publishing kind).line := by
    rw [List.getLast?_map, h front message after kind rfl hkind]
    rfl
  rw [Message.opensWith_line, Message.opensWith_line, beq_iff_eq, beq_iff_eq] at hloss
  cases message with
  | channelFull kind => exact ⟨kind, hlast rfl, Or.inl rfl⟩
  | channelClosed kind => exact ⟨kind, hlast rfl, Or.inr rfl⟩
  | _ => rcases hloss with htopic | htopic <;> cases htopic

/-- The messages about events in the course of some acts: each event is announced, and its
loss is reported. -/
def announcements (publisher : P) : List Act → List Message
  | [] => []
  | .publish event :: acts =>
    let published := Publisher.publish publisher event
    .publishing event.kind :: published.2 ++ announcements published.1 acts
  | .receive receipt :: acts => announcements (Publisher.receive publisher receipt).1 acts

theorem announcements_publish (publisher : P) (events : List Event) (acts : List Act) :
    announcements publisher (events.map .publish ++ acts) =
      (publishAll publisher events).2 ++ announcements (publishAll publisher events).1 acts := by
  induction events generalizing publisher with
  | nil => rfl
  | cons event events ih =>
      rw [List.map_cons, List.cons_append, announcements, ih, publishAll_cons]
      simp only [List.cons_append, List.append_assoc]

/-- A receiver that works on its own reports nothing. -/
theorem announcements_attended (a : Attended) (acts : List Act) :
    announcements a acts =
      announcements a.channel (Attended.interleave a.schedule a.clock acts) := by
  have hreceive (channel : Channel) (receipts : List Receipt) (acts : List Act) :
      announcements channel (receipts.map .receive ++ acts) =
        announcements (channel.run (receipts.map .receive)) acts := by
    induction receipts generalizing channel with
    | nil => rfl
    | cons receipt receipts ih => exact ih (channel.act (.receive receipt))
  induction acts generalizing a with
  | nil => rfl
  | cons act acts ih =>
      cases act with
      | receive receipt => exact ih (a.attend receipt)
      | publish event =>
          obtain ⟨hdue, -⟩ := a.went_attendAll (a.schedule a.clock)
          obtain ⟨hpublish, hclock⟩ := a.went_publish event
          have hrest := ih (a.publish event).1
          rw [hpublish.schedule, hclock] at hrest
          rw [Attended.interleave, hreceive, ← hdue.channel]
          exact congrArg (_ :: _ ++ ·) hrest

/-! ## Publishing -/

/-- What publishing some events reports. -/
structure Publisher.Reports (lost : P → Nat) (before after : P) (events : List Event)
    (messages : List Message) : Prop where
  topics : ∀ message ∈ messages, message.topic ∈ Topic.aboutEvents
  published : count .publishing messages = events.length
  lost : lost after = lost before + (count .channelFull messages + count .channelClosed messages)
  announced : Announced messages

omit [Publisher P] in
theorem Publisher.Reports.append {lost : P → Nat} {p q r : P} {first second : List Event}
    {some more : List Message} (hfirst : Reports lost p q first some)
    (hsecond : Reports lost q r second more) :
    Reports lost p r (first ++ second) (some ++ more) where
  topics message hmem := (List.mem_append.1 hmem).elim (hfirst.topics message) (hsecond.topics message)
  published := by rw [count_append, hfirst.published, hsecond.published, List.length_append]
  lost := by
    rw [hsecond.lost, hfirst.lost, count_append, count_append]
    omega
  announced := hfirst.announced.append hsecond.announced

namespace ReportsLosses

variable {lost : P → Nat}

/-- An event is announced, and its loss is reported behind the announcement. -/
theorem reports_event (h : ReportsLosses lost) (publisher : P) (event : Event) :
    Publisher.Reports lost publisher (Publisher.publish publisher event).1 [event]
      (.publishing event.kind :: (Publisher.publish publisher event).2) := by
  rcases h.publish publisher event with ⟨hnone, hsame⟩ | ⟨message, hone, hkind, hmore⟩
  · rw [hnone]
    have htopics : ∀ message ∈ [Message.publishing event.kind],
        message.topic ∈ [Topic.publishing] := by
      intro message hmem
      rw [List.mem_singleton.1 hmem]
      exact List.mem_cons_self
    refine ⟨?_, rfl, hsame, announced_of_topics htopics (by decide) (by decide)⟩
    intro message hmem
    rw [List.mem_singleton.1 hmem]
    exact List.mem_cons_self
  · have hcounts : Publisher.Reports lost publisher (Publisher.publish publisher event).1 [event]
        [.publishing event.kind, message] := by
      obtain rfl | rfl := Message.eq_of_lost? hkind
      · exact ⟨by simp [Message.topic, Topic.aboutEvents], rfl, hmore, announced_report hkind⟩
      · exact ⟨by simp [Message.topic, Topic.aboutEvents], rfl, hmore, announced_report hkind⟩
    rw [hone]
    exact hcounts

theorem reports_all (h : ReportsLosses lost) (publisher : P) (events : List Event) :
    Publisher.Reports lost publisher (publishAll publisher events).1 events
      (publishAll publisher events).2 := by
  induction events generalizing publisher with
  | nil => exact ⟨fun message hmem => absurd hmem List.not_mem_nil, rfl, rfl, announced_nil⟩
  | cons event events ih =>
      rw [publishAll_cons]
      exact (h.reports_event publisher event).append (ih _)

end ReportsLosses

/-! ## What the log of some work says -/

/-- The messages of some work account for what it has added to the counters and to the
losses of the publisher, and for so many dropped frames that it has passed over. -/
structure Processor.Accounts (lost : P → Nat) (before after : Processor P)
    (messages : List Message) (passedOver : Nat) : Prop where
  handled : after.stats.frames + after.stats.invalidEncoding =
    before.stats.frames + before.stats.invalidEncoding + count .dispatching messages
  suppressed : after.stats.suppressed = before.stats.suppressed + count .suppressed messages
  events : after.stats.events = before.stats.events + count .publishing messages
  lost : lost after.publisher =
    lost before.publisher + (count .channelFull messages + count .channelClosed messages)
  dropping : count .dropping messages = passedOver
  announced : Announced messages

namespace Processor.Accounts

variable {lost : P → Nat} {p q r : Processor P} {first second : List Message} {m n : Nat}

omit [Publisher P] in
theorem trans (hfirst : Accounts lost p q first m) (hsecond : Accounts lost q r second n) :
    Accounts lost p r (first ++ second) (m + n) where
  handled := by rw [hsecond.handled, hfirst.handled, count_append, Nat.add_assoc]
  suppressed := by rw [hsecond.suppressed, hfirst.suppressed, count_append, Nat.add_assoc]
  events := by rw [hsecond.events, hfirst.events, count_append, Nat.add_assoc]
  lost := by
    rw [hsecond.lost, hfirst.lost, count_append, count_append]
    omega
  dropping := by rw [count_append, hfirst.dropping, hsecond.dropping]
  announced := hfirst.announced.append hsecond.announced

end Processor.Accounts

/-! ## One frame -/

theorem Sink.topics_trace (sink : Sink) (record : Record) :
    ∀ message ∈ (sink.trace record).messages, message.topic ∈ [Topic.recorded] := by
  intro message hmem
  cases sink with
  | log =>
      rw [List.mem_singleton.1 hmem]
      exact List.mem_cons_self
  | nowhere => cases hmem
  | listener => cases hmem

/-- A frame that is handled leaves a message that says so, and what follows it is about
records. -/
theorem Dispatcher.messages_trace (d : Dispatcher) (frame : Frame) (tracking : Tracking) :
    ∃ records, (d.trace frame tracking).messages =
        .dispatching (d.table.resolve frame.header.command) frame.header frame.body.length ::
          records ∧
      ∀ message ∈ records, message.topic ∈ [Topic.recorded] := by
  rw [trace]
  cases Reading.ofFrame d.table frame with
  | error fault => exact ⟨[], rfl, fun message hmem => by cases hmem⟩
  | ok reading => exact ⟨_, rfl, d.sink.topics_trace _⟩

namespace Processor

variable {lost : P → Nat}

omit [Publisher P] in
/-- Messages about records account for no change that a counter shows. -/
theorem accounts_of_records {before after : Processor P} {messages : List Message}
    (hmessages : ∀ message ∈ messages, message.topic ∈ [Topic.recorded])
    (hhandled : after.stats.frames + after.stats.invalidEncoding =
      before.stats.frames + before.stats.invalidEncoding)
    (hsuppressed : after.stats.suppressed = before.stats.suppressed)
    (hevents : after.stats.events = before.stats.events)
    (hpublisher : after.publisher = before.publisher) :
    Accounts lost before after messages 0 := by
  have hzero (topic : Topic) (htopic : topic ∉ [Topic.recorded]) : count topic messages = 0 :=
    Message.count_eq_zero hmessages htopic
  constructor
  · rw [hzero _ (by decide), hhandled, Nat.add_zero]
  · rw [hzero _ (by decide), hsuppressed, Nat.add_zero]
  · rw [hzero _ (by decide), hevents, Nat.add_zero]
  · rw [hzero _ (by decide), hzero _ (by decide), hpublisher]
    rfl
  · exact hzero _ (by decide)
  · exact announced_of_topics hmessages (by decide) (by decide)

omit [Publisher P] in
/-- What a frame without text leaves behind. -/
theorem accounts_notText (p : Processor P) (frame : Frame) (tracking : Tracking)
    (fault : Utf8.Fault) :
    let q := { p with stats := p.stats.reject (.notText fault) }
    Accounts lost p q ((p.dispatcher.trace frame tracking).messages ++
      (p.dispatcher.sink.trace ((Rejection.notText fault).record (some frame.header))).messages) 0 := by
  intro q
  obtain ⟨records, hmessages, hrecords⟩ := p.dispatcher.messages_trace frame tracking
  have hfirst : Accounts lost p q
      [.dispatching (p.dispatcher.table.resolve frame.header.command) frame.header
        frame.body.length] 0 :=
    ⟨rfl, rfl, rfl, rfl, rfl, announced_single rfl⟩
  rw [hmessages]
  exact (hfirst.trans (accounts_of_records hrecords rfl rfl rfl rfl)).trans
    (accounts_of_records (p.dispatcher.sink.topics_trace _) rfl rfl rfl rfl)

/-- What an accepted frame leaves behind. -/
theorem accounts_accept (h : ReportsLosses lost) (p : Processor P) (frame : Frame)
    (tracking : Tracking) (d : Dispatched) :
    Accounts lost p (p.settle d)
      (p.accept frame.header tracking d (p.dispatcher.trace frame tracking)).trace.messages 0 := by
  obtain ⟨records, hmessages, hrecords⟩ := p.dispatcher.messages_trace frame tracking
  obtain ⟨htopics, hpublished, hlost, hannounced⟩ := h.reports_all p.publisher d.events
  -- the counters grow in three steps: the frame, its suppression, and its events
  let handled : Processor P :=
    { p with
      stats :=
        { p.stats with
          frames := p.stats.frames + 1
          unknownCommands := p.stats.unknownCommands + (if d.command.isUnknown then 1 else 0) } }
  let held : Processor P :=
    { handled with
      stats :=
        { handled.stats with
          suppressed := p.stats.suppressed + (if d.suppressed then 1 else 0) } }
  have hfirst : Accounts lost p handled
      [.dispatching (p.dispatcher.table.resolve frame.header.command) frame.header
        frame.body.length] 0 :=
    ⟨Nat.add_right_comm _ _ _, rfl, rfl, rfl, rfl, announced_single rfl⟩
  have hheld : Accounts lost handled held
      (if d.suppressed then
        Trace.say (.suppressed frame.header.messageId tracking.deviceId) else {}).messages 0 := by
    cases hsuppressed : d.suppressed with
    | true =>
        refine ⟨rfl, ?_, rfl, rfl, rfl, announced_single rfl⟩
        simp only [held, hsuppressed]
        rfl
    | false =>
        refine ⟨rfl, ?_, rfl, rfl, rfl, announced_nil⟩
        simp only [held, hsuppressed]
        rfl
  have hzero (topic : Topic) (htopic : topic ∉ Topic.aboutEvents) :
      count topic (publishAll p.publisher d.events).2 = 0 :=
    Message.count_eq_zero htopics htopic
  have hevents : Accounts lost held (p.settle d) (publishAll p.publisher d.events).2 0 := by
    refine ⟨?_, ?_, ?_, hlost, hzero _ (by decide), hannounced⟩
    · rw [hzero _ (by decide)]
      rfl
    · rw [hzero _ (by decide)]
      rfl
    · rw [hpublished]
      rfl
  have hall := ((hfirst.trans (accounts_of_records hrecords rfl rfl rfl rfl)).trans hheld).trans
    hevents
  rw [List.singleton_append, ← hmessages] at hall
  exact hall

theorem accounts_process (h : ReportsLosses lost) (p : Processor P) (tracking : Tracking)
    (raw : Bytes) :
    Accounts lost p (p.process tracking raw).processor (p.process tracking raw).trace.messages
      0 := by
  cases p.process_cases tracking raw with
  | short hshort hprocess =>
      rw [hprocess]
      exact accounts_of_records (p.dispatcher.sink.topics_trace _) rfl rfl rfl rfl
  | oversized frame hframe hsize hprocess =>
      rw [hprocess]
      exact accounts_of_records (p.dispatcher.sink.topics_trace _) rfl rfl rfl rfl
  | notText frame fault hframe hsize hdispatch hprocess =>
      rw [hprocess]
      exact p.accounts_notText frame tracking fault
  | accepted frame d hframe hsize hdispatch hprocess =>
      rw [hprocess]
      exact accounts_accept h p frame tracking d

end Processor

/-! ## Steps and runs -/

/-- The bytes that a step ingests. -/
def Step.ingested? : Step → Option Bytes
  | .input (.ingest raw) => some raw
  | _ => none

namespace Session

variable {lost : P → Nat}

/-- The ingested bytes among some steps that are dropped. -/
def passedOver (s : Session P) : List Step → List Bytes
  | [] => []
  | step :: steps =>
    (step.ingested?.filter fun raw =>
        !(s.processor.process s.observed raw).result.isOk).toList ++
      (s.step step).1.passedOver steps

/-- The messages of a run. -/
def messages (s : Session P) (steps : List Step) : List Message :=
  (s.replies steps).flatMap (·.trace.messages)

theorem messages_cons (s : Session P) (step : Step) (steps : List Step) :
    s.messages (step :: steps) =
      (s.step step).2.trace.messages ++ (s.step step).1.messages steps :=
  List.flatMap_cons

theorem accounts_step (h : ReportsLosses lost) (s : Session P) (step : Step) :
    Processor.Accounts lost s.processor (s.step step).1.processor
      (s.step step).2.trace.messages (s.passedOver [step]).length := by
  cases step with
  | receive receipt => exact ⟨rfl, rfl, rfl, h.receive _ receipt, rfl, announced_nil⟩
  | input input =>
      cases input with
      | retarget update => exact ⟨rfl, rfl, rfl, rfl, rfl, announced_nil⟩
      | process raw => exact Processor.accounts_process h s.processor s.observed raw
      | ingest raw =>
          have hframe := Processor.accounts_process h s.processor s.observed raw
          change Processor.Accounts lost s.processor
            (s.processor.ingest s.observed raw).processor
            (s.processor.ingest s.observed raw).trace.messages _
          cases hresult : (s.processor.process s.observed raw).result with
          | ok number =>
              have hkept : s.passedOver [.input (.ingest raw)] = [] := by
                simp [passedOver, Step.ingested?, hresult, Except.isOk, Except.toBool]
              rw [Processor.ingest_of_eq_ok hresult, hkept]
              exact hframe
          | error why =>
              have hdropped : s.passedOver [.input (.ingest raw)] = [raw] := by
                simp [passedOver, Step.ingested?, hresult, Except.isOk, Except.toBool]
              have hlast : Processor.Accounts lost (s.processor.process s.observed raw).processor
                  (s.processor.process s.observed raw).processor [.dropping why] 1 :=
                ⟨rfl, rfl, rfl, rfl, rfl, announced_single rfl⟩
              rw [Processor.ingest_of_eq_error hresult, hdropped]
              exact hframe.trans hlast

/-- The messages of a run account for what the run has changed. -/
theorem accounts_run (h : ReportsLosses lost) (s : Session P) (steps : List Step) :
    Processor.Accounts lost s.processor (s.run steps).processor (s.messages steps)
      (s.passedOver steps).length := by
  induction steps generalizing s with
  | nil => exact ⟨rfl, rfl, rfl, rfl, rfl, announced_nil⟩
  | cons step steps ih =>
      have hboth := (s.accounts_step h step).trans (ih (s.step step).1)
      rw [← List.length_append, passedOver, passedOver, List.append_nil] at hboth
      rw [run_cons, messages_cons]
      exact hboth

end Session

/-! ## Messages about events -/

theorem Processor.aboutEvents_process {lost : P → Nat} (h : ReportsLosses lost)
    (p : Processor P) (tracking : Tracking) (raw : Bytes) :
    Message.aboutEvents (p.process tracking raw).trace.messages =
      (publishAll p.publisher (p.dispatcher.contribution p.maxBody tracking raw)).2 := by
  have hrecords {messages : List Message}
      (hmessages : ∀ message ∈ messages, message.topic ∈ [Topic.recorded]) :
      Message.aboutEvents messages = [] := Message.aboutEvents_eq_nil hmessages (by decide)
  have hsink (record : Record) := hrecords (p.dispatcher.sink.topics_trace record)
  have htrace (frame : Frame) :
      Message.aboutEvents (p.dispatcher.trace frame tracking).messages = [] := by
    obtain ⟨records, hmessages, htopics⟩ := p.dispatcher.messages_trace frame tracking
    rw [hmessages]
    exact (Message.aboutEvents_append [_] records).trans (hrecords htopics)
  cases p.process_cases tracking raw with
  | short hshort hprocess =>
      rw [hprocess, Dispatcher.contribution_of_short _ _ _ hshort]
      exact hsink _
  | oversized frame hframe hsize hprocess =>
      rw [hprocess, Dispatcher.contribution_of_oversized _ _ hframe hsize]
      exact hsink _
  | notText frame fault hframe hsize hdispatch hprocess =>
      rw [hprocess, Dispatcher.contribution_of_notText hframe hdispatch]
      refine (Message.aboutEvents_append _ _).trans ?_
      rw [htrace, hsink]
      rfl
  | accepted frame d hframe hsize hdispatch hprocess =>
      have hheld : Message.aboutEvents (if d.suppressed then
          Trace.say (.suppressed frame.header.messageId tracking.deviceId) else {}).messages =
            [] := by
        cases d.suppressed with
        | true => rfl
        | false => rfl
      have hpublished : Message.aboutEvents (publishAll p.publisher d.events).2 =
          (publishAll p.publisher d.events).2 := by
        rw [Message.aboutEvents, List.filter_eq_self]
        intro message hmem
        exact decide_eq_true ((h.reports_all p.publisher d.events).topics message hmem)
      rw [hprocess, Dispatcher.contribution_of_dispatched hframe hsize hdispatch]
      have hfirst : Message.aboutEvents (p.dispatcher.trace frame tracking ++
          if d.suppressed then Trace.say (.suppressed frame.header.messageId tracking.deviceId)
          else {}).messages = [] := by
        refine (Message.aboutEvents_append _ _).trans ?_
        rw [htrace, hheld]
        rfl
      exact (Message.aboutEvents_append _ _).trans (congrArg₂ (· ++ ·) hfirst hpublished)

namespace Session

variable {lost : P → Nat}

/-- What the log of a run says about events is what the acts of the run announce. -/
theorem aboutEvents_messages (h : ReportsLosses lost) (s : Session P) (steps : List Step) :
    Message.aboutEvents (s.messages steps) =
      announcements s.processor.publisher (s.acts steps) := by
  induction steps generalizing s with
  | nil => rfl
  | cons step steps ih =>
      rw [messages_cons, Message.aboutEvents_append, ih, acts]
      cases step with
      | receive receipt => rfl
      | input input =>
          rw [actsOf, announcements_publish]
          cases hraw : (Step.input input).raw? with
          | none =>
              rw [contribution, hraw]
              rcases update_or_receipt_of_raw?_eq_none hraw with ⟨update, hstep⟩ | ⟨receipt, hstep⟩
              · rw [hstep]
                rfl
              · cases hstep
          | some raw =>
              rw [step_frame hraw, contribution_of_raw? hraw, ← Processor.process_publisher,
                ← Processor.aboutEvents_process h]
              congr 1
              rcases s.step_eq_afterFrame hraw with hstep | hstep
              · rw [hstep]
                rfl
              · rw [hstep]
                cases hresult : (s.processor.process s.observed raw).result with
                | ok number => rw [Processor.ingest_of_eq_ok hresult]; rfl
                | error why =>
                    rw [Processor.ingest_of_eq_error hresult]
                    exact (Message.aboutEvents_append _ _).trans (List.append_nil _)

/-! ## Reporting and passing over -/

/-- Two replies to the same bytes: the first passes over a dropped frame, the second reports
it. -/
inductive PassesOver (passed reported : Reply) : Prop where
  | accepted (count : Nat) (hresult : reported.result = some (.ok count))
      (hsame : passed = reported)
  | dropped (why : Rejection) (hresult : reported.result = some (.error why))
      (hpassed : passed =
        { reported with
          result := some (.ok 0)
          trace := reported.trace ++ Trace.say (.dropping why) })

theorem enter_ingest (s : Session P) (raw : Bytes) :
    (s.enter (.ingest raw)).1 = (s.enter (.process raw)).1 ∧
      PassesOver (s.enter (.ingest raw)).2 (s.enter (.process raw)).2 := by
  simp only [enter, afterFrame]
  cases hresult : (s.processor.process s.observed raw).result with
  | ok count =>
      rw [Processor.ingest_of_eq_ok hresult]
      exact ⟨rfl, .accepted count rfl (by rw [hresult])⟩
  | error why =>
      rw [Processor.ingest_of_eq_error hresult]
      exact ⟨rfl, .dropped why rfl rfl⟩

/-- Whether one frame of a run is reported or passed over shows in its own reply only. -/
theorem run_ingest (s : Session P) (before : List Step) (raw : Bytes) (after : List Step) :
    s.run (before ++ .input (.ingest raw) :: after) =
        s.run (before ++ .input (.process raw) :: after) ∧
      ∃ first second more,
        s.replies (before ++ .input (.ingest raw) :: after) =
            s.replies before ++ first :: more ∧
          s.replies (before ++ .input (.process raw) :: after) =
            s.replies before ++ second :: more ∧
          PassesOver first second := by
  obtain ⟨hsame, hreply⟩ := (s.run before).enter_ingest raw
  refine ⟨?_, _, _, _, s.replies_append before _, ?_, hreply⟩
  · rw [run_append, run_append, run_cons, run_cons]
    exact congrArg (·.run after) hsame
  · rw [replies_append, replies]
    exact congrArg (fun t => _ ++ _ :: t.replies after) hsame.symm

/-! ## The log of a session -/

/-- At every point of a run, under a valid configuration and with or without a listener, the
log agrees with the counters of the processor and of the channel, whatever the receiver does
meanwhile.  There is a line for each frame that is handled, for each that is held back, for
each event, for each event that the channel loses, and for each dropped frame that is passed
over.  A loss is reported right behind the announcement of the event.  Whether one frame is
passed over or reported makes no difference to anything else. -/
theorem log_accounts_for_counters {config : Config} (hvalid : config.validate = .ok config)
    {capacity : Nat} {channel : Channel} (hchannel : Channel.new capacity = .ok channel)
    (schedule : Nat → List Receipt) (initial : Tracking) (source : TrackingSource)
    (steps : List Step) :
    ∃ p, Processor.ofConfig config ({ channel := channel, schedule := schedule } : Attended) =
        .ok p ∧
      ∀ q ∈ [p, p.withListener],
        let s : Session Attended := ⟨q, initial, source⟩
        let log := logLines .trace (s.messages steps)
        let lines (topic : Topic) := log.countP (opensWith topic.opening)
        let after := (s.run steps).processor
        lines .dispatching = after.stats.frames + after.stats.invalidEncoding ∧
          lines .suppressed = after.stats.suppressed ∧
          lines .publishing = after.stats.events ∧
          lines .channelFull + lines .channelClosed = after.publisher.channel.lost ∧
          lines .dropping = (s.passedOver steps).length ∧
          (∀ before line more, log = before ++ line :: more →
            opensWith Topic.channelFull.opening line = true ∨
              opensWith Topic.channelClosed.opening line = true →
            ∃ kind, before.getLast? = some (Message.publishing kind).line ∧
              (line = (Message.channelFull kind).line ∨
                line = (Message.channelClosed kind).line)) ∧
          Message.aboutEvents (s.messages steps) = announcements channel (s.channelActs steps) ∧
          ∀ before raw more,
            s.run (before ++ .input (.ingest raw) :: more) =
                s.run (before ++ .input (.process raw) :: more) ∧
              ∃ first second rest,
                s.replies (before ++ .input (.ingest raw) :: more) =
                    s.replies before ++ first :: rest ∧
                  s.replies (before ++ .input (.process raw) :: more) =
                    s.replies before ++ second :: rest ∧
                  PassesOver first second := by
  obtain ⟨p, hp, -, -, -, hpublisher, hempty⟩ := Processor.exists_ofConfig hvalid
    ({ channel := channel, schedule := schedule } : Attended)
  obtain ⟨-, -, hnew⟩ := Channel.new_eq_ok_iff.1 hchannel
  refine ⟨p, hp, ?_⟩
  intro q hq s log lines after
  have hstart : q.stats = {} ∧ q.publisher = { channel := channel, schedule := schedule } := by
    simp only [List.mem_cons, List.not_mem_nil, or_false] at hq
    rcases hq with rfl | rfl
    · exact ⟨hempty, hpublisher⟩
    · exact ⟨hempty, hpublisher⟩
  have hlines (topic : Topic) : lines topic = Message.count topic (s.messages steps) :=
    countP_opensWith_logLines topic (s.messages steps)
  obtain ⟨hhandled, hsuppressed, hevents, hlost, hdropping, hannounced⟩ :=
    s.accounts_run Attended.reportsLosses steps
  have hquiet : s.processor.publisher.channel.lost = 0 := by
    change q.publisher.channel.lost = 0
    rw [hstart.2, hnew]
  have hfresh : s.processor.stats = {} := hstart.1
  rw [hfresh] at hhandled hsuppressed hevents
  rw [hquiet, Nat.zero_add] at hlost
  refine ⟨?_, ?_, ?_, ?_, ?_, fun before line more => hannounced.lines, ?_, s.run_ingest⟩
  · rw [hlines, hhandled]
    exact (Nat.zero_add _).symm
  · rw [hlines, hsuppressed]
    exact (Nat.zero_add _).symm
  · rw [hlines, hevents]
    exact (Nat.zero_add _).symm
  · rw [hlines, hlines, hlost]
  · rw [hlines, hdropping]
  · rw [aboutEvents_messages Attended.reportsLosses, announcements_attended, channelActs]
    change announcements q.publisher.channel _ = _
    rw [hstart.2]

/-- The channel has one slot, so the second event of the reading is lost; the next reading is
of another device, and the last frame is too short. -/
theorem log_accounts_for_counters_one_slot :
    let channel : Channel := { capacity := 1 }
    let steps : List Step := [.input (.process [20, 0, 2, 0x34, 0x32]),
      .input (.ingest [20, 0, 1, 0x37]), .input (.ingest [4, 0])]
    Config.validate {} = .ok {} ∧ Channel.new 1 = .ok channel ∧
      ∃ p, Processor.ofConfig {} ({ channel := channel, schedule := fun _ => [] } : Attended) =
          .ok p ∧
        let s : Session Attended := ⟨p, .strict 42, .shared⟩
        let log := logLines .trace (s.messages steps)
        s.messages steps =
            [.dispatching .hardware ⟨20, 2⟩ 2, .publishing "response", .publishing "telemetry",
              .channelFull "telemetry", .dispatching .hardware ⟨20, 1⟩ 1,
              .suppressed 1 (some 42), .dropping (.short 2)] ∧
          s.passedOver steps = [[4, 0]] ∧
          log.countP (opensWith Topic.publishing.opening) = 2 ∧
          log.countP (opensWith Topic.suppressed.opening) = 1 ∧
          log.countP (opensWith Topic.channelFull.opening) +
            log.countP (opensWith Topic.channelClosed.opening) = 1 ∧
          log.countP (opensWith Topic.dropping.opening) = 1 := by
  intro channel steps
  have hvalid : Config.validate {} = .ok {} := rfl
  have hchannel : Channel.new 1 = .ok channel := rfl
  refine ⟨hvalid, hchannel, ?_⟩
  obtain ⟨p, hp, haccounts⟩ :=
    log_accounts_for_counters hvalid hchannel (fun _ => []) (.strict 42) .shared steps
  obtain ⟨-, hsuppressed, hevents, hlost, hdropping, -⟩ := haccounts p List.mem_cons_self
  refine ⟨p, hp, ?_⟩
  obtain rfl : _ = p := Except.ok.inj hp
  refine ⟨by decide, by decide, hevents.trans ?_, hsuppressed.trans ?_, hlost.trans ?_,
    hdropping.trans ?_⟩
  all_goals decide

end Session

end DeviceFeed
