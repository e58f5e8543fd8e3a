import DeviceFeed.Proofs.Channel

/-!
# Streams through a queue

A channel is a queue between two sides together with a counter on the sending
side.  Here the queue is any one that keeps the laws of `Queue.Lawful`, which
say what a queue does with one event, with a receiver that takes events and
with one that closes or leaves.  `Follows` relates a stream through such a queue
to a channel, and a stream that follows a channel cannot be told from it.  So
what holds of the runs of channels holds of every stream.
-/

namespace DeviceFeed

/-! ## Queues -/

/-- Why a queue hands an event back. -/
inductive Refusal where
  | closed (event : Event)
  | full (event : Event)
  deriving DecidableEq, Repr

/-- The operations of a bounded queue. -/
structure Queue (Q : Type) where
  new : Nat → Q
  offer : Q → Event → Except Refusal Q
  take : Q → Option (Event × Q)
  close : Q → Q
  leave : Q → Q
  free : Q → Nat
  isClosed : Q → Bool

variable {Q : Type}

/-- What a queue does, by the events that it holds. -/
structure Queue.Lawful (queue : Queue Q) (buffered : Q → List Event) : Prop where
  new {capacity : Nat} (hmin : 1 ≤ capacity) (hmax : capacity ≤ Channel.maxCapacity) :
    buffered (queue.new capacity) = [] ∧ queue.free (queue.new capacity) = capacity ∧
      queue.isClosed (queue.new capacity) = false
  offer_closed {q : Q} (h : queue.isClosed q = true) (event : Event) :
    queue.offer q event = .error (.closed event)
  offer_full {q : Q} (hopen : queue.isClosed q = false) (hfull : queue.free q = 0)
    (event : Event) : queue.offer q event = .error (.full event)
  offer_free {q : Q} (hopen : queue.isClosed q = false) (hfree : queue.free q ≠ 0)
    (event : Event) : ∃ next, queue.offer q event = .ok next ∧
      buffered next = buffered q ++ [event] ∧ queue.free next + 1 = queue.free q ∧
      queue.isClosed next = false
  take_nil {q : Q} (h : buffered q = []) : queue.take q = none
  take_cons {q : Q} {event : Event} {rest : List Event} (h : buffered q = event :: rest) :
    ∃ next, queue.take q = some (event, next) ∧ buffered next = rest ∧
      queue.free next = queue.free q + 1 ∧ queue.isClosed next = queue.isClosed q
  close (q : Q) : buffered (queue.close q) = buffered q ∧
    queue.free (queue.close q) = queue.free q ∧ queue.isClosed (queue.close q) = true
  leave (q : Q) : buffered (queue.leave q) = [] ∧
    queue.free (queue.leave q) = queue.free q + (buffered q).length ∧
    queue.isClosed (queue.leave q) = true

/-- A list of events beside a count of free slots. -/
structure Slots where
  free : Nat
  events : List Event
  shut : Bool

def Slots.queue : Queue Slots where
  new capacity := ⟨capacity, [], false⟩
  offer q event :=
    if q.shut then .error (.closed event)
    else if q.free = 0 then .error (.full event)
    else .ok { q with free := q.free - 1, events := q.events ++ [event] }
  take q :=
    match q.events with
    | [] => none
    | event :: rest => some (event, { q with free := q.free + 1, events := rest })
  close q := { q with shut := true }
  leave q := ⟨q.free + q.events.length, [], true⟩
  free := Slots.free
  isClosed := Slots.shut

theorem Slots.lawful : queue.Lawful events where
  new _ _ := ⟨rfl, rfl, rfl⟩
  offer_closed h event := if_pos h
  offer_full hopen hfull event := by
    simp only [queue] at hopen hfull ⊢
    rw [hopen, if_neg Bool.false_ne_true, if_pos hfull]
  offer_free hopen hfree event := by
    simp only [queue] at hopen hfree ⊢
    rw [hopen, if_neg Bool.false_ne_true, if_neg hfree]
    exact ⟨_, rfl, rfl, Nat.succ_pred_eq_of_ne_zero hfree, rfl⟩
  take_nil h := by
    simp only [queue, h]
  take_cons h := by
    simp only [queue, h]
    exact ⟨_, rfl, rfl, rfl, rfl⟩
  close _ := ⟨rfl, rfl, rfl⟩
  leave _ := ⟨rfl, rfl, rfl⟩

/-- Takes at most so many events. -/
def Queue.takeUpTo (queue : Queue Q) : Nat → Q → Q × List Event
  | 0, q => (q, [])
  | count + 1, q =>
    match queue.take q with
    | none => (q, [])
    | some (event, next) =>
      let (last, events) := queue.takeUpTo count next
      (last, event :: events)

variable {queue : Queue Q} {buffered : Q → List Event}

theorem Queue.Lawful.takeUpTo (lawful : queue.Lawful buffered) (count : Nat) (q : Q) :
    buffered (queue.takeUpTo count q).1 = (buffered q).drop count ∧
      (queue.takeUpTo count q).2 = (buffered q).take count ∧
      queue.free (queue.takeUpTo count q).1 =
        queue.free q + ((buffered q).take count).length ∧
      queue.isClosed (queue.takeUpTo count q).1 = queue.isClosed q := by
  induction count generalizing q with
  | zero => exact ⟨rfl, rfl, rfl, rfl⟩
  | succ count ih =>
      cases hbuffered : buffered q with
      | nil =>
          rw [Queue.takeUpTo, lawful.take_nil hbuffered]
          exact ⟨hbuffered, rfl, rfl, rfl⟩
      | cons event rest =>
          obtain ⟨next, htake, hrest, hfree, hclosed⟩ := lawful.take_cons hbuffered
          obtain ⟨hlast, hevents, hslots, hkept⟩ := ih next
          rw [hrest] at hlast hevents hslots
          rw [Queue.takeUpTo, htake]
          refine ⟨hlast, congrArg (event :: ·) hevents, ?_, hkept.trans hclosed⟩
          rw [List.take_succ_cons, List.length_cons]
          dsimp only
          omega

/-! ## Streams -/

/-- The two ends of a queue, with the number of events that it refused. -/
structure Stream (Q : Type) where
  buffer : Q
  lost : Nat := 0

namespace Stream

def publish (queue : Queue Q) (s : Stream Q) (event : Event) : Stream Q × List Message :=
  match queue.offer s.buffer event with
  | .ok buffer => ({ s with buffer := buffer }, [])
  | .error (.full event) => ({ s with lost := s.lost + 1 }, [.channelFull event.kind])
  | .error (.closed event) => ({ s with lost := s.lost + 1 }, [.channelClosed event.kind])

def receive (queue : Queue Q) (s : Stream Q) : Receipt → Stream Q × List Event
  | .take count =>
    let (buffer, events) := queue.takeUpTo count s.buffer
    ({ s with buffer := buffer }, events)
  | .close => ({ s with buffer := queue.close s.buffer }, [])
  | .leave => ({ s with buffer := queue.leave s.buffer }, [])

open Channel (Act)

def act (queue : Queue Q) (s : Stream Q) : Act → Stream Q
  | .publish event => (s.publish queue event).1
  | .receive receipt => (s.receive queue receipt).1

def run (queue : Queue Q) (s : Stream Q) (acts : List Act) : Stream Q :=
  acts.foldl (act queue) s

/-- What an act reports to the sending side and gives to the receiving one. -/
def reply (queue : Queue Q) (s : Stream Q) : Act → List Message × List Event
  | .publish event => ((s.publish queue event).2, [])
  | .receive receipt => ([], (s.receive queue receipt).2)

def replies (queue : Queue Q) (s : Stream Q) : List Act → List (List Message × List Event)
  | [] => []
  | act :: acts => s.reply queue act :: (s.act queue act).replies queue acts

end Stream

namespace Channel

/-- What an act reports to the sending side and gives to the receiving one. -/
def reply (c : Channel) : Act → List Message × List Event
  | .publish event => ((c.publish event).2, [])
  | .receive receipt => ([], (c.receive receipt).2)

def replies (c : Channel) : List Act → List (List Message × List Event)
  | [] => []
  | act :: acts => c.reply act :: (c.act act).replies acts

end Channel

/-! ## Simulation -/

/-- A stream and a channel that cannot be told apart. -/
structure Stream.Follows (queue : Queue Q) (buffered : Q → List Event) (s : Stream Q)
    (c : Channel) : Prop where
  waiting : buffered s.buffer = c.waiting
  free : queue.free s.buffer = c.free
  isClosed : queue.isClosed s.buffer = c.isClosed
  lost : s.lost = c.lost

namespace Stream.Follows

variable {s : Stream Q} {c : Channel}

theorem publish (h : s.Follows queue buffered c) (lawful : queue.Lawful buffered)
    (event : Event) :
    (s.publish queue event).1.Follows queue buffered (c.publish event).1 ∧
      (s.publish queue event).2 = (c.publish event).2 := by
  obtain ⟨hwaiting, hfree, hclosed, hlost⟩ := h
  have hrefused : ({ s with lost := s.lost + 1 } : Stream Q).Follows queue buffered c.lose :=
    ⟨hwaiting, hfree, hclosed, congrArg (· + 1) hlost⟩
  cases hopen : c.isClosed with
  | true =>
      rw [hopen] at hclosed
      rw [Stream.publish, lawful.offer_closed hclosed, Channel.publish_of_isClosed hopen]
      exact ⟨hrefused, rfl⟩
  | false =>
      rw [hopen] at hclosed
      by_cases hslots : c.free = 0
      · rw [hslots] at hfree
        rw [Stream.publish, lawful.offer_full hclosed hfree,
          Channel.publish_of_full hopen hslots]
        exact ⟨hrefused, rfl⟩
      · obtain ⟨next, hoffer, hbuffered, hleft, hstill⟩ :=
          lawful.offer_free hclosed (hfree ▸ hslots) event
        rw [Stream.publish, hoffer, Channel.publish_of_free hopen hslots]
        refine ⟨⟨?_, ?_, hstill.trans hopen.symm, hlost⟩, rfl⟩
        · rw [hbuffered, hwaiting]
        · rw [hfree] at hleft
          simp only [Channel.free, List.length_append, List.length_singleton] at hleft ⊢
          omega

theorem receive (h : s.Follows queue buffered c) (lawful : queue.Lawful buffered)
    (hfits : c.Fits) (receipt : Receipt) :
    (s.receive queue receipt).1.Follows queue buffered (c.receive receipt).1 ∧
      (s.receive queue receipt).2 = (c.receive receipt).2 := by
  obtain ⟨hwaiting, hfree, hclosed, hlost⟩ := h
  have hroom := hfits.free_add_waiting
  cases receipt with
  | take count =>
      obtain ⟨hbuffered, hevents, hslots, hkept⟩ := lawful.takeUpTo count s.buffer
      rw [hwaiting] at hbuffered hevents hslots
      refine ⟨⟨hbuffered, ?_, hkept.trans hclosed, hlost⟩, hevents⟩
      rw [hfree, List.length_take] at hslots
      simp only [Stream.receive, Channel.receive, Channel.free, List.length_drop] at hroom hslots ⊢
      omega
  | close =>
      obtain ⟨hbuffered, hslots, hshut⟩ := lawful.close s.buffer
      -- which receiver it is depends on the one before, but none of them listens
      have hact : ∃ receiver, receiver ≠ .listening ∧
          (c.receive .close).1 = { c with receiver := receiver } := by
        cases c.effect (.receive .close) with
        | closed receiver hclosed _ hact => exact ⟨receiver, hclosed, hact⟩
      obtain ⟨receiver, hreceiver, hact⟩ := hact
      rw [hact]
      refine ⟨⟨hbuffered.trans hwaiting, hslots.trans hfree, ?_, hlost⟩, rfl⟩
      rw [Stream.receive, hshut]
      simp [Channel.isClosed, hreceiver]
  | leave =>
      obtain ⟨hbuffered, hslots, hshut⟩ := lawful.leave s.buffer
      rw [hwaiting, hfree, hroom] at hslots
      exact ⟨⟨hbuffered, hslots, hshut, hlost⟩, rfl⟩

theorem act (h : s.Follows queue buffered c) (lawful : queue.Lawful buffered)
    (hfits : c.Fits) (act : Channel.Act) :
    (s.act queue act).Follows queue buffered (c.act act) ∧
      s.reply queue act = c.reply act := by
  cases act with
  | publish event =>
      obtain ⟨hnext, hmessages⟩ := h.publish lawful event
      exact ⟨hnext, congrArg (·, []) hmessages⟩
  | receive receipt =>
      obtain ⟨hnext, hevents⟩ := h.receive lawful hfits receipt
      exact ⟨hnext, congrArg ([], ·) hevents⟩

theorem run (h : s.Follows queue buffered c) (lawful : queue.Lawful buffered)
    (hfits : c.Fits) (acts : List Channel.Act) :
    (s.run queue acts).Follows queue buffered (c.run acts) ∧
      s.replies queue acts = c.replies acts := by
  induction acts generalizing s c with
  | nil => exact ⟨h, rfl⟩
  | cons act acts ih =>
      obtain ⟨hnext, hreply⟩ := h.act lawful hfits act
      obtain ⟨hrun, hreplies⟩ := ih hnext (hfits.act act).1
      refine ⟨hrun, ?_⟩
      rw [Stream.replies, Channel.replies, hreply, hreplies]

end Stream.Follows

/-! ## Conservation -/

namespace Channel

theorem new_eq_ok {capacity : Nat} (hmin : 1 ≤ capacity) (hmax : capacity ≤ maxCapacity) :
    new capacity = .ok { capacity := capacity } := by
  rw [new, if_neg (Nat.ne_of_gt hmin), if_neg (Nat.not_lt.2 hmax)]

/-- A channel keeps its slots and its events, in every state that publishing,
taking, closing and leaving can bring it to, and no stream through a lawful queue
can be told from it. -/
theorem conserves_events {capacity : Nat} (hmin : 1 ≤ capacity) (hmax : capacity ≤ 2 ^ 61 - 1) :
    ∃ start, new capacity = .ok start ∧ ∀ acts more : List Act,
      let c := start.run acts
      c.free + c.waiting.length = capacity ∧
        (∀ event, c.refuses event = true ↔ c.isClosed = true ∨ c.free = 0) ∧
        start.collect taken acts ++ c.waiting ++ start.collect discarded acts =
          start.collect admitted acts ∧
        acts.countP Act.isPublish = (start.collect admitted acts).length + c.lost ∧
        (c.isClosed = true ↔ ∃ act ∈ acts, act.closes = true) ∧
        (c.isClosed = true → (c.run more).isClosed = true ∧ c.collect admitted more = []) ∧
        ∀ {Q : Type} {queue : Queue Q} {buffered : Q → List Event}, queue.Lawful buffered →
          let s : Stream Q := { buffer := queue.new capacity }
          (s.run queue acts).Follows queue buffered c ∧
            s.replies queue acts = start.replies acts := by
  have hlimit : capacity ≤ maxCapacity := hmax
  refine ⟨_, new_eq_ok hmin hlimit, ?_⟩
  intro acts more c
  have hfits : Fits { capacity := capacity } := Nat.zero_le capacity
  obtain ⟨hroom, hslots⟩ := hfits.run acts
  have hcount := collect_admitted_add_lost { capacity := capacity } acts
  have hclosed := isClosed_run { capacity := capacity } acts
  refine ⟨hroom.free_add_waiting.trans hslots, c.refuses_iff,
    collect_taken_append_waiting _ acts, ?_, ?_, ?_, ?_⟩
  · rw [hcount]
    exact (Nat.zero_add _).symm
  · rw [hclosed, ← List.any_eq_true]
    rfl
  · intro hshut
    refine ⟨?_, collect_admitted_of_isClosed hshut more⟩
    rw [isClosed_run, hshut, Bool.true_or]
  · intro Q queue buffered lawful s
    obtain ⟨hempty, hfree, hopen⟩ := lawful.new hmin hlimit
    have hfollows : s.Follows queue buffered { capacity := capacity } :=
      ⟨hempty, hfree, hopen, rfl⟩
    exact hfollows.run lawful hfits acts

/-- With two slots the third event is lost.  So is the fourth, although a slot is
free again, since the channel has closed; and one event is never taken. -/
theorem conserves_events_of_two_slots :
    let start : Channel := { capacity := 2 }
    let acts : List Act :=
      [.publish (.connect "1"), .publish (.connect "2"), .publish (.connect "3"),
        .receive .close, .receive (.take 1), .publish (.connect "4"), .receive .leave]
    new 2 = .ok start ∧ Slots.queue.Lawful Slots.events ∧
      start.collect taken acts ++ (start.run acts).waiting ++ start.collect discarded acts =
        [.connect "1", .connect "2"] ∧
      start.collect discarded acts = [.connect "2"] ∧ (start.run acts).lost = 2 ∧
      ({ buffer := Slots.queue.new 2 } : Stream Slots).replies Slots.queue acts =
        [([], []), ([], []), ([.channelFull "connect"], []), ([], []),
          ([], [.connect "1"]), ([.channelClosed "connect"], []), ([], [])] := by
  intro start acts
  have hnew : new 2 = .ok start := rfl
  obtain ⟨channel, hchannel, hrest⟩ :=
    conserves_events (by decide : 1 ≤ 2) (by decide)
  obtain rfl : start = channel := Except.ok.inj (hnew.symm.trans hchannel)
  obtain ⟨-, -, hevents, -, -, -, hstream⟩ := hrest acts []
  have hreplies := (hstream Slots.lawful).2
  refine ⟨hnew, Slots.lawful, ?_, by decide, by decide, ?_⟩
  · rw [hevents]
    decide
  · rw [hreplies]
    decide

end Channel
end DeviceFeed
