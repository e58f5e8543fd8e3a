import DeviceFeed.Proofs.Session.Run

/-!
# Processors that simulate each other

Much about a session does not depend on all of its processor.  One may add a
journal, exchange the sink, or publish the events elsewhere.  Two such processors
are related, and `Processor.Simulates` says when handling a frame keeps the
relation, where only a view of the traces counts.  Then frames of related
sessions have the same results, and the relation holds along whole runs.
-/

namespace DeviceFeed

variable {P Q : Type} [Publisher P] [Publisher Q] {α : Type}

/-- A relation between processors that handling a frame keeps.  Related processors
have the same settings, and what they leave behind looks the same in the given
view. -/
structure Processor.Simulates (R : Processor P → Processor Q → Prop) (view : Trace → α) :
    Prop where
  table {p : Processor P} {q : Processor Q} (h : R p q) :
    q.dispatcher.table = p.dispatcher.table
  reportUnknown {p : Processor P} {q : Processor Q} (h : R p q) :
    q.dispatcher.reportUnknown = p.dispatcher.reportUnknown
  maxBody {p : Processor P} {q : Processor Q} (h : R p q) : q.maxBody = p.maxBody
  reject {p : Processor P} {q : Processor Q} (h : R p q) (why : Rejection) :
    R { p with stats := p.stats.reject why } { q with stats := q.stats.reject why }
  settle {p : Processor P} {q : Processor Q} (h : R p q) (d : Dispatched) :
    R (p.settle d) (q.settle d)
  append {a b c d : Trace} (hfront : view a = view c) (hback : view b = view d) :
    view (a ++ b) = view (c ++ d)
  sink {p : Processor P} {q : Processor Q} (h : R p q) (record : Record) :
    view (q.dispatcher.sink.trace record) = view (p.dispatcher.sink.trace record)
  accept {p : Processor P} {q : Processor Q} (h : R p q) (header : Header)
    (tracking : Tracking) (d : Dispatched) :
    view (q.accept header tracking d {}).trace = view (p.accept header tracking d {}).trace

/-- A relation between processors that also the receiving side keeps, and that it
cannot tell apart. -/
def Processor.KeptByReceipts (R : Processor P → Processor Q → Prop) : Prop :=
  ∀ {p q}, R p q → ∀ receipt,
    R { p with publisher := (Publisher.receive p.publisher receipt).1 }
        { q with publisher := (Publisher.receive q.publisher receipt).1 } ∧
      (Publisher.receive q.publisher receipt).2 = (Publisher.receive p.publisher receipt).2

/-- Two sessions with related processors and the same tracking. -/
structure Session.Related (R : Processor P → Processor Q → Prop) (s : Session P)
    (t : Session Q) : Prop where
  processor : R s.processor t.processor
  tracking : t.tracking = s.tracking
  source : t.source = s.source

omit [Publisher P] [Publisher Q] in
theorem Session.Related.observed {R : Processor P → Processor Q → Prop} {s : Session P}
    {t : Session Q} (h : Related R s t) : t.observed = s.observed := by
  rw [Session.observed, Session.observed, h.source, h.tracking]

omit [Publisher P] [Publisher Q] in
/-- A session that is related by a map of processors is the one with its processor
mapped. -/
theorem Session.Related.eq_of_map {map : Processor P → Processor Q} {s : Session P}
    {t : Session Q} (h : Related (fun p q => map p = q) s t) :
    { processor := map s.processor, tracking := s.tracking, source := s.source } = t := by
  obtain ⟨processor, tracking, source⟩ := t
  obtain ⟨rfl, rfl, rfl⟩ := h
  rfl

/-- What is seen of a step in a view of the traces. -/
def Reply.seen (view : Trace → α) (reply : Reply) :
    Option (Except Rejection Nat) × List Event × α :=
  (reply.result, reply.taken, view reply.trace)

/-- Nothing of a reply is left out of the full view. -/
theorem Reply.seen_id_injective {first second : Reply} (h : first.seen id = second.seen id) :
    first = second := by
  obtain ⟨result, taken, trace⟩ := first
  obtain ⟨_, _, _⟩ := second
  obtain ⟨rfl, rfl, rfl⟩ := h
  rfl

namespace Processor.Simulates

variable {R : Processor P → Processor Q → Prop} {view : Trace → α}

/-! ## One frame -/

theorem dispatcher_trace (h : Simulates R view) {p : Processor P} {q : Processor Q}
    (hpq : R p q) (frame : Frame) (tracking : Tracking) :
    view (q.dispatcher.trace frame tracking) = view (p.dispatcher.trace frame tracking) := by
  have htable := h.table hpq
  rw [Dispatcher.trace, Dispatcher.trace, htable]
  apply h.append
  · rfl
  · cases Reading.ofFrame p.dispatcher.table frame with
    | error fault => rfl
    | ok reading => exact h.sink hpq _

theorem process (h : Simulates R view) {p : Processor P} {q : Processor Q} (hpq : R p q)
    (tracking : Tracking) (raw : Bytes) :
    R (p.process tracking raw).processor (q.process tracking raw).processor ∧
      (q.process tracking raw).result = (p.process tracking raw).result ∧
      view (q.process tracking raw).trace = view (p.process tracking raw).trace := by
  have hlockstep : Lockstep q p tracking raw :=
    process_lockstep (h.table hpq) (h.reportUnknown hpq) (h.maxBody hpq) tracking raw
  cases hlockstep with
  | unread header why hq hp =>
      rw [hq, hp]
      exact ⟨h.reject hpq why, rfl, h.append rfl (h.sink hpq _)⟩
  | notText frame fault hq hp =>
      have htrace := h.dispatcher_trace hpq frame tracking
      rw [hq, hp]
      exact ⟨h.reject hpq _, rfl, h.append htrace (h.sink hpq _)⟩
  | accepted frame d hq hp =>
      have htrace := h.dispatcher_trace hpq frame tracking
      rw [hq, hp, q.accept_trace, p.accept_trace]
      exact ⟨h.settle hpq d, rfl, h.append htrace (h.accept hpq _ _ d)⟩

/-- Passing over dropped frames keeps the relation like handling them. -/
theorem ingest (h : Simulates R view) {p : Processor P} {q : Processor Q} (hpq : R p q)
    (tracking : Tracking) (raw : Bytes) :
    R (p.ingest tracking raw).processor (q.ingest tracking raw).processor ∧
      (q.ingest tracking raw).result = (p.ingest tracking raw).result ∧
      view (q.ingest tracking raw).trace = view (p.ingest tracking raw).trace := by
  obtain ⟨hprocessor, hresult, htrace⟩ := h.process hpq tracking raw
  refine ⟨?_, ?_⟩
  · rw [ingest_processor, ingest_processor]
    exact hprocessor
  · cases hcount : (p.process tracking raw).result with
    | ok count =>
        rw [hcount] at hresult
        rw [ingest_of_eq_ok hresult, ingest_of_eq_ok hcount, hresult, hcount]
        exact ⟨rfl, htrace⟩
    | error why =>
        rw [hcount] at hresult
        rw [ingest_of_eq_error hresult, ingest_of_eq_error hcount]
        exact ⟨rfl, h.append htrace rfl⟩

/-! ## Steps and runs -/

theorem enter (h : Simulates R view) {s : Session P} {t : Session Q}
    (hst : Session.Related R s t) (input : Input) :
    Session.Related R (s.enter input).1 (t.enter input).1 ∧
      (t.enter input).2.seen view = (s.enter input).2.seen view := by
  have hobserved := hst.observed
  obtain ⟨hpq, htracking, hsource⟩ := hst
  cases input with
  | retarget update =>
      refine ⟨⟨hpq, ?_, hsource⟩, rfl⟩
      exact congrArg (·.apply update) htracking
  | process raw =>
      obtain ⟨hprocessor, hresult, htrace⟩ := h.process hpq s.observed raw
      simp only [Session.enter, hobserved]
      refine ⟨⟨hprocessor, htracking, hsource⟩, ?_⟩
      simp only [Reply.seen, Session.afterFrame, hresult, htrace]
  | ingest raw =>
      obtain ⟨hprocessor, hresult, htrace⟩ := h.ingest hpq s.observed raw
      simp only [Session.enter, hobserved]
      refine ⟨⟨hprocessor, htracking, hsource⟩, ?_⟩
      simp only [Reply.seen, Session.afterFrame, hresult, htrace]

theorem step (h : Simulates R view) (hreceive : KeptByReceipts R) {s : Session P}
    {t : Session Q} (hst : Session.Related R s t) (step : Step) :
    Session.Related R (s.step step).1 (t.step step).1 ∧
      (t.step step).2.seen view = (s.step step).2.seen view := by
  cases step with
  | input input => exact h.enter hst input
  | receive receipt =>
      obtain ⟨hpq, htracking, hsource⟩ := hst
      obtain ⟨hprocessor, htaken⟩ := hreceive hpq receipt
      refine ⟨⟨hprocessor, htracking, hsource⟩, ?_⟩
      simp only [Reply.seen, Session.step, htaken]

theorem run (h : Simulates R view) (hreceive : KeptByReceipts R) {s : Session P}
    {t : Session Q} (hst : Session.Related R s t) (steps : List Step) :
    Session.Related R (s.run steps) (t.run steps) ∧
      (t.replies steps).map (Reply.seen view) = (s.replies steps).map (Reply.seen view) := by
  induction steps generalizing s t with
  | nil => exact ⟨hst, rfl⟩
  | cons step steps ih =>
      obtain ⟨hnext, hreply⟩ := h.step hreceive hst step
      obtain ⟨hrun, hreplies⟩ := ih hnext
      refine ⟨hrun, ?_⟩
      rw [Session.replies, Session.replies, List.map_cons, List.map_cons, hreply, hreplies]

end Processor.Simulates

/-! ## Processors that differ in their publishers -/

section

variable {R : P → Q → Prop} {view : Trace → α}

/-- Publishing several events keeps what publishing one event keeps. -/
theorem publishAll_related
    (happend : ∀ {a b c d : Trace}, view a = view c → view b = view d →
      view (a ++ b) = view (c ++ d))
    (hpublish : ∀ {p q} event, R p q →
      R (Publisher.publish p event).1 (Publisher.publish q event).1 ∧
        view ⟨(Publisher.publish q event).2, []⟩ = view ⟨(Publisher.publish p event).2, []⟩)
    {p : P} {q : Q} (h : R p q) (events : List Event) :
    R (publishAll p events).1 (publishAll q events).1 ∧
      view ⟨(publishAll q events).2, []⟩ = view ⟨(publishAll p events).2, []⟩ := by
  induction events generalizing p q with
  | nil => exact ⟨h, rfl⟩
  | cons event events ih =>
      obtain ⟨hnext, hmessages⟩ := hpublish event h
      obtain ⟨hrest, hmore⟩ := ih hnext
      rw [publishAll_cons, publishAll_cons]
      refine ⟨hrest, ?_⟩
      have hfront := happend (rfl : view ⟨[.publishing event.kind], []⟩ = _) hmessages
      exact happend hfront hmore

omit [Publisher P] [Publisher Q] in
/-- Processors that differ at most in their publishers, which are related. -/
structure Processor.Matches (R : P → Q → Prop) (p : Processor P) (q : Processor Q) : Prop where
  dispatcher : q.dispatcher = p.dispatcher
  maxBody : q.maxBody = p.maxBody
  stats : q.stats = p.stats
  publisher : R p.publisher q.publisher

/-- Handling frames keeps every relation between publishers that publishing
keeps. -/
theorem Processor.simulates_matches
    (happend : ∀ {a b c d : Trace}, view a = view c → view b = view d →
      view (a ++ b) = view (c ++ d))
    (hpublish : ∀ {p q} event, R p q →
      R (Publisher.publish p event).1 (Publisher.publish q event).1 ∧
        view ⟨(Publisher.publish q event).2, []⟩ = view ⟨(Publisher.publish p event).2, []⟩) :
    Simulates (Matches R) view where
  table h := congrArg Dispatcher.table h.dispatcher
  reportUnknown h := congrArg Dispatcher.reportUnknown h.dispatcher
  maxBody h := h.maxBody
  reject h why := ⟨h.dispatcher, h.maxBody, congrArg (·.reject why) h.stats, h.publisher⟩
  settle h d := by
    obtain ⟨hpublisher, -⟩ := publishAll_related happend hpublish h.publisher d.events
    exact ⟨h.dispatcher, h.maxBody, congrArg (·.accept d) h.stats, hpublisher⟩
  append := happend
  sink h record := by rw [h.dispatcher]
  accept h header tracking d := by
    obtain ⟨-, hmessages⟩ := publishAll_related happend hpublish h.publisher d.events
    exact happend rfl hmessages

end

end DeviceFeed
