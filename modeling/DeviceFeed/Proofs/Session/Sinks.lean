import DeviceFeed.Proofs.Session.Journal

/-!
# Sinks only observe

The same inputs are handled twice, with debug records going to different places.
`Processor.withSink` exchanges the place where records go, and nothing else that
a session does depends on it: `Processor.simulates_withSink` says so of single
frames and `Session.withSink_run` of whole runs.  What is left of a trace apart
from debug records is `Trace.ordinary`.

A listener is any sink that is attached.  It is given the records of the traces, one
after the other, and answers nothing, so what it makes of them is a fold over
`Trace.records` beside the run.
-/

namespace DeviceFeed

/-! ## Debug records in traces -/

namespace Trace

/-- The messages that are not debug records. -/
def ordinary (trace : Trace) : List Message :=
  trace.messages.filter fun message => message.target != "devwire::debug"

theorem ordinary_append (first second : Trace) :
    (first ++ second).ordinary = first.ordinary ++ second.ordinary :=
  List.filter_append _ _

end Trace

/-- Wherever a record goes, it is no ordinary message. -/
theorem Sink.ordinary_trace (sink : Sink) (record : Record) :
    (sink.trace record).ordinary = [] := by
  cases sink with
  | nowhere => rfl
  | log => rfl
  | listener => rfl

/-! ## Exchanging the sink -/

/-- The same processor with another place where debug records go. -/
def Processor.withSink {P : Type} (p : Processor P) (sink : Sink) : Processor P :=
  { p with dispatcher := { p.dispatcher with sink := sink } }

variable {P : Type} [Publisher P]

namespace Processor

/-- Frames are handled alike, wherever their records go. -/
theorem simulates_withSink (sink : Sink) :
    Simulates (fun (p : Processor P) q => p.withSink sink = q) Trace.ordinary where
  table := by
    rintro p _ rfl
    rfl
  reportUnknown := by
    rintro p _ rfl
    rfl
  maxBody := by
    rintro p _ rfl
    rfl
  reject := by
    rintro p _ rfl why
    rfl
  settle := by
    rintro p _ rfl d
    rfl
  append hfront hback := by
    rw [Trace.ordinary_append, Trace.ordinary_append, hfront, hback]
  sink := by
    intro p q _ record
    rw [Sink.ordinary_trace, Sink.ordinary_trace]
  accept := by
    rintro p _ rfl header tracking d
    rfl

theorem keptByReceipts_withSink (sink : Sink) :
    KeptByReceipts fun (p : Processor P) q => p.withSink sink = q := by
  rintro p _ rfl receipt
  exact ⟨rfl, rfl⟩

end Processor

namespace Session

/-- The same session with another place where debug records go. -/
def withSink (s : Session P) (sink : Sink) : Session P :=
  { s with processor := s.processor.withSink sink }

theorem withSink_run (s : Session P) (sink : Sink) (steps : List Step) :
    (s.withSink sink).run steps = (s.run steps).withSink sink ∧
      ((s.withSink sink).replies steps).map (Reply.seen Trace.ordinary) =
        (s.replies steps).map (Reply.seen Trace.ordinary) := by
  have hstart : Related (fun p q => p.withSink sink = q) s (s.withSink sink) := ⟨rfl, rfl, rfl⟩
  obtain ⟨hrun, hreplies⟩ := (Processor.simulates_withSink sink).run
    (Processor.keptByReceipts_withSink sink) hstart steps
  exact ⟨hrun.eq_of_map.symm, hreplies⟩

/-! ## Runs with different sinks -/

/-- Two sessions that go through the same steps and differ at most in the debug
records that they leave. -/
structure SameApartFromRecords (s t : Session P) (steps : List Step) : Prop where
  results : (t.replies steps).map Reply.result = (s.replies steps).map Reply.result
  taken : (t.replies steps).map Reply.taken = (s.replies steps).map Reply.taken
  messages : (t.replies steps).map (·.trace.ordinary) = (s.replies steps).map (·.trace.ordinary)
  published : (t.journaled.run steps).processor.publisher.journal =
    (s.journaled.run steps).processor.publisher.journal
  publisher : (t.run steps).processor.publisher = (s.run steps).processor.publisher
  stats : (t.run steps).processor.stats = (s.run steps).processor.stats
  tracking : (t.run steps).tracking = (s.run steps).tracking

theorem sameApartFromRecords_withSink (s : Session P) (sink : Sink) (steps : List Step) :
    SameApartFromRecords s (s.withSink sink) steps := by
  obtain ⟨hrun, hreplies⟩ := s.withSink_run sink steps
  have hjournal : (s.withSink sink).journaled.run steps =
      (s.journaled.run steps).withSink sink := (s.journaled.withSink_run sink steps).1
  -- results, taken events and ordinary messages are parts of what is seen
  have hpart {β : Type} (part : Option (Except Rejection Nat) × List Event × List Message → β) :
      ((s.withSink sink).replies steps).map (part ∘ Reply.seen Trace.ordinary) =
        (s.replies steps).map (part ∘ Reply.seen Trace.ordinary) := by
    rw [← List.map_map, ← List.map_map, hreplies]
  constructor
  · exact hpart fun seen => seen.1
  · exact hpart fun seen => seen.2.1
  · exact hpart fun seen => seen.2.2
  · rw [hjournal]
    rfl
  · rw [hrun]
    rfl
  · rw [hrun]
    rfl
  · rw [hrun]
    rfl

/-- Under every configuration that is not refused, a processor without a sink, one
that writes its records to the log, and either of them with a listener differ
after any steps only in the records that they have left. -/
theorem sinks_only_observe (config : Config) (publisher : P) (initial : Tracking)
    (source : TrackingSource) (steps : List Step) :
    let make (debug : Bool) := Processor.ofConfig { config with debug := debug } publisher
    (∃ clash, config.table.clash? = some clash ∧
      make false = .error clash ∧ make true = .error clash) ∨
      ∃ quiet loud, make false = .ok quiet ∧ make true = .ok loud ∧
        quiet.dispatcher.sink = .nowhere ∧ loud.dispatcher.sink = .log ∧
        quiet.withListener.dispatcher.sink = .listener ∧
        ∀ p ∈ [loud, quiet.withListener, loud.withListener],
          SameApartFromRecords ⟨quiet, initial, source⟩ ⟨p, initial, source⟩ steps := by
  intro make
  cases hclash : config.table.clash? with
  | some clash =>
      refine Or.inl ⟨clash, rfl, ?_, ?_⟩
      · simp only [make, Processor.ofConfig, Dispatcher.ofConfig, hclash]
        rfl
      · simp only [make, Processor.ofConfig, Dispatcher.ofConfig, hclash]
        rfl
  | none =>
      let quiet : Processor P :=
        { dispatcher := { table := config.table, reportUnknown := config.reportUnknown }
          maxBody := config.maxBody.toNat
          publisher := publisher }
      refine Or.inr ⟨quiet, quiet.withSink .log, ?_, ?_, rfl, rfl, rfl, ?_⟩
      · simp only [make, Processor.ofConfig, Dispatcher.ofConfig, hclash]
        rfl
      · simp only [make, Processor.ofConfig, Dispatcher.ofConfig, hclash]
        rfl
      · -- each of the three is the quiet one with another sink
        have hsinks (p : Processor P) (h : ∃ sink, p = quiet.withSink sink) :
            SameApartFromRecords ⟨quiet, initial, source⟩ ⟨p, initial, source⟩ steps := by
          obtain ⟨sink, rfl⟩ := h
          exact sameApartFromRecords_withSink ⟨quiet, initial, source⟩ sink steps
        intro p hp
        apply hsinks
        simp only [List.mem_cons, List.not_mem_nil, or_false] at hp
        rcases hp with rfl | rfl | rfl
        · exact ⟨.log, rfl⟩
        · exact ⟨.listener, rfl⟩
        · exact ⟨.listener, rfl⟩

end Session
end DeviceFeed
