import DeviceFeed.Processor
import Mathlib.Tactic.Common

/-!
# Publishing several events

A publisher is handed the events of a frame one after the other.  To count and
compare what an arbitrary publisher is handed, `Journaled` puts a journal
beside it, which the publisher cannot see.
-/

namespace DeviceFeed

variable {P : Type} [Publisher P]

/-! ## Publishing one event after the other -/

theorem publishAll_nil (publisher : P) : publishAll publisher [] = (publisher, []) :=
  rfl

theorem foldl_publish_messages (events : List Event) (publisher : P)
    (messages : List Message) :
    events.foldl
        (fun (p, messages) event =>
          let (q, more) := Publisher.publish p event
          (q, messages ++ .publishing event.kind :: more))
        (publisher, messages) =
      ((publishAll publisher events).1, messages ++ (publishAll publisher events).2) := by
  induction events generalizing publisher messages with
  | nil => simp [publishAll]
  | cons event events ih =>
      rw [publishAll, List.foldl_cons, List.foldl_cons]
      simp only [ih]
      simp

theorem publishAll_cons (publisher : P) (event : Event) (events : List Event) :
    publishAll publisher (event :: events) =
      let published := Publisher.publish publisher event
      let rest := publishAll published.1 events
      (rest.1, .publishing event.kind :: published.2 ++ rest.2) := by
  rw [publishAll, List.foldl_cons, foldl_publish_messages]
  rfl

/-- A view of a publisher in which each event that it is handed goes to the
end. -/
def IsHistory (handed : P → List Event) : Prop :=
  ∀ publisher event,
    handed (Publisher.publish publisher event).1 = handed publisher ++ [event]

theorem IsHistory.publishAll {handed : P → List Event} (h : IsHistory handed)
    (publisher : P) (events : List Event) :
    handed (publishAll publisher events).1 = handed publisher ++ events := by
  induction events generalizing publisher with
  | nil => simp [publishAll_nil]
  | cons event events ih =>
      rw [publishAll_cons]
      simp only [ih]
      rw [h publisher event]
      simp

theorem Collector.isHistory : IsHistory (fun c : Collector => c.events.toList) := by
  intro c event
  exact Array.toList_push

/-! ## Publishers with a journal -/

/-- A publisher beside a journal of all events that it is handed. -/
structure Journaled (P : Type) where
  publisher : P
  journal : List Event := []

namespace Journaled

instance : Publisher (Journaled P) where
  publish j event :=
    let published := Publisher.publish j.publisher event
    (⟨published.1, j.journal ++ [event]⟩, published.2)
  receive j receipt :=
    let received := Publisher.receive j.publisher receipt
    (⟨received.1, j.journal⟩, received.2)

theorem isHistory : IsHistory (Journaled.journal (P := P)) := by
  intro j event
  rfl

theorem journal_receive (j : Journaled P) (receipt : Receipt) :
    (Publisher.receive j receipt).1.journal = j.journal :=
  rfl

end Journaled
end DeviceFeed
