import DeviceFeed.Proofs.Event
import DeviceFeed.Proofs.Text.Words
import DeviceFeed.Replay

/-!
# Printed events

The text of an event stays on its line, so the standard output of a replay falls
into the texts of the events when it is cut at the newlines.
-/

namespace DeviceFeed.Outcome

/-- The standard output of a replay has a line for each event and ends with a newline. -/
theorem pieces_stdout (notices : List Notice) (events : List Event) (lost : Nat)
    (stats : Stats) :
    Text.pieces (· == '\n') (replayed notices events lost stats).stdout.toList =
      (events.map Event.json).map String.toList ++ [[]] := by
  apply Text.pieces_unlines
  intro line hline
  obtain ⟨event, -, rfl⟩ := List.mem_map.1 hline
  exact event.oneLine_json

/-- An event is read back from its text.  The standard output of a replay, cut at the
newlines, gives one line for each event and an empty piece at the end, and the events
are read back from the lines in order. -/
theorem printing_loses_nothing :
    (∀ event : Event, Event.ofJson event.json = .ok event) ∧
      ∀ (notices : List Notice) (events : List Event) (lost : Nat) (stats : Stats),
        ∃ lines : List String,
          Text.pieces (· == '\n') (replayed notices events lost stats).stdout.toList =
              lines.map String.toList ++ [[]] ∧
            lines.length = events.length ∧ lines.mapM Event.ofJson = .ok events := by
  refine ⟨Event.ofJson_json, ?_⟩
  intro notices events lost stats
  refine ⟨events.map Event.json, pieces_stdout notices events lost stats, ?_, ?_⟩
  · exact List.length_map _
  · exact Event.mapM_ofJson_json events

end DeviceFeed.Outcome
