import DeviceFeed.Proofs.Session.Simulation

/-!
# Sessions with a journal

A journal beside the publisher records every event that is handed over.  This
file proves that it changes nothing: without its journal, a journaled session
takes every step like the plain one, with the same replies.  So whatever holds
for the journal of every run holds for what an arbitrary publisher is handed.
-/

namespace DeviceFeed

variable {P : Type}

/-! ## Processors -/

namespace Processor

/-- The processor with an empty journal beside its publisher. -/
def journaled (p : Processor P) : Processor (Journaled P) :=
  { p with publisher := { publisher := p.publisher } }

/-- The processor without the journal beside its publisher. -/
def plain (p : Processor (Journaled P)) : Processor P :=
  { p with publisher := p.publisher.publisher }

variable [Publisher P]

omit [Publisher P] in
theorem matches_iff_plain_eq {p : Processor (Journaled P)} {q : Processor P} :
    Matches (fun j publisher => j.publisher = publisher) p q ↔ p.plain = q := by
  constructor
  · intro h
    obtain ⟨dispatcher, maxBody, publisher, stats⟩ := q
    obtain ⟨rfl, rfl, rfl, rfl⟩ := h
    rfl
  · rintro rfl
    exact ⟨rfl, rfl, rfl, rfl⟩

/-- The journal shows neither in the publisher nor in what is left behind. -/
theorem simulates_plain : Simulates (fun (p : Processor (Journaled P)) q => p.plain = q) id := by
  have hplain : (fun (p : Processor (Journaled P)) q => p.plain = q) =
      Matches fun j publisher => j.publisher = publisher :=
    funext fun p => funext fun q => propext matches_iff_plain_eq.symm
  rw [hplain]
  apply simulates_matches
  · exact fun hfront hback => congrArg₂ (· ++ ·) hfront hback
  · rintro j _ event rfl
    exact ⟨rfl, rfl⟩

/-- The receiving side does not see the journal. -/
theorem keptByReceipts_plain :
    KeptByReceipts fun (p : Processor (Journaled P)) q => p.plain = q := by
  rintro p _ rfl receipt
  exact ⟨rfl, rfl⟩

/-- A journaled processor treats received bytes like the plain one. -/
theorem plain_process (p : Processor (Journaled P)) (tracking : Tracking) (raw : Bytes) :
    (p.process tracking raw).processor.plain = (p.plain.process tracking raw).processor ∧
      (p.process tracking raw).result = (p.plain.process tracking raw).result ∧
      (p.process tracking raw).trace = (p.plain.process tracking raw).trace := by
  obtain ⟨hprocessor, hresult, htrace⟩ := simulates_plain.process (rfl : p.plain = _) tracking raw
  exact ⟨hprocessor, hresult.symm, htrace.symm⟩

end Processor

/-! ## Sessions -/

namespace Session

/-- The session with an empty journal beside its publisher. -/
def journaled (s : Session P) : Session (Journaled P) :=
  { s with processor := s.processor.journaled }

/-- The session without the journal beside its publisher. -/
def plain (s : Session (Journaled P)) : Session P :=
  { s with processor := s.processor.plain }

variable [Publisher P]

/-- A journaled session runs like the plain one. -/
theorem plain_run (s : Session (Journaled P)) (steps : List Step) :
    (s.run steps).plain = s.plain.run steps ∧ s.replies steps = s.plain.replies steps := by
  have hstart : Related (fun p q => p.plain = q) s s.plain := ⟨rfl, rfl, rfl⟩
  obtain ⟨hrun, hreplies⟩ :=
    Processor.simulates_plain.run Processor.keptByReceipts_plain hstart steps
  exact ⟨hrun.eq_of_map,
    ((List.map_inj_right fun _ _ => Reply.seen_id_injective).1 hreplies).symm⟩

/-- The journal does not show in a run. -/
theorem run_journaled (s : Session P) (steps : List Step) :
    (s.journaled.run steps).plain = s.run steps ∧
      s.journaled.replies steps = s.replies steps :=
  s.journaled.plain_run steps

end Session
end DeviceFeed
