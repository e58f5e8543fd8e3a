import DeviceFeed.Processor

/-!
# Sessions

A session is a processor together with the tracking that it reads before each
frame. This file runs a session through any sequence of frames, changes of
tracking, and acts of the receiving side.
-/

namespace DeviceFeed

/-- Where a processor reads tracking. -/
inductive TrackingSource where
  /-- The choice that users change. -/
  | shared
  | fixed (tracking : Tracking)
  deriving DecidableEq, Repr

/-- A processor at work. -/
structure Session (P : Type) where
  processor : Processor P
  tracking : Tracking := {}
  source : TrackingSource := .shared

inductive Input where
  /-- Bytes arrive, and a dropped frame is reported. -/
  | process (raw : Bytes)
  /-- Bytes arrive, and a dropped frame is passed over. -/
  | ingest (raw : Bytes)
  | retarget (update : Tracking.Update)
  deriving DecidableEq, Repr

inductive Step where
  | input (input : Input)
  | receive (receipt : Receipt)
  deriving DecidableEq, Repr

/-- What is seen of one step. -/
structure Reply where
  result : Option (Except Rejection Nat) := none
  /-- What the receiving side took. -/
  taken : List Event := []
  trace : Trace := {}

namespace Session

variable {P : Type}

/-- The tracking that the next frame will meet. -/
def observed (s : Session P) : Tracking :=
  match s.source with
  | .shared => s.tracking
  | .fixed tracking => tracking

/-- The session after a frame, and what is seen of it. -/
def afterFrame (s : Session P) (processed : Processed P) : Session P × Reply :=
  ({ s with processor := processed.processor },
    { result := some processed.result, trace := processed.trace })

/-- The session after an input, and what is seen of it. -/
def enter [Publisher P] (s : Session P) : Input → Session P × Reply
  | .process raw => s.afterFrame (s.processor.process s.observed raw)
  | .ingest raw => s.afterFrame (s.processor.ingest s.observed raw)
  | .retarget update => ({ s with tracking := s.tracking.apply update }, {})

def step [Publisher P] (s : Session P) : Step → Session P × Reply
  | .input input => s.enter input
  | .receive receipt =>
    let (publisher, taken) := Publisher.receive s.processor.publisher receipt
    ({ s with processor := { s.processor with publisher := publisher } }, { taken := taken })

def feed [Publisher P] (s : Session P) (inputs : List Input) : Session P :=
  inputs.foldl (fun s input => (s.enter input).1) s

def run [Publisher P] (s : Session P) (steps : List Step) : Session P :=
  steps.foldl (fun s step => (s.step step).1) s

def replies [Publisher P] (s : Session P) : List Step → List Reply
  | [] => []
  | step :: more => (s.step step).2 :: (s.step step).1.replies more

end Session

end DeviceFeed
