import DeviceFeed.Field
import DeviceFeed.Json.Writer

/-!
# Tracking

A user may pick one device to follow. While tracking is strict, live readings
of other devices are held back. The choice is shared: any number of handles
write it, any number of handles read it, and it may change between any two
frames.
-/

namespace DeviceFeed

/-- Which device is followed, and whether readings of others are held back. -/
structure Tracking where
  deviceId : Option Int64 := none
  only : Bool := false
  deriving DecidableEq, Repr

namespace Tracking

/-- Lets every reading through. -/
def loose : Tracking := {}

/-- Lets through readings of one device only. -/
def strict (id : Int64) : Tracking := ⟨some id, true⟩

/-- Whether a device id without its prefix names the followed device. Ids are
compared as numbers. -/
def isFollowed (tracking : Tracking) (id : String) : Bool :=
  match tracking.deviceId, Field.number id with
  | some followed, some number => followed == number
  | _, _ => false

/-- Whether a live reading of a device goes through. -/
def forwards (tracking : Tracking) (id : String) : Bool :=
  !tracking.only || tracking.isFollowed id

def json (tracking : Tracking) : String :=
  Json.object
    [("tracked_device_id", Json.option (fun id => Json.int id.toInt) tracking.deviceId),
      ("track_only_by_device_id", Json.bool tracking.only)]

inductive Update where
  | follow (id : Option Int64)
  | setOnly (only : Bool)
  | replace (tracking : Tracking)
  deriving DecidableEq, Repr

def apply (tracking : Tracking) : Update → Tracking
  | .follow id => { tracking with deviceId := id }
  | .setOnly only => { tracking with only := only }
  | .replace new => new

end Tracking

/-- One choice that several handles write and read. Handles are numbered in the
order in which they were made. -/
structure SharedTracking where
  value : Tracking
  writers : Nat
  readers : Nat
  deriving DecidableEq, Repr

namespace SharedTracking

/-- A new choice with one handle that writes it. -/
def new (initial : Tracking) : SharedTracking := ⟨initial, 1, 0⟩

/-- What happens to a shared choice. -/
inductive Step where
  | share
  | subscribe
  /-- A change through one of the writing handles. -/
  | update (writer : Nat) (update : Tracking.Update)
  deriving DecidableEq, Repr

/-- A shared choice after a step. A change through a handle that does not exist
has no effect. -/
def step (shared : SharedTracking) : Step → SharedTracking
  | .share => { shared with writers := shared.writers + 1 }
  | .subscribe => { shared with readers := shared.readers + 1 }
  | .update writer update =>
    if writer < shared.writers then
      { shared with value := shared.value.apply update }
    else
      shared

def run (shared : SharedTracking) (steps : List Step) : SharedTracking :=
  steps.foldl step shared

/-- What a writing handle sees. -/
def writerView? (shared : SharedTracking) (writer : Nat) : Option Tracking :=
  if writer < shared.writers then some shared.value else none

/-- What a reading handle sees. -/
def readerView? (shared : SharedTracking) (reader : Nat) : Option Tracking :=
  if reader < shared.readers then some shared.value else none

end SharedTracking

end DeviceFeed
