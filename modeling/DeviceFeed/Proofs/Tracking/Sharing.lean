import DeviceFeed.Tracking
import Mathlib.Data.List.Basic
import Mathlib.Tactic.Common

/-!
# Shared tracking loses no update

Each of the two parts of a shared choice has the value that was written last, whichever
handle wrote it.  `Watch` lists the operations of the cell that keeps the choice, and the
laws of `Watch.Lawful` say that a write changes the one stored value, whether or not
anybody listens.  `Handles` go through such a cell, and no interleaving of steps tells
them from a shared choice.
-/

namespace DeviceFeed

/-! ## Last writes -/

namespace Tracking

/-- The device that an update writes, if it writes one. -/
def Update.device? : Update → Option (Option Int64)
  | .follow id => some id
  | .setOnly _ => none
  | .replace tracking => some tracking.deviceId

/-- The strictness that an update writes, if it writes one. -/
def Update.only? : Update → Option Bool
  | .follow _ => none
  | .setOnly only => some only
  | .replace tracking => some tracking.only

/-- The choice in which each part is the one that was written last. -/
def lastOf (initial : Tracking) (updates : List Update) : Tracking where
  deviceId := (updates.filterMap Update.device?).getLastD initial.deviceId
  only := (updates.filterMap Update.only?).getLastD initial.only

theorem lastOf_cons (initial : Tracking) (update : Update) (updates : List Update) :
    initial.lastOf (update :: updates) = (initial.apply update).lastOf updates := by
  rw [lastOf, lastOf, List.filterMap_cons, List.filterMap_cons]
  cases update with
  | follow id =>
      simp only [Update.device?, Update.only?, List.getLastD_cons]
      rfl
  | setOnly only =>
      simp only [Update.device?, Update.only?, List.getLastD_cons]
      rfl
  | replace tracking =>
      simp only [Update.device?, Update.only?, List.getLastD_cons]
      rfl

theorem foldl_apply_eq_lastOf (initial : Tracking) (updates : List Update) :
    updates.foldl apply initial = initial.lastOf updates := by
  induction updates generalizing initial with
  | nil => rfl
  | cons update updates ih => rw [List.foldl_cons, ih, lastOf_cons]

/-- The two parts are written independently. -/
theorem apply_setOnly_apply_follow (tracking : Tracking) (id : Option Int64) (only : Bool) :
    (tracking.apply (.follow id)).apply (.setOnly only) =
      (tracking.apply (.setOnly only)).apply (.follow id) :=
  rfl

end Tracking

/-! ## Shared choices -/

namespace SharedTracking

/-- The updates that are made through handles that exist, where so many writing handles
exist at first. -/
def issued : Nat → List Step → List Tracking.Update
  | _, [] => []
  | writers, .share :: steps => issued (writers + 1) steps
  | writers, .subscribe :: steps => issued writers steps
  | writers, .update writer update :: steps =>
    if writer < writers then update :: issued writers steps else issued writers steps

theorem run_cons (shared : SharedTracking) (step : Step) (steps : List Step) :
    shared.run (step :: steps) = (shared.step step).run steps :=
  rfl

theorem run_writers (shared : SharedTracking) (steps : List Step) :
    (shared.run steps).writers = shared.writers + steps.count .share := by
  induction steps generalizing shared with
  | nil => rfl
  | cons step steps ih =>
      rw [run_cons, ih, List.count_cons]
      cases step with
      | share => simp [step]; omega
      | subscribe => simp [step]
      | update writer update => simp [step, apply_ite writers]

theorem run_readers (shared : SharedTracking) (steps : List Step) :
    (shared.run steps).readers = shared.readers + steps.count .subscribe := by
  induction steps generalizing shared with
  | nil => rfl
  | cons step steps ih =>
      rw [run_cons, ih, List.count_cons]
      cases step with
      | share => simp [step]
      | subscribe => simp [step]; omega
      | update writer update => simp [step, apply_ite readers]

/-- After a run the choice has been changed by the issued updates, in order. -/
theorem run_value (shared : SharedTracking) (steps : List Step) :
    (shared.run steps).value =
      (issued shared.writers steps).foldl Tracking.apply shared.value := by
  induction steps generalizing shared with
  | nil => rfl
  | cons step steps ih =>
      rw [run_cons, ih]
      cases step with
      | share => rfl
      | subscribe => rfl
      | update writer update =>
          rw [step, issued]
          split
          · rfl
          · rfl

/-- Handles that write different parts may go first in either order. -/
theorem run_follow_setOnly (shared : SharedTracking) (first second : Nat) (id : Option Int64)
    (only : Bool) (steps : List Step) :
    shared.run (.update first (.follow id) :: .update second (.setOnly only) :: steps) =
      shared.run (.update second (.setOnly only) :: .update first (.follow id) :: steps) := by
  have hsame : (shared.step (.update first (.follow id))).step (.update second (.setOnly only)) =
      (shared.step (.update second (.setOnly only))).step (.update first (.follow id)) := by
    by_cases hfirst : first < shared.writers
    · by_cases hsecond : second < shared.writers
      · simp [step, hfirst, hsecond, Tracking.apply_setOnly_apply_follow]
      · simp [step, hfirst, hsecond]
    · by_cases hsecond : second < shared.writers
      · simp [step, hfirst, hsecond]
      · simp [step, hfirst, hsecond]
  rw [run_cons, run_cons, hsame]
  rfl

end SharedTracking

/-! ## Cells -/

/-- The operations of a cell with a sender and any number of receivers. -/
structure Watch (W : Type) where
  /-- A cell without receivers. -/
  new : Tracking → W
  subscribe : W → W
  modify : W → (Tracking → Tracking) → W
  replace : W → Tracking → W
  /-- What the sender sees. -/
  borrow : W → Tracking
  /-- What the receiver with the given number sees. -/
  read : W → Nat → Tracking

variable {W : Type}

/-- What a cell does, by the value that it stores and by the number of its receivers. -/
structure Watch.Lawful (watch : Watch W) (stored : W → Tracking) (receivers : W → Nat) :
    Prop where
  new (initial : Tracking) : stored (watch.new initial) = initial ∧
    receivers (watch.new initial) = 0
  subscribe (w : W) : stored (watch.subscribe w) = stored w ∧
    receivers (watch.subscribe w) = receivers w + 1
  modify (w : W) (change : Tracking → Tracking) :
    stored (watch.modify w change) = change (stored w) ∧
      receivers (watch.modify w change) = receivers w
  replace (w : W) (tracking : Tracking) : stored (watch.replace w tracking) = tracking ∧
    receivers (watch.replace w tracking) = receivers w
  borrow (w : W) : watch.borrow w = stored w
  read {w : W} {receiver : Nat} (h : receiver < receivers w) : watch.read w receiver = stored w

/-- A value beside the number of writes, and for each receiver the number of writes that it
had seen when it subscribed. -/
structure Versioned where
  value : Tracking
  version : Nat := 0
  seen : List Nat := []

def Versioned.watch : Watch Versioned where
  new initial := { value := initial }
  subscribe w := { w with seen := w.seen ++ [w.version] }
  modify w change := { w with value := change w.value, version := w.version + 1 }
  replace w tracking := { w with value := tracking, version := w.version + 1 }
  borrow w := w.value
  read w _ := w.value

theorem Versioned.lawful : watch.Lawful value (fun w => w.seen.length) where
  new _ := ⟨rfl, rfl⟩
  subscribe _ := ⟨rfl, List.length_append⟩
  modify _ _ := ⟨rfl, rfl⟩
  replace _ _ := ⟨rfl, rfl⟩
  borrow _ := rfl
  read _ := rfl

/-- An update as an operation on the cell: each part is changed in place. -/
def Watch.write (watch : Watch W) (w : W) : Tracking.Update → W
  | .follow id => watch.modify w fun tracking => { tracking with deviceId := id }
  | .setOnly only => watch.modify w fun tracking => { tracking with only := only }
  | .replace tracking => watch.replace w tracking

theorem Watch.Lawful.write {watch : Watch W} {stored : W → Tracking} {receivers : W → Nat}
    (lawful : watch.Lawful stored receivers) (w : W) (update : Tracking.Update) :
    stored (watch.write w update) = (stored w).apply update ∧
      receivers (watch.write w update) = receivers w := by
  cases update with
  | follow id => exact lawful.modify w _
  | setOnly only => exact lawful.modify w _
  | replace tracking => exact lawful.replace w tracking

/-! ## Handles on a cell -/

/-- Writing and reading handles on one cell, numbered in the order in which they were made. -/
structure Handles (W : Type) where
  cell : W
  writers : Nat := 1
  readers : Nat := 0

namespace Handles

def step (watch : Watch W) (handles : Handles W) : SharedTracking.Step → Handles W
  | .share => { handles with writers := handles.writers + 1 }
  | .subscribe =>
    { handles with cell := watch.subscribe handles.cell, readers := handles.readers + 1 }
  | .update writer update =>
    if writer < handles.writers then
      { handles with cell := watch.write handles.cell update }
    else
      handles

def run (watch : Watch W) (handles : Handles W) (steps : List SharedTracking.Step) : Handles W :=
  steps.foldl (step watch) handles

def writerView? (watch : Watch W) (handles : Handles W) (writer : Nat) : Option Tracking :=
  if writer < handles.writers then some (watch.borrow handles.cell) else none

def readerView? (watch : Watch W) (handles : Handles W) (reader : Nat) : Option Tracking :=
  if reader < handles.readers then some (watch.read handles.cell reader) else none

/-- Handles on a cell that keeps a shared choice. -/
structure Follows (stored : W → Tracking) (receivers : W → Nat) (handles : Handles W)
    (shared : SharedTracking) : Prop where
  value : stored handles.cell = shared.value
  writers : handles.writers = shared.writers
  readers : handles.readers = shared.readers
  receivers : receivers handles.cell = shared.readers

namespace Follows

variable {watch : Watch W} {stored : W → Tracking} {receivers : W → Nat}
  {handles : Handles W} {shared : SharedTracking}

theorem step (h : Follows stored receivers handles shared)
    (lawful : watch.Lawful stored receivers) (step : SharedTracking.Step) :
    Follows stored receivers (handles.step watch step) (shared.step step) := by
  obtain ⟨hvalue, hwriters, hreaders, hreceivers⟩ := h
  cases step with
  | share => exact ⟨hvalue, congrArg (· + 1) hwriters, hreaders, hreceivers⟩
  | subscribe =>
      obtain ⟨hkept, hmore⟩ := lawful.subscribe handles.cell
      refine ⟨hkept.trans hvalue, hwriters, congrArg (· + 1) hreaders, ?_⟩
      exact hmore.trans (congrArg (· + 1) hreceivers)
  | update writer update =>
      rw [Handles.step, SharedTracking.step, hwriters]
      split
      · obtain ⟨hchanged, hsame⟩ := lawful.write handles.cell update
        rw [hvalue] at hchanged
        exact ⟨hchanged, rfl, hreaders, hsame.trans hreceivers⟩
      · exact ⟨hvalue, hwriters, hreaders, hreceivers⟩

theorem run (h : Follows stored receivers handles shared)
    (lawful : watch.Lawful stored receivers) (steps : List SharedTracking.Step) :
    Follows stored receivers (handles.run watch steps) (shared.run steps) := by
  induction steps generalizing handles shared with
  | nil => exact h
  | cons step steps ih => exact ih (h.step lawful step)

theorem writerView? (h : Follows stored receivers handles shared)
    (lawful : watch.Lawful stored receivers) (writer : Nat) :
    handles.writerView? watch writer = shared.writerView? writer := by
  rw [Handles.writerView?, SharedTracking.writerView?, h.writers, lawful.borrow, h.value]

theorem readerView? (h : Follows stored receivers handles shared)
    (lawful : watch.Lawful stored receivers) (reader : Nat) :
    handles.readerView? watch reader = shared.readerView? reader := by
  rw [Handles.readerView?, SharedTracking.readerView?, h.readers]
  split
  · next hreader =>
    rw [lawful.read (by rw [h.receivers]; exact hreader), h.value]
  · rfl

end Follows
end Handles

/-! ## All handles agree -/

namespace SharedTracking

/-- After any steps every handle, old or new, sees the same choice, and each part of it is
the one that was written last through any of the handles.  So writes to different parts may
be exchanged.  The same holds for handles on any lawful cell. -/
theorem handles_see_last_writes (initial : Tracking) (steps : List Step) :
    let shared := (new initial).run steps
    let last := initial.lastOf (issued 1 steps)
    shared.writers = 1 + steps.count .share ∧ shared.readers = steps.count .subscribe ∧
      (∀ writer < shared.writers, shared.writerView? writer = some last) ∧
      (∀ reader < shared.readers, shared.readerView? reader = some last) ∧
      (∀ (first second : Nat) (id : Option Int64) (only : Bool) (more : List Step),
        shared.run (.update first (.follow id) :: .update second (.setOnly only) :: more) =
          shared.run (.update second (.setOnly only) :: .update first (.follow id) :: more)) ∧
      ∀ {W : Type} {watch : Watch W} {stored : W → Tracking} {receivers : W → Nat},
        watch.Lawful stored receivers →
          let handles := ({ cell := watch.new initial } : Handles W).run watch steps
          (∀ writer, handles.writerView? watch writer = shared.writerView? writer) ∧
            ∀ reader, handles.readerView? watch reader = shared.readerView? reader := by
  intro shared last
  have hvalue : shared.value = last := by
    rw [run_value]
    exact initial.foldl_apply_eq_lastOf _
  refine ⟨run_writers _ steps, ?_, ?_, ?_, run_follow_setOnly shared, ?_⟩
  · exact (run_readers _ steps).trans (Nat.zero_add _)
  · intro writer hwriter
    rw [writerView?, if_pos hwriter, hvalue]
  · intro reader hreader
    rw [readerView?, if_pos hreader, hvalue]
  · intro W watch stored receivers lawful handles
    obtain ⟨hstored, hnone⟩ := lawful.new initial
    have hstart : Handles.Follows stored receivers { cell := watch.new initial } (new initial) :=
      ⟨hstored, rfl, rfl, hnone⟩
    have hfollows := hstart.run lawful steps
    exact ⟨hfollows.writerView? lawful, hfollows.readerView? lawful⟩

/-- A device is chosen while nobody reads, and a second handle makes tracking strict.  The
first handle, the early reader and the late one see both, also on a cell that counts its
writes. -/
theorem handles_see_last_writes_of_two_writers :
    let steps : List Step :=
      [.update 0 (.replace (.strict 7)), .update 0 (.follow (some 42)), .share, .subscribe,
        .update 0 (.setOnly false), .update 1 (.setOnly true), .subscribe]
    let shared := (new .loose).run steps
    let handles : Handles Versioned :=
      ({ cell := Versioned.watch.new .loose } : Handles Versioned).run Versioned.watch steps
    Versioned.watch.Lawful Versioned.value (fun w => w.seen.length) ∧ 0 < shared.writers ∧
      0 < shared.readers ∧ 1 < shared.readers ∧
      shared.writerView? 0 = some (.strict 42) ∧ shared.readerView? 0 = some (.strict 42) ∧
      handles.readerView? Versioned.watch 1 = some (.strict 42) := by
  intro steps shared handles
  obtain ⟨-, -, hwriters, hreaders, -, hwatch⟩ := handles_see_last_writes .loose steps
  obtain ⟨-, hsame⟩ := hwatch Versioned.lawful
  have hlast : Tracking.lastOf .loose (issued 1 steps) = .strict 42 := by decide
  rw [hlast] at hwriters hreaders
  refine ⟨Versioned.lawful, by decide, by decide, by decide, hwriters 0 (by decide),
    hreaders 0 (by decide), ?_⟩
  exact (hsame 1).trans (hreaders 1 (by decide))

end SharedTracking
end DeviceFeed
