import ChromiumIos.Lib.Runs
import ChromiumIos.Lib.Writes

/-!
# The cache of tab snapshots

Snapshots are kept in memory, in a cache that forgets the least recently used
ones, and on disk.  All work on the disk is done by a sequenced task runner in
the order in which it is posted.  A snapshot that is not in memory is retrieved
in two parts: a task reads the file, and its reply, which runs on the main
thread some time later, puts the image into memory.

Only the color images are modelled.  An image that is read back from a file
need not be the one that was written: `readBack` says what the file of an image
gives, if it can be decoded at all.
-/

namespace ChromiumIos

open Lib

variable {Id Image : Type} [DecidableEq Id]

/-! ## The cache in memory -/

/-- The most recently used entry comes first. -/
structure LRUCache (Id Image : Type) where
  entries : List (Id × Image)
deriving DecidableEq, Repr

def kLRUCacheMaxCapacity : Nat := 6

namespace LRUCache

def setObject (cache : LRUCache Id Image) (value : Image) (key : Id) : LRUCache Id Image :=
  ⟨((key, value) :: cache.entries.filter (·.1 ≠ key)).take kLRUCacheMaxCapacity⟩

def removeObjectForKey (cache : LRUCache Id Image) (key : Id) : LRUCache Id Image :=
  ⟨cache.entries.filter (·.1 ≠ key)⟩

def objectForKey (cache : LRUCache Id Image) (key : Id) : Option Image × LRUCache Id Image :=
  match cache.entries.find? (·.1 = key) with
  | none => (none, cache)
  | some entry => (some entry.2, ⟨entry :: cache.entries.filter (·.1 ≠ key)⟩)

variable {cache : LRUCache Id Image} {key other : Id} {value image : Image}

theorem mem_setObject (found : (other, image) ∈ (cache.setObject value key).entries) :
    other = key ∧ image = value ∨ other ≠ key ∧ (other, image) ∈ cache.entries := by
  rcases List.mem_cons.mp (List.mem_of_mem_take found) with same | kept <;> grind

theorem mem_removeObjectForKey (found : (other, image) ∈ (cache.removeObjectForKey key).entries) :
    other ≠ key ∧ (other, image) ∈ cache.entries := by
  obtain ⟨inside, different⟩ := List.mem_filter.mp found
  grind

theorem mem_objectForKey (found : (other, image) ∈ (cache.objectForKey key).2.entries) :
    (other, image) ∈ cache.entries := by
  simp only [objectForKey] at found
  grind

end LRUCache

/-! ## Calls, tasks and replies -/

inductive SnapshotTask (Id Image : Type) where
  | readImage (sessionID : Id)
  | writeImage (sessionID : Id) (image : Image)
  | deleteImage (sessionID : Id)
deriving DecidableEq, Repr

structure SnapshotCache (Id Image : Type) where
  lruCache : LRUCache Id Image
  markedIDs : List Id
  taskRunner : Bool
  tasks : List (SnapshotTask Id Image)
  replies : List (Id × Option Image)
  disk : Store Id Image

/-- What is reported: the answer to a retrieval, or that the snapshot of a session has been
set or removed. -/
inductive SnapshotEvent (Id Image : Type) where
  | callback (sessionID : Id) (image : Option Image)
  | didUpdate (sessionID : Id) (image : Option Image)
deriving DecidableEq, Repr

namespace SnapshotCache

def initWithDisk (disk : Store Id Image) : SnapshotCache Id Image where
  lruCache := ⟨[]⟩
  markedIDs := []
  taskRunner := true
  tasks := []
  replies := []
  disk := disk

variable (cache : SnapshotCache Id Image) (sessionID : Id)

def retrieveImageForSessionID : SnapshotCache Id Image × List (SnapshotEvent Id Image) :=
  match cache.lruCache.objectForKey sessionID with
  | (some image, lruCache) =>
    ({ cache with lruCache := lruCache }, [.callback sessionID (some image)])
  | (none, _) =>
    if cache.taskRunner then
      ({ cache with tasks := cache.tasks ++ [.readImage sessionID] }, [])
    else
      (cache, [.callback sessionID none])

def setImage (image : Option Image) (sessionID : Id) :
    SnapshotCache Id Image × List (SnapshotEvent Id Image) :=
  match image with
  | none => (cache, [])
  | some image =>
    if cache.taskRunner then
      ({ cache with
        lruCache := cache.lruCache.setObject image sessionID
        tasks := cache.tasks ++ [.writeImage sessionID image] },
      [.didUpdate sessionID (some image)])
    else
      (cache, [])

def removeImageWithSessionID : SnapshotCache Id Image × List (SnapshotEvent Id Image) :=
  if sessionID ∈ cache.markedIDs then
    (cache, [])
  else
    ({ cache with
      lruCache := cache.lruCache.removeObjectForKey sessionID
      tasks :=
        if cache.taskRunner then cache.tasks ++ [.deleteImage sessionID] else cache.tasks },
    [.didUpdate sessionID none])

def markImageWithSessionID : SnapshotCache Id Image :=
  { cache with markedIDs := cache.markedIDs.insert sessionID }

/-- The loop of `removeMarkedImages`: each identifier is taken out of the marked ones before
its image is removed. -/
def removeEach (cache : SnapshotCache Id Image) :
    List Id → SnapshotCache Id Image × List (SnapshotEvent Id Image)
  | [] => ({ cache with markedIDs := [] }, [])
  | sessionID :: rest =>
    let (removed, events) :=
      removeImageWithSessionID { cache with markedIDs := rest } sessionID
    let (last, more) := removed.removeEach rest
    (last, events ++ more)

def removeMarkedImages : SnapshotCache Id Image × List (SnapshotEvent Id Image) :=
  cache.removeEach cache.markedIDs

def unmarkAllImages : SnapshotCache Id Image :=
  { cache with markedIDs := [] }

def shutdown : SnapshotCache Id Image :=
  { cache with taskRunner := false }

variable (readBack : Image → Option Image)

/-- The task runner does its first task; what a read gives is posted to the main thread. -/
def runTask (cache : SnapshotCache Id Image) : Checked (SnapshotCache Id Image) :=
  match cache.tasks with
  | [] => none
  | .readImage sessionID :: rest =>
    some { cache with
      tasks := rest
      replies := cache.replies ++ [(sessionID, (cache.disk sessionID).bind readBack)] }
  | .writeImage sessionID image :: rest =>
    some { cache with tasks := rest, disk := cache.disk.write (sessionID, some image) }
  | .deleteImage sessionID :: rest =>
    some { cache with tasks := rest, disk := cache.disk.write (sessionID, none) }

/-- The main thread runs the first reply of a retrieval. -/
def runReply : Checked (SnapshotCache Id Image × List (SnapshotEvent Id Image)) :=
  match cache.replies with
  | [] => none
  | (sessionID, none) :: rest =>
    some ({ cache with replies := rest }, [.callback sessionID none])
  | (sessionID, some image) :: rest =>
    some ({ cache with
      replies := rest
      lruCache := cache.lruCache.setObject image sessionID },
    [.callback sessionID (some image)])

inductive Input (Id Image : Type) where
  | retrieveImage (sessionID : Id)
  | setImage (image : Option Image) (sessionID : Id)
  | removeImage (sessionID : Id)
  | markImage (sessionID : Id)
  | removeMarkedImages
  | unmarkAllImages
  | shutdown
  | runTask
  | runReply
deriving DecidableEq, Repr

def step (cache : SnapshotCache Id Image) :
    Input Id Image → Checked (SnapshotCache Id Image × List (SnapshotEvent Id Image))
  | .retrieveImage sessionID => some (cache.retrieveImageForSessionID sessionID)
  | .setImage image sessionID => some (cache.setImage image sessionID)
  | .removeImage sessionID => some (cache.removeImageWithSessionID sessionID)
  | .markImage sessionID => some (cache.markImageWithSessionID sessionID, [])
  | .removeMarkedImages => some cache.removeMarkedImages
  | .unmarkAllImages => some (cache.unmarkAllImages, [])
  | .shutdown => some (cache.shutdown, [])
  | .runTask => (cache.runTask readBack).map fun after => (after, [])
  | .runReply => cache.runReply

/-- The changes of snapshots among the reports, in order. -/
def updates (events : List (SnapshotEvent Id Image)) : List (Id × Option Image) :=
  events.filterMap fun event =>
    match event with
    | .callback _ _ => none
    | .didUpdate sessionID image => some (sessionID, image)

omit [DecidableEq Id] in
@[simp]
theorem updates_append (first second : List (SnapshotEvent Id Image)) :
    updates (first ++ second) = updates first ++ updates second :=
  List.filterMap_append ..

/-! ## What the tasks will do -/

def writes (tasks : List (SnapshotTask Id Image)) : List (Id × Option Image) :=
  tasks.filterMap fun task =>
    match task with
    | .readImage _ => none
    | .writeImage sessionID image => some (sessionID, some image)
    | .deleteImage sessionID => some (sessionID, none)

/-- What the reads among the tasks will give, each at its turn. -/
def answers (readBack : Image → Option Image) (disk : Store Id Image) :
    List (SnapshotTask Id Image) → List (Id × Option Image)
  | [] => []
  | .readImage sessionID :: rest =>
    (sessionID, (disk sessionID).bind readBack) :: answers readBack disk rest
  | .writeImage sessionID image :: rest =>
    answers readBack (disk.write (sessionID, some image)) rest
  | .deleteImage sessionID :: rest => answers readBack (disk.write (sessionID, none)) rest

def due : Store Id Image :=
  cache.disk.writeAll (writes cache.tasks)

def inFlight (cache : SnapshotCache Id Image) : List (Id × Option Image) :=
  cache.replies ++ answers readBack cache.disk cache.tasks

section Tasks

variable {readBack : Image → Option Image} {disk : Store Id Image}
variable {tasks : List (SnapshotTask Id Image)} {sessionID : Id} {image : Image}

theorem answers_append (more : List (SnapshotTask Id Image)) :
    answers readBack disk (tasks ++ more) =
      answers readBack disk tasks ++ answers readBack (disk.writeAll (writes tasks)) more := by
  induction tasks generalizing disk with
  | nil => rfl
  | cons task _ ih =>
    cases task <;> simp [answers, Store.writeAll, writes, List.cons_append, ih]

omit [DecidableEq Id] in
@[simp]
theorem writes_concat_write :
    writes (tasks ++ [.writeImage sessionID image]) = writes tasks ++ [(sessionID, some image)] :=
  List.filterMap_append ..

omit [DecidableEq Id] in
@[simp]
theorem writes_concat_delete :
    writes (tasks ++ [.deleteImage sessionID]) = writes tasks ++ [(sessionID, none)] :=
  List.filterMap_append ..

omit [DecidableEq Id] in
@[simp]
theorem writes_concat_read : writes (tasks ++ [.readImage sessionID]) = writes tasks := by
  grind [writes]

variable {cache after : SnapshotCache Id Image}

/-- Doing a task changes neither what the disk will hold nor the replies that are to come. -/
theorem runTask_same (ran : cache.runTask readBack = some after) :
    after.due = cache.due ∧ after.inFlight readBack = cache.inFlight readBack ∧
      after.lruCache = cache.lruCache ∧ after.taskRunner = cache.taskRunner := by
  simp only [runTask] at ran
  split at ran
  · cases ran
  · next sessionID rest tasks =>
      cases ran
      refine ⟨?_, ?_, rfl, rfl⟩
      · simp only [due, tasks]
        rfl
      · simp [inFlight, tasks, answers]
  · next sessionID image rest tasks =>
      cases ran
      refine ⟨?_, ?_, rfl, rfl⟩
      · simp only [due, tasks]
        rfl
      · simp only [inFlight, tasks, answers]
  · next sessionID rest tasks =>
      cases ran
      refine ⟨?_, ?_, rfl, rfl⟩
      · simp only [due, tasks]
        rfl
      · simp only [inFlight, tasks, answers]

end Tasks

/-! ## The picture that is shown -/

def Shows (latest : Option Image) (image : Image) : Prop :=
  ∃ written, latest = some written ∧ (image = written ∨ readBack written = some image)

/-- No retrieval of the session that is under way will bring an image. -/
def Quiet (cache : SnapshotCache Id Image) (sessionID : Id) : Prop :=
  ∀ answer ∈ cache.inFlight readBack, answer.1 = sessionID → answer.2 = none
deriving Decidable

/-- A snapshot is set or removed only when no retrieval of it is under way that will bring an
image. -/
def Undisturbed (cache : SnapshotCache Id Image) : Input Id Image → Prop
  | .setImage _ sessionID => cache.Quiet readBack sessionID
  | .removeImage sessionID => sessionID ∉ cache.markedIDs → cache.Quiet readBack sessionID
  | .removeMarkedImages => ∀ sessionID ∈ cache.markedIDs, cache.Quiet readBack sessionID
  | _ => True

instance (cache : SnapshotCache Id Image) :
    (input : Input Id Image) → Decidable (cache.Undisturbed readBack input)
  | .setImage _ sessionID => inferInstanceAs (Decidable (cache.Quiet readBack sessionID))
  | .removeImage sessionID =>
    inferInstanceAs (Decidable (sessionID ∉ cache.markedIDs → cache.Quiet readBack sessionID))
  | .removeMarkedImages =>
    inferInstanceAs (Decidable (∀ sessionID ∈ cache.markedIDs, cache.Quiet readBack sessionID))
  | .retrieveImage _ | .markImage _ | .unmarkAllImages | .shutdown | .runTask | .runReply =>
    inferInstanceAs (Decidable True)

/-- What is in memory, or is on its way there, shows the latest image of its session. -/
structure Sound (readBack : Image → Option Image) (latest : Store Id Image)
    (cache : SnapshotCache Id Image) : Prop where
  memory : ∀ sessionID image, (sessionID, image) ∈ cache.lruCache.entries →
    Shows readBack (latest sessionID) image
  flying : ∀ sessionID image, (sessionID, some image) ∈ cache.inFlight readBack →
    Shows readBack (latest sessionID) image
  settled : ∀ sessionID, latest sessionID ≠ none → latest sessionID = cache.due sessionID
  running : cache.taskRunner = true → latest = cache.due

section Steps

variable {readBack : Image → Option Image} {latest : Store Id Image}
variable {cache after : SnapshotCache Id Image} {sessionID : Id}

variable (sound : Sound readBack latest cache)
include sound

/-- Only what is in memory and under way matters, besides the latest images. -/
theorem Sound.congr (due : after.due = cache.due)
    (inFlight : after.inFlight readBack = cache.inFlight readBack)
    (memory : ∀ entry ∈ after.lruCache.entries, entry ∈ cache.lruCache.entries)
    (running : after.taskRunner = true → cache.taskRunner = true) :
    Sound readBack latest after where
  memory := fun sessionID image found => sound.memory sessionID image (memory _ found)
  flying := by
    intro sessionID image found
    rw [inFlight] at found
    exact sound.flying sessionID image found
  settled := by
    intro sessionID present
    rw [due]
    exact sound.settled sessionID present
  running := by
    intro alive
    rw [due]
    exact sound.running (running alive)

/-- A change of one snapshot while no retrieval of it is under way. -/
theorem Sound.change (quiet : cache.Quiet readBack sessionID) (value : Option Image)
    (inFlight : after.inFlight readBack = cache.inFlight readBack)
    (memory : ∀ other image, (other, image) ∈ after.lruCache.entries →
      other = sessionID ∧ value = some image ∨
        other ≠ sessionID ∧ (other, image) ∈ cache.lruCache.entries)
    (settled : ∀ other, latest.write (sessionID, value) other ≠ none →
      latest.write (sessionID, value) other = after.due other)
    (running : after.taskRunner = true → latest.write (sessionID, value) = after.due) :
    Sound readBack (latest.write (sessionID, value)) after where
  memory := by
    intro other image found
    rcases memory other image found with ⟨same, set⟩ | ⟨different, kept⟩
    · simp [Shows, same, set]
    · rw [Store.write_of_ne different]
      exact sound.memory other image kept
  flying := by
    intro other image found
    rw [inFlight] at found
    by_cases same : other = sessionID
    · exact absurd (quiet _ found same) (by simp)
    · rw [Store.write_of_ne same]
      exact sound.flying other image found
  settled := settled
  running := running

theorem setImage_sound (image : Option Image) (quiet : cache.Quiet readBack sessionID) :
    Sound readBack (latest.writeAll (updates (cache.setImage image sessionID).2))
      (cache.setImage image sessionID).1 := by
  cases image with
  | none => exact sound
  | some image =>
    simp only [setImage]
    split
    · next alive =>
        have due : latest.write (sessionID, some image) =
            cache.disk.writeAll (writes (cache.tasks ++ [.writeImage sessionID image])) := by
          rw [writes_concat_write, Store.writeAll_concat, sound.running alive]
          rfl
        refine sound.change quiet (some image) ?_ ?_ ?_ ?_
        · simp [inFlight, answers_append, answers]
        · grind [LRUCache.setObject]
        · exact fun other _ => congrFun due other
        · exact fun _ => due
    · exact sound

omit sound

theorem inFlight_removeImage (readBack : Image → Option Image) (cache : SnapshotCache Id Image)
    (sessionID : Id) :
    (cache.removeImageWithSessionID sessionID).1.inFlight readBack = cache.inFlight readBack := by
  grind [inFlight, removeImageWithSessionID, answers_append, answers]

include sound

theorem removeImage_sound (quiet : sessionID ∉ cache.markedIDs → cache.Quiet readBack sessionID) :
    Sound readBack (latest.writeAll (updates (cache.removeImageWithSessionID sessionID).2))
      (cache.removeImageWithSessionID sessionID).1 := by
  have same := inFlight_removeImage readBack cache sessionID
  simp only [removeImageWithSessionID] at same ⊢
  split
  · exact sound
  · next unmarked =>
      rw [if_neg unmarked] at same
      refine sound.change (quiet unmarked) none same ?_ ?_ ?_
      · exact fun other image found => .inr (LRUCache.mem_removeObjectForKey found)
      · intro other present
        have different : other ≠ sessionID := by
          rintro rfl
          simp at present
        rw [Store.write_of_ne different] at present ⊢
        rw [sound.settled other present]
        simp only [due]
        split <;> simp [Store.write_of_ne different]
      · intro alive
        simp [due, if_pos alive, sound.running alive]

omit sound

theorem removeEach_sound (ids : List Id) (sound : Sound readBack latest cache)
    (quiet : ∀ sessionID ∈ ids, cache.Quiet readBack sessionID) :
    Sound readBack (latest.writeAll (updates (cache.removeEach ids).2))
      (cache.removeEach ids).1 := by
  induction ids generalizing cache latest with
  | nil => exact sound.congr rfl rfl (fun _ found => found) id
  | cons sessionID rest ih =>
    have remaining : Sound readBack latest { cache with markedIDs := rest } :=
      sound.congr rfl rfl (fun _ found => found) id
    have removed := removeImage_sound remaining fun _ =>
      quiet sessionID List.mem_cons_self
    have last := ih removed fun other inside => by
      rw [Quiet, inFlight_removeImage]
      exact quiet other (List.mem_cons_of_mem _ inside)
    simpa [removeEach, Store.writeAll] using last

include sound

/-- What a read will bring is what the disk is due to hold when it is posted. -/
theorem Sound.postRead (sessionID : Id) (alive : cache.taskRunner = true) :
    Sound readBack latest { cache with tasks := cache.tasks ++ [.readImage sessionID] } := by
  refine ⟨sound.memory, ?_, ?_, ?_⟩
  · intro other image found
    simp only [inFlight, answers_append, ← List.append_assoc] at found
    rcases List.mem_append.mp found with old | new
    · exact sound.flying other image old
    · obtain ⟨rfl, read⟩ := Prod.mk.inj (List.mem_singleton.mp new)
      obtain ⟨written, present, back⟩ := Option.bind_eq_some_iff.mp read.symm
      refine ⟨written, ?_, .inr back⟩
      rw [sound.running alive]
      exact present
  · intro other present
    simpa [due] using sound.settled other present
  · intro running
    simpa [due] using sound.running running

omit sound

theorem retrieveImage_sound (sessionID : Id) (sound : Sound readBack latest cache) :
    Sound readBack (latest.writeAll (updates (cache.retrieveImageForSessionID sessionID).2))
      (cache.retrieveImageForSessionID sessionID).1 := by
  simp only [retrieveImageForSessionID]
  split
  · next image lruCache found =>
      refine sound.congr rfl rfl ?_ id
      grind [LRUCache.mem_objectForKey]
  · split
    · next alive => exact sound.postRead sessionID alive
    · exact sound

variable {events : List (SnapshotEvent Id Image)}

include sound

theorem runReply_sound (ran : cache.runReply = some (after, events)) :
    Sound readBack (latest.writeAll (updates events)) after := by
  have tail : ∀ {answer rest}, cache.replies = answer :: rest →
      ∀ other image, (other, some image) ∈ rest ++ answers readBack cache.disk cache.tasks →
        Shows readBack (latest other) image := by
    intro answer rest replies other image found
    refine sound.flying other image ?_
    simp [inFlight, replies, found]
  simp only [runReply] at ran
  split at ran
  · cases ran
  · next sessionID rest replies =>
      cases ran
      exact ⟨sound.memory, tail replies, sound.settled, sound.running⟩
  · next sessionID image rest replies =>
      cases ran
      refine ⟨?_, tail replies, sound.settled, sound.running⟩
      intro other shown found
      rcases LRUCache.mem_setObject found with ⟨rfl, rfl⟩ | ⟨-, old⟩
      · refine sound.flying other shown ?_
        simp [inFlight, replies]
      · exact sound.memory other shown old

theorem step_sound {input : Input Id Image} (undisturbed : cache.Undisturbed readBack input)
    (stepped : step readBack cache input = some (after, events)) :
    Sound readBack (latest.writeAll (updates events)) after := by
  cases input with
  | retrieveImage _ =>
    grind [Option.some.inj stepped, retrieveImage_sound]
  | setImage image _ =>
    have kept := setImage_sound sound image undisturbed
    rw [Option.some.inj stepped] at kept
    exact kept
  | removeImage _ =>
    have kept := removeImage_sound sound undisturbed
    rw [Option.some.inj stepped] at kept
    exact kept
  | markImage sessionID | unmarkAllImages =>
    cases stepped
    exact sound.congr rfl rfl (fun _ found => found) id
  | removeMarkedImages =>
    have kept := removeEach_sound _ sound undisturbed
    rw [show cache.removeEach cache.markedIDs = (after, events) from Option.some.inj stepped]
      at kept
    exact kept
  | shutdown =>
    cases stepped
    exact sound.congr rfl rfl (fun _ found => found) (fun alive => by cases alive)
  | runTask =>
    obtain ⟨_, ran, result⟩ := Option.map_eq_some_iff.mp stepped
    cases result
    obtain ⟨due, inFlight, memory, running⟩ := runTask_same ran
    exact sound.congr due inFlight (fun _ found => memory ▸ found) (fun alive => running ▸ alive)
  | runReply => exact runReply_sound sound stepped

end Steps

/-! ## Whole runs -/

abbrev CacheRun (disk : Store Id Image) :
    List (SnapshotEvent Id Image) → SnapshotCache Id Image → Prop :=
  Runs (step readBack) (fun _ _ => True) (initWithDisk disk)

/-- A run in which no snapshot is set or removed while a retrieval of it is under way that will
bring an image. -/
abbrev UndisturbedRun (disk : Store Id Image) :
    List (SnapshotEvent Id Image) → SnapshotCache Id Image → Prop :=
  Runs (step readBack) (fun cache input => cache.Undisturbed readBack input) (initWithDisk disk)

/-- Once the tasks are done, an image in memory is the latest one of its session and has its
file on disk, and a removed session has none. -/
structure UpToDate (readBack : Image → Option Image) (latest : Store Id Image)
    (cache : SnapshotCache Id Image) : Prop where
  memory : ∀ sessionID image, (sessionID, image) ∈ cache.lruCache.entries →
    Shows readBack (latest sessionID) image ∧ cache.disk sessionID = latest sessionID
  removed : ∀ sessionID image, latest sessionID = none →
    (sessionID, image) ∉ cache.lruCache.entries

theorem undisturbedRun_upToDate {readBack : Image → Option Image} {disk : Store Id Image}
    {events : List (SnapshotEvent Id Image)} {cache : SnapshotCache Id Image}
    (run : UndisturbedRun readBack disk events cache) (noTask : cache.tasks = []) :
    cache.UpToDate readBack (disk.writeAll (updates events)) := by
  have sound : Sound readBack (disk.writeAll (updates events)) cache := by
    refine run.invariant_outputs (fun events cache =>
      Sound readBack (disk.writeAll (updates events)) cache) ?_ ?_
    · refine ⟨?_, ?_, ?_, ?_⟩
      · simp [initWithDisk]
      · intro sessionID image found
        cases found
      · exact fun _ _ => rfl
      · exact fun _ => rfl
    · intro events state after input emitted _ sound undisturbed stepped
      have next := step_sound sound undisturbed stepped
      simpa [Store.writeAll] using next
  refine ⟨?_, ?_⟩
  · intro sessionID image found
    have shown := sound.memory sessionID image found
    refine ⟨shown, ?_⟩
    obtain ⟨written, present, -⟩ := shown
    rw [sound.settled sessionID (by simp [present]), due, noTask]
    rfl
  · intro sessionID image absent found
    obtain ⟨written, present, -⟩ := sound.memory sessionID image found
    grind

/-- The snapshot of session 1 is on disk from an earlier launch. -/
def savedEarlier : Store Nat Nat := Store.write (fun _ => none) (1, some 7)

theorem undisturbedRun_upToDate_replaced :
    ∃ events cache, UndisturbedRun some savedEarlier events cache ∧
      cache.lruCache.entries = [(2, 9), (1, 8)] ∧
      cache.UpToDate some (savedEarlier.writeAll (updates events)) := by
  have run : UndisturbedRun some savedEarlier _ _ :=
    Runs.replay [.retrieveImage 1, .runTask, .runReply, .setImage (some 8) 1, .retrieveImage 2,
      .setImage (some 9) 2, .runTask, .runTask, .runReply, .runTask]
      .start (Option.eq_some_of_isSome (by decide))
  exact ⟨_, _, run, by decide, undisturbedRun_upToDate run (by decide)⟩

/-- A new snapshot is set, or the old one is removed, after the file was read and before the
reply runs: the old image is back in memory. -/
theorem stale_snapshot_in_memory :
    (∃ events cache, CacheRun some savedEarlier events cache ∧
      cache.tasks = [] ∧ cache.replies = [] ∧ cache.lruCache.entries = [(1, 7)] ∧
      cache.disk 1 = some 8 ∧ savedEarlier.writeAll (updates events) 1 = some 8 ∧
      ¬ cache.UpToDate some (savedEarlier.writeAll (updates events))) ∧
    ∃ events cache, CacheRun some savedEarlier events cache ∧
      cache.tasks = [] ∧ cache.replies = [] ∧ cache.lruCache.entries = [(1, 7)] ∧
      cache.disk 1 = none ∧ savedEarlier.writeAll (updates events) 1 = none ∧
      ¬ cache.UpToDate some (savedEarlier.writeAll (updates events)) := by
  have set : CacheRun some savedEarlier _ _ :=
    Runs.replay [.retrieveImage 1, .runTask, .setImage (some 8) 1, .runReply, .runTask]
      .start (Option.eq_some_of_isSome (by decide))
  have removed : CacheRun some savedEarlier _ _ :=
    Runs.replay [.retrieveImage 1, .runTask, .removeImage 1, .runReply, .runTask]
      .start (Option.eq_some_of_isSome (by decide))
  refine ⟨⟨_, _, set, by decide, by decide, by decide, by decide, by decide, ?_⟩,
    ⟨_, _, removed, by decide, by decide, by decide, by decide, by decide, ?_⟩⟩
  · intro upToDate
    obtain ⟨⟨written, present, shown⟩, _⟩ := upToDate.memory 1 7 (by decide)
    obtain rfl : 8 = written := by
      exact Option.some.inj present
    exact absurd shown (by decide)
  · intro upToDate
    exact upToDate.removed 1 7 (by decide) (by decide)

end SnapshotCache

end ChromiumIos
