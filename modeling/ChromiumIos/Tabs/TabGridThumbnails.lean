import ChromiumIos.Lib.IndexedList
import ChromiumIos.Snapshots.SnapshotCache

/-!
# The thumbnails of the tab grid

Before the grid appears its mediator loads the snapshots of the tabs that are likely to be
visible into a cache of its own, which is cleared when the grid has appeared.  An entry is
dropped when the cache of snapshots reports that the snapshot has changed; a cell on the
screen then asks for it again.  The snapshot that is loaded is cached by the completion of
its retrieval, whenever that runs.

The completions that wait for an answer stand in the order of the answers to come.
-/

namespace ChromiumIos

open Lib

variable {Id Image : Type} [DecidableEq Id]

/-- What is done with an image: a preload caches it, a cell or another client shows it. -/
inductive SnapshotCompletion (Id : Type) where
  | cacheImage (identifier : Id)
  | showImage
deriving DecidableEq, Repr

/-- The mediator knows its WebStates by their identifiers. -/
structure TabGridMediator (Id Image : Type) where
  identifiers : List Id
  activeIndex : Int
  appearanceCache : Store Id Image
  snapshotCache : SnapshotCache Id Image
  completions : List (SnapshotCompletion Id)

namespace TabGridMediator

abbrev Outcome (Id Image : Type) := TabGridMediator Id Image × List (SnapshotEvent Id Image)

def init (disk : Store Id Image) : TabGridMediator Id Image where
  identifiers := []
  activeIndex := -1
  appearanceCache := fun _ => none
  snapshotCache := .initWithDisk disk
  completions := []

variable (mediator : TabGridMediator Id Image)

/-- No image is cached where there is none. -/
def complete (completion : SnapshotCompletion Id) (image : Option Image) :
    TabGridMediator Id Image :=
  match completion with
  | .cacheImage identifier =>
    { mediator with
      appearanceCache := mediator.appearanceCache.write (identifier, image) }
  | .showImage => mediator

variable (sessionID : Id)

def retrieveColorSnapshot (completion : SnapshotCompletion Id) : Outcome Id Image :=
  let (snapshotCache, events) := mediator.snapshotCache.retrieveImageForSessionID sessionID
  match events.head? with
  | some (.callback _ image) => ({ mediator with snapshotCache }.complete completion image, events)
  | some (.didUpdate _ _) | none =>
    ({ mediator with
      snapshotCache
      completions := mediator.completions ++ [completion] }, events)

def snapshotForIdentifier (identifier : Id) (completion : SnapshotCompletion Id) :
    Outcome Id Image :=
  match mediator.appearanceCache identifier with
  | some image => (mediator.complete completion (some image), [])
  | none =>
    if identifier ∈ mediator.identifiers then
      mediator.retrieveColorSnapshot identifier completion
    else (mediator, [])

def preloadedIndices (gridSize : Int) : List Int :=
  let startIndex := max (mediator.activeIndex - gridSize) 0
  let endIndex := min (mediator.activeIndex + gridSize) (mediator.identifiers.length - 1)
  (List.range (endIndex + 1 - startIndex).toNat).map fun offset => startIndex + offset

def preloadEach (mediator : TabGridMediator Id Image) :
    List Int → Checked (Outcome Id Image)
  | [] => some (mediator, [])
  | index :: rest => do
      let identifier ← at? mediator.identifiers index
      let (asked, events) := mediator.snapshotForIdentifier identifier (.cacheImage identifier)
      let (last, more) ← asked.preloadEach rest
      return (last, events ++ more)

def preloadSnapshotsForVisibleGridSize (gridSize : Int) : Checked (Outcome Id Image) :=
  mediator.preloadEach (mediator.preloadedIndices gridSize)

omit [DecidableEq Id] in
def clearPreloadedSnapshots : TabGridMediator Id Image :=
  { mediator with appearanceCache := fun _ => none }

def withoutThumbnail (identifier : Id) : TabGridMediator Id Image :=
  { mediator with appearanceCache := mediator.appearanceCache.write (identifier, none) }

/-- The item of a tab of the list is made anew, and its cell with it if there is one. -/
def didUpdateSnapshotForIdentifier (identifier : Id) (visible : List Id) : Outcome Id Image :=
  if identifier ∈ mediator.identifiers ∧ identifier ∈ visible then
    (mediator.withoutThumbnail identifier).snapshotForIdentifier identifier .showImage
  else (mediator.withoutThumbnail identifier, [])

/-! ## The cache of snapshots, with its observer -/

omit [DecidableEq Id] in
def withLRUCache (lruCache : LRUCache Id Image) : TabGridMediator Id Image :=
  { mediator with snapshotCache := { mediator.snapshotCache with lruCache } }

omit [DecidableEq Id] in
def postTask (task : SnapshotTask Id Image) : TabGridMediator Id Image :=
  { mediator with
    snapshotCache := { mediator.snapshotCache with
      tasks := mediator.snapshotCache.tasks ++ [task] } }

/-- The observer is told before the image is posted to be written. -/
def setImage (image : Option Image) (sessionID : Id) (visible : List Id) : Outcome Id Image :=
  match image with
  | none => (mediator, [])
  | some image =>
    if mediator.snapshotCache.taskRunner then
      let stored :=
        mediator.withLRUCache (mediator.snapshotCache.lruCache.setObject image sessionID)
      let (told, events) := stored.didUpdateSnapshotForIdentifier sessionID visible
      (told.postTask (.writeImage sessionID image), .didUpdate sessionID (some image) :: events)
    else
      (mediator, [])

/-- The observer is told before the file is posted to be deleted. -/
def removeImageWithSessionID (visible : List Id) : Outcome Id Image :=
  if sessionID ∈ mediator.snapshotCache.markedIDs then
    (mediator, [])
  else
    let removed :=
      mediator.withLRUCache (mediator.snapshotCache.lruCache.removeObjectForKey sessionID)
    let (told, events) := removed.didUpdateSnapshotForIdentifier sessionID visible
    (if told.snapshotCache.taskRunner then told.postTask (.deleteImage sessionID) else told,
      .didUpdate sessionID none :: events)

omit [DecidableEq Id] in
def withMarkedIDs (markedIDs : List Id) : TabGridMediator Id Image :=
  { mediator with snapshotCache := { mediator.snapshotCache with markedIDs } }

def removeEach (visible : List Id) (mediator : TabGridMediator Id Image) :
    List Id → Outcome Id Image
  | [] => (mediator.withMarkedIDs [], [])
  | sessionID :: rest =>
    let (removed, events) :=
      (mediator.withMarkedIDs rest).removeImageWithSessionID sessionID visible
    let (last, more) := removed.removeEach visible rest
    (last, events ++ more)

def runReply : Checked (Outcome Id Image) := do
  let (snapshotCache, events) ← mediator.snapshotCache.runReply
  match mediator.completions, events with
  | completion :: completions, .callback _ image :: _ =>
    return ({ mediator with snapshotCache, completions }.complete completion image, events)
  | _, _ => none

/-- Cells ask for snapshots; other clients do without the mediator. -/
inductive Input (Id Image : Type) where
  | preloadSnapshots (gridSize : Int)
  | clearPreloadedSnapshots
  | snapshotForIdentifier (identifier : Id)
  | retrieveImage (sessionID : Id)
  | setImage (image : Option Image) (sessionID : Id) (visible : List Id)
  | removeImage (sessionID : Id) (visible : List Id)
  | markImage (sessionID : Id)
  | removeMarkedImages (visible : List Id)
  | unmarkAllImages
  | shutdown
  | changeList (identifiers : List Id) (activeIndex : Int)
  | runTask
  | runReply
deriving DecidableEq, Repr

def Input.isPreload : Input Id Image → Bool
  | .preloadSnapshots _ => true
  | .clearPreloadedSnapshots | .snapshotForIdentifier _ | .retrieveImage _ | .setImage _ _ _
  | .removeImage _ _ | .markImage _ | .removeMarkedImages _ | .unmarkAllImages | .shutdown
  | .changeList _ _ | .runTask | .runReply => false

variable (readBack : Image → Option Image)

def step (mediator : TabGridMediator Id Image) : Input Id Image → Checked (Outcome Id Image)
  | .preloadSnapshots gridSize => mediator.preloadSnapshotsForVisibleGridSize gridSize
  | .clearPreloadedSnapshots => some (mediator.clearPreloadedSnapshots, [])
  | .snapshotForIdentifier identifier =>
    some (mediator.snapshotForIdentifier identifier .showImage)
  | .retrieveImage sessionID => some (mediator.retrieveColorSnapshot sessionID .showImage)
  | .setImage image sessionID visible => some (mediator.setImage image sessionID visible)
  | .removeImage sessionID visible => some (mediator.removeImageWithSessionID sessionID visible)
  | .markImage sessionID =>
    some ({ mediator with
      snapshotCache := mediator.snapshotCache.markImageWithSessionID sessionID }, [])
  | .removeMarkedImages visible =>
    some (mediator.removeEach visible mediator.snapshotCache.markedIDs)
  | .unmarkAllImages =>
    some ({ mediator with snapshotCache := mediator.snapshotCache.unmarkAllImages }, [])
  | .shutdown => some ({ mediator with snapshotCache := mediator.snapshotCache.shutdown }, [])
  | .changeList identifiers activeIndex => some ({ mediator with identifiers, activeIndex }, [])
  | .runTask =>
    (mediator.snapshotCache.runTask readBack).map fun snapshotCache =>
      ({ mediator with snapshotCache }, [])
  | .runReply => mediator.runReply

/-! ## Which retrievals disturb -/

/-- The answers to come with the completions that wait for them. -/
def awaited : List (SnapshotCompletion Id × Id × Option Image) :=
  mediator.completions.zip (mediator.snapshotCache.inFlight readBack)

def PreloadsOver : Prop :=
  ∀ waiting ∈ mediator.awaited readBack, waiting.1 ≠ .showImage → waiting.2.2 = none
deriving Decidable

/-- A cell that is told of a removal reads no file that is about to be deleted. -/
def RereadsNothing (sessionID : Id) (visible : List Id) : Prop :=
  sessionID ∈ mediator.identifiers → sessionID ∈ visible →
    mediator.snapshotCache.taskRunner = true →
      (mediator.snapshotCache.due sessionID).bind readBack = none

def Removable (sessionID : Id) (visible : List Id) : Prop :=
  mediator.snapshotCache.Quiet readBack sessionID ∧
    mediator.RereadsNothing readBack sessionID visible

/-- A snapshot is set or removed only when no retrieval of it is under way or is begun by the
cell on the screen that will bring the old image, and the cache is cleared only when no preload
is under way that will bring an image. -/
def Undisturbed : Input Id Image → Prop
  | .clearPreloadedSnapshots => mediator.PreloadsOver readBack
  | .setImage image sessionID _ =>
    image.isSome → mediator.snapshotCache.taskRunner = true →
      mediator.snapshotCache.Quiet readBack sessionID
  | .removeImage sessionID visible =>
    sessionID ∉ mediator.snapshotCache.markedIDs →
      mediator.Removable readBack sessionID visible
  | .removeMarkedImages visible =>
    ∀ sessionID ∈ mediator.snapshotCache.markedIDs,
      mediator.Removable readBack sessionID visible
  | .preloadSnapshots _ | .snapshotForIdentifier _ | .retrieveImage _ | .markImage _
  | .unmarkAllImages | .shutdown | .changeList _ _ | .runTask | .runReply => True

section Decidable

variable [DecidableEq Image] (readBack : Image → Option Image)

instance (sessionID : Id) (visible : List Id) :
    Decidable (mediator.Removable readBack sessionID visible) :=
  inferInstanceAs (Decidable (_ ∧ (_ → _ → _ → _)))

instance : (input : Input Id Image) → Decidable (mediator.Undisturbed readBack input)
  | .clearPreloadedSnapshots => inferInstanceAs (Decidable (mediator.PreloadsOver readBack))
  | .setImage _ _ _ => inferInstanceAs (Decidable (_ → _ → _))
  | .removeImage _ _ => inferInstanceAs (Decidable (_ → _))
  | .removeMarkedImages _ => inferInstanceAs (Decidable (∀ sessionID ∈ _, _))
  | .preloadSnapshots _ | .snapshotForIdentifier _ | .retrieveImage _ | .markImage _
  | .unmarkAllImages | .shutdown | .changeList _ _ | .runTask | .runReply =>
    inferInstanceAs (Decidable True)

end Decidable

end TabGridMediator

end ChromiumIos
