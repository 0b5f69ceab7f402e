import ChromiumIos.WebStateList.ListsSeen
import ChromiumIos.WebStateList.ObservationForwarder

/-!
# The tab grid

The grid keeps an item for every tab and finds them by identifier.  A mediator observes
the list of WebStates, tells the grid which item to insert, move, replace or remove, and
passes on where the user drops an item.  The item the user drops has been moved in the
grid before the list hears of it, so that the grid is told about the move once more.

The cells that show the items and their thumbnails are left out.
-/

namespace ChromiumIos

open Lib

variable {W Id : Type} [DecidableEq W] [DecidableEq Id]

structure GridItem (Id : Type) where
  identifier : Id
  title : String
  hidesTitle : Bool
deriving DecidableEq, Repr

/-- What is read of the page of a WebState when an item is made for it. -/
structure VisiblePage where
  title : String
  isNtp : Bool
deriving DecidableEq, Repr

/-! ## The consumer -/

structure GridViewController (Id : Type) where
  items : List (GridItem Id)
  selectedItemID : Option Id
  lastInsertedItemID : Option Id
  hasChangedOrder : Bool
deriving DecidableEq, Repr

namespace GridViewController

def init : GridViewController Id := ⟨[], none, none, false⟩

variable (grid : GridViewController Id)

def identifiers : List Id := grid.items.map GridItem.identifier

def indexOfItemWithID (identifier : Id) : Option Nat :=
  grid.items.findIdx? fun item => item.identifier = identifier

def populateItems (items : List (GridItem Id)) (selectedItemID : Option Id) :
    Checked (GridViewController Id) := do
  dcheck (items.map GridItem.identifier).Nodup
  return { grid with items, selectedItemID }

def insertItem (item : GridItem Id) (index : Int) (selectedItemID : Option Id) :
    Checked (GridViewController Id) := do
  dcheck (grid.indexOfItemWithID item.identifier = none)
  dcheck (0 ≤ index ∧ index ≤ grid.items.length)
  return { grid with
    items := insertAt grid.items index item
    selectedItemID
    lastInsertedItemID := some item.identifier }

def removeItemWithID (removedItemID : Id) (selectedItemID : Option Id) :
    Checked (GridViewController Id) := do
  let index ← grid.indexOfItemWithID removedItemID
  return { grid with items := grid.items.eraseIdx index, selectedItemID }

def selectItemWithID (selectedItemID : Option Id) : GridViewController Id :=
  { grid with selectedItemID }

/-- An item that is not in the grid is not replaced. -/
def replaceItemID (itemID : Id) (item : GridItem Id) : Checked (GridViewController Id) :=
  match grid.indexOfItemWithID itemID with
  | none => some grid
  | some index => do
      dcheck (item.identifier = itemID ∨ grid.indexOfItemWithID item.identifier = none)
      return { grid with items := grid.items.set index item }

/-- An item that is taken out of the grid is put back at an index of what is left. -/
def moveItem (fromIndex : Nat) (toIndex : Int) : Checked (GridViewController Id) := do
  let item ← grid.items[fromIndex]?
  let others := grid.items.eraseIdx fromIndex
  dcheck (0 ≤ toIndex ∧ toIndex ≤ others.length)
  return { grid with items := insertAt others toIndex item }

def moveItemWithID (grid : GridViewController Id) (itemID : Id) (toIndex : Int) :
    Checked (GridViewController Id) :=
  if (grid.indexOfItemWithID itemID).map Int.ofNat = some toIndex then some grid
  else do
    let fromIndex ← grid.indexOfItemWithID itemID
    grid.moveItem fromIndex toIndex

/-- The user has dropped an item, whose identifier the delegate is told. -/
def moveItemAtIndexPath (source destination : Nat) : Checked (GridViewController Id × Id) := do
  let item ← grid.items[source]?
  let moved ← grid.moveItem source destination
  return ({ moved with hasChangedOrder := true }, item.identifier)

end GridViewController

/-! ## The mediator -/

/-- The mediator of a list with its consumer. -/
structure TabGrid (W Id : Type) where
  consumer : GridViewController Id
  scopedWebStateObserver : ScopedObserver W
deriving DecidableEq, Repr

namespace TabGrid

variable (tabId : W → Id) (pages : W → VisiblePage)

omit [DecidableEq W] [DecidableEq Id] in
def createItem (webState : W) : GridItem Id where
  identifier := tabId webState
  title := (pages webState).title
  hidesTitle := (pages webState).isNtp

omit [DecidableEq W] [DecidableEq Id] in
def createItems (list : WebStateList W) : List (GridItem Id) :=
  list.webStates.map (createItem tabId pages)

omit [DecidableEq W] [DecidableEq Id] in
def getActiveTabId (list : WebStateList W) : Checked (Option Id) :=
  list.getActiveWebState.map fun webState => webState.map tabId

omit [DecidableEq W] in
def getIndexOfTabWithId (list : WebStateList W) (identifier : Id) : Int :=
  match list.webStates.findIdx? fun webState => tabId webState = identifier with
  | some index => index
  | none => -1

omit [DecidableEq W] in
def getWebStateWithId (list : WebStateList W) (identifier : Id) : Option W :=
  list.webStates.find? fun webState => tabId webState = identifier

/-- The mediator is given a list that it has not observed before. -/
def setTabModel (list : WebStateList W) : Checked (TabGrid W Id) := do
  let scopedWebStateObserver ← list.webStates.foldlM ScopedObserver.add ⟨[]⟩
  if 0 < list.count then
    let selectedItemID ← getActiveTabId tabId list
    let consumer ←
      GridViewController.init.populateItems (createItems tabId pages list) selectedItemID
    return { consumer, scopedWebStateObserver }
  else
    return { consumer := .init, scopedWebStateObserver }

variable (grid : TabGrid W Id)

def didInsertWebState (list : WebStateList W) (webState : W) (index : Int) :
    Checked (TabGrid W Id) := do
  let selectedItemID ← getActiveTabId tabId list
  let consumer ← grid.consumer.insertItem (createItem tabId pages webState) index selectedItemID
  let scopedWebStateObserver ← grid.scopedWebStateObserver.add webState
  return { consumer, scopedWebStateObserver }

omit [DecidableEq W] in
def didMoveWebState (webState : W) (toIndex : Int) : Checked (TabGrid W Id) := do
  let consumer ← grid.consumer.moveItemWithID (tabId webState) toIndex
  return { grid with consumer }

def didReplaceWebState (oldWebState newWebState : W) : Checked (TabGrid W Id) := do
  let consumer ←
    grid.consumer.replaceItemID (tabId oldWebState) (createItem tabId pages newWebState)
  let removed ← grid.scopedWebStateObserver.remove oldWebState
  let scopedWebStateObserver ← removed.add newWebState
  return { consumer, scopedWebStateObserver }

def didDetachWebState (list : WebStateList W) (webState : W) : Checked (TabGrid W Id) := do
  let selectedItemID ← getActiveTabId tabId list
  let consumer ← grid.consumer.removeItemWithID (tabId webState) selectedItemID
  let scopedWebStateObserver ← grid.scopedWebStateObserver.remove webState
  return { consumer, scopedWebStateObserver }

omit [DecidableEq W] [DecidableEq Id] in
def didChangeActiveWebState (newWebState : Option W) (atIndex : Int) :
    Checked (TabGrid W Id) :=
  if atIndex = -1 then some { grid with consumer := grid.consumer.selectItemWithID none }
  else do
    let webState ← newWebState
    return { grid with consumer := grid.consumer.selectItemWithID (some (tabId webState)) }

/-- The notifications that the mediator implements. -/
def observe : WebStateList.Seen W → Checked (TabGrid W Id)
  | (.insertedAt webState index _, list) =>
    grid.didInsertWebState tabId pages list webState index
  | (.moved webState _ toIndex, _) => grid.didMoveWebState tabId webState toIndex
  | (.replacedAt oldWebState newWebState _, _) =>
    grid.didReplaceWebState tabId pages oldWebState newWebState
  | (.detachedAt webState _, list) => grid.didDetachWebState tabId list webState
  | (.activatedAt _ newWebState activeIndex _, _) =>
    grid.didChangeActiveWebState tabId newWebState activeIndex
  | (.willDetachAt _ _, _) | (.willCloseAt _ _ _, _) => some grid

def observeAll (seen : List (WebStateList.Seen W)) : Checked (TabGrid W Id) :=
  seen.foldlM (observe tabId pages) grid

omit [DecidableEq W] in
def webStateDidChangeTitle (webState : W) : Checked (TabGrid W Id) := do
  let consumer ←
    grid.consumer.replaceItemID (tabId webState) (createItem tabId pages webState)
  return { grid with consumer }

omit [DecidableEq W] in
def didUpdateSnapshotForIdentifier (list : WebStateList W) (identifier : Id) :
    Checked (TabGrid W Id) :=
  match getWebStateWithId tabId list identifier with
  | none => some grid
  | some webState => do
      let consumer ← grid.consumer.replaceItemID identifier (createItem tabId pages webState)
      return { grid with consumer }

/-- The command that reaches the list when the user has dropped an item. -/
def moveItemWithID (list : WebStateList W) (itemID : Id) (destinationIndex : Nat) :
    Checked (WebStateList.Outcome W) :=
  let sourceIndex := getIndexOfTabWithId tabId list itemID
  if 0 ≤ sourceIndex then list.moveWebStateAt sourceIndex destinationIndex
  else some (list, [])

/-! ## The list and its grid -/

inductive Event (W Id : Type) where
  | operate (input : WebStateList.Input W)
  | moveItem (source destination : Nat)
  | changeTitle (webState : W)
  | updateSnapshot (identifier : Id)

structure Input (W Id : Type) where
  pages : W → VisiblePage
  event : Event W Id

def step (state : WebStateList W × TabGrid W Id) (input : Input W Id) :
    Checked ((WebStateList W × TabGrid W Id) × List (Notification W)) :=
  match input.event with
  | .operate operation => do
      let (list, emitted) ← state.1.stepSeen operation
      let grid ← state.2.observeAll tabId input.pages emitted
      return ((list, grid), emitted.map Prod.fst)
  | .moveItem source destination => do
      let (consumer, itemID) ← state.2.consumer.moveItemAtIndexPath source destination
      let outcome ← moveItemWithID tabId state.1 itemID destination
      let (list, emitted) := state.1.withListsSeen outcome
      let grid ← { state.2 with consumer }.observeAll tabId input.pages emitted
      return ((list, grid), emitted.map Prod.fst)
  | .changeTitle webState => do
      let grid ← state.2.webStateDidChangeTitle tabId input.pages webState
      return ((state.1, grid), [])
  | .updateSnapshot identifier => do
      let grid ← state.2.didUpdateSnapshotForIdentifier tabId input.pages state.1 identifier
      return ((state.1, grid), [])

omit [DecidableEq Id] in
/-- An item is dropped where there is one. -/
def Accepts (state : WebStateList W × TabGrid W Id) (input : Input W Id) : Prop :=
  match input.event with
  | .operate operation =>
    state.1.Admissible operation ∧ ¬ state.1.MakesOwnOpener operation
  | .moveItem source destination =>
    source < state.2.consumer.items.length ∧ destination < state.2.consumer.items.length
  | .changeTitle _ | .updateSnapshot _ => True

instance (state : WebStateList W × TabGrid W Id) (input : Input W Id) :
    Decidable (Accepts state input) :=
  match input with
  | ⟨_, .operate _⟩ => inferInstanceAs (Decidable (_ ∧ ¬ _))
  | ⟨_, .moveItem ..⟩ => inferInstanceAs (Decidable (_ ∧ _))
  | ⟨_, .changeTitle _⟩ => inferInstanceAs (Decidable True)
  | ⟨_, .updateSnapshot _⟩ => inferInstanceAs (Decidable True)

end TabGrid

end ChromiumIos
