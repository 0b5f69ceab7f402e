import ChromiumIos.History.ListModel
import ChromiumIos.Lib.Runs
import ChromiumIos.Lib.Writes

/-!
# The sections of the history

The inserter adds a section for each day to the end of a list model and keeps three structures in
step: the sections themselves, the days in their order, and the identifiers of the days' sections.
Entries are sorted from most to least recent; of equal entries only one is kept.
-/

namespace ChromiumIos

open Lib

structure HistoryEntryItem (URL : Type) where
  type : Int
  url : URL
  timestamp : Int
deriving DecidableEq, Repr

/-- Days and the sections that hold their entries. -/
structure HistoryEntryInserter (URL : Type) where
  listModel : ListModel (HistoryEntryItem URL)
  firstSectionIndex : Nat
  sectionIdentifierCount : Nat
  dates : List Int
  sectionIdentifiers : Store Int Int

namespace HistoryEntryInserter

inductive HistoryEntryInserterDelegate where
  | didInsertItemAtIndexPath (row sectionIndex : Nat)
  | didInsertSectionAtIndex (sectionIndex : Nat)
  | didRemoveSectionAtIndex (sectionIndex : Nat)
deriving DecidableEq, Repr

variable {URL : Type} [LinearOrder URL]

def isEqualToHistoryEntryItem (first second : HistoryEntryItem URL) : Bool :=
  first.url = second.url ∧ first.timestamp = second.timestamp

def objectComparator (first second : HistoryEntryItem URL) : Ordering :=
  if isEqualToHistoryEntryItem first second then .eq
  else if first.timestamp > second.timestamp then .lt
  else if first.timestamp < second.timestamp then .gt
  else if first.url < second.url then .lt
  else .gt

def dateComparator (first second : Int) : Ordering := compare second first

def initWithModel (listModel : ListModel (HistoryEntryItem URL)) : HistoryEntryInserter URL :=
  ⟨listModel, listModel.numberOfSections, 0, [], fun _ => none⟩

/-- The microseconds from the origin of times to the epoch of dates. -/
def unixEpoch : Int := 11644473600000000

variable (localMidnight : Int → Int)

/-- The seconds at which the day of a time begins. -/
def dateOf (timestamp : Int) : Int := (localMidnight timestamp - unixEpoch).tdiv 1000000

/-- Insert into a set that keeps its order, unless the object is there. -/
def insertObject (dates : List Int) (date : Int) (index : Nat) : List Int :=
  if date ∈ dates then dates else dates.insertIdx index date

variable (state : HistoryEntryInserter URL)

def sectionIdentifierForTimestamp (timestamp : Int) (state : HistoryEntryInserter URL) :
    Checked (Int × HistoryEntryInserter URL × List HistoryEntryInserterDelegate) := do
  let date := dateOf localMidnight timestamp
  let sectionIdentifier := (state.sectionIdentifiers date).getD 0
  if sectionIdentifier ≠ 0 then
    return (sectionIdentifier, state, [])
  let sectionIdentifier :=
    kSectionIdentifierEnumZero + state.firstSectionIndex + state.sectionIdentifierCount
  let index := insertionIndex dateComparator state.dates date
  let sectionIndex := state.firstSectionIndex + index
  let listModel ← state.listModel.insertSectionWithIdentifier sectionIdentifier sectionIndex
  let state := { state with
    listModel
    sectionIdentifierCount := state.sectionIdentifierCount + 1
    sectionIdentifiers := state.sectionIdentifiers.write (date, some sectionIdentifier)
    dates := insertObject state.dates date index }
  return (sectionIdentifier, state, [.didInsertSectionAtIndex sectionIndex])

def insertHistoryEntryItem (item : HistoryEntryItem URL) (state : HistoryEntryInserter URL) :
    Checked (HistoryEntryInserter URL × List HistoryEntryInserterDelegate) := do
  let (sectionIdentifier, state, emitted) ←
    sectionIdentifierForTimestamp localMidnight item.timestamp state
  let items ← state.listModel.itemsInSectionWithIdentifier sectionIdentifier
  match indexOfEqual? objectComparator items item with
  | some _ => return (state, emitted)
  | none =>
    let index := insertionIndex objectComparator items item
    let sectionIndex ← state.listModel.sectionForSectionIdentifier sectionIdentifier
    let listModel ←
      state.listModel.insertItem HistoryEntryItem.type item sectionIdentifier index
    return ({ state with listModel },
      emitted ++ [.didInsertItemAtIndexPath items.length sectionIndex])

def dateOfIdentifier? (keyEnumerator : List Int) (sectionIdentifiers : Store Int Int)
    (sectionIdentifier : Int) : Option Int :=
  keyEnumerator.find? fun date => sectionIdentifiers date = some sectionIdentifier

def removeSection (sectionIndex : Nat) (keyEnumerator : List Int)
    (state : HistoryEntryInserter URL) :
    Checked (HistoryEntryInserter URL × List HistoryEntryInserterDelegate) := do
  let sectionIdentifier ← state.listModel.sectionIdentifierForSection sectionIndex
  let items ← state.listModel.itemsInSectionWithIdentifier sectionIdentifier
  dcheck (items.length = 0)
  let listModel ← state.listModel.removeSectionWithIdentifier sectionIdentifier
  let emitted := [.didRemoveSectionAtIndex sectionIndex]
  match dateOfIdentifier? keyEnumerator state.sectionIdentifiers sectionIdentifier with
  | none => return ({ state with listModel }, emitted)
  | some date =>
    return ({ state with
      listModel
      sectionIdentifiers := state.sectionIdentifiers.write (date, none)
      dates := state.dates.erase date }, emitted)

/-! ## Runs -/

inductive Input (URL : Type) where
  | insertHistoryEntryItem (item : HistoryEntryItem URL)
  | sectionIdentifierForTimestamp (timestamp : Int)
  | removeSection (sectionIndex : Nat) (keyEnumerator : List Int)
  | removeItemWithType (itemType sectionIdentifier : Int) (index : Nat)

def step : Input URL → Checked (HistoryEntryInserter URL × List HistoryEntryInserterDelegate)
  | .insertHistoryEntryItem item => insertHistoryEntryItem localMidnight item state
  | .sectionIdentifierForTimestamp timestamp =>
    (sectionIdentifierForTimestamp localMidnight timestamp state).map Prod.snd
  | .removeSection sectionIndex keyEnumerator => removeSection sectionIndex keyEnumerator state
  | .removeItemWithType itemType sectionIdentifier index => do
    let listModel ← state.listModel.removeItemWithType HistoryEntryItem.type itemType
      sectionIdentifier index
    return ({ state with listModel }, [])

/-- Sections that were there before the inserter stay; a dictionary enumerates its keys. -/
def accepts : Input URL → Prop
  | .removeSection sectionIndex keyEnumerator =>
    state.firstSectionIndex ≤ sectionIndex ∧
      ∀ date, date ∈ keyEnumerator ↔ (state.sectionIdentifiers date).isSome
  | _ => True

def historySections : List (ListModel.ItemSection (HistoryEntryItem URL)) :=
  state.listModel.sections.drop state.firstSectionIndex

def entries : List (HistoryEntryItem URL) :=
  state.historySections.flatMap ListModel.ItemSection.items

end HistoryEntryInserter

end ChromiumIos
