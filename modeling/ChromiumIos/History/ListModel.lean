import ChromiumIos.Lib.Checked
import ChromiumIos.Lib.IndexedList
import ChromiumIos.Lib.SortedSearch

/-!
# Sections of items

A list model keeps its sections in the order in which they are shown.  A section is addressed by
an identifier that does not change while other sections come and go; an item is addressed by its
type and by its index among the items of this type.
-/

namespace ChromiumIos

open Lib

def kSectionIdentifierEnumZero : Int := 10
def kItemTypeEnumZero : Int := 100

namespace ListModel

variable {α : Type}

structure ItemSection (α : Type) where
  identifier : Int
  items : List α
deriving DecidableEq, Repr

end ListModel

open ListModel (ItemSection)

/-- No two sections have the same identifier. -/
structure ListModel (α : Type) where
  sections : List (ItemSection α)
  distinct : (sections.map ItemSection.identifier).Nodup

namespace ListModel

variable {α : Type} (typeOf : α → Int) (model : ListModel α) {after : ListModel α}
variable {identifier itemType : Int} {index sectionIndex : Nat} {item : α} {items : List α}
variable {before rest : List (ItemSection α)} {here : ItemSection α}

def internalSectionForIdentifier (identifier : Int) : Option Nat :=
  model.sections.findIdx? fun candidate => candidate.identifier = identifier

def sectionForSectionIdentifier (identifier : Int) : Checked Nat :=
  model.internalSectionForIdentifier identifier

def sectionIdentifierForSection (index : Nat) : Checked Int :=
  model.sections[index]?.map ItemSection.identifier

def itemsInSectionWithIdentifier (identifier : Int) : Checked (List α) := do
  let index ← model.sectionForSectionIdentifier identifier
  model.sections[index]?.map ItemSection.items

def numberOfSections : Nat := model.sections.length

theorem identifier_notMem (absent : model.internalSectionForIdentifier identifier = none) :
    identifier ∉ model.sections.map ItemSection.identifier := by
  intro mem
  obtain ⟨candidate, candidateMem, same⟩ := List.mem_map.mp mem
  have differs := List.findIdx?_eq_none_iff.mp absent candidate candidateMem
  exact absurd same (of_decide_eq_false differs)

theorem identifiers_modify (sections : List (ItemSection α)) (index : Nat) (items : List α) :
    (sections.modify index fun changed => { changed with items := items }).map
      ItemSection.identifier = sections.map ItemSection.identifier := by
  induction sections generalizing index with
  | nil => cases index <;> rfl
  | cons _ _ _ =>
    grind

def withItems (index : Nat) (items : List α) : ListModel α where
  sections := model.sections.modify index fun changed => { changed with items := items }
  distinct := by
    rw [identifiers_modify]
    exact model.distinct

def insertSectionWithIdentifier (identifier : Int) (index : Nat) : Checked (ListModel α) :=
  if asserted : kSectionIdentifierEnumZero ≤ identifier ∧
      model.internalSectionForIdentifier identifier = none ∧ index ≤ model.sections.length then
    some {
      sections := model.sections.insertIdx index ⟨identifier, []⟩
      distinct := by
        grind [List.perm_insertIdx, model.identifier_notMem, model.distinct] }
  else none

def insertItem (item : α) (identifier : Int) (index : Nat) : Checked (ListModel α) := do
  dcheck (kItemTypeEnumZero ≤ typeOf item)
  let sectionIndex ← model.sectionForSectionIdentifier identifier
  let items ← model.itemsInSectionWithIdentifier identifier
  dcheck (index ≤ items.length)
  return model.withItems sectionIndex (items.insertIdx index item)

def itemForItemType (itemType : Int) : List α → Nat → Option Nat
  | [], _ => none
  | item :: rest, index =>
    if typeOf item = itemType then
      match index with
      | 0 => some 0
      | index + 1 => (itemForItemType itemType rest index).map (· + 1)
    else (itemForItemType itemType rest index).map (· + 1)

def removeItemWithType (itemType identifier : Int) (index : Nat) : Checked (ListModel α) := do
  let sectionIndex ← model.sectionForSectionIdentifier identifier
  let items ← model.itemsInSectionWithIdentifier identifier
  let item ← itemForItemType typeOf itemType items index
  return model.withItems sectionIndex (items.eraseIdx item)

def removeSectionWithIdentifier (identifier : Int) : Checked (ListModel α) := do
  let sectionIndex ← model.sectionForSectionIdentifier identifier
  return {
    sections := model.sections.eraseIdx sectionIndex
    distinct := model.distinct.sublist ((model.sections.eraseIdx_sublist sectionIndex).map _) }

/-! ## A section among the others -/

variable (split : model.sections = before ++ here :: rest)
include split

theorem sectionForSectionIdentifier_split :
    model.sectionForSectionIdentifier here.identifier = some before.length := by
  apply findIdx?_key ItemSection.identifier model.distinct
  simp [split]

theorem itemsInSectionWithIdentifier_split :
    model.itemsInSectionWithIdentifier here.identifier = some here.items := by
  simp [itemsInSectionWithIdentifier, model.sectionForSectionIdentifier_split split, split]

theorem withItems_split :
    (model.withItems before.length items).sections =
      before ++ { here with items := items } :: rest := by
  simp [withItems, split, modify_append]

omit split

/-- A section with an identifier parts the others. -/
theorem exists_split (found : model.sectionForSectionIdentifier identifier = some sectionIndex) :
    ∃ before here rest, model.sections = before ++ here :: rest ∧ here.identifier = identifier ∧
      before.length = sectionIndex := by
  obtain ⟨inside, same, -⟩ := List.findIdx?_eq_some_iff_getElem.mp found
  refine ⟨model.sections.take sectionIndex, model.sections[sectionIndex],
    model.sections.drop (sectionIndex + 1), ?_, of_decide_eq_true same,
    List.length_take_of_le (Nat.le_of_lt inside)⟩
  simp

include split

theorem insertItem_split (typed : kItemTypeEnumZero ≤ typeOf item)
    (inside : index ≤ here.items.length) :
    model.insertItem typeOf item here.identifier index =
      some (model.withItems before.length (here.items.insertIdx index item)) := by
  simp [insertItem, model.sectionForSectionIdentifier_split split,
    model.itemsInSectionWithIdentifier_split split, typed, inside]

omit split

theorem typed_of_insertItem
    (inserted : model.insertItem typeOf item identifier index = some after) :
    kItemTypeEnumZero ≤ typeOf item :=
  (dcheck_then inserted).1

theorem of_removeItemWithType
    (removed : model.removeItemWithType typeOf itemType identifier index = some after) :
    ∃ before here rest position, model.sections = before ++ here :: rest ∧
      after = model.withItems before.length (here.items.eraseIdx position) := by
  obtain ⟨sectionIndex, found, removed⟩ := bind_eq_some removed
  obtain ⟨before, here, rest, split, rfl, rfl⟩ := model.exists_split found
  obtain ⟨items, taken, removed⟩ := bind_eq_some removed
  obtain ⟨position, -, removed⟩ := bind_eq_some removed
  grind [model.itemsInSectionWithIdentifier_split]

theorem of_removeSectionWithIdentifier
    (removed : model.removeSectionWithIdentifier here.identifier = some after)
    (split : model.sections = before ++ here :: rest) : after.sections = before ++ rest := by
  obtain ⟨sectionIndex, found, removed⟩ := bind_eq_some removed
  rw [model.sectionForSectionIdentifier_split split] at found
  cases found
  grind

theorem le_of_insertSectionWithIdentifier
    (inserted : model.insertSectionWithIdentifier identifier index = some after) :
    index ≤ model.sections.length := by
  unfold insertSectionWithIdentifier at inserted
  split at inserted
  · next asserted => exact asserted.2.2
  · cases inserted

theorem of_insertSectionWithIdentifier
    (inserted : model.insertSectionWithIdentifier identifier before.length = some after)
    (split : model.sections = before ++ rest) :
    after.sections = before ++ ⟨identifier, []⟩ :: rest := by
  unfold insertSectionWithIdentifier at inserted
  grind [insertIdx_length_append]

/-! ## Identifiers -/

def identifiers : List Int := model.sections.map ItemSection.identifier

theorem identifiers_withItems : (model.withItems sectionIndex items).identifiers =
    model.identifiers :=
  identifiers_modify _ _ _

theorem identifiers_insertItem
    (inserted : model.insertItem typeOf item identifier index = some after) :
    after.identifiers = model.identifiers := by
  obtain ⟨-, inserted⟩ := dcheck_then inserted
  obtain ⟨sectionIndex, -, inserted⟩ := bind_eq_some inserted
  obtain ⟨items, -, inserted⟩ := bind_eq_some inserted
  grind [dcheck_then, identifiers_withItems]

theorem identifiers_removeItemWithType
    (removed : model.removeItemWithType typeOf itemType identifier index = some after) :
    after.identifiers = model.identifiers := by
  obtain ⟨_, _, _, _, -, rfl⟩ := model.of_removeItemWithType typeOf removed
  apply identifiers_withItems

theorem identifiers_removeSectionWithIdentifier
    (removed : model.removeSectionWithIdentifier identifier = some after) :
    after.identifiers ⊆ model.identifiers := by
  obtain ⟨sectionIndex, -, removed⟩ := bind_eq_some removed
  cases removed
  exact ((model.sections.eraseIdx_sublist sectionIndex).map _).subset

theorem identifiers_insertSectionWithIdentifier
    (inserted : model.insertSectionWithIdentifier identifier index = some after) :
    after.identifiers ⊆ identifier :: model.identifiers := by
  grind [identifiers, insertSectionWithIdentifier, List.perm_insertIdx]

/-- A new identifier may be given to a section at any place. -/
theorem exists_insertSectionWithIdentifier (positive : kSectionIdentifierEnumZero ≤ identifier)
    (isNew : identifier ∉ model.identifiers) (inside : index ≤ model.sections.length) :
    ∃ after, model.insertSectionWithIdentifier identifier index = some after :=
  ⟨_, dif_pos ⟨positive, findIdx?_key_eq_none ItemSection.identifier isNew, inside⟩⟩

end ListModel

end ChromiumIos
