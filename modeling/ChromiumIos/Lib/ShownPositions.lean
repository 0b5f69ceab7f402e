import Mathlib

/-!
# Positions among the elements that are shown

A list may hold elements that are not shown.  A position among the shown elements is
then another one in the list: the shown element with this number stands there, and an
element that is inserted there is shown under this number.
-/

namespace ChromiumIos.Lib

variable {α : Type*} (shown : α → Bool)

/-- Where the shown element with a number stands, or the end of the list. -/
def shownPosition : List α → Nat → Nat
  | [], _ => 0
  | element :: rest, number =>
    if shown element then
      match number with
      | 0 => 0
      | number + 1 => shownPosition rest number + 1
    else shownPosition rest number + 1

variable {element : α} {list : List α} {number position : Nat}

theorem shownPosition_zero (isShown : shown element = true) (rest : List α) :
    shownPosition shown (element :: rest) 0 = 0 := by
  exact if_pos isShown

theorem shownPosition_succ (isShown : shown element = true) (rest : List α) (number : Nat) :
    shownPosition shown (element :: rest) (number + 1) = shownPosition shown rest number + 1 := by
  exact if_pos isShown

theorem shownPosition_hidden (isHidden : ¬ shown element = true) (rest : List α) (number : Nat) :
    shownPosition shown (element :: rest) number = shownPosition shown rest number + 1 := by
  exact if_neg isHidden

theorem shownPosition_le (list : List α) (number : Nat) :
    shownPosition shown list number ≤ list.length := by
  induction list generalizing number with
  | nil => exact Nat.le_refl _
  | cons element _ ih =>
    by_cases isShown : shown element = true
    · cases number <;> simp [shownPosition, isShown, ih]
    · simp [shownPosition, isShown, ih]

theorem getElem?_shownPosition (inside : number < (list.filter shown).length) :
    list[shownPosition shown list number]? = (list.filter shown)[number]? := by
  induction list generalizing number with
  | nil => cases inside
  | cons element _ _ =>
    by_cases isShown : shown element = true
    · rw [List.filter_cons_of_pos isShown] at inside ⊢
      cases number <;> grind [shownPosition_zero, shownPosition_succ]
    · grind [shownPosition_hidden]

def shownBefore (list : List α) (position : Nat) : Nat := (list.take position).countP shown

theorem shownBefore_shownPosition (inside : number ≤ (list.filter shown).length) :
    shownBefore shown list (shownPosition shown list number) = number := by
  induction list generalizing number with
  | nil => exact (Nat.le_zero.mp inside).symm
  | cons element _ _ =>
    by_cases isShown : shown element = true
    · rw [List.filter_cons_of_pos isShown] at inside
      cases number <;> grind [shownBefore, shownPosition, List.countP_cons_of_pos isShown]
    · grind [shownBefore, shownPosition_hidden]

/-- The position of the shown element that stands at a position. -/
theorem shownPosition_shownBefore (found : list[position]? = some element)
    (isShown : shown element = true) :
    shownPosition shown list (shownBefore shown list position) = position ∧
      shownBefore shown list position < (list.filter shown).length := by
  induction list generalizing position with
  | nil => cases found
  | cons first _ ih =>
    cases position with
    | zero =>
      cases found
      simp [shownPosition, shownBefore, isShown]
    | succ _ =>
      obtain ⟨same, inside⟩ := ih found
      rw [shownBefore] at same inside ⊢
      by_cases firstShown : shown first = true
      · simp [shownPosition, firstShown, same, inside]
      · simp [shownPosition, firstShown, same, inside]

/-- An element is shown behind the shown elements before the position it is inserted at. -/
theorem filter_insertIdx (isShown : shown element = true) (inside : position ≤ list.length) :
    (list.insertIdx position element).filter shown =
      (list.filter shown).insertIdx (shownBefore shown list position) element := by
  induction list generalizing position with
  | nil =>
    grind [shownBefore]
  | cons _ _ _ =>
    cases position <;> grind [shownBefore, List.countP_cons_of_pos]

/-- Changing a shown element changes the one with its number, and nothing is hidden by it. -/
theorem filter_modify {change : α → α} (same : ∀ element, shown (change element) = shown element)
    (inside : number < (list.filter shown).length) :
    (list.modify (shownPosition shown list number) change).filter shown =
      (list.filter shown).modify number change := by
  induction list generalizing number with
  | nil => cases inside
  | cons element _ _ =>
    by_cases isShown : shown element = true
    · cases number with
      | zero =>
        simp [shownPosition, isShown, same]
      | succ _ =>
        grind [shownPosition_succ]
    · grind [shownPosition_hidden]

/-- All elements before a position are shown exactly if it is the number of those that are. -/
theorem shownBefore_eq_iff (inside : position ≤ list.length) :
    shownBefore shown list position = position ↔ ∀ element ∈ list.take position, shown element := by
  have length : (list.take position).length = position := List.length_take_of_le inside
  constructor
  · intro all
    exact List.countP_eq_length.mp (all.trans length.symm)
  · intro all
    exact (List.countP_eq_length.mpr all).trans length

/-- Where keys are distinct, the elements with other keys than the one at a position are all
others. -/
theorem filter_key_ne {β : Type*} [DecidableEq β] (key : α → β) {value : α}
    (distinct : (list.map key).Nodup) (found : list[position]? = some value) :
    (list.filter fun element => key element ≠ key value) = list.eraseIdx position := by
  induction list generalizing position with
  | nil => cases found
  | cons _ _ _ =>
    obtain ⟨absent, distinct⟩ := List.nodup_cons.mp distinct
    cases position with
    | zero =>
      cases found
      simpa using absent
    | succ _ =>
      grind

/-- A new element is inserted at one place only. -/
theorem insertIdx_inj {first second : Nat} (new : element ∉ list)
    (insideFirst : first ≤ list.length) (insideSecond : second ≤ list.length)
    (same : list.insertIdx first element = list.insertIdx second element) : first = second := by
  induction list generalizing first second with
  | nil => grind
  | cons head _ _ =>
    have different : element ≠ head := fun same => new (same ▸ List.mem_cons_self)
    cases first with
    | zero | succ first =>
      cases second <;> grind

end ChromiumIos.Lib
