import Mathlib

/-!
# Binary search in a sorted list

A comparator orders objects by a key.  In a list that is strictly sorted by the key the search
ends at the index that parts the elements before an object from the others.  An element that
compares equal is at this index if there is one, and inserting the object there keeps the order.
-/

namespace ChromiumIos.Lib

variable {α κ : Type}

/-- The first index between `low` and `high` whose element does not come before the object. -/
def searchBetween (comparator : α → α → Ordering) (list : List α) (object : α) (low high : Nat) :
    Nat :=
  if low < high then
    let middle := (low + high) / 2
    match list[middle]? with
    | some element =>
      if comparator element object = .lt then
        searchBetween comparator list object (middle + 1) high
      else searchBetween comparator list object low middle
    | none => low
  else low
termination_by high - low

def insertionIndex (comparator : α → α → Ordering) (list : List α) (object : α) : Nat :=
  searchBetween comparator list object 0 list.length

def indexOfEqual? (comparator : α → α → Ordering) (list : List α) (object : α) : Option Nat :=
  let index := insertionIndex comparator list object
  match list[index]? with
  | some element => if comparator element object = .eq then some index else none
  | none => none

theorem insertIdx_length_append (before after : List α) (object : α) :
    (before ++ after).insertIdx before.length object = before ++ object :: after := by
  induction before with
  | nil => simp
  | cons _ _ ih => simpa using ih

theorem key_lt_of_lt [LT κ] {key : α → κ} {list : List α}
    (sorted : list.Pairwise fun first second => key first < key second) {left right : Nat}
    {first second : α} (at_left : list[left]? = some first) (at_right : list[right]? = some second)
    (less : left < right) : key first < key second := by
  obtain ⟨leftInside, rfl⟩ := List.getElem?_eq_some_iff.mp at_left
  obtain ⟨rightInside, rfl⟩ := List.getElem?_eq_some_iff.mp at_right
  exact List.pairwise_iff_getElem.mp sorted left right leftInside rightInside less

section Sorted

variable [LinearOrder κ] {comparator : α → α → Ordering} {key : α → κ} {list : List α}
variable {object : α} {low high : Nat}
variable (agrees : ∀ first second, comparator first second = compare (key first) (key second))
variable (sorted : list.Pairwise fun first second => key first < key second)

def PartsAt (key : α → κ) (list : List α) (object : α) (index : Nat) : Prop :=
  index ≤ list.length ∧
    ∀ position element, list[position]? = some element →
      (key element < key object ↔ position < index)

include agrees sorted

/-- The search keeps to a range whose ends are on the two sides of the index. -/
theorem partsAt_searchBetween (ordered : low ≤ high) (inside : high ≤ list.length)
    (below : ∀ position element, list[position]? = some element → position < low →
      key element < key object)
    (above : ∀ position element, list[position]? = some element → high ≤ position →
      ¬key element < key object) :
    PartsAt key list object (searchBetween comparator list object low high) := by
  fun_induction searchBetween comparator list object low high with
  | case1 _ _ _ _ _ found ascending ih =>
    apply ih (by omega) inside _ above
    intro position other at_position less_middle
    rw [agrees, compare_lt_iff_lt] at ascending
    rcases Nat.lt_or_eq_of_le (Nat.le_of_lt_succ less_middle) with earlier | same
    · exact (key_lt_of_lt sorted at_position found earlier).trans ascending
    · grind
  | case2 _ _ _ _ _ found notAscending ih =>
    apply ih (by omega) (by omega) below
    intro position other at_position middle_le
    rw [agrees, compare_lt_iff_lt, not_lt] at notAscending
    rw [not_lt]
    rcases Nat.lt_or_eq_of_le middle_le with later | same
    · exact notAscending.trans (key_lt_of_lt sorted found at_position later).le
    · grind
  | case3 _ _ _ _ _ =>
    grind
  | case4 _ _ _ =>
    grind [PartsAt]

theorem partsAt_insertionIndex :
    PartsAt key list object (insertionIndex comparator list object) := by
  apply partsAt_searchBetween agrees sorted (Nat.zero_le _) le_rfl
  · omega
  · grind

/-- The index parts the list into what comes before the object and what does not. -/
theorem exists_parts (object : α) : ∃ before after, list = before ++ after ∧
    insertionIndex comparator list object = before.length ∧
    (∀ element ∈ before, key element < key object) ∧
    ∀ element ∈ after, key object ≤ key element := by
  obtain ⟨inside, parts⟩ : PartsAt key list object (insertionIndex comparator list object) :=
    partsAt_insertionIndex agrees sorted
  generalize insertionIndex comparator list object = index at inside parts
  refine ⟨list.take index, list.drop index, (List.take_append_drop _ _).symm,
    (List.length_take_of_le inside).symm, fun element mem => ?_, fun element mem => ?_⟩
  · grind [List.getElem?_of_mem]
  · grind [List.getElem?_of_mem]

theorem indexOfEqual?_isSome : (indexOfEqual? comparator list object).isSome ↔
    ∃ element ∈ list, key element = key object := by
  obtain ⟨before, after, rfl, index, less, notLess⟩ := exists_parts agrees sorted object
  unfold indexOfEqual?
  dsimp only
  rw [index, List.getElem?_append_right le_rfl, Nat.sub_self]
  have absent : ∀ element ∈ before, key element ≠ key object :=
    fun element mem => (less element mem).ne
  cases after with
  | nil =>
    simpa using absent
  | cons _ _ =>
    rw [List.getElem?_cons_zero]
    dsimp only
    rw [agrees]
    grind [List.rel_of_pairwise_cons]

/-- An object that no element equals may be inserted. -/
theorem sorted_insertIdx (isNew : ∀ element ∈ list, key element ≠ key object) :
    (list.insertIdx (insertionIndex comparator list object) object).Pairwise
      fun first second => key first < key second := by
  obtain ⟨before, after, rfl, index, less, notLess⟩ := exists_parts agrees sorted object
  rw [index, insertIdx_length_append]
  obtain ⟨left, right, across⟩ := List.pairwise_append.mp sorted
  refine List.pairwise_append.mpr ⟨left, List.pairwise_cons.mpr ⟨?_, right⟩, ?_⟩
  · grind
  · grind

end Sorted

end ChromiumIos.Lib
