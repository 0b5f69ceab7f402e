import Mathlib

/-!
# Ordered sets

A set whose elements are kept in the order of a key, at most one for each key.
Inserting an element whose key is there already changes nothing.  An iterator is
the list of the elements from one element on.
-/

namespace ChromiumIos.Lib

structure OrderedSet {α κ : Type} [LinearOrder κ] (key : α → κ) where
  elements : List α
  sorted : elements.Pairwise fun first second => key first < key second

namespace OrderedSet

variable {α κ : Type} [LinearOrder κ] {key : α → κ} {set : OrderedSet key}
variable {element other first second : α}

instance : Membership α (OrderedSet key) := ⟨fun set element => element ∈ set.elements⟩

instance [DecidableEq α] (element : α) (set : OrderedSet key) : Decidable (element ∈ set) :=
  inferInstanceAs (Decidable (element ∈ set.elements))

def empty : OrderedSet key := ⟨[], .nil⟩

@[simp]
theorem notMem_empty (element : α) : element ∉ (empty : OrderedSet key) := List.not_mem_nil

/-! ## Insertion -/

def insertInto (key : α → κ) (element : α) : List α → List α
  | [] => [element]
  | first :: rest =>
    if key element < key first then element :: first :: rest
    else if key first < key element then first :: insertInto key element rest
    else first :: rest

variable {elements : List α} {value : κ}

theorem mem_insertInto (mem : other ∈ insertInto key element elements) :
    other = element ∨ other ∈ elements := by
  induction elements with
  | nil => exact .inl (List.mem_singleton.mp mem)
  | cons _ _ _ =>
    grind [insertInto]

theorem mem_insertInto_of_mem (mem : other ∈ elements) :
    other ∈ insertInto key element elements := by
  induction elements with
  | nil => cases mem
  | cons _ _ _ =>
    grind [insertInto]

theorem sorted_insertInto (sorted : elements.Pairwise fun first second => key first < key second) :
    (insertInto key element elements).Pairwise fun first second => key first < key second := by
  induction elements with
  | nil => exact List.pairwise_singleton _ _
  | cons _ _ ih =>
    obtain ⟨above, sortedRest⟩ := List.pairwise_cons.mp sorted
    unfold insertInto
    split
    case isTrue below =>
      grind
    case isFalse =>
      split
      case isTrue beyond =>
        refine List.pairwise_cons.mpr ⟨fun other mem => ?_, ih sortedRest⟩
        grind [mem_insertInto]
      case isFalse => exact sorted

/-- An element with a new key gets in. -/
theorem mem_insertInto_self (isNew : ∀ other ∈ elements, key other ≠ key element) :
    element ∈ insertInto key element elements := by
  induction elements with
  | nil => exact List.mem_singleton_self _
  | cons _ _ _ =>
    unfold insertInto
    grind

def insert (element : α) (set : OrderedSet key) : OrderedSet key :=
  ⟨insertInto key element set.elements, sorted_insertInto set.sorted⟩

theorem mem_insert (isNew : ∀ other ∈ set, key other ≠ key element) :
    other ∈ set.insert element ↔ other = element ∨ other ∈ set := by
  refine ⟨mem_insertInto, fun mem => ?_⟩
  rcases mem with rfl | mem
  · exact mem_insertInto_self isNew
  · exact mem_insertInto_of_mem mem

def ofList (elements : List α) : OrderedSet key :=
  elements.foldl (fun set element => set.insert element) empty

/-- A set made of a list of elements with keys of their own has just these elements. -/
theorem mem_ofList (distinct : elements.Pairwise fun first second => key first ≠ key second) :
    element ∈ (ofList elements : OrderedSet key) ↔ element ∈ elements := by
  have fold : ∀ (set : OrderedSet key),
      (∀ other ∈ set, ∀ element ∈ elements, key other ≠ key element) →
      (element ∈ elements.foldl (fun set element => set.insert element) set ↔
        element ∈ set ∨ element ∈ elements) := by
    induction elements with
    | nil => intro set _; simp
    | cons first _ _ =>
      intro set isNew
      obtain ⟨differs, distinct⟩ := List.pairwise_cons.mp distinct
      have inserted : ∀ other, other ∈ set.insert first ↔ other = first ∨ other ∈ set :=
        by grind [mem_insert]
      grind
  grind [ofList, notMem_empty]

/-! ## Removal and search -/

def erase (value : κ) (set : OrderedSet key) : OrderedSet key :=
  ⟨set.elements.filter fun element => key element ≠ value, set.sorted.filter _⟩

@[simp]
theorem mem_erase : element ∈ set.erase value ↔ element ∈ set ∧ key element ≠ value := by
  refine List.mem_filter.trans ?_
  rw [decide_eq_true_eq]
  rfl

def find (value : κ) (set : OrderedSet key) : Option (List α) :=
  match set.elements.dropWhile fun element => key element < value with
  | [] => none
  | first :: rest => if key first = value then some (first :: rest) else none

/-- The elements that are not dropped are those that are not less. -/
theorem mem_dropWhile_lt (sorted : elements.Pairwise fun first second => key first < key second) :
    element ∈ elements.dropWhile (fun element => key element < value) ↔
      element ∈ elements ∧ value ≤ key element := by
  induction elements with
  | nil => simp
  | cons _ _ _ =>
    obtain ⟨above, sortedRest⟩ := List.pairwise_cons.mp sorted
    grind [List.dropWhile_cons]

/-- The iterator goes through the elements that are not less. -/
theorem find_eq_some {iterator : List α} (found : set.find value = some iterator) :
    ∃ first rest, iterator = first :: rest ∧ key first = value ∧
      iterator.Pairwise (fun first second => key first < key second) ∧
      ∀ element, element ∈ iterator ↔ element ∈ set ∧ value ≤ key element := by
  unfold find at found
  split at found
  · cases found
  case h_2 first rest drops =>
    split at found
    case isTrue same =>
      cases found
      refine ⟨first, rest, rfl, same, ?_, fun element => ?_⟩
      · rw [← drops]
        exact set.sorted.sublist (List.dropWhile_sublist _)
      · rw [← drops]
        exact mem_dropWhile_lt set.sorted
    case isFalse => cases found

theorem find_eq_none (missing : set.find value = none) (mem : element ∈ set) :
    key element ≠ value := by
  rintro rfl
  have kept : element ∈ set.elements.dropWhile fun other => key other < key element :=
    (mem_dropWhile_lt set.sorted).mpr ⟨mem, le_rfl⟩
  unfold find at missing
  split at missing
  case h_1 drops =>
    rw [drops] at kept
    cases kept
  case h_2 first rest drops =>
    split at missing
    · cases missing
    case isFalse differs =>
      have sorted : (first :: rest).Pairwise fun first second => key first < key second := by
        rw [← drops]
        exact set.sorted.sublist (List.dropWhile_sublist _)
      have bound : key element ≤ key first := by
        have memFirst : first ∈ set.elements.dropWhile fun other => key other < key element := by
          simp [drops]
        exact ((mem_dropWhile_lt set.sorted).mp memFirst).2
      rw [drops] at kept
      rcases List.mem_cons.mp kept with rfl | kept
      · exact differs rfl
      · exact absurd ((List.pairwise_cons.mp sorted).1 element kept) (not_lt.mpr bound)

end OrderedSet

end ChromiumIos.Lib
