import ChromiumIos.Lib.OrderedSet

/-!
# Differences of sorted ranges

The difference of two ranges that are sorted by one comparator is taken in a single pass over
both.  An element of the first range is left out when the second one has an equivalent
element, that is, when neither of the two is less.
-/

namespace ChromiumIos.Lib

variable {α κ : Type} [LinearOrder κ] {key : α → κ}

/-- What is left of the first range. -/
def sortedDifference (less : α → α → Bool) : List α → List α → List α
  | [], _ => []
  | first :: rest, [] => first :: rest
  | first :: rest, second :: others =>
    if less first second then first :: sortedDifference less rest (second :: others)
    else if less second first then sortedDifference less (first :: rest) others
    else sortedDifference less rest others
  termination_by first second => first.length + second.length

def OrdersBy (less : α → α → Bool) (key : α → κ) : Prop :=
  ∀ first second, less first second = true ↔ key first < key second

def lacksKey (key : α → κ) (elements : List α) (element : α) : Bool :=
  elements.all fun other => key other ≠ key element

variable {first : α}

theorem lacksKey_cons_of_ne {elements : List α} {element : α} (differs : key first ≠ key element) :
    lacksKey key (first :: elements) element = lacksKey key elements element := by
  simp [lacksKey, differs]

/-- The difference of ranges sorted by a key leaves the elements whose key is not in the second
one. -/
theorem sortedDifference_eq_filter {less : α → α → Bool} (orders : OrdersBy less key)
    {firsts seconds : List α}
    (sortedFirsts : firsts.Pairwise fun first second => key first < key second)
    (sortedSeconds : seconds.Pairwise fun first second => key first < key second) :
    sortedDifference less firsts seconds = firsts.filter (lacksKey key seconds) := by
  fun_induction sortedDifference less firsts seconds with
  | case1 _ => rfl
  | case2 _ _ =>
    exact (List.filter_eq_self.mpr fun element _ => List.all_nil).symm
  | case3 first _ second _ before _ =>
    have below := (orders first second).mp before
    obtain ⟨above, -⟩ := List.pairwise_cons.mp sortedSeconds
    grind [sortedDifference, lacksKey]
  | case4 first _ second _ _ behind _ =>
    have below := (orders second first).mp behind
    obtain ⟨aboveFirst, -⟩ := List.pairwise_cons.mp sortedFirsts
    obtain ⟨-, sortedOthers⟩ := List.pairwise_cons.mp sortedSeconds
    grind [lacksKey, List.filter_congr]
  | case5 first _ second others notBefore notBehind ih =>
    have same : key second = key first :=
      le_antisymm (not_lt.mp fun below => notBefore ((orders first second).mpr below))
        (not_lt.mp fun below => notBehind ((orders second first).mpr below))
    obtain ⟨aboveFirst, sortedRest⟩ := List.pairwise_cons.mp sortedFirsts
    obtain ⟨-, sortedOthers⟩ := List.pairwise_cons.mp sortedSeconds
    have dropped : ¬ lacksKey key (second :: others) first = true := by simp [lacksKey, same]
    rw [List.filter_cons_of_neg dropped, ih sortedRest sortedOthers]
    refine List.filter_congr fun element mem => (lacksKey_cons_of_ne ?_).symm
    grind

namespace OrderedSet

variable {set : OrderedSet key} {elements : List α} {element other : α}

/-! ## Sets made of lists -/

theorem insertInto_of_last (last : ∀ other ∈ elements, key other < key element) :
    insertInto key element elements = elements ++ [element] := by
  induction elements with
  | nil => rfl
  | cons _ _ _ =>
    unfold insertInto
    grind

/-- Elements that are sorted by their keys all get into a set, in their order. -/
theorem elements_ofList_of_sorted
    (sorted : elements.Pairwise fun first second => key first < key second) :
    (ofList elements : OrderedSet key).elements = elements := by
  have fold : ∀ (set : OrderedSet key), (∀ other ∈ set.elements, ∀ element ∈ elements,
      key other < key element) →
      (elements.foldl (fun set element => set.insert element) set).elements =
        set.elements ++ elements := by
    induction elements with
    | nil => simp
    | cons first _ _ =>
      intro set below
      have inserted : (set.insert first).elements = set.elements ++ [first] :=
        by grind [insert, insertInto_of_last]
      grind
  exact fold empty fun other mem => absurd mem (notMem_empty other)

/-- An element whose key is there is not inserted. -/
theorem insertInto_of_key (sorted : elements.Pairwise fun first second => key first < key second)
    (mem : other ∈ elements) (same : key other = key element) :
    insertInto key element elements = elements := by
  induction elements with
  | nil => cases mem
  | cons _ _ _ =>
    obtain ⟨above, sortedRest⟩ := List.pairwise_cons.mp sorted
    unfold insertInto
    grind

/-- A set keeps its elements, and takes one more only if its key is new. -/
theorem mem_insert_iff :
    other ∈ set.insert element ↔
      other ∈ set ∨ other = element ∧ ∀ held ∈ set, key held ≠ key element := by
  by_cases isNew : ∀ held ∈ set, key held ≠ key element
  · rw [mem_insert isNew, and_iff_left isNew, or_comm]
  · have same : (set.insert element).elements = set.elements := by
      have present : ∃ held ∈ set.elements, key held = key element := by
        by_contra none
        exact isNew fun held mem same => none ⟨held, mem, same⟩
      obtain ⟨_, mem, same⟩ := present
      exact insertInto_of_key set.sorted mem same
    constructor
    · intro mem
      change other ∈ (set.insert element).elements at mem
      rw [same] at mem
      exact .inl mem
    · rintro (mem | ⟨-, all⟩)
      · exact mem_insertInto_of_mem mem
      · exact absurd all isNew

def IsFirst (key : α → κ) (elements : List α) (element : α) : Prop :=
  ∃ before after, elements = before ++ element :: after ∧
    ∀ other ∈ before, key other ≠ key element

omit [LinearOrder κ] in
omit [LinearOrder κ] in
theorem isFirst_cons :
    IsFirst key (first :: elements) element ↔
      element = first ∨ key first ≠ key element ∧ IsFirst key elements element := by
  constructor
  · rintro ⟨before, after, split, differ⟩
    cases before <;> grind [IsFirst]
  · rintro (rfl | ⟨differs, before, after, rfl, differ⟩)
    · exact ⟨[], elements, rfl, nofun⟩
    · grind [IsFirst]

theorem forall_insert_iff :
    (∀ held ∈ set.insert first, key held ≠ key element) ↔
      (∀ held ∈ set, key held ≠ key element) ∧ key first ≠ key element := by
  constructor
  · intro all
    refine ⟨fun held mem => all held (mem_insert_iff.mpr (.inl mem)), fun same => ?_⟩
    refine all first (mem_insert_iff.mpr (.inr ⟨rfl, fun held mem => ?_⟩)) same
    rw [same]
    exact all held (mem_insert_iff.mpr (.inl mem))
  · rintro ⟨all, differs⟩ held mem
    rcases mem_insert_iff.mp mem with old | ⟨rfl, -⟩ <;> grind

/-- A set made of a list keeps the first element of each key. -/
theorem mem_ofList_iff :
    element ∈ (ofList elements : OrderedSet key) ↔ IsFirst key elements element := by
  have fold : ∀ (set : OrderedSet key),
      element ∈ elements.foldl (fun set element => set.insert element) set ↔
        element ∈ set ∨ (∀ held ∈ set, key held ≠ key element) ∧
          IsFirst key elements element := by
    induction elements with
    | nil => simp [IsFirst]
    | cons _ _ ih =>
      intro set
      rw [List.foldl_cons, ih, mem_insert_iff, forall_insert_iff, isFirst_cons]
      grind
  simp [ofList, fold empty]

end OrderedSet

end ChromiumIos.Lib
