import ChromiumIos.FindInPage.Resuming
import ChromiumIos.Lib.IndexedList

/-!
# The next and the previous visible match

Both functions walk round the matches until they meet a visible one.  `goNext` looks whether
it is back where it began before it takes a step, and knows the case that nothing was selected;
`goPrev` takes the step first, so that it never looks at the match it began with, and with
nothing selected it has no place to stop at.
-/

namespace ChromiumIos.FindInPage

open Lib

variable {layout : Layout} {state : State} {result : Landing × State}

/-! ## Calls that return -/

def seekNextWithin (layout : Layout) (oldIndex : Int) : Nat → State → Option (Landing × State)
  | 0, _ => none
  | turns + 1, state =>
    match getCurrentSelectedMatch state with
    | none => some (.thrown, state)
    | some selected =>
      if selected.visible layout state.document then some (findScrollDimensions state)
      else if oldIndex = state.selectedMatchIndex then some (.blank, state)
      else if (incrementIndex state).selectedMatchIndex = 0 ∧ oldIndex < 0 then
        some (.blank, incrementIndex state)
      else seekNextWithin layout oldIndex turns (incrementIndex state)

def goNextWithin (layout : Layout) (turns : Nat) (state : State) : Option (Landing × State) :=
  if state.matches = [] then some (.blank, state)
  else
    match clearSelection state with
    | .error failed => some (.thrown, failed)
    | .ok cleared =>
      seekNextWithin layout cleared.selectedMatchIndex turns (incrementIndex cleared)

def goPrevWithin (layout : Layout) (turns : Nat) (state : State) : Option (Landing × State) :=
  if state.matches = [] then some (.blank, state)
  else
    match clearSelection state with
    | .error failed => some (.thrown, failed)
    | .ok cleared => seekPrev layout cleared.selectedMatchIndex turns (decrementIndex cleared)

/-- The call comes to an end. -/
def GoNextReturns (layout : Layout) (state : State) (result : Landing × State) : Prop :=
  ∃ turns, goNextWithin layout turns state = some result

def GoPrevReturns (layout : Layout) (state : State) (result : Landing × State) : Prop :=
  ∃ turns, goPrevWithin layout turns state = some result

/-! ## What is to be selected -/

def Match.elementIds (candidate : Match) : List NodeId :=
  candidate.nodes.map fun found => found.element.id

/-- Matches that have elements, one of them selected or none, and no other one highlighted. -/
structure Selectable (state : State) : Prop where
  nonempty : state.matches ≠ []
  hasNodes : ∀ candidate ∈ state.matches, candidate.nodes ≠ []
  lower : -1 ≤ state.selectedMatchIndex
  upper : state.selectedMatchIndex < state.matches.length
  highlighted : ∀ id ∈ state.selectHighlighted,
    ∃ selected, at? state.matches state.selectedMatchIndex = some selected ∧
      id ∈ selected.elementIds

def VisibleAt (layout : Layout) (state : State) (index : Int) : Prop :=
  ∃ candidate, at? state.matches index = some candidate ∧
    candidate.visible layout state.document

def SomeVisible (layout : Layout) (state : State) : Prop :=
  ∃ index, VisibleAt layout state index

variable {place : Nat → Int} {turns : Nat} (steps : Nat)

def nextPlace (state : State) (steps : Nat) : Int :=
  (state.selectedMatchIndex + steps) % state.matches.length

/-- The places before the selected match, or before the first one if there is none. -/
def prevPlace (state : State) (steps : Nat) : Int :=
  (max state.selectedMatchIndex 0 - steps) % state.matches.length

/-- The first visible match along some places, none of which comes twice. -/
structure FirstVisible (layout : Layout) (state : State) (place : Nat → Int) (index : Int) :
    Prop where
  visible : VisibleAt layout state index
  first : ∃ steps, 1 ≤ steps ∧ steps ≤ state.matches.length ∧ place steps = index ∧
    ∀ earlier, 1 ≤ earlier → earlier < steps → ¬ VisibleAt layout state (place earlier)

/-- What a call selects: the first visible match along the places, which alone is highlighted
then, or nothing if no match is visible. -/
structure SelectsAlong (layout : Layout) (state : State) (place : Nat → Int)
    (result : Landing × State) : Prop where
  selects : SomeVisible layout state → ∃ index candidate, FirstVisible layout state place index ∧
    at? state.matches index = some candidate ∧
    result.1 = .scrolled candidate.visibleIndex ∧ result.2.selectedMatchIndex = index ∧
      ∀ id, id ∈ result.2.selectHighlighted ↔ id ∈ candidate.elementIds
  blank : ¬ SomeVisible layout state → result.1 = .blank ∧ result.2.selectHighlighted = []
  kept : SameButSelection state result.2

/-! ## Places on the cycle -/

def atIndex (state : State) (index : Int) : State :=
  { state with selectedMatchIndex := index }

theorem getCurrentSelectedMatch_atIndex (state : State) (index : Int) :
    getCurrentSelectedMatch (atIndex state index) = at? state.matches index := by
  unfold getCurrentSelectedMatch atIndex
  dsimp only
  split
  case isTrue negative => exact (at?_of_neg _ negative).symm
  case isFalse nonneg => exact (at?_of_nonneg _ (Int.not_lt.mp nonneg)).symm

/-- One comes back to a place after whole turns only. -/
theorem eq_add_emod_iff {place length change : Int} (inside : 0 ≤ place ∧ place < length) :
    place = (place + change) % length ↔ length ∣ change := by
  have own := Int.emod_eq_of_lt inside.1 inside.2
  constructor
  · intro same
    have whole := Int.emod_eq_emod_iff_emod_sub_eq_zero.mp (own.trans same).symm
    grind [Int.dvd_of_emod_eq_zero]
  · rintro ⟨turns, rfl⟩
    rw [Int.add_mul_emod_self_left, own]

theorem length_dvd_iff {steps length : Nat} (atLeast : 1 ≤ steps) (atMost : steps ≤ length) :
    (length : Int) ∣ steps ↔ steps = length := by
  grind [Int.natCast_dvd_natCast, Nat.le_antisymm, Nat.le_of_dvd, Nat.dvd_refl]

namespace Selectable

variable (selectable : Selectable state)

include selectable

theorem length_pos : 0 < state.matches.length :=
  List.length_pos_of_ne_nil selectable.nonempty

theorem emod_bounds (place : Int) :
    0 ≤ place % state.matches.length ∧ place % state.matches.length < state.matches.length := by
  have positive := selectable.length_pos
  exact ⟨Int.emod_nonneg _ (by omega), Int.emod_lt_of_pos _ (by omega)⟩

theorem nextPlace_bounds :
    0 ≤ nextPlace state steps ∧ nextPlace state steps < state.matches.length :=
  selectable.emod_bounds _

theorem prevPlace_bounds :
    0 ≤ prevPlace state steps ∧ prevPlace state steps < state.matches.length :=
  selectable.emod_bounds _

theorem incrementIndex_start :
    incrementIndex state = atIndex state (nextPlace state 1) := by
  have upper := selectable.upper
  have lower := selectable.lower
  unfold incrementIndex atIndex nextPlace
  congr 1
  split
  case isTrue last =>
    grind [Int.emod_self]
  case isFalse => exact (Int.emod_eq_of_lt (by omega) (by omega)).symm

theorem incrementIndex_place :
    incrementIndex (atIndex state (nextPlace state steps)) =
      atIndex state (nextPlace state (steps + 1)) := by
  have bounds := selectable.nextPlace_bounds steps
  have step : nextPlace state (steps + 1) =
      (nextPlace state steps + 1) % state.matches.length := by
    unfold nextPlace
    rw [Int.emod_add_emod]
    congr 1
    omega
  unfold incrementIndex
  rw [step]
  unfold atIndex
  dsimp only
  congr 1
  split
  case isTrue last =>
    grind [Int.emod_self]
  case isFalse => exact (Int.emod_eq_of_lt (by omega) (by omega)).symm

theorem decrementIndex_start :
    decrementIndex state = atIndex state (prevPlace state 1) := by
  have positive := selectable.length_pos
  have upper := selectable.upper
  unfold decrementIndex atIndex prevPlace
  congr 1
  split
  case isTrue first =>
    have same : max state.selectedMatchIndex 0 - (1 : Nat) =
        (state.matches.length - 1) - state.matches.length := by omega
    rw [same, Int.sub_emod_right, Int.emod_eq_of_lt (by omega) (by omega)]
  case isFalse later =>
    have same : max state.selectedMatchIndex 0 - (1 : Nat) = state.selectedMatchIndex - 1 := by
      omega
    rw [same, Int.emod_eq_of_lt (by omega) (by omega)]

theorem decrementIndex_place :
    decrementIndex (atIndex state (prevPlace state steps)) =
      atIndex state (prevPlace state (steps + 1)) := by
  have bounds := selectable.prevPlace_bounds steps
  have step : prevPlace state (steps + 1) =
      (prevPlace state steps - 1) % state.matches.length := by
    unfold prevPlace
    rw [Int.emod_sub_emod]
    congr 1
    omega
  unfold decrementIndex
  rw [step]
  unfold atIndex
  dsimp only
  congr 1
  split
  case isTrue first =>
    have same : prevPlace state steps - 1 =
        (state.matches.length - 1) - state.matches.length := by omega
    rw [same, Int.sub_emod_right, Int.emod_eq_of_lt (by omega) (by omega)]
  case isFalse => exact (Int.emod_eq_of_lt (by omega) (by omega)).symm

variable {steps : Nat}

/-- Behind the selected match the places come back to it after a whole turn only. -/
theorem nextPlace_eq_selected_iff (selected : 0 ≤ state.selectedMatchIndex) (atLeast : 1 ≤ steps)
    (atMost : steps ≤ state.matches.length) :
    state.selectedMatchIndex = nextPlace state steps ↔ steps = state.matches.length :=
  by grind [nextPlace, eq_add_emod_iff, length_dvd_iff, selectable.upper]

theorem prevPlace_eq_selected_iff (selected : 0 ≤ state.selectedMatchIndex) (atLeast : 1 ≤ steps)
    (atMost : steps ≤ state.matches.length) :
    state.selectedMatchIndex = prevPlace state steps ↔ steps = state.matches.length := by
  simpa [prevPlace, Int.max_eq_left selected, Int.sub_eq_add_neg, eq_add_emod_iff ⟨selected,
    selectable.upper⟩] using length_dvd_iff atLeast atMost

/-- With nothing selected the places begin with the first match, and a turn later again. -/
theorem nextPlace_eq_zero_iff (unselected : state.selectedMatchIndex < 0) (atLeast : 1 ≤ steps)
    (atMost : steps ≤ state.matches.length) :
    nextPlace state (steps + 1) = 0 ↔ steps = state.matches.length := by
  have lower := selectable.lower
  have start : state.selectedMatchIndex + (steps + 1 : Nat) = steps := by omega
  unfold nextPlace
  rw [start]
  constructor
  · intro same
    by_contra fewer
    rw [Int.emod_eq_of_lt (by omega) (by omega)] at same
    omega
  · rintro rfl
    exact Int.emod_self

end Selectable

variable {length old index : Int}

/-- All the places are met within one turn. -/
theorem exists_sub_emod (place : Int) (inside : 0 ≤ index ∧ index < length) :
    ∃ steps : Nat, 1 ≤ steps ∧ (steps : Int) ≤ length ∧ (place - steps) % length = index := by
  have above := Int.emod_nonneg (place - index - 1) (by omega : length ≠ 0)
  have below := Int.emod_lt_of_pos (place - index - 1) (by omega : 0 < length)
  refine ⟨((place - index - 1) % length).toNat + 1, by omega, by omega, ?_⟩
  have steps : place - (((place - index - 1) % length).toNat + 1 : Nat) =
      place - 1 - (place - index - 1) % length := by omega
  have whole : place - 1 - (place - index - 1) = index := by omega
  rw [steps, Int.sub_emod_emod, whole, Int.emod_eq_of_lt inside.1 inside.2]

theorem exists_nextPlace (inside : 0 ≤ index ∧ index < state.matches.length) :
    ∃ steps, 1 ≤ steps ∧ steps ≤ state.matches.length ∧ nextPlace state steps = index := by
  obtain ⟨back, atLeast, atMost, same⟩ :=
    exists_sub_emod (state.selectedMatchIndex + 1) inside
  refine ⟨state.matches.length + 1 - back, by omega, by omega, ?_⟩
  have around : state.selectedMatchIndex + (state.matches.length + 1 - back : Nat) =
      state.selectedMatchIndex + 1 - back + state.matches.length := by omega
  simp [nextPlace, around, same]

theorem exists_prevPlace (inside : 0 ≤ index ∧ index < state.matches.length) :
    ∃ steps, 1 ≤ steps ∧ steps ≤ state.matches.length ∧ prevPlace state steps = index := by
  obtain ⟨steps, atLeast, atMost, same⟩ := exists_sub_emod (max state.selectedMatchIndex 0) inside
  exact ⟨steps, atLeast, by omega, same⟩

theorem visibleAt_bounds (visible : VisibleAt layout state index) :
    0 ≤ index ∧ index < state.matches.length := by
  obtain ⟨candidate, found, -⟩ := visible
  grind [at?_isSome_iff]

/-- No match is visible when none is within one turn. -/
theorem not_someVisible_next
    (unseen : ∀ steps, 1 ≤ steps → steps ≤ state.matches.length →
      ¬ VisibleAt layout state (nextPlace state steps)) : ¬ SomeVisible layout state := by
  rintro ⟨index, visible⟩
  obtain ⟨steps, atLeast, atMost, rfl⟩ := exists_nextPlace (visibleAt_bounds visible)
  grind

theorem not_someVisible_prev
    (unseen : ∀ steps, 1 ≤ steps → steps ≤ state.matches.length →
      ¬ VisibleAt layout state (prevPlace state steps)) : ¬ SomeVisible layout state := by
  rintro ⟨index, visible⟩
  obtain ⟨steps, atLeast, atMost, rfl⟩ := exists_prevPlace (visibleAt_bounds visible)
  grind

/-! ## The loops -/

def Meets (layout : Layout) (state : State) (place : Nat → Int) (result : Landing × State) :
    Prop :=
  ∃ steps, 1 ≤ steps ∧ steps ≤ state.matches.length ∧ VisibleAt layout state (place steps) ∧
    (∀ earlier, 1 ≤ earlier → earlier < steps → ¬ VisibleAt layout state (place earlier)) ∧
    result = findScrollDimensions (atIndex state (place steps))

/-- The loop has given up. -/
def GivesUp (state : State) (result : Landing × State) : Prop :=
  ∃ index : Int, (0 ≤ index ∧ index < state.matches.length) ∧ result = (.blank, atIndex state index)

section Loops

variable {steps : Nat}

/-- The match at a place is read, and is visible or not. -/
theorem read_place (inside : 0 ≤ index ∧ index < state.matches.length) :
    ∃ selected, getCurrentSelectedMatch (atIndex state index) = some selected ∧
      (selected.visible layout (atIndex state index).document ↔ VisibleAt layout state index) := by
  obtain ⟨selected, found⟩ := Option.isSome_iff_exists.mp
    ((at?_isSome_iff state.matches index).mpr inside)
  refine ⟨selected, by rw [getCurrentSelectedMatch_atIndex, found], ?_⟩
  simp [atIndex, VisibleAt, found]

/-- A loop that lands where it first is to, and otherwise goes on to a bound. -/
theorem exists_landing {Result : Type} (seek : Nat → Nat → Option Result) (shown : Nat → Prop)
    {land : Nat → Result} {bound : Nat}
    (lands : ∀ turns steps, shown steps → seek (turns + 1) steps = some (land steps))
    (goesOn : ∀ turns steps, 1 ≤ steps → steps < bound → ¬ shown steps →
      seek (turns + 1) steps = seek turns (steps + 1)) (positive : 1 ≤ bound) :
    (∃ steps, 1 ≤ steps ∧ steps ≤ bound ∧ shown steps ∧
        (∀ earlier, 1 ≤ earlier → earlier < steps → ¬ shown earlier) ∧
        seek bound 1 = some (land steps)) ∨
      (∀ steps, 1 ≤ steps → steps ≤ bound → ¬ shown steps) ∧ seek bound 1 = seek 1 bound := by
  -- as far as the loop has come, nothing was to be shown
  have come : ∀ come, 1 ≤ come → come ≤ bound →
      (∀ steps, 1 ≤ steps → steps < come → ¬ shown steps) →
        seek bound 1 = seek (bound - come + 1) come := by
    intro come
    induction come with
    | zero => omega
    | succ _ _ =>
      grind
  by_cases some : ∃ steps, 1 ≤ steps ∧ steps ≤ bound ∧ shown steps
  · classical
    obtain ⟨atLeast, atMost, visible⟩ := Nat.find_spec some
    have unseen : ∀ earlier, 1 ≤ earlier → earlier < Nat.find some → ¬ shown earlier :=
      by grind [Nat.find_min]
    refine .inl ⟨Nat.find some, atLeast, atMost, visible, unseen, ?_⟩
    grind
  · grind

section Next

variable {turns : Nat}

abbrev lookOn (layout : Layout) (state : State) (turns steps : Nat) : Option (Landing × State) :=
  seekNextWithin layout state.selectedMatchIndex turns (atIndex state (nextPlace state steps))

theorem seekNextWithin_visible (selectable : Selectable state)
    (visible : VisibleAt layout state (nextPlace state steps)) :
    lookOn layout state (turns + 1) steps =
      some (findScrollDimensions (atIndex state (nextPlace state steps))) := by
  obtain ⟨_, read, visible_iff⟩ :=
    @read_place layout _ _ (selectable.nextPlace_bounds steps)
  simp [seekNextWithin, read, visible_iff.mpr, visible]

/-- The loop stops after one turn, at the match it began with or where it would begin anew. -/
theorem seekNextWithin_around (selectable : Selectable state)
    (hidden : ¬ VisibleAt layout state (nextPlace state state.matches.length)) :
    ∃ index : Int, (0 ≤ index ∧ index < state.matches.length) ∧
      lookOn layout state (turns + 1) state.matches.length =
      some (.blank, atIndex state index) := by
  have positive := selectable.length_pos
  obtain ⟨selected, read, visible_iff⟩ :=
    @read_place layout _ _ (selectable.nextPlace_bounds state.matches.length)
  rw [lookOn, seekNextWithin, read]
  dsimp only
  rw [if_neg (mt visible_iff.mp hidden)]
  by_cases started : 0 ≤ state.selectedMatchIndex
  · have same := (selectable.nextPlace_eq_selected_iff started positive (Nat.le_refl _)).mpr rfl
    exact ⟨_, selectable.nextPlace_bounds _, if_pos same⟩
  · have unselected := Int.not_le.mp started
    have differs : state.selectedMatchIndex ≠ nextPlace state state.matches.length := by
      have bounds := selectable.nextPlace_bounds state.matches.length
      omega
    have anew := (selectable.nextPlace_eq_zero_iff unselected positive (Nat.le_refl _)).mpr rfl
    grind [atIndex, selectable.incrementIndex_place]

theorem seekNextWithin_on (selectable : Selectable state) (atLeast : 1 ≤ steps)
    (before : steps < state.matches.length)
    (hidden : ¬ VisibleAt layout state (nextPlace state steps)) :
    lookOn layout state (turns + 1) steps =
      lookOn layout state turns (steps + 1) := by
  obtain ⟨selected, read, visible_iff⟩ :=
    @read_place layout _ _ (selectable.nextPlace_bounds steps)
  have bounds := selectable.nextPlace_bounds steps
  have differs : ¬ state.selectedMatchIndex =
      (atIndex state (nextPlace state steps)).selectedMatchIndex := by
    grind [atIndex, selectable.nextPlace_eq_selected_iff]
  have notAnew : ¬ ((atIndex state (nextPlace state (steps + 1))).selectedMatchIndex = 0 ∧
      state.selectedMatchIndex < 0) := by
    grind [atIndex, selectable.nextPlace_eq_zero_iff]
  rw [lookOn, seekNextWithin, read]
  simp [if_neg (mt visible_iff.mp hidden), if_neg differs, selectable.incrementIndex_place,
    if_neg notAnew]

/-- `goNext` meets the first visible match, or gives up after one turn. -/
theorem seekNextWithin_spec (selectable : Selectable state) :
    ∃ result, lookOn layout state state.matches.length 1 = some result ∧
      (Meets layout state (nextPlace state) result ∨
        ¬ SomeVisible layout state ∧ GivesUp state result) := by
  rcases exists_landing (lookOn layout state)
    (fun steps => VisibleAt layout state (nextPlace state steps))
    (fun turns steps => seekNextWithin_visible selectable)
    (fun turns steps => seekNextWithin_on selectable) selectable.length_pos with
    ⟨steps, atLeast, atMost, visible, unseen, met⟩ | ⟨hidden, around⟩
  · grind [Meets]
  · obtain ⟨index, bounds, gaveUp⟩ := seekNextWithin_around selectable
      (hidden _ selectable.length_pos (Nat.le_refl _))
    exact ⟨_, around.trans gaveUp, .inr ⟨not_someVisible_next hidden, index, bounds, rfl⟩⟩

/-- With more turns the loop ends where it has ended. -/
theorem seekNextWithin_mono {start : State}
    (returned : seekNextWithin layout old turns start = some result) (more : Nat) :
    seekNextWithin layout old (turns + more) start = some result := by
  induction turns generalizing start with
  | zero => cases returned
  | succ _ _ =>
    unfold seekNextWithin at returned ⊢
    grind

end Next

section Previous

variable {turns : Nat}

abbrev lookBack (layout : Layout) (state : State) (turns steps : Nat) : Option (Landing × State) :=
  seekPrev layout state.selectedMatchIndex turns (atIndex state (prevPlace state steps))

theorem seekPrev_visible (selectable : Selectable state)
    (visible : VisibleAt layout state (prevPlace state steps)) :
    lookBack layout state (turns + 1) steps =
      some (findScrollDimensions (atIndex state (prevPlace state steps))) := by
  obtain ⟨_, read, visible_iff⟩ :=
    @read_place layout _ _ (selectable.prevPlace_bounds steps)
  simp [seekPrev, read, visible_iff.mpr, visible]

/-- The loop stops before it looks at the match it began with. -/
theorem seekPrev_around (selectable : Selectable state)
    (hidden : ¬ VisibleAt layout state (prevPlace state steps))
    (around : state.selectedMatchIndex = prevPlace state (steps + 1)) :
    lookBack layout state (turns + 1) steps =
      some (.blank, atIndex state state.selectedMatchIndex) := by
  obtain ⟨_, read, visible_iff⟩ :=
    @read_place layout _ _ (selectable.prevPlace_bounds steps)
  rw [lookBack, seekPrev, read]
  dsimp only
  rw [if_neg (mt visible_iff.mp hidden), selectable.decrementIndex_place, ← around]
  exact if_pos rfl

theorem seekPrev_on (selectable : Selectable state)
    (hidden : ¬ VisibleAt layout state (prevPlace state steps))
    (differs : state.selectedMatchIndex ≠ prevPlace state (steps + 1)) :
    lookBack layout state (turns + 1) steps =
      lookBack layout state turns (steps + 1) := by
  obtain ⟨_, read, visible_iff⟩ :=
    @read_place layout _ _ (selectable.prevPlace_bounds steps)
  rw [lookBack, seekPrev, read]
  dsimp only
  rw [if_neg (mt visible_iff.mp hidden), selectable.decrementIndex_place]
  exact if_neg differs

/-- With more turns the loop ends where it has ended. -/
theorem seekPrev_mono {start : State} (returned : seekPrev layout old turns start = some result)
    (more : Nat) : seekPrev layout old (turns + more) start = some result := by
  induction turns generalizing start with
  | zero => cases returned
  | succ _ _ =>
    unfold seekPrev at returned ⊢
    grind

/-- The matches that `goPrev` looks at with a match selected: not that one, unless it is the
only one. -/
def looksAt (state : State) : Nat :=
  max (state.matches.length - 1) 1

theorem looksAt_le (selectable : Selectable state) : looksAt state ≤ state.matches.length := by
  have positive := selectable.length_pos
  unfold looksAt
  omega

theorem prevPlace_succ_eq_selected_iff (selectable : Selectable state)
    (selected : 0 ≤ state.selectedMatchIndex) (atLeast : 1 ≤ steps)
    (atMost : steps ≤ looksAt state) :
    state.selectedMatchIndex = prevPlace state (steps + 1) ↔ steps = looksAt state := by
  have upper := selectable.upper
  unfold looksAt at *
  by_cases single : state.matches.length = 1
  · grind [prevPlace]
  · rw [selectable.prevPlace_eq_selected_iff selected (by omega) (by omega)]
    omega

def Looked (layout : Layout) (state : State) : Prop :=
  ∃ look, 1 ≤ look ∧ look ≤ looksAt state ∧ VisibleAt layout state (prevPlace state look)

theorem looked_iff (selectable : Selectable state) (selected : 0 ≤ state.selectedMatchIndex) :
    Looked layout state ↔ ∃ index, VisibleAt layout state index ∧
      (index ≠ state.selectedMatchIndex ∨ state.matches.length = 1) := by
  have positive := selectable.length_pos
  constructor
  · grind [Looked, looksAt, selectable.prevPlace_eq_selected_iff]
  · rintro ⟨index, visible, other⟩
    obtain ⟨steps, atLeast, atMost, rfl⟩ :=
      exists_prevPlace (visibleAt_bounds visible)
    grind [Looked, looksAt, selectable.prevPlace_eq_selected_iff]

/-- With a match selected `goPrev` meets the first visible one it looks at, or gives up. -/
theorem seekPrev_selected (selectable : Selectable state)
    (selected : 0 ≤ state.selectedMatchIndex) :
    ∃ result, lookBack layout state (looksAt state) 1 = some result ∧
      (Looked layout state ∧ Meets layout state (prevPlace state) result ∨
        ¬ Looked layout state ∧ GivesUp state result) := by
  have positive : 1 ≤ looksAt state := Nat.le_max_right _ _
  have stops := fun {steps} => @prevPlace_succ_eq_selected_iff _ steps selectable selected
  rcases exists_landing (lookBack layout state)
    (fun steps => VisibleAt layout state (prevPlace state steps))
    (fun turns steps => seekPrev_visible selectable)
    (fun turns steps atLeast before hidden => seekPrev_on selectable hidden
      (mt (stops atLeast (Nat.le_of_lt before)).mp (Nat.ne_of_lt before))) positive with
    ⟨steps, atLeast, atMost, visible, unseen, met⟩ | ⟨hidden, around⟩
  · grind [Looked, Meets, looksAt_le]
  · have gaveUp := @seekPrev_around _ _ _ 0 selectable (hidden _ positive (Nat.le_refl _))
      ((stops positive (Nat.le_refl _)).mpr rfl)
    exact ⟨_, around.trans gaveUp, by grind [Looked, GivesUp, selectable.upper]⟩

/-- With nothing selected it has no place to stop at but a visible match. -/
theorem seekPrev_unselected_on (selectable : Selectable state)
    (unselected : state.selectedMatchIndex < 0)
    (hidden : ¬ VisibleAt layout state (prevPlace state steps)) :
    lookBack layout state (turns + 1) steps =
      lookBack layout state turns (steps + 1) := by
  have bounds := selectable.prevPlace_bounds (steps + 1)
  exact seekPrev_on selectable hidden (by omega)

theorem seekPrev_unselected (selectable : Selectable state)
    (unselected : state.selectedMatchIndex < 0) (visible : SomeVisible layout state) :
    ∃ result, lookBack layout state state.matches.length 1 = some result ∧
      Meets layout state (prevPlace state) result := by
  rcases exists_landing (lookBack layout state)
    (fun steps => VisibleAt layout state (prevPlace state steps))
    (fun turns steps => seekPrev_visible selectable)
    (fun turns steps _ _ => seekPrev_unselected_on selectable unselected)
    selectable.length_pos with ⟨steps, atLeast, atMost, visible, unseen, met⟩ | ⟨hidden, -⟩
  · grind [Meets]
  · exact absurd visible (not_someVisible_prev hidden)

/-- Without a visible match it never ends. -/
theorem seekPrev_forever (selectable : Selectable state)
    (unselected : state.selectedMatchIndex < 0) (hidden : ¬ SomeVisible layout state)
    (turns steps : Nat) :
    lookBack layout state turns steps =
      none := by
  induction turns generalizing steps with
  | zero => rfl
  | succ _ ih =>
    simp [seekPrev_unselected_on selectable unselected fun visible => hidden ⟨_, visible⟩, ih]

end Previous

end Loops

/-! ## The calls -/

/-- The state once the highlight of the selected match has been removed. -/
def cleared (state : State) : State :=
  { state with selectHighlighted := [] }

namespace Selectable

variable (selectable : Selectable state)

include selectable

theorem clearSelection_eq : clearSelection state = .ok (cleared state) := by
  have lower := selectable.lower
  have upper := selectable.upper
  have read := getCurrentSelectedMatch_atIndex state state.selectedMatchIndex
  change getCurrentSelectedMatch state = _ at read
  unfold clearSelection
  split
  case isTrue nonneg =>
    obtain ⟨selected, found⟩ := Option.isSome_iff_exists.mp
      ((at?_isSome_iff state.matches state.selectedMatchIndex).mpr ⟨nonneg, upper⟩)
    rw [read, found]
    refine congrArg Except.ok ?_
    unfold removeSelectHighlight cleared
    congr 1
    refine List.filter_eq_nil_iff.mpr fun id highlighted => ?_
    obtain ⟨other, foundOther, inside⟩ := selectable.highlighted id highlighted
    cases found.symm.trans foundOther
    exact fun outside => of_decide_eq_true outside inside
  case isFalse negative =>
    have nothing : state.selectHighlighted = [] := by
      refine List.eq_nil_iff_forall_not_mem.mpr fun id highlighted => ?_
      grind [at?_of_neg, selectable.highlighted]
    simp [cleared, ← nothing]

theorem cleared : Selectable (cleared state) where
  nonempty := selectable.nonempty
  hasNodes := selectable.hasNodes
  lower := selectable.lower
  upper := selectable.upper
  highlighted := fun _ highlighted => nomatch highlighted

variable (turns : Nat)

theorem goNextWithin_eq :
    goNextWithin layout turns state =
      seekNextWithin layout state.selectedMatchIndex turns
        (atIndex (FindInPage.cleared state) (nextPlace state 1)) := by
  have start := selectable.cleared.incrementIndex_start
  unfold goNextWithin
  rw [if_neg selectable.nonempty, selectable.clearSelection_eq]
  dsimp only
  rw [start]
  rfl

theorem goPrevWithin_eq :
    goPrevWithin layout turns state =
      seekPrev layout state.selectedMatchIndex turns
        (atIndex (FindInPage.cleared state) (prevPlace state 1)) := by
  have start := selectable.cleared.decrementIndex_start
  unfold goPrevWithin
  rw [if_neg selectable.nonempty, selectable.clearSelection_eq]
  dsimp only
  rw [start]
  rfl

end Selectable

/-- The call has done what is to be selected when its loop has met the first visible match, -/
theorem Meets.selectsAlong (selectable : Selectable state)
    (met : Meets layout (cleared state) place result) : SelectsAlong layout state place result := by
  obtain ⟨steps, atLeast, atMost, visible, unseen, rfl⟩ := met
  obtain ⟨candidate, found, shown⟩ := visible
  have read : getCurrentSelectedMatch (atIndex (cleared state) (place steps)) = some candidate := by
    rw [getCurrentSelectedMatch_atIndex, found]
  have landed : findScrollDimensions (atIndex (cleared state) (place steps)) =
      (.scrolled candidate.visibleIndex,
        addSelectHighlight candidate (atIndex (cleared state) (place steps))) := by
    grind [findScrollDimensions, cleared, mem_of_at?, selectable.hasNodes]
  rw [landed]
  exact
    { selects := fun _ => ⟨place steps, candidate,
        ⟨⟨candidate, found, shown⟩, steps, atLeast, atMost, rfl, unseen⟩, found, rfl, rfl,
        fun id => by rfl⟩
      blank := fun hidden => absurd ⟨_, _, found, shown⟩ hidden
      kept := rfl }

/-- or has given up where no match is visible. -/
theorem GivesUp.selectsAlong (hidden : ¬ SomeVisible layout state)
    (gaveUp : GivesUp (cleared state) result) : SelectsAlong layout state place result := by
  obtain ⟨_, -, rfl⟩ := gaveUp
  exact
    { selects := fun visible => absurd visible hidden
      blank := fun _ => ⟨rfl, rfl⟩
      kept := rfl }

theorem goNext_selects (selectable : Selectable state) :
    ∃ result, goNextWithin layout state.matches.length state = some result ∧
      SelectsAlong layout state (nextPlace state) result := by
  obtain ⟨result, returned, outcome⟩ := @seekNextWithin_spec layout _ selectable.cleared
  refine ⟨result, ?_, ?_⟩
  · rw [selectable.goNextWithin_eq]
    exact returned
  · rcases outcome with met | ⟨hidden, gaveUp⟩
    · exact met.selectsAlong selectable
    · exact gaveUp.selectsAlong hidden

/-- With more turns a call ends where it has ended, -/
theorem goPrevWithin_mono (returned : goPrevWithin layout turns state = some result) (more : Nat) :
    goPrevWithin layout (turns + more) state = some result := by
  unfold goPrevWithin at returned ⊢
  split at returned
  case isTrue nothing => rw [if_pos nothing]; exact returned
  case isFalse something =>
    grind [seekPrev_mono]

/-- so that it has one result. -/
theorem goPrevReturns_unique {other : Landing × State}
    (returned : GoPrevReturns layout state result) (again : GoPrevReturns layout state other) :
    result = other := by
  obtain ⟨turns, returned⟩ := returned
  obtain ⟨more, again⟩ := again
  have first := goPrevWithin_mono returned more
  have second := goPrevWithin_mono again turns
  grind

/-- What a call of `goPrev` comes to with a match selected. -/
theorem goPrev_selected (selectable : Selectable state) (selected : 0 ≤ state.selectedMatchIndex) :
    ∃ result, goPrevWithin layout state.matches.length state = some result ∧
      (Looked layout state ∧ Meets layout (cleared state) (prevPlace state) result ∨
        ¬ Looked layout state ∧ GivesUp (cleared state) result) := by
  have atMost := looksAt_le selectable
  obtain ⟨result, returned, outcome⟩ := @seekPrev_selected layout _ selectable.cleared selected
  have turns : state.matches.length =
      looksAt state + (state.matches.length - looksAt state) := by omega
  refine ⟨result, ?_, outcome⟩
  rw [selectable.goPrevWithin_eq, turns]
  exact seekPrev_mono returned _

/-- What a call comes to with none selected and one visible. -/
theorem goPrev_unselected (selectable : Selectable state)
    (unselected : state.selectedMatchIndex < 0) (visible : SomeVisible layout state) :
    ∃ result, goPrevWithin layout state.matches.length state = some result ∧
      Meets layout (cleared state) (prevPlace state) result := by
  obtain ⟨result, returned, met⟩ := seekPrev_unselected selectable.cleared unselected visible
  refine ⟨result, ?_, met⟩
  rw [selectable.goPrevWithin_eq]
  exact returned

/-- Without one it does not come to an end. -/
theorem not_goPrevReturns (selectable : Selectable state)
    (unselected : state.selectedMatchIndex < 0) (hidden : ¬ SomeVisible layout state) :
    ¬ GoPrevReturns layout state result := by
  rintro ⟨turns, returned⟩
  rw [selectable.goPrevWithin_eq] at returned
  have forever := seekPrev_forever selectable.cleared unselected hidden turns 1
  cases forever.symm.trans returned

/-- What `goPrev` relies on: a visible match other than the selected one, unless that is not
visible either or the only match, and any visible match with nothing selected. -/
def PreviousMet (layout : Layout) (state : State) : Prop :=
  (0 ≤ state.selectedMatchIndex →
    state.matches.length = 1 ∨ ¬ VisibleAt layout state state.selectedMatchIndex ∨
      ∃ index, index ≠ state.selectedMatchIndex ∧ VisibleAt layout state index) ∧
    (state.selectedMatchIndex < 0 → SomeVisible layout state)

theorem goPrev_selects (selectable : Selectable state) (met : PreviousMet layout state) :
    ∃ result, GoPrevReturns layout state result ∧
      SelectsAlong layout state (prevPlace state) result := by
  rcases Int.lt_or_le state.selectedMatchIndex 0 with unselected | selected
  · obtain ⟨result, returned, first⟩ :=
      goPrev_unselected selectable unselected (met.2 unselected)
    exact ⟨result, ⟨_, returned⟩, first.selectsAlong selectable⟩
  · obtain ⟨result, returned, outcome⟩ := @goPrev_selected layout _ selectable selected
    refine ⟨result, ⟨_, returned⟩, ?_⟩
    rcases outcome with ⟨-, first⟩ | ⟨unseen, gaveUp⟩
    · exact first.selectsAlong selectable
    · have looked := @looked_iff layout _ selectable selected
      refine gaveUp.selectsAlong ?_
      rintro ⟨index, visible⟩
      -- a visible match it has not looked at is the selected one
      have unlooked : ¬ (index ≠ state.selectedMatchIndex ∨ state.matches.length = 1) :=
        fun other => unseen (looked.mpr ⟨index, visible, other⟩)
      push Not at unlooked
      obtain ⟨rfl, several⟩ := unlooked
      rcases met.1 selected with single | hidden | ⟨other, differs, shown⟩ <;> grind

theorem previousMet_of_selects (selectable : Selectable state)
    (returned : GoPrevReturns layout state result)
    (selects : SelectsAlong layout state (prevPlace state) result) :
    PreviousMet layout state := by
  constructor
  · intro selected
    obtain ⟨ended, finished, outcome⟩ := @goPrev_selected layout _ selectable selected
    obtain rfl := goPrevReturns_unique returned ⟨_, finished⟩
    rcases outcome with ⟨looked, -⟩ | ⟨-, index, -, rfl⟩
    · grind [looked_iff]
    · refine .inr (.inl fun visible => ?_)
      obtain ⟨_, _, -, -, landed, -⟩ := selects.selects ⟨_, visible⟩
      cases landed
  · grind [not_goPrevReturns]

/-! ## Histories of calls -/

/-- A call leaves a match selected, no other one highlighted, and the rest as it was. -/
structure Moved (before after : State) : Prop where
  selectable : Selectable after
  selected : 0 ≤ after.selectedMatchIndex
  kept : SameButSelection before after

section Histories

variable (selectable : Selectable state)

include selectable

theorem GivesUp.moved (gaveUp : GivesUp (cleared state) result) : Moved state result.2 := by
  obtain ⟨index, ⟨lower, upper⟩, rfl⟩ := gaveUp
  exact
    { selectable := ⟨selectable.nonempty, selectable.hasNodes,
        Int.le_trans (by decide) lower, upper, nofun⟩
      selected := lower
      kept := rfl }

theorem Meets.moved (met : Meets layout (cleared state) place result) : Moved state result.2 := by
  obtain ⟨steps, -, -, visible, -⟩ := id met
  have outcome := met.selectsAlong selectable
  obtain ⟨index, candidate, first, found, -, rfl, highlighted⟩ := outcome.selects ⟨_, visible⟩
  obtain ⟨lower, upper⟩ := visibleAt_bounds first.visible
  have «matches» : result.2.matches = state.matches := by
    rw [outcome.kept]
  have nonempty := selectable.nonempty
  have hasNodes := selectable.hasNodes
  rw [← «matches»] at nonempty hasNodes upper found
  exact
    { selectable := ⟨nonempty, hasNodes, Int.le_trans (by decide) lower, upper,
        fun id inside => ⟨candidate, found, (highlighted id).mp inside⟩⟩
      selected := lower
      kept := outcome.kept }

theorem goNext_moved (returned : GoNextReturns layout state result) : Moved state result.2 := by
  obtain ⟨turns, returned⟩ := returned
  obtain ⟨ended, finished, outcome⟩ := @seekNextWithin_spec layout _ selectable.cleared
  rw [selectable.goNextWithin_eq] at returned
  have further := seekNextWithin_mono returned state.matches.length
  rw [Nat.add_comm] at further
  cases further.symm.trans (seekNextWithin_mono finished turns)
  rcases outcome with met | ⟨-, gaveUp⟩
  · exact met.moved selectable
  · exact gaveUp.moved selectable

theorem goPrev_moved (returned : GoPrevReturns layout state result) : Moved state result.2 := by
  rcases Int.lt_or_le state.selectedMatchIndex 0 with unselected | selected
  · have visible : SomeVisible layout state :=
      of_not_not fun hidden => not_goPrevReturns selectable unselected hidden returned
    obtain ⟨ended, finished, met⟩ := goPrev_unselected selectable unselected visible
    obtain rfl := goPrevReturns_unique returned ⟨_, finished⟩
    exact met.moved selectable
  · obtain ⟨ended, finished, outcome⟩ := @goPrev_selected layout _ selectable selected
    obtain rfl := goPrevReturns_unique returned ⟨_, finished⟩
    rcases outcome with ⟨-, met⟩ | ⟨-, gaveUp⟩
    · exact met.moved selectable
    · exact gaveUp.moved selectable

end Histories

/-- A call that comes to an end, whatever is visible at the time. -/
def Moves (before after : State) : Prop :=
  ∃ layout landing, GoNextReturns layout before (landing, after) ∨
    GoPrevReturns layout before (landing, after)

/-- Once a call has come to an end all the later ones do, whatever is visible at each of them:
`goNext` at the next visible match, which alone is highlighted then. -/
theorem goNext_after_moves {start : State} (selectable : Selectable start)
    (moves : Relation.TransGen Moves start state) (layout : Layout) :
    Moved start state ∧ (∃ result, GoPrevReturns layout state result) ∧
      ∃ result, GoNextReturns layout state result ∧
        SelectsAlong layout state (nextPlace state) result := by
  have move {before after : State} (selectable : Selectable before) (moves : Moves before after) :
      Moved before after := by
    obtain ⟨_, _, returned | returned⟩ := moves
    · exact goNext_moved selectable returned
    · exact goPrev_moved selectable returned
  have moved : Moved start state := by
    induction moves with
    | single moves => exact move selectable moves
    | tail _ moves ih =>
      have later := move ih.selectable moves
      exact ⟨later.selectable, later.selected, ih.kept.trans later.kept⟩
  obtain ⟨previous, returned, -⟩ := @goPrev_selected layout _ moved.selectable moved.selected
  obtain ⟨next, ended, selects⟩ := @goNext_selects layout _ moved.selectable
  exact ⟨moved, ⟨previous, _, returned⟩, next, ⟨_, ended⟩, selects⟩

/-! ## Both directions -/

def Selects (layout : Layout) (state : State) : Prop :=
  (∃ result, GoNextReturns layout state result ∧
    SelectsAlong layout state (nextPlace state) result) ∧
  ∃ result, GoPrevReturns layout state result ∧
    SelectsAlong layout state (prevPlace state) result

/-- Both functions come to an end at the match they should exactly when `goPrev` has a match to
meet. -/
theorem selects_iff_previousMet (layout : Layout) (state : State) (selectable : Selectable state) :
    Selects layout state ↔ PreviousMet layout state := by
  constructor
  · grind [Selects, previousMet_of_selects]
  · intro met
    obtain ⟨result, returned, selects⟩ := @goNext_selects layout _ selectable
    exact ⟨⟨result, ⟨_, returned⟩, selects⟩, goPrev_selects selectable met⟩

def twoMatches (selected : Int) : State :=
  { initial (Page.ofText []) with
    «matches» :=
      [⟨[⟨.element (.made 0 0) .chromeFind [], ⟨0, 1, ⟨.page 0, []⟩⟩, ⟨0, 0, 1⟩⟩], some 1⟩,
        ⟨[⟨.element (.made 0 1) .chromeFind [], ⟨0, 1, ⟨.page 0, []⟩⟩, ⟨1, 0, 1⟩⟩], none⟩]
    selectedMatchIndex := selected }

theorem selectable_twoMatches {selected : Int} (lower : -1 ≤ selected) (upper : selected < 2) :
    Selectable (twoMatches selected) where
  nonempty := by simp [twoMatches]
  hasNodes := by simp [twoMatches]
  lower := lower
  upper := upper
  highlighted := by simp [twoMatches, initial]

/-- The first match is the only visible one. -/
def onlyFirst : Layout := fun _ element => element.id = .made 0 0

/-- After a call the next one comes to an end, though nothing is visible any more. -/
theorem goNext_after_moves_back :
    ∃ result, GoPrevReturns (fun _ _ => false) (twoMatches 0) result := by
  have first : Selectable (twoMatches 0) := selectable_twoMatches (by decide) (by decide)
  have returned : Moves (twoMatches 0) (twoMatches 0) := ⟨onlyFirst, .blank, .inr ⟨1, rfl⟩⟩
  exact (goNext_after_moves first (.single returned) _).2.1

theorem selects_iff_previousMet_second : Selects onlyFirst (twoMatches 1) := by
  have first : VisibleAt onlyFirst (twoMatches 1) 0 := ⟨_, rfl, rfl⟩
  exact (selects_iff_previousMet onlyFirst (twoMatches 1)
    (selectable_twoMatches (by decide) (by decide))).mpr
    (by grind [PreviousMet, twoMatches])

/-- With the only visible match selected `goPrev` returns the empty string, and with nothing
selected and nothing visible it does not return. -/
theorem not_selects_twoMatches :
    (Selectable (twoMatches 0) ∧ GoPrevReturns onlyFirst (twoMatches 0) (.blank, twoMatches 0) ∧
      ¬ Selects onlyFirst (twoMatches 0)) ∧
    Selectable (twoMatches (-1)) ∧
      ∀ result, ¬ GoPrevReturns (fun _ _ => false) (twoMatches (-1)) result := by
  have first : Selectable (twoMatches 0) := selectable_twoMatches (by decide) (by decide)
  have unselected : Selectable (twoMatches (-1)) :=
    selectable_twoMatches (by decide) (by decide)
  have returned : GoPrevReturns onlyFirst (twoMatches 0) (.blank, twoMatches 0) := ⟨1, rfl⟩
  refine ⟨⟨first, returned, ?_⟩, unselected, fun result => ?_⟩
  · rintro ⟨-, result, again, selects⟩
    obtain rfl := goPrevReturns_unique again returned
    obtain ⟨_, _, -, -, landed, -⟩ := selects.selects ⟨0, _, rfl, rfl⟩
    cases landed
  · refine not_goPrevReturns unselected (by decide) ?_
    rintro ⟨index, candidate, found, visible⟩
    obtain ⟨position, rfl⟩ := Int.eq_ofNat_of_zero_le (visibleAt_bounds
      ⟨candidate, found, visible⟩).1
    rcases position with - | - | position
    · cases found
      cases visible
    · cases found
      cases visible
    · cases found

end ChromiumIos.FindInPage
