import ChromiumIos.FindInPage.Searches

/-!
# The search of a single frame

The script that is injected into all frames searches one document and returns how many visible
matches it has counted.  It goes through the same phases as the script for the main frame.  The
limit of the count is compared after it has been passed, so that one match too many is counted.
Before its first search it adds a style element, for which it reads a variable that it does not
declare, so that every search throws unless the page has a global variable of that name.
-/

namespace ChromiumIos.FindInPage

open Lib

namespace AllFrames

def iframe : NodeName := .named 1

def reasonable : Node → Bool
  | .element id nodeName childNodes =>
    nodeName ≠ iframe && FindInPage.reasonable (.element id nodeName childNodes)
  | node => FindInPage.reasonable node

variable (visible : Node → Bool) (casing : Casing) (layout : Layout)

def walkTurn (state : State) : Turn State :=
  match state.stack with
  | [] => .ended
  | .text node :: rest => .again (addSection casing node { state with stack := rest })
  | .element _ _ childNodes :: rest =>
    .again { state with stack := childNodes.filter reasonable ++ rest }
  | .other _ :: rest => .again { state with stack := rest }

inductive Returned where
  | number (value : Int)
  | thrown
deriving DecidableEq, Repr

def timeout : Int := -1

variable (budget : Nat) (state : State)

def searchPhases : Pause State :=
  (whileTurns (walkTurn casing) budget state).bind fun left walked =>
    (matchText casing left walked).bind fun left matched =>
    (executeReplacements left matched).bind fun left swapped =>
      countVisible layout left swapped

def pumpSearch : Returned × State :=
  if state.searchInProgress = false then (.number 0, state)
  else
    match searchPhases casing layout budget state with
    | .timedOut cut => (.number timeout, cut)
    | .thrown failed => (.thrown, failed)
    | .finished _ last => (.number last.visibleFound, { last with searchInProgress := false })

/-- The script in a frame.  What is in a style element is not searched. -/
structure Frame where
  state : State
  hasInitialized : Bool
  styleElement : Bool

/-- The style is made with the scale of the page, `pageWidth_` divided by a width: is there a
global variable of that name in the page that can be divided? -/
def addDocumentStyle (pageWidth : Bool) (frame : Frame) : Option Frame :=
  if pageWidth then some { frame with styleElement := true } else none

def enable (pageWidth : Bool) (frame : Frame) : Option Frame :=
  if frame.styleElement then some frame else addDocumentStyle pageWidth frame

def enableOnce (pageWidth : Bool) (frame : Frame) : Option Frame :=
  if frame.hasInitialized then some frame
  else (enable pageWidth frame).map fun enabled => { enabled with hasInitialized := true }

def findString (pageWidth : Bool) (string : Text) (budget : Nat) (frame : Frame) :
    Returned × Frame :=
  match enableOnce pageWidth frame with
  | none => (.thrown, frame)
  | some enabled =>
    let cleaned := cleanUpPrevious enabled.state
    let (returned, state) :=
      if string = [] then (.number 0, cleaned)
      else pumpSearch casing layout budget (startSearch string cleaned)
    (returned, { enabled with state })

def pumpUntilDone (casing : Casing) (layout : Layout) :
    List Nat → Returned × State → Returned × State
  | [], result => result
  | budget :: rest, result =>
    if result.1 = .number timeout then
      pumpUntilDone casing layout rest (pumpSearch casing layout budget result.2)
    else result

def search (pageWidth : Bool) (string : Text) (budget : Nat) (budgets : List Nat)
    (frame : Frame) : Returned × Frame :=
  let (returned, found) := findString casing layout pageWidth string budget frame
  let (completed, state) := pumpUntilDone casing layout budgets (returned, found.state)
  (completed, { found with state })

/-! ## What is to be counted -/

def isVisible (candidate : Match) : Bool :=
  candidate.nodes.all fun found => visible found.element

def visibleMatches : List Match :=
  state.matches.filter (isVisible visible)

/-- The visible matches are counted and numbered up to the limit. -/
structure CountsCapped (visible : Node → Bool) (count : Int) (last : State) : Prop where
  count : count = min (visibleMatches visible last).length maxVisibleElements
  indices : (visibleMatches visible last).map Match.visibleIndex =
    (List.range (visibleMatches visible last).length).map
      fun earlier => some (min (earlier + 1) maxVisibleElements)

/-! ## What the loop counts -/

def numberAfter (earlier : Nat) : Nat :=
  if earlier ≤ maxVisibleElements then earlier + 1 else maxVisibleElements

/-- The matches before the index have been looked at. -/
structure CountedTo (visible : Node → Bool) (index : Nat) (state : State) : Prop where
  inside : index ≤ state.matches.length
  found : state.visibleFound =
    min ((state.matches.take index).filter (isVisible visible)).length (maxVisibleElements + 1)
  indices : ((state.matches.take index).filter (isVisible visible)).map Match.visibleIndex =
    (List.range ((state.matches.take index).filter (isVisible visible)).length).map
      fun earlier => some (numberAfter earlier)

variable {visible : Node → Bool} {index number : Nat} {state after : State} {casing : Casing}

theorem take_modify {α : Type} {list : List α} (inside : index < list.length) (change : α → α) :
    (list.modify index change).take (index + 1) = list.take index ++ [change list[index]] := by
  induction list generalizing index with
  | nil => cases inside
  | cons _ _ _ =>
    grind

/-- One match more has been looked at; if it is visible it has its number. -/
theorem CountedTo.concat {candidate : Match} (counted : CountedTo visible index state)
    (length : after.matches.length = state.matches.length) (inside : index < state.matches.length)
    (taken : after.matches.take (index + 1) = state.matches.take index ++ [candidate])
    (hidden : isVisible visible candidate = false → after.visibleFound = state.visibleFound)
    (shown : isVisible visible candidate = true →
      after.visibleFound = min (state.visibleFound + 1) (maxVisibleElements + 1) ∧
        candidate.visibleIndex = some (numberAfter
          ((state.matches.take index).filter (isVisible visible)).length)) :
    CountedTo visible (index + 1) after := by
  have found := counted.found
  have indices := counted.indices
  refine ⟨by omega, ?_, ?_⟩ <;> rw [taken, List.filter_append]
  · grind
  · cases visibility : isVisible visible candidate with
    | false =>
      grind
    | true =>
      rw [List.filter_cons_of_pos visibility, List.filter_nil, List.length_append,
        List.length_singleton, List.range_succ, List.map_append, List.map_append, indices]
      simp [(shown visibility).2]

theorem countMatch_of_lt (inside : index < state.matches.length) :
    countMatch (fun _ => visible) index state =
      if maxVisibleElements < state.visibleFound then
        setVisibleIndex index maxVisibleElements state
      else if isVisible visible state.matches[index] then
        setVisibleIndex index (state.visibleFound + 1)
          { state with visibleFound := state.visibleFound + 1 }
      else state := by
  unfold countMatch
  rw [List.getElem?_eq_getElem inside]
  rfl

theorem CountedTo.next (counted : CountedTo visible index state)
    (inside : index < state.matches.length) :
    CountedTo visible (index + 1) (countMatch (fun _ => visible) index state) := by
  have length := countMatch_matches_length (fun _ => visible) index state
  have found := counted.found
  rw [countMatch_of_lt inside] at length ⊢
  by_cases full : maxVisibleElements < state.visibleFound
  · rw [if_pos full] at length ⊢
    apply counted.concat length inside (take_modify inside _)
    · intro _
      rfl
    · intro _
      refine ⟨?_, congrArg some ?_⟩
      · change state.visibleFound = _
        omega
      · rw [numberAfter, if_neg (by omega)]
  · rw [if_neg full] at length ⊢
    by_cases visibility : isVisible visible state.matches[index] = true
    · rw [if_pos visibility] at length ⊢
      apply counted.concat length inside (take_modify inside _)
      · intro hidden
        cases visibility.symm.trans hidden
      · intro _
        refine ⟨?_, congrArg some ?_⟩
        · change state.visibleFound + 1 = _
          omega
        · rw [numberAfter, if_pos (by omega)]
          omega
    · rw [if_neg visibility]
      apply counted.concat rfl inside (List.take_succ_eq_append_getElem inside)
      · intro _
        rfl
      · simp [visibility]

/-! ## Calls that are cut -/

/-- A search that has not begun to count. -/
structure Uncounted (state : State) : Prop where
  inProgress : state.searchInProgress = true
  visibleFound : state.visibleFound = 0
  visibleIndex : state.visibleIndex = 0

structure Counting (visible : Node → Bool) (index : Nat) (state : State) : Prop where
  inProgress : state.searchInProgress = true
  stack : state.stack = []
  regex : state.regex = none
  counted : CountedTo visible index state

/-- A search between two calls. -/
def Waiting (visible : Node → Bool) (state : State) : Prop :=
  Uncounted state ∨ Counting visible state.visibleIndex state

theorem stack_nil_of_ended (ended : walkTurn casing state = .ended) : state.stack = [] := by
  grind [walkTurn]

theorem Waiting.walkTurn (waiting : Waiting visible state)
    (turned : walkTurn casing state = .again after) : Waiting visible after := by
  unfold AllFrames.walkTurn at turned
  rcases waiting with uncounted | counting
  · left
    split at turned <;> cases turned <;>
      exact ⟨uncounted.inProgress, uncounted.visibleFound, uncounted.visibleIndex⟩
  · rw [counting.stack] at turned
    cases turned

theorem walk_holds (waiting : Waiting visible state) :
    (whileTurns (walkTurn casing) budget state).Holds
      (fun _ last => Waiting visible last ∧ last.stack = []) (Waiting visible)
      (fun _ => True) := by
  apply (whileTurns_holds (fun kept => kept.walkTurn) (fun _ _ => trivial) budget waiting).mono
  · grind [stack_nil_of_ended]
  · exact fun _ kept => kept
  · exact fun _ threw => threw

/-- The variables of the count stay as they are while matches are found. -/
def Finding (state : State) : Prop := Uncounted state ∧ state.stack = []

theorem Finding.keptByMatching : KeptByMatching Finding where
  processed kept processed := by
    rcases process_cases processed with ⟨-, rfl⟩ | ⟨within, -, -, rfl⟩
    · exact kept
    · exact ⟨⟨kept.1.inProgress, kept.1.visibleFound, kept.1.visibleIndex⟩, kept.2⟩
  moved _ _ _ kept := ⟨⟨kept.1.inProgress, kept.1.visibleFound, kept.1.visibleIndex⟩, kept.2⟩

theorem Finding.matchTurn (finding : Finding state)
    (turned : matchTurn casing state = .again after) : Finding after := by
  rcases matchTurn_cases casing state with ⟨ended, -⟩ | ⟨regex, begin, -, -, threw | treated⟩
  · cases ended.symm.trans turned
  · grind
  · obtain ⟨_, again, treated⟩ := treated
    cases again.symm.trans turned
    have pushed : Finding { advance regex begin state with
        «matches» := (advance regex begin state).matches ++ [⟨[], none⟩] } :=
      ⟨⟨finding.1.inProgress, finding.1.visibleFound, finding.1.visibleIndex⟩, finding.2⟩
    have leaves := Finding.keptByMatching.foundMatch pushed begin (begin + regex.source.length)
    rwa [treated] at leaves

theorem Uncounted.counting (uncounted : Uncounted state) (stack : state.stack = [])
    (regex : state.regex = none) : Counting visible state.visibleIndex state := by
  refine ⟨uncounted.inProgress, stack, regex, ?_⟩
  rw [uncounted.visibleIndex]
  exact ⟨Nat.zero_le _, uncounted.visibleFound, rfl⟩

theorem matchText_holds (waiting : Waiting visible state) (stack : state.stack = []) :
    (matchText casing budget state).Holds
      (fun _ last => Counting visible last.visibleIndex last) (Waiting visible)
      (fun _ => True) := by
  unfold matchText
  by_cases isRegex : state.regex.isSome
  · rw [if_pos isRegex]
    rcases waiting with uncounted | counting
    · have matched : (whileTurns (FindInPage.matchTurn casing) budget state).Holds
          (fun _ last => Finding last ∧ FindInPage.matchTurn casing last = .ended) Finding
          (fun _ => True) :=
        whileTurns_holds (fun kept => kept.matchTurn) (fun _ _ => trivial) budget
          ⟨uncounted, stack⟩
      apply (matched.mono (fun _ _ kept => kept) (fun _ kept => .inl kept.1)
        (fun _ threw => threw)).bind
      rintro left last ⟨finding, -⟩
      cases processed : processPartialMatchesInCurrentSection last with
      | error _ => trivial
      | ok next =>
        have kept := Finding.keptByMatching.processed finding processed
        have reset : Uncounted { next with regex := none } :=
          ⟨kept.1.inProgress, kept.1.visibleFound, kept.1.visibleIndex⟩
        exact reset.counting kept.2 rfl
    · simp [counting.regex] at isRegex
  · rw [if_neg isRegex]
    rcases waiting with uncounted | counting
    · exact uncounted.counting stack (Option.not_isSome_iff_eq_none.mp isRegex)
    · exact counting

/-- Counting depends on the matches and on how many have been found visible. -/
theorem Counting.of_same (counting : Counting visible index state)
    (inProgress : after.searchInProgress = state.searchInProgress)
    (stack : after.stack = state.stack) (regex : after.regex = state.regex)
    (same : after.matches = state.matches)
    (visibleFound : after.visibleFound = state.visibleFound) : Counting visible index after where
  inProgress := inProgress.trans counting.inProgress
  stack := stack.trans counting.stack
  regex := regex.trans counting.regex
  counted := by
    obtain ⟨_, _, _⟩ := counting.counted
    constructor
    · rwa [same]
    · rwa [same, visibleFound]
    · rwa [same]

theorem swapReplacement_eq (index : Nat) (state : State) :
    ∃ document, swapReplacement index state = { state with document } := by
  unfold swapReplacement
  split <;> grind

/-- The states of the loop over the replacements, wherever it is. -/
def Swapping (visible : Node → Bool) (_ : Nat) (state : State) : Prop :=
  Counting visible state.visibleIndex state

theorem executeReplacements_holds (counting : Counting visible state.visibleIndex state) :
    (executeReplacements budget state).Holds
      (fun _ last => Counting visible last.visibleIndex last) (Waiting visible)
      (fun _ => True) := by
  have start : Swapping visible state.replacementsIndex state := counting
  have carried : ∀ {current last}, state.replacementsIndex ≤ current →
      current < state.replacementsIndex + (state.replacements.length - state.replacementsIndex) →
      Swapping visible current last →
        Swapping visible (current + 1) (swapReplacement current last) := by
    intro current last _ _ swapping
    obtain ⟨_, same⟩ := swapReplacement_eq current last
    rw [same]
    exact swapping.of_same rfl rfl rfl rfl rfl
  apply (forIndices_holds _ _ budget carried start).mono
  · exact fun _ _ swapping => swapping
  · rintro cut ⟨current, last, -, -, swapping, rfl⟩
    simp [Waiting, swapping.of_same]
  · exact fun _ threw => threw

theorem Counting.next (counting : Counting visible index state)
    (inside : index < state.matches.length) :
    Counting visible (index + 1) (countMatch (fun _ => visible) index state) := by
  have counted := counting.counted.next inside
  obtain ⟨«_», _, same⟩ := countMatch_eq (fun _ => visible) index state
  rw [same] at counted ⊢
  exact ⟨counting.inProgress, counting.stack, counting.regex, counted⟩

def CountingOf (visible : Node → Bool) (stop index : Nat) (state : State) : Prop :=
  state.matches.length = stop ∧ Counting visible index state

theorem countVisible_holds (counting : Counting visible state.visibleIndex state) :
    (countVisible (fun _ => visible) budget state).Holds
      (fun _ last => CountedTo visible last.matches.length last) (Waiting visible)
      (fun _ => True) := by
  have whole := Nat.add_sub_cancel' counting.counted.inside
  have start : CountingOf visible state.matches.length state.visibleIndex state :=
    ⟨rfl, counting⟩
  have carried : ∀ {current last}, state.visibleIndex ≤ current →
      current < state.visibleIndex + (state.matches.length - state.visibleIndex) →
      CountingOf visible state.matches.length current last →
        CountingOf visible state.matches.length (current + 1)
          (countMatch (fun _ => visible) current last) := by
    rintro current last - below ⟨length, kept⟩
    refine ⟨(countMatch_matches_length _ _ _).trans length, kept.next ?_⟩
    rw [length]
    omega
  apply (forIndices_holds _ _ budget carried start).mono
  · rintro _ last ⟨length, kept⟩
    rw [whole, ← length] at kept
    exact kept.counted
  · rintro cut ⟨current, last, -, -, ⟨-, kept⟩, rfl⟩
    simp [Waiting, kept.of_same]
  · exact fun _ threw => threw

theorem searchPhases_holds (waiting : Waiting visible state) :
    (searchPhases casing (fun _ => visible) budget state).Holds
      (fun _ last => CountedTo visible last.matches.length last) (Waiting visible)
      (fun _ => True) := by
  apply (walk_holds budget waiting).bind
  rintro left walked ⟨waiting, stack⟩
  apply (matchText_holds left waiting stack).bind
  intro left matched counting
  apply (executeReplacements_holds left counting).bind
  intro left swapped counting
  exact countVisible_holds left counting

/-! ## Whole searches -/

/-- What is known of a search after some of its calls. -/
structure Pumped (visible : Node → Bool) (result : Returned × State) : Prop where
  cut : result.1 = .number timeout → Waiting visible result.2
  done : ∀ count, result.1 = .number count → count ≠ timeout →
    count = result.2.visibleFound ∧ CountedTo visible result.2.matches.length result.2

theorem Waiting.inProgress (waiting : Waiting visible state) : state.searchInProgress = true := by
  rcases waiting with uncounted | counting
  · exact uncounted.inProgress
  · exact counting.inProgress

theorem pumped_pumpSearch (waiting : Waiting visible state) :
    Pumped visible (pumpSearch casing (fun _ => visible) budget state) := by
  have holds : (searchPhases casing (fun _ => visible) budget state).Holds _ _ _ :=
    searchPhases_holds budget waiting
  unfold pumpSearch
  rw [if_neg (by simp [waiting.inProgress])]
  cases phases : searchPhases casing (fun _ => visible) budget state with
  | timedOut _ =>
    rw [phases] at holds
    refine ⟨fun _ => holds, fun count same notTimeout => ?_⟩
    cases same
    grind
  | thrown _ => exact ⟨nofun, nofun⟩
  | finished _ _ =>
    rw [phases] at holds
    refine ⟨fun same => ?_, fun count same _ => ?_⟩
    · cases same
    · cases same
      exact ⟨rfl, holds.inside, holds.found, holds.indices⟩

theorem Pumped.pumpUntilDone {result : Returned × State} (pumped : Pumped visible result)
    (budgets : List Nat) :
    Pumped visible (pumpUntilDone casing (fun _ => visible) budgets result) := by
  induction budgets generalizing result with
  | nil => exact pumped
  | cons _ _ _ =>
    grind [AllFrames.pumpUntilDone, pumped_pumpSearch, pumped.cut]

/-- The count is right for as many matches as the limit admits. -/
theorem CountedTo.countsCapped_iff (counted : CountedTo visible state.matches.length state) :
    CountsCapped visible state.visibleFound state ↔
      (visibleMatches visible state).length ≤ maxVisibleElements := by
  obtain ⟨-, found, indices⟩ := counted
  rw [List.take_length] at found indices
  constructor
  · rintro ⟨count, -⟩
    unfold visibleMatches at *
    rw [found] at count
    omega
  · intro few
    refine ⟨?_, ?_⟩
    · unfold visibleMatches at *
      rw [found]
      omega
    · unfold visibleMatches at *
      rw [indices]
      apply List.map_congr_left
      intro earlier mem
      have less := List.mem_range.mp mem
      rw [numberAfter, if_pos (by omega)]
      congr 1
      omega

/-- The module is enabled, or the page has the variable that the script does not declare. -/
def Enables (pageWidth : Bool) (frame : Frame) : Prop :=
  frame.hasInitialized = true ∨ frame.styleElement = true ∨ pageWidth = true
deriving Decidable

variable {frame : Frame} {pageWidth : Bool} {string : Text} {budget : Nat} {budgets : List Nat}
variable {layout : Layout}

theorem enableOnce_eq_none_iff : enableOnce pageWidth frame = none ↔ ¬ Enables pageWidth frame := by
  unfold enableOnce enable addDocumentStyle Enables
  grind

theorem state_of_enableOnce {enabled : Frame}
    (enables : enableOnce pageWidth frame = some enabled) :
    enabled.state = frame.state := by
  unfold enableOnce enable addDocumentStyle at enables
  grind

/-- A search in a frame that is not enabled throws, and nothing has changed. -/
theorem search_of_not_enables (disabled : ¬ Enables pageWidth frame) :
    search casing layout pageWidth string budget budgets frame = (.thrown, frame) := by
  have thrown : findString casing layout pageWidth string budget frame = (.thrown, frame) := by
    unfold findString
    rw [enableOnce_eq_none_iff.mpr disabled]
  have stays : pumpUntilDone casing layout budgets (.thrown, frame.state) =
      (.thrown, frame.state) := by
    cases budgets <;> rfl
  unfold search
  rw [thrown]
  simp only [stays]

/-- A search in a frame that is enabled is that of its document. -/
theorem search_of_enables (casing : Casing) (layout : Layout) (string : Text) (budget : Nat)
    (budgets : List Nat) (enables : Enables pageWidth frame) :
    ((search casing layout pageWidth string budget budgets frame).1,
      (search casing layout pageWidth string budget budgets frame).2.state) =
        pumpUntilDone casing layout budgets
          (if string = [] then (.number 0, cleanUpPrevious frame.state)
          else pumpSearch casing layout budget
            (startSearch string (cleanUpPrevious frame.state))) := by
  cases enabled : enableOnce pageWidth frame with
  | none => exact absurd enables (enableOnce_eq_none_iff.mp enabled)
  | some _ =>
    unfold search findString
    simp only [enabled, state_of_enableOnce enabled]

/-- What an enabled search has counted. -/
theorem countsCapped_iff_of_enables (enables : Enables pageWidth frame) {count : Int}
    (returned : (search casing (fun _ => visible) pageWidth string budget budgets frame).1 =
      .number count)
    (completed : count ≠ timeout) :
    CountsCapped visible count
        (search casing (fun _ => visible) pageWidth string budget budgets frame).2.state ↔
      (visibleMatches visible
        (search casing (fun _ => visible) pageWidth string budget budgets frame).2.state).length ≤
          maxVisibleElements := by
  have searched := search_of_enables casing (fun _ => visible) string budget budgets enables
  by_cases empty : string = []
  · have nothing : pumpUntilDone casing (fun _ => visible) budgets
        (.number 0, cleanUpPrevious frame.state) = (.number 0, cleanUpPrevious frame.state) := by
      cases budgets <;> rfl
    rw [if_pos empty, nothing, returned] at searched
    obtain ⟨number, same⟩ := Prod.mk.inj searched
    have none : visibleMatches visible (cleanUpPrevious frame.state) = [] := by
      simp [visibleMatches, cleanUpPrevious_matches]
    rw [same]
    cases number
    refine iff_of_true ⟨?_, ?_⟩ ?_ <;> rw [none]
    · rfl
    · rfl
    · exact Nat.zero_le _
  · have waiting : Waiting visible (startSearch string (cleanUpPrevious frame.state)) :=
      .inl ⟨rfl, rfl, rfl⟩
    have pumped : Pumped visible (pumpUntilDone casing (fun _ => visible) budgets
        (pumpSearch casing (fun _ => visible) budget
          (startSearch string (cleanUpPrevious frame.state)))) :=
      (pumped_pumpSearch budget waiting).pumpUntilDone budgets
    rw [if_neg empty] at searched
    rw [← searched] at pumped
    obtain ⟨found, counted⟩ := pumped.done count returned completed
    rw [found]
    exact counted.countsCapped_iff

/-- A search whose calls complete it once it is enabled returns the number of visible matches up
to the limit, and has numbered them so, exactly when it is enabled and the limit is not exceeded,
however its calls are cut. -/
theorem search_countsCapped_iff (casing : Casing) (visible : Node → Bool) (pageWidth : Bool)
    (string : Text) (budget : Nat) (budgets : List Nat) (frame : Frame)
    (completes : Enables pageWidth frame → ∃ count,
      (search casing (fun _ => visible) pageWidth string budget budgets frame).1 = .number count ∧
        count ≠ timeout) :
    (∃ count,
        (search casing (fun _ => visible) pageWidth string budget budgets frame).1 =
          .number count ∧
        count ≠ timeout ∧
        CountsCapped visible count
          (search casing (fun _ => visible) pageWidth string budget budgets frame).2.state) ↔
      Enables pageWidth frame ∧
        (visibleMatches visible (search casing (fun _ => visible) pageWidth string budget budgets
          frame).2.state).length ≤ maxVisibleElements := by
  constructor
  · rintro ⟨count, returned, completed, capped⟩
    have enables : Enables pageWidth frame := by
      by_contra disabled
      rw [search_of_not_enables disabled] at returned
      cases returned
    exact ⟨enables, (countsCapped_iff_of_enables enables returned completed).mp capped⟩
  · rintro ⟨enables, few⟩
    obtain ⟨count, returned, completed⟩ := completes enables
    exact ⟨count, returned, completed,
      (countsCapped_iff_of_enables enables returned completed).mpr few⟩

def searchLetters (pageWidth : Bool) (number : Nat) : Returned × Frame :=
  search asciiCasing (fun _ _ => true) pageWidth [97] 1000 []
    ⟨initial (Page.ofText (List.replicate number 97)), false, false⟩

/-- With the variable two letters are counted. -/
theorem search_countsCapped_iff_twoLetters :
    ∃ count, (searchLetters true 2).1 = .number count ∧ count ≠ timeout ∧
      CountsCapped (fun _ => true) count (searchLetters true 2).2.state :=
  (search_countsCapped_iff asciiCasing (fun _ => true) true [97] 1000 []
    ⟨initial (Page.ofText (List.replicate 2 97)), false, false⟩
    (fun _ => ⟨2, by decide +kernel, by decide⟩)).mpr
      ⟨.inr (.inr rfl), by decide +kernel⟩

/-- As the script stands it does not count a single letter; with the variable it counts 101
visible matches. -/
theorem not_countsCapped_letters :
    (searchLetters false 1).1 = .thrown ∧ (searchLetters true 101).1 = .number 101 ∧
      ¬ CountsCapped (fun _ => true) 101 (searchLetters true 101).2.state := by
  refine ⟨by decide +kernel, by decide +kernel, fun capped => ?_⟩
  have count := capped.count
  unfold maxVisibleElements at count
  omega

end AllFrames

end ChromiumIos.FindInPage
