import ChromiumIos.FindInPage.Invariant

/-!
# A search comes to the same however it is cut

`complete` is the search without a timer: the walk adds the text nodes in
document order, the matching loop treats the occurrences of the text one after
the other, every text node of a replacement is exchanged, and the matches are
counted.  Each call of `pumpSearch` that is cut leaves a state that completes to
the same, and one that is not cut ends there.
-/

namespace ChromiumIos.FindInPage

open Lib

/-! ## The walk -/

def reasonableTexts : List Node → List TextNode :=
  gather
    { text := fun node => [node]
      element := fun id nodeName inside =>
        if reasonable (.element id nodeName []) then inside else []
      other := fun _ => [] }

def admittedTexts : Node → List TextNode
  | .text node => [node]
  | .element _ _ childNodes => reasonableTexts childNodes
  | .other _ => []

theorem flatMap_admittedTexts_filter (childNodes : List Node) :
    (childNodes.filter reasonable).flatMap admittedTexts = reasonableTexts childNodes := by
  induction childNodes with
  | nil => rfl
  | cons node rest ih =>
    cases node with
    | text node => exact congrArg (node :: ·) ih
    | other _ => exact ih
    | element id nodeName inside =>
      change _ =
        (if reasonable (.element id nodeName []) then reasonableTexts inside else []) ++
          reasonableTexts rest
      have sameName : reasonable (.element id nodeName inside) =
        reasonable (.element id nodeName []) := rfl
      rw [List.filter_cons, sameName]
      split
      · rw [List.flatMap_cons, ih]
        rfl
      · exact ih

variable (casing : Casing)

def addSections (nodes : List TextNode) (state : State) : State :=
  nodes.foldl (fun state node => addSection casing node state) state

def walked (state : State) : State :=
  addSections casing (state.stack.flatMap admittedTexts) { state with stack := [] }

variable {text : Text} {regex : RegExp} {casing : Casing} (layout : Layout) (index : Nat)
  (oldIndex : Int) (turns : Nat) {after state : State}

theorem walked_walkTurn {next : State} (turned : walkTurn casing state = .again next) :
    walked casing next = walked casing state := by
  unfold walkTurn at turned
  split at turned
  · cases turned
  · next node rest stack =>
      cases turned
      unfold walked
      rw [stack]
      rfl
  · next id nodeName childNodes rest stack =>
      cases turned
      simp [walked, admittedTexts, stack, flatMap_admittedTexts_filter]
  · next id rest stack =>
      cases turned
      unfold walked
      rw [stack]
      rfl

theorem walked_of_stack_nil (empty : state.stack = []) : walked casing state = state := by
  cases state
  cases empty
  rfl

theorem stack_nil_of_walkTurn_over (ended : walkTurn casing state = .ended) : state.stack = [] := by
  grind [walkTurn]

/-! ## The matching loop -/

namespace RegExp

variable {casing : Casing} {source text : Text}

theorem length_le_of_matchesAt {index : Nat} (nonempty : source ≠ [])
    (found : matchesAt casing source text index) : index + source.length ≤ text.length := by
  have lengths := congrArg List.length (of_decide_eq_true found)
  have positive := List.length_pos_iff_ne_nil.mpr nonempty
  grind

variable {begin : Nat}

theorem exec_eq_some (found : regex.exec casing text = some begin) :
    regex.lastIndex ≤ begin ∧ matchesAt casing regex.source text begin := by
  refine ⟨?_, List.find?_some found⟩
  have mem := List.mem_of_find?_eq_some found
  exact (List.mem_range'_1.mp mem).1

theorem exec_bounds (nonempty : regex.source ≠ []) (found : regex.exec casing text = some begin) :
    regex.lastIndex < begin + regex.source.length ∧
      begin + regex.source.length ≤ text.length := by
  have positive := List.length_pos_iff_ne_nil.mpr nonempty
  obtain ⟨above, matched⟩ := exec_eq_some found
  exact ⟨by omega, length_le_of_matchesAt nonempty matched⟩

end RegExp

/-- Where the regular expression matches from an index on, one match after the other. -/
def occurrences (casing : Casing) (source text : Text) (start : Nat) : List Nat :=
  match found : (RegExp.mk source start).exec casing text with
  | none => []
  | some begin =>
    if nonempty : source = [] then []
    else begin :: occurrences casing source text (begin + source.length)
termination_by text.length - start
decreasing_by
  have bounds : start < begin + source.length ∧ begin + source.length ≤ text.length :=
    RegExp.exec_bounds nonempty found
  omega

theorem occurrences_of_none (none : regex.exec casing text = none) :
    occurrences casing regex.source text regex.lastIndex = [] := by
  unfold occurrences
  split
  · rfl
  · next begin found =>
      cases none.symm.trans found

variable {begin : Nat} {failed last : State} {landing : Landing}

theorem occurrences_of_some (nonempty : regex.source ≠ [])
    (some : regex.exec casing text = some begin) :
    occurrences casing regex.source text regex.lastIndex =
      begin :: occurrences casing regex.source text (begin + regex.source.length) := by
  conv_lhs => unfold occurrences
  split
  · next found => cases some.symm.trans found
  · next other found =>
      cases some.symm.trans found
      rw [dif_neg nonempty]

/-- Deal with the partial matches that remain and drop the regular expression. -/
def finishMatching (state : State) : Except State State :=
  (processPartialMatchesInCurrentSection state).map fun next => { next with regex := none }

def matchAll (casing : Casing) (state : State) : Except State State :=
  match state.regex with
  | none => .ok state
  | some regex =>
    (occurrences casing regex.source state.allText regex.lastIndex).foldlM
        (fun state begin =>
          foundMatch begin (begin + regex.source.length) (advance regex begin state))
        state >>= finishMatching

section MatchAll

variable {casing : Casing} {state : State} {regex : RegExp}

theorem matchAll_of_regex (isRegex : state.regex = some regex) :
    matchAll casing state =
      (occurrences casing regex.source state.allText regex.lastIndex).foldlM
          (fun state begin =>
            foundMatch begin (begin + regex.source.length) (advance regex begin state))
          state >>= finishMatching := by
  unfold matchAll
  rw [isRegex]

theorem matchAll_of_none (isRegex : state.regex = some regex)
    (none : regex.exec casing state.allText = none) :
    matchAll casing state = finishMatching state := by
  rw [matchAll_of_regex isRegex, occurrences_of_none none]
  rfl

theorem matchAll_of_over (isRegex : state.regex.isSome)
    (ended : matchTurn casing state = .ended) :
    matchAll casing state = finishMatching state := by
  grind [matchTurn_cases, matchAll_of_none]

theorem leaves_sameSearch (state : State) (begin ending : Nat) :
    Leaves (SameSearch state) (foundMatch begin ending state) :=
  (SameSearch.keptByMatching state).foundMatch ⟨rfl, rfl, rfl, rfl, rfl, rfl⟩ begin ending

theorem sameSearch_foundMatch {ending : Nat} {next : State}
    (found : foundMatch begin ending state = .ok next) : SameSearch state next := by
  have same := leaves_sameSearch state begin ending
  rw [found] at same
  exact same

theorem matchAll_of_found {next : State} (nonempty : regex.source ≠ [])
    (isRegex : state.regex = some regex) (some : regex.exec casing state.allText = some begin)
    (found : foundMatch begin (begin + regex.source.length) (advance regex begin state) =
      .ok next) : matchAll casing next = matchAll casing state := by
  have same := sameSearch_foundMatch found
  rw [matchAll_of_regex same.regex, matchAll_of_regex isRegex,
    occurrences_of_some nonempty some, List.foldlM_cons, found, same.allText]
  rfl

theorem matchAll_of_thrown (nonempty : regex.source ≠ []) (isRegex : state.regex = some regex)
    (some : regex.exec casing state.allText = some begin)
    (thrown : foundMatch begin (begin + regex.source.length) (advance regex begin state) =
      .error failed) : matchAll casing state = .error failed := by
  rw [matchAll_of_regex isRegex, occurrences_of_some nonempty some, List.foldlM_cons, thrown]
  rfl

end MatchAll

/-! ## Counting -/

/-- The state without the indices that are recorded only when a call is cut. -/
def settle (state : State) : State := { state with replacementsIndex := 0, visibleIndex := 0 }

theorem settle_countMatch (state : State) :
    settle (countMatch layout index state) = countMatch layout index (settle state) := by
  unfold countMatch settle
  by_cases full : maxVisibleElements < state.visibleFound
  · simp only [full, if_true]
    rfl
  · simp only [full, if_false]
    cases state.matches[index]? with
    | none => rfl
    | some _ =>
      simp only
      split <;> rfl

theorem countMatch_matches_length (state : State) :
    (countMatch layout index state).matches.length = state.matches.length := by
  unfold countMatch
  split
  · exact List.length_modify ..
  · split
    · rfl
    · split
      · exact List.length_modify ..
      · rfl

def counted (layout : Layout) (state : State) : State :=
  forIndicesUncut (countMatch layout) (state.matches.length - state.visibleIndex)
    state.visibleIndex (settle state)

/-! ## Selecting a match -/

def SameButSelection (before after : State) : Prop :=
  after = { before with
    selectedMatchIndex := after.selectedMatchIndex
    selectHighlighted := after.selectHighlighted }

theorem SameButSelection.trans {first second third : State}
    (before : SameButSelection first second) (after : SameButSelection second third) :
    SameButSelection first third := by
  rw [before] at after
  exact after

theorem sameButSelection_incrementIndex (state : State) :
    SameButSelection state (incrementIndex state) := rfl

theorem sameButSelection_decrementIndex (state : State) :
    SameButSelection state (decrementIndex state) := rfl

theorem sameButSelection_findScrollDimensions (state : State) :
    SameButSelection state (findScrollDimensions state).2 := by
  unfold findScrollDimensions
  split
  · rfl
  · split <;> rfl

theorem sameButSelection_seekNext (state : State) :
    SameButSelection state (seekNext layout oldIndex turns state).2 := by
  induction turns generalizing state with
  | zero => rfl
  | succ _ _ =>
    unfold seekNext
    split
    · rfl
    · split
      · exact sameButSelection_findScrollDimensions state
      · split
        · rfl
        · grind [SameButSelection, incrementIndex]

theorem sameButSelection_seekPrev {layout : Layout} {old : Int} {turns : Nat}
    (sought : seekPrev layout old turns state = some (landing, last)) :
    SameButSelection state last := by
  induction turns generalizing state with
  | zero => cases sought
  | succ _ _ =>
    unfold seekPrev at sought
    split at sought
    · cases sought
      rfl
    · split at sought <;> grind [SameButSelection, sameButSelection_findScrollDimensions,
        sameButSelection_decrementIndex]

theorem sameButSelection_clearSelection (cleared : clearSelection state = .ok after) :
    SameButSelection state after := by
  unfold clearSelection at cleared
  split at cleared
  · split at cleared
    · cases cleared
    · cases cleared
      rfl
  · cases cleared
    rfl

theorem clearSelection_error (threw : clearSelection state = .error failed) : failed = state := by
  grind [clearSelection]

theorem sameButSelection_goNext (state : State) :
    SameButSelection state (goNext layout state).2 := by
  unfold goNext
  split
  · rfl
  · split
    · next failed threw =>
        cases clearSelection_error threw
        rfl
    · next cleared done =>
        exact (sameButSelection_clearSelection done).trans
          ((sameButSelection_incrementIndex cleared).trans (sameButSelection_seekNext ..))

theorem concludeSearch_ne_timeout (state : State) : (concludeSearch layout state).1 ≠ .timeout := by
  unfold concludeSearch
  split <;> nofun

theorem concludeSearch_snd (state : State) :
    (concludeSearch layout state).2 =
      (goNext layout { state with searchInProgress := false }).2 := by
  unfold concludeSearch
  grind

theorem sameButSelection_goPrev {layout : Layout}
    (went : goPrev layout state = some (landing, last)) : SameButSelection state last := by
  unfold goPrev at went
  split at went
  · cases went
    rfl
  · split at went
    · next failed threw =>
        cases clearSelection_error threw
        cases went
        rfl
    · next cleared done =>
        exact (sameButSelection_clearSelection done).trans
          ((sameButSelection_decrementIndex cleared).trans (sameButSelection_seekPrev went))

theorem Sound.sameButSelection {page : Page} (sound : Sound page state)
    (found : state.matches ≠ []) (same : SameButSelection state after) : Sound page after := by
  rw [same]
  simp [sound.of_same, found]

theorem Sound.goNext {page : Page} {state : State} (sound : Sound page state)
    (layout : Layout) : Sound page (goNext layout state).2 := by
  by_cases none : state.matches = []
  · simp [FindInPage.goNext, none, sound]
  · exact sound.sameButSelection none (sameButSelection_goNext layout state)

theorem Sound.goPrev {page : Page} {layout : Layout} {state : State} (sound : Sound page state)
    (went : goPrev layout state = some (landing, last)) : Sound page last := by
  by_cases none : state.matches = []
  · unfold FindInPage.goPrev at went
    grind
  · exact sound.sameButSelection none (sameButSelection_goPrev went)

theorem findScrollDimensions_settle (state : State) :
    findScrollDimensions (settle state) =
      ((findScrollDimensions state).1, settle (findScrollDimensions state).2) := by
  have sameMatch : getCurrentSelectedMatch (settle state) = getCurrentSelectedMatch state := rfl
  unfold findScrollDimensions
  rw [sameMatch]
  split
  · rfl
  · split <;> rfl

/-- Selecting a match does not depend on the recorded indices. -/
theorem seekNext_settle (state : State) :
    seekNext layout oldIndex turns (settle state) =
      ((seekNext layout oldIndex turns state).1,
        settle (seekNext layout oldIndex turns state).2) := by
  induction turns generalizing state with
  | zero => rfl
  | succ _ ih =>
    have sameMatch : getCurrentSelectedMatch (settle state) = getCurrentSelectedMatch state :=
      rfl
    have sameNext : incrementIndex (settle state) = settle (incrementIndex state) := rfl
    have sameIndex : (settle state).selectedMatchIndex = state.selectedMatchIndex := rfl
    have sameNextIndex : (settle (incrementIndex state)).selectedMatchIndex =
      (incrementIndex state).selectedMatchIndex := rfl
    have sameDocument : (settle state).document = state.document := rfl
    unfold seekNext
    rw [sameMatch, sameDocument, sameNext, sameIndex, sameNextIndex, ih,
      findScrollDimensions_settle]
    split
    · rfl
    · grind

theorem clearSelection_settle (state : State) :
    clearSelection (settle state) =
      match clearSelection state with
      | .error failed => .error (settle failed)
      | .ok next => .ok (settle next) := by
  have sameMatch : getCurrentSelectedMatch (settle state) = getCurrentSelectedMatch state := rfl
  have sameIndex : (settle state).selectedMatchIndex = state.selectedMatchIndex := rfl
  unfold clearSelection
  rw [sameMatch, sameIndex]
  split
  · cases getCurrentSelectedMatch state <;> rfl
  · rfl

theorem goNext_settle (state : State) :
    goNext layout (settle state) =
      ((goNext layout state).1, settle (goNext layout state).2) := by
  have sameMatches : (settle state).matches = state.matches := rfl
  unfold goNext
  rw [clearSelection_settle, sameMatches]
  split
  · rfl
  · cases clearSelection state with
    | error _ => rfl
    | ok next =>
      have sameNext : incrementIndex (settle next) = settle (incrementIndex next) := rfl
      simp only [sameNext, seekNext_settle]
      rfl

theorem concludeSearch_settle (state : State) :
    concludeSearch layout (settle state) =
      ((concludeSearch layout state).1, settle (concludeSearch layout state).2) := by
  have next : goNext layout { settle state with searchInProgress := false } =
      ((goNext layout { state with searchInProgress := false }).1,
        settle (goNext layout { state with searchInProgress := false }).2) :=
    goNext_settle layout { state with searchInProgress := false }
  unfold concludeSearch
  rw [next]
  obtain ⟨landing, _⟩ := goNext layout { state with searchInProgress := false }
  cases landing <;> rfl

/-! ## The whole search -/

def highlighted (page : Page) (state : State) : State :=
  { state with document := render (placed state.replacements) page.roots }

/-- The rest of a search without a timer. -/
def complete (casing : Casing) (layout : Layout) (page : Page) (state : State) :
    Outcome × State :=
  match matchAll casing (walked casing state) with
  | .error failed => (.thrown, settle failed)
  | .ok matched => concludeSearch layout (counted layout (highlighted page matched))

/-- A search in progress, and what it will come to. -/
structure Underway (casing : Casing) (layout : Layout) (page : Page)
    (target : Outcome × State) (state : State) : Prop where
  sound : Sound page state
  inProgress : state.searchInProgress = true
  completes : complete casing layout page state = target

section Phases

variable {casing : Casing} {layout : Layout} {page : Page} {target : Outcome × State}

/-- What a search that throws leaves. -/
def Threw (page : Page) (target : Outcome × State) (failed : State) : Prop :=
  Sound page failed ∧ target = (.thrown, settle failed)

theorem complete_of_walked {next : State} (same : walked casing next = walked casing state) :
    complete casing layout page next = complete casing layout page state := by
  unfold complete
  rw [same]

theorem walkTurn_searchInProgress {next : State} (turned : walkTurn casing state = .again next) :
    next.searchInProgress = state.searchInProgress := by
  unfold walkTurn at turned
  split at turned <;> cases turned <;> rfl

theorem walkTurn_not_thrown : walkTurn casing state ≠ .thrown failed := by
  unfold walkTurn
  split <;> nofun

theorem Underway.walkTurn {state next : State}
    (underway : Underway casing layout page target state)
    (turned : walkTurn casing state = .again next) :
    Underway casing layout page target next where
  sound := underway.sound.walkTurn turned
  inProgress := (walkTurn_searchInProgress turned).trans underway.inProgress
  completes := (complete_of_walked (walked_walkTurn turned)).trans underway.completes

variable {count : Nat} {matched : State} (budget : Nat)

theorem walk_holds (underway : Underway casing layout page target state) :
    (whileTurns (walkTurn casing) budget state).Holds
      (fun _ last => Underway casing layout page target last ∧ last.stack = [])
      (Underway casing layout page target) (Threw page target) := by
  grind [walkTurn, whileTurns_holds, Underway.walkTurn]

structure Walked (casing : Casing) (layout : Layout) (page : Page)
    (target : Outcome × State) (state : State) : Prop where
  underway : Underway casing layout page target state
  stack : state.stack = []

theorem Walked.completes {state : State} (done : Walked casing layout page target state) :
    (match matchAll casing state with
      | .error failed => (.thrown, settle failed)
      | .ok matched => concludeSearch layout (counted layout (highlighted page matched))) =
        target := by
  simpa [complete, walked_of_stack_nil done.stack] using done.underway.completes

variable (done : Walked casing layout page target state)
include done

/-- A walked search goes on from any state that matches to the same. -/
theorem Walked.of_matchAll {next : State} (sound : Sound page next)
    (inProgress : next.searchInProgress = true) (stack : next.stack = [])
    (same : matchAll casing next = matchAll casing state) :
    Walked casing layout page target next := by
  refine ⟨⟨sound, inProgress, ?_⟩, stack⟩
  unfold complete
  rw [walked_of_stack_nil stack, same]
  exact done.completes

theorem Walked.matchTurn {next : State} (turned : matchTurn casing state = .again next) :
    Walked casing layout page target next ∧ next.regex.isSome := by
  rcases matchTurn_cases casing state with ⟨ended, -⟩ | ⟨regex, begin, isRegex, found, outcome⟩
  · cases ended.symm.trans turned
  · rcases outcome with ⟨failed, threw, -⟩ | ⟨after, again, treated⟩
    · cases threw.symm.trans turned
    · cases again.symm.trans turned
      have same := sameSearch_foundMatch treated
      have busy := done.underway.sound.foundMatch isRegex begin
      rw [treated] at busy
      refine ⟨?_, by rw [same.regex]; rfl⟩
      exact done.of_matchAll busy.sound (same.searchInProgress.trans done.underway.inProgress)
        (same.stack.trans done.stack)
        (by grind [matchAll_of_found, done.underway.sound.source])

theorem Walked.matchTurn_thrown (turned : FindInPage.matchTurn casing state = .thrown failed) :
    Threw page target failed := by
  rcases matchTurn_cases casing state with ⟨ended, -⟩ | ⟨regex, begin, isRegex, found, outcome⟩
  · cases ended.symm.trans turned
  · rcases outcome with ⟨after, threw, treated⟩ | ⟨after, again, -⟩
    · have busy := done.underway.sound.foundMatch isRegex begin
      rw [treated] at busy
      grind [Threw, matchAll_of_thrown, done.completes, done.underway.sound.source, busy.sound]
    · cases again.symm.trans turned

omit done

structure Matched (casing : Casing) (layout : Layout) (page : Page)
    (target : Outcome × State) (state : State) : Prop where
  walked : Walked casing layout page target state
  regex : state.regex = none

theorem Sound.process {page : Page} {state next : State} (sound : Sound page state)
    (processed : processPartialMatchesInCurrentSection state = .ok next) : Sound page next := by
  by_cases none : state.matches = []
  · rcases process_cases processed with ⟨-, rfl⟩ | ⟨within, parts, -⟩
    · exact sound
    · exact absurd (sound.clean none).partialMatches parts
  · exact (Busy.process ⟨sound, none⟩ processed).sound

theorem Sound.dropRegex (sound : Sound page state) : Sound page { state with regex := none } where
  walked := sound.walked
  unwalked := sound.unwalked
  shown := sound.shown_of_same rfl rfl rfl
  source := nofun
  unexecuted pending := sound.unexecuted (pending.imp id nofun)
  clean none := (sound.clean none).of_same rfl rfl rfl rfl rfl rfl rfl

/-- The end of the matching loop, once there is no further match. -/
theorem Walked.finishMatching {state : State} (done : Walked casing layout page target state)
    (isRegex : state.regex.isSome) (ended : FindInPage.matchTurn casing state = .ended)
    (budget : Nat) :
    Pause.Holds (fun _ last => Matched casing layout page target last)
      (Underway casing layout page target) (Threw page target)
      (match processPartialMatchesInCurrentSection state with
        | .error failed => .thrown failed
        | .ok next => .finished budget { next with regex := none }) := by
  have finished := matchAll_of_over isRegex ended
  have completes := done.completes
  cases processed : processPartialMatchesInCurrentSection state with
  | error _ =>
    rw [finished, FindInPage.finishMatching, processed] at completes
    refine ⟨?_, completes.symm⟩
    rw [process_error processed]
    exact done.underway.sound
  | ok next =>
    have same : SameSearch state next :=
      (SameSearch.keptByMatching state).processed (SameSearch.refl state) processed
    refine ⟨done.of_matchAll (done.underway.sound.process processed).dropRegex
      (same.searchInProgress.trans done.underway.inProgress)
      (same.stack.trans done.stack) ?_, rfl⟩
    rw [finished, FindInPage.finishMatching, processed]
    rfl

include done

theorem matchText_holds :
    (matchText casing budget state).Holds
      (fun _ last => Matched casing layout page target last)
      (Underway casing layout page target) (Threw page target) := by
  unfold matchText
  by_cases isRegex : state.regex.isSome
  · have matched : (whileTurns (matchTurn casing) budget state).Holds
        (fun _ last => (Walked casing layout page target last ∧ last.regex.isSome) ∧
          matchTurn casing last = .ended)
        (fun cut => Walked casing layout page target cut ∧ cut.regex.isSome)
        (Threw page target) :=
      whileTurns_holds (fun kept turned => kept.1.matchTurn turned)
        (fun kept turned => kept.1.matchTurn_thrown turned) budget ⟨done, isRegex⟩
    rw [if_pos isRegex]
    apply (matched.mono (fun _ _ kept => kept) (fun _ kept => kept.1.underway)
      (fun _ threw => threw)).bind
    rintro left last ⟨⟨done, isRegex⟩, ended⟩
    exact done.finishMatching isRegex ended left
  · rw [if_neg isRegex]
    exact ⟨done, Option.not_isSome_iff_eq_none.mp isRegex⟩

omit done

theorem matchAll_of_regex_none (none : state.regex = none) : matchAll casing state = .ok state := by
  unfold matchAll
  rw [none]

theorem Matched.completes {state : State} (matched : Matched casing layout page target state) :
    concludeSearch layout (counted layout (highlighted page state)) = target := by
  simpa [matchAll_of_regex_none matched.regex] using matched.walked.completes

theorem matched_of (sound : Sound page state) (inProgress : state.searchInProgress = true)
    (stack : state.stack = []) (regex : state.regex = none)
    (completes : concludeSearch layout (counted layout (highlighted page state)) = target) :
    Matched casing layout page target state := by
  refine ⟨⟨⟨sound, inProgress, ?_⟩, stack⟩, regex⟩
  unfold complete
  rw [walked_of_stack_nil stack, matchAll_of_regex_none regex]
  exact completes

/-- The states of the loop over the replacements, which has executed at least
those before the index. -/
def Swapping (page : Page) (matched : State) (index : Nat) (state : State) : Prop :=
  (∃ document, state = { matched with document }) ∧
    ∃ count, index ≤ count ∧ matched.replacementsIndex ≤ count ∧ Shows page count state

variable {index : Nat}

theorem Swapping.next (swapping : Swapping page matched index state)
    (inRange : index < matched.replacements.length) :
    Swapping page matched (index + 1) (swapReplacement index state) := by
  obtain ⟨⟨document, rfl⟩, count, reached, recorded, shown⟩ := swapping
  refine ⟨?_, max count (index + 1), Nat.le_max_right _ _,
    Nat.le_trans recorded (Nat.le_max_left _ _), shown.swapReplacement reached inRange⟩
  grind [swapReplacement]

theorem Sound.withDocument {document : List Node} (sound : Sound page matched)
    (stack : matched.stack = []) (regex : matched.regex = none)
    (recorded : matched.replacementsIndex ≤ count)
    (shown : Shows page count { matched with document }) :
    Sound page { matched with document } where
  walked := sound.walked
  unwalked := sound.unwalked
  shown := ⟨count, recorded, shown⟩
  source := sound.source
  unexecuted pending := by
    grind
  clean none := (sound.clean none).of_same rfl rfl rfl rfl rfl rfl rfl

/-- The index the loop over the replacements is cut at. -/
theorem Sound.recordReplacement (sound : Sound page state) (found : state.matches ≠ [])
    (reached : index ≤ count) (shown : Shows page count state) :
    Sound page { state with replacementsIndex := index } where
  walked := sound.walked
  unwalked := sound.unwalked
  shown := ⟨count, reached, shown.replaces, shown.executed, shown.document⟩
  source := sound.source
  unexecuted := sound.unexecuted
  clean none := absurd none found

theorem executeReplacements_holds (matched : Matched casing layout page target state) :
    (executeReplacements budget state).Holds
      (fun _ last => Matched casing layout page target last ∧
        last.document = render (placed last.replacements) page.roots)
      (Underway casing layout page target) (Threw page target) := by
  have sound := matched.walked.underway.sound
  have inProgress := matched.walked.underway.inProgress
  obtain ⟨count, recorded, shown⟩ := sound.shown
  have inRange : state.replacementsIndex ≤ state.replacements.length :=
    Nat.le_trans recorded shown.executed
  have start : Swapping page state state.replacementsIndex state :=
    ⟨⟨state.document, rfl⟩, count, recorded, recorded, shown⟩
  have swapped : (executeReplacements budget state).Holds
      (fun _ last => Swapping page state
        (state.replacementsIndex + (state.replacements.length - state.replacementsIndex)) last)
      (fun cut => ∃ current last, state.replacementsIndex ≤ current ∧
        current < state.replacementsIndex +
          (state.replacements.length - state.replacementsIndex) ∧
        Swapping page state current last ∧ cut = { last with replacementsIndex := current })
      (Threw page target) :=
    forIndices_holds _ _ budget (fun _ below swapping => swapping.next (by omega)) start
  apply swapped.mono
  · intro _ last swapping
    rw [Nat.add_sub_cancel' inRange] at swapping
    obtain ⟨⟨document, rfl⟩, count, reached, recorded, shown⟩ := swapping
    have soundLast :=
      sound.withDocument matched.walked.stack matched.regex recorded shown
    refine ⟨matched_of soundLast inProgress matched.walked.stack matched.regex
      matched.completes, ?_⟩
    grind [List.take_of_length_le, shown.document]
  · rintro cut ⟨current, last, above, below, swapping, rfl⟩
    obtain ⟨⟨document, rfl⟩, count, reached, recorded, shown⟩ := swapping
    have found : state.matches ≠ [] := by
      intro none
      have empty := congrArg List.length (sound.clean none).replacements
      rw [List.length_nil] at empty
      omega
    have soundLast :=
      sound.withDocument matched.walked.stack matched.regex recorded shown
    have soundCut := soundLast.recordReplacement found reached shown
    exact (matched_of soundCut inProgress matched.walked.stack matched.regex
      matched.completes).walked.underway
  · exact fun _ threw => threw

/-- The states of the loop that counts the visible matches. -/
structure Counting (casing : Casing) (layout : Layout) (page : Page)
    (target : Outcome × State) (stop index : Nat) (state : State) : Prop where
  sound : Sound page state
  inProgress : state.searchInProgress = true
  stack : state.stack = []
  regex : state.regex = none
  document : state.document = render (placed state.replacements) page.roots
  length : state.matches.length = stop
  completes : concludeSearch layout (forIndicesUncut (countMatch layout) (stop - index) index
    (settle state)) = target

/-- Counting a match changes nothing the other phases depend on. -/
theorem countMatch_eq (layout : Layout) (index : Nat) (state : State) :
    ∃ «matches» visibleFound,
      countMatch layout index state = { state with «matches», visibleFound } := by
  unfold countMatch
  split
  · exact ⟨_, _, rfl⟩
  · split
    · exact ⟨_, _, rfl⟩
    · split
      · exact ⟨_, _, rfl⟩
      · exact ⟨_, _, rfl⟩

theorem Sound.countMatch (sound : Sound page state) (layout : Layout)
    (inRange : index < state.matches.length) : Sound page (countMatch layout index state) := by
  have length := countMatch_matches_length layout index state
  obtain ⟨«matches», visibleFound, same⟩ := countMatch_eq layout index state
  grind [sound.of_same]

theorem Counting.next {stop : Nat}
    (counting : Counting casing layout page target stop index state) (below : index < stop) :
    Counting casing layout page target stop (index + 1) (countMatch layout index state) := by
  have sound := counting.sound.countMatch layout (counting.length ▸ below)
  have length := (countMatch_matches_length layout index state).trans counting.length
  have completes : concludeSearch layout (forIndicesUncut (countMatch layout)
      (stop - (index + 1)) (index + 1) (settle (countMatch layout index state))) = target := by
    rw [settle_countMatch, forIndicesUncut_step below]
    exact counting.completes
  obtain ⟨«_», _, same⟩ := countMatch_eq layout index state
  rw [same] at sound length completes ⊢
  exact ⟨sound, counting.inProgress, counting.stack, counting.regex, counting.document, length,
    completes⟩

/-- The index the count of the visible matches is cut at. -/
theorem Sound.recordVisible (sound : Sound page state) (visibleIndex : Nat) :
    Sound page { state with visibleIndex } where
  walked := sound.walked
  unwalked := sound.unwalked
  shown := sound.shown_of_same rfl rfl rfl
  source := sound.source
  unexecuted := sound.unexecuted
  clean none := (sound.clean none).of_same rfl rfl rfl rfl rfl rfl rfl

theorem highlighted_eq_self
    (document : state.document = render (placed state.replacements) page.roots) :
    highlighted page state = state := by
  unfold highlighted
  rw [← document]

theorem countVisible_holds (matched : Matched casing layout page target state)
    (document : state.document = render (placed state.replacements) page.roots) :
    (countVisible layout budget state).Holds
      (fun _ last => Sound page last ∧ concludeSearch layout (settle last) = target)
      (Underway casing layout page target) (Threw page target) := by
  have completes := matched.completes
  rw [highlighted_eq_self document] at completes
  have start : Counting casing layout page target state.matches.length state.visibleIndex state :=
    ⟨matched.walked.underway.sound, matched.walked.underway.inProgress, matched.walked.stack,
      matched.regex, document, rfl, completes⟩
  have counted : (countVisible layout budget state).Holds
      (fun _ last => Counting casing layout page target state.matches.length
        (state.visibleIndex + (state.matches.length - state.visibleIndex)) last)
      (fun cut => ∃ current last, state.visibleIndex ≤ current ∧
        current < state.visibleIndex + (state.matches.length - state.visibleIndex) ∧
        Counting casing layout page target state.matches.length current last ∧
        cut = { last with visibleIndex := current })
      (Threw page target) :=
    forIndices_holds _ _ budget (fun above below counting => counting.next (by omega)) start
  apply counted.mono
  · intro _ last counting
    refine ⟨counting.sound, ?_⟩
    have completes := counting.completes
    rw [show state.matches.length -
      (state.visibleIndex + (state.matches.length - state.visibleIndex)) = 0 by omega] at completes
    exact completes
  · rintro cut ⟨current, last, above, below, counting, rfl⟩
    apply Walked.underway
    apply Matched.walked
    apply matched_of (counting.sound.recordVisible current) counting.inProgress counting.stack
      counting.regex
    have shown : highlighted page { last with visibleIndex := current } =
        { last with visibleIndex := current } :=
      highlighted_eq_self counting.document
    rw [shown]
    have completes := counting.completes
    rw [← counting.length] at completes
    exact completes
  · exact fun _ threw => threw

/-- A call that is cut leaves the search underway; otherwise the search has come
to what it comes to without a timer. -/
theorem searchPhases_holds (underway : Underway casing layout page target state) :
    (searchPhases casing layout budget state).Holds
      (fun _ last => Sound page last ∧ concludeSearch layout (settle last) = target)
      (Underway casing layout page target) (Threw page target) := by
  apply (walk_holds budget underway).bind
  rintro left state ⟨underway, stack⟩
  apply (matchText_holds left ⟨underway, stack⟩).bind
  intro left state matched
  apply (executeReplacements_holds left matched).bind
  grind [countVisible_holds]

theorem Sound.concludeSearch (sound : Sound page state) (layout : Layout) :
    Sound page (concludeSearch layout state).2 := by
  have searched : Sound page { state with searchInProgress := false } := {
    walked := sound.walked
    unwalked := sound.unwalked
    shown := sound.shown_of_same rfl rfl rfl
    source := sound.source
    unexecuted := sound.unexecuted
    clean := fun none => (sound.clean none).of_same rfl rfl rfl rfl rfl rfl rfl }
  rw [concludeSearch_snd]
  exact searched.goNext layout

/-- One call of `pumpSearch`, by what it returns. -/
theorem pumpSearch_underway {outcome : Outcome}
    (underway : Underway casing layout page target state)
    (pumped : pumpSearch casing layout budget state = (outcome, last)) :
    Sound page last ∧
      (outcome = .timeout → Underway casing layout page target last) ∧
      (outcome ≠ .timeout → (outcome, settle last) = target) := by
  have holds := searchPhases_holds budget underway
  unfold pumpSearch at pumped
  rw [if_neg (by simp [underway.inProgress])] at pumped
  cases phases : searchPhases casing layout budget state with
  | timedOut _ =>
    rw [phases] at holds pumped
    cases pumped
    exact ⟨holds.sound, fun _ => holds, fun finished => absurd rfl finished⟩
  | thrown _ =>
    rw [phases] at holds pumped
    cases pumped
    exact ⟨holds.1, nofun, fun _ => holds.2.symm⟩
  | finished _ reached =>
    rw [phases] at holds pumped
    obtain ⟨sound, concluded⟩ := holds
    have soundLast := sound.concludeSearch layout
    have settled := concludeSearch_settle layout reached
    change concludeSearch layout reached = (outcome, last) at pumped
    rw [concluded, pumped] at settled
    rw [pumped] at soundLast
    refine ⟨soundLast, ?_, fun _ => settled.symm⟩
    intro isTimeout
    rw [isTimeout] at pumped
    exact absurd (congrArg Prod.fst pumped) (concludeSearch_ne_timeout layout reached)

end Phases

end ChromiumIos.FindInPage
