import ChromiumIos.FindInPage.Resuming

/-!
# Searches

A search is a call of `highlightWord` and the calls of `pumpSearch` that follow
it as long as the timeout value is returned.  It starts from a state in which
nothing is highlighted, can be completed by one call with a long enough timeout,
and comes to the same however the calls are cut.
-/

namespace ChromiumIos.FindInPage

open Lib

variable {casing : Casing} {layout : Layout} {page : Page}

def pumpUntilDone (casing : Casing) (layout : Layout) :
    List Nat → Outcome × State → Outcome × State
  | [], result => result
  | budget :: rest, result =>
    if result.1 = .timeout then
      pumpUntilDone casing layout rest (pumpSearch casing layout budget result.2)
    else result

def search (casing : Casing) (layout : Layout) (findText : Text) (budget : Nat)
    (budgets : List Nat) (state : State) : Outcome × State :=
  pumpUntilDone casing layout budgets (highlightWord casing layout findText budget state)

/-! ## The start of a search -/

variable {state : State} {budget : Nat}

theorem Sound.cleanUp (sound : Sound page state) : Sound page (cleanUp state) := by
  obtain ⟨_, -, shown⟩ := sound.shown
  have document := shown.cleanUp_document
  constructor
  · nofun
  · exact sound.unwalked
  · exact ⟨0, Nat.le_refl _, nofun, Nat.le_refl _, document.trans (render_none page.roots).symm⟩
  · exact sound.source
  · exact fun _ => document
  · exact fun _ => ⟨rfl, rfl, rfl, rfl, rfl, rfl, rfl⟩

theorem cleanUpPrevious_matches (state : State) : (cleanUpPrevious state).matches = [] := by
  unfold cleanUpPrevious
  split
  · assumption
  · rfl

theorem Sound.cleanUpPrevious (sound : Sound page state) : Sound page (cleanUpPrevious state) := by
  unfold FindInPage.cleanUpPrevious
  split
  · exact sound
  · exact sound.cleanUp

def started (findText : Text) (state : State) : State :=
  startSearch findText (cleanUpPrevious state)

variable {findText : Text}

theorem Sound.started (sound : Sound page state) (nonempty : findText ≠ []) :
    Sound page (started findText state) := by
  have cleaned := sound.cleanUpPrevious
  have none := cleanUpPrevious_matches state
  have document := cleaned.document_of_matches_nil none
  constructor
  · exact cleaned.walked
  · change ∀ node ∈ textNodes (FindInPage.cleanUpPrevious state).document, _
    rw [document]
    exact fun node mem => mem
  · exact cleaned.shown_of_same rfl rfl rfl
  · intro regex isRegex
    cases isRegex
    exact nonempty
  · exact fun _ => document
  · intro _
    exact (cleaned.clean none).of_same rfl rfl rfl rfl rfl rfl rfl

/-! ## Cut searches -/

/-- What is known of a search after some of its calls. -/
structure Pumped (casing : Casing) (layout : Layout) (page : Page) (target : Outcome × State)
    (result : Outcome × State) : Prop where
  sound : Sound page result.2
  cut : result.1 = .timeout → Underway casing layout page target result.2
  done : result.1 ≠ .timeout → (result.1, settle result.2) = target

theorem pumped_pumpSearch {target : Outcome × State}
    (underway : Underway casing layout page target state) (budget : Nat) :
    Pumped casing layout page target (pumpSearch casing layout budget state) := by
  obtain ⟨sound, cut, done⟩ := pumpSearch_underway budget underway rfl
  exact ⟨sound, cut, done⟩

theorem Pumped.pumpUntilDone {target result : Outcome × State}
    (pumped : Pumped casing layout page target result) (budgets : List Nat) :
    Pumped casing layout page target (pumpUntilDone casing layout budgets result) := by
  induction budgets generalizing result with
  | nil => exact pumped
  | cons _ _ _ =>
    grind [FindInPage.pumpUntilDone, pumped_pumpSearch, pumped.cut]

theorem search_pumped (sound : Sound page state) (nonempty : findText ≠ []) (budget : Nat)
    (budgets : List Nat) :
    Pumped casing layout page (complete casing layout page (started findText state))
      (search casing layout findText budget budgets state) := by
  apply Pumped.pumpUntilDone
  unfold highlightWord
  rw [if_neg nonempty]
  exact pumped_pumpSearch ⟨sound.started nonempty, rfl, rfl⟩ budget

theorem search_empty (budget : Nat) (budgets : List Nat) (state : State) :
    search casing layout [] budget budgets state = (.noResults, cleanUpPrevious state) := by
  unfold search highlightWord
  rw [if_pos rfl]
  cases budgets <;> rfl

/-! ## The highlights of the matches -/

def matchNodes (state : State) : List (List ChromeFind) := state.matches.map Match.nodes

theorem matchNodes_setVisibleIndex (index visibleIndex : Nat) (state : State) :
    matchNodes (setVisibleIndex index visibleIndex state) = matchNodes state := by
  unfold matchNodes setVisibleIndex
  apply List.ext_getElem?
  grind

theorem matchNodes_countMatch (layout : Layout) (index : Nat) (state : State) :
    matchNodes (countMatch layout index state) = matchNodes state := by
  grind [matchNodes, countMatch, matchNodes_setVisibleIndex]

theorem matchNodes_counted (layout : Layout) (state : State) :
    matchNodes (counted layout state) = matchNodes state := by
  have uncut : ∀ (count index : Nat) (state : State),
      matchNodes (forIndicesUncut (countMatch layout) count index state) =
        matchNodes state := by
    intro count
    induction count with
    | zero => exact fun _ _ => rfl
    | succ _ _ =>
      grind [forIndicesUncut, matchNodes_countMatch]
  exact uncut _ _ (settle state)

theorem matchNodes_concludeSearch (layout : Layout) (state : State) :
    matchNodes (concludeSearch layout state).2 = matchNodes state := by
  rw [concludeSearch_snd, sameButSelection_goNext]
  rfl

/-! ## A long enough timeout -/

def remainingText (state : State) : Nat :=
  match state.regex with
  | none => 0
  | some regex => state.allText.length - regex.lastIndex

theorem nodeIds_filter_length_le (keep : Node → Bool) (nodes : List Node) :
    (nodeIds (nodes.filter keep)).length ≤ (nodeIds nodes).length := by
  induction nodes with
  | nil => exact Nat.le_refl _
  | cons node rest _ =>
    have split : nodeIds (node :: rest) = nodeIds [node] ++ nodeIds rest :=
      gather_append _ [node] rest
    rw [List.filter_cons, split, List.length_append]
    split
    · have kept : nodeIds (node :: rest.filter keep) =
          nodeIds [node] ++ nodeIds (rest.filter keep) := gather_append _ [node] _
      rw [kept, List.length_append]
      omega
    · omega

/-- Every turn of the walk takes a node off those that lie below the stack. -/
theorem walkTurn_lower {next : State} (turned : walkTurn casing state = .again next) :
    (nodeIds next.stack).length < (nodeIds state.stack).length := by
  unfold walkTurn at turned
  split at turned
  · cases turned
  · next node rest stack =>
      cases turned
      rw [stack]
      exact Nat.lt_succ_self _
  · next id nodeName childNodes rest stack =>
      cases turned
      have filtered := nodeIds_filter_length_le reasonable childNodes
      have pushed : nodeIds (childNodes.filter reasonable ++ rest) =
          nodeIds (childNodes.filter reasonable) ++ nodeIds rest := gather_append _ _ _
      have popped : nodeIds (.element id nodeName childNodes :: rest) =
          id :: nodeIds childNodes ++ nodeIds rest := rfl
      grind
  · next id rest stack =>
      cases turned
      rw [stack]
      exact Nat.lt_succ_self _

theorem walk_completes (covered : (nodeIds state.stack).length ≤ budget) :
    (whileTurns (walkTurn casing) budget state).Holds
      (fun left last => last = walked casing state ∧
        budget ≤ left + (nodeIds state.stack).length)
      (fun _ => False) (fun _ => True) := by
  have same : (whileTurns (walkTurn casing) budget state).Holds
      (fun _ last => walked casing last = walked casing state ∧ walkTurn casing last = .ended)
      (fun cut => walked casing cut = walked casing state) (fun _ => True) :=
    whileTurns_holds (fun kept turned => (walked_walkTurn turned).trans kept)
      (fun _ _ => trivial) budget rfl
  have bounded : (whileTurns (walkTurn casing) budget state).Holds
      (fun left _ => budget ≤ left + (nodeIds state.stack).length) (fun _ => False)
      (fun _ => True) :=
    whileTurns_completes (fun _ => True) (fun state => (nodeIds state.stack).length)
      (fun _ turned => ⟨trivial, walkTurn_lower turned⟩) trivial covered
  apply (same.and bounded).mono
  · grind [walked_of_stack_nil, stack_nil_of_walkTurn_over]
  · exact fun _ cut => cut.2
  · exact fun _ _ => trivial

theorem sound_walked (sound : Sound page state) : Sound page (walked casing state) := by
  have kept : (whileTurns (walkTurn casing) (nodeIds state.stack).length state).Holds
      (fun _ last => Sound page last ∧ walkTurn casing last = .ended) (Sound page)
      (fun _ => False) :=
    whileTurns_holds (fun kept turned => kept.walkTurn turned)
      (fun _ threw => walkTurn_not_thrown threw) _ sound
  have completed : (whileTurns (walkTurn casing) (nodeIds state.stack).length state).Holds _ _ _ :=
    walk_completes (Nat.le_refl _)
  cases result : whileTurns (walkTurn casing) (nodeIds state.stack).length state with
  | finished _ _ =>
    rw [result] at kept completed
    exact completed.1 ▸ kept.1
  | timedOut _ =>
    rw [result] at completed
    exact completed.elim
  | thrown _ =>
    rw [result] at kept
    exact kept.elim

structure Matching (casing : Casing) (result : Except State State) (state : State) : Prop where
  source : ∀ {regex}, state.regex = some regex → regex.source ≠ []
  completes : matchAll casing state = result
  regex : state.regex.isSome

/-- Every turn of the matching loop gets closer to the end of the text. -/
theorem Matching.next {result : Except State State} {next : State}
    (matching : Matching casing result state) (turned : matchTurn casing state = .again next) :
    Matching casing result next ∧ remainingText next < remainingText state := by
  rcases matchTurn_cases casing state with ⟨ended, -⟩ | ⟨regex, begin, isRegex, found, outcome⟩
  · cases ended.symm.trans turned
  · rcases outcome with ⟨failed, threw, -⟩ | ⟨after, again, treated⟩
    · cases threw.symm.trans turned
    · cases again.symm.trans turned
      have same := sameSearch_foundMatch treated
      have nonempty := matching.source isRegex
      obtain ⟨above, below⟩ := RegExp.exec_bounds nonempty found
      have nextRegex : next.regex = some { regex with
        lastIndex := begin + regex.source.length } := same.regex
      have nextText : next.allText = state.allText := same.allText
      refine ⟨⟨?_, ?_, by rw [nextRegex]; rfl⟩, ?_⟩
      · grind
      · exact (matchAll_of_found nonempty isRegex found treated).trans matching.completes
      · unfold remainingText
        grind

theorem matchText_completes (sound : Sound page state) (covered : remainingText state ≤ budget) :
    (matchText casing budget state).Holds
      (fun left last => matchAll casing state = .ok last ∧ budget ≤ left + remainingText state)
      (fun _ => False) (fun _ => True) := by
  unfold matchText
  by_cases isRegex : state.regex.isSome
  · have start : Matching casing (matchAll casing state) state := ⟨sound.source, rfl, isRegex⟩
    have same : (whileTurns (matchTurn casing) budget state).Holds
        (fun _ last => Matching casing (matchAll casing state) last ∧
          matchTurn casing last = .ended)
        (Matching casing (matchAll casing state)) (fun _ => True) :=
      whileTurns_holds (fun kept turned => (kept.next turned).1) (fun _ _ => trivial) budget start
    have bounded := whileTurns_completes (Matching casing (matchAll casing state)) remainingText
      (fun kept turned => kept.next turned) start covered
    rw [if_pos isRegex]
    apply Pause.Holds.bind ((same.and bounded).mono (fun _ _ kept => kept)
      (fun _ cut => cut.2) (fun _ _ => trivial))
    rintro left last ⟨⟨matching, ended⟩, enough⟩
    have completes := (matchAll_of_over matching.regex ended).symm.trans matching.completes
    unfold finishMatching at completes
    cases processed : processPartialMatchesInCurrentSection last with
    | error _ => trivial
    | ok _ =>
      rw [processed] at completes
      exact ⟨completes.symm, enough⟩
  · rw [if_neg isRegex]
    grind [Pause.Holds, matchAll]

theorem executeReplacements_completes (covered : state.replacements.length ≤ budget) :
    (executeReplacements budget state).Holds
      (fun left last => last.matches = state.matches ∧
        budget ≤ left + state.replacements.length)
      (fun _ => False) (fun _ => True) := by
  let Kept : Nat → State → Prop := fun _ last => last.matches = state.matches
  have carried : ∀ {current last}, state.replacementsIndex ≤ current →
      current < state.replacementsIndex + (state.replacements.length - state.replacementsIndex) →
      Kept current last → Kept (current + 1) (swapReplacement current last) := by
    grind [swapReplacement]
  have start : Kept state.replacementsIndex state := rfl
  have same : (executeReplacements budget state).Holds _ _ (fun _ => True) :=
    forIndices_holds _ _ budget carried start
  have bounded : (executeReplacements budget state).Holds
      (fun left _ => budget ≤
        left + (state.replacements.length - state.replacementsIndex))
      (fun _ => False) (fun _ => True) :=
    forIndices_completes _ _ budget state (by omega)
  apply (same.and bounded).mono
  · grind
  · exact fun _ cut => cut.2
  · exact fun _ _ => trivial

/-- What a single call needs to get through the loops after the walk. -/
def matchedWork (casing : Casing) (state : State) : Nat :=
  match matchAll casing (walked casing state) with
  | .error _ => 0
  | .ok matched => matched.replacements.length + matched.matches.length

/-- A call with a long enough timeout is not cut. -/
theorem exists_budget (sound : Sound page state) :
    ∃ budget, (pumpSearch casing layout budget state).1 ≠ .timeout := by
  refine ⟨(nodeIds state.stack).length + remainingText (walked casing state) +
    matchedWork casing state, ?_⟩
  have holds : (searchPhases casing layout ((nodeIds state.stack).length +
      remainingText (walked casing state) + matchedWork casing state) state).Holds
      (fun _ _ => True) (fun _ => False) (fun _ => True) := by
    apply (walk_completes (by omega)).bind
    rintro left last ⟨rfl, enough⟩
    apply (matchText_completes (sound_walked sound) (by omega)).bind
    rintro left last ⟨matched, enough⟩
    have work : matchedWork casing state = last.replacements.length + last.matches.length := by
      unfold matchedWork
      rw [matched]
    apply (executeReplacements_completes (by omega)).bind
    rintro left swapped ⟨sameMatches, enough⟩
    have sameLength := congrArg List.length sameMatches
    have counted : (countVisible layout left swapped).Holds
        (fun next _ => left ≤ next + (swapped.matches.length - swapped.visibleIndex))
        (fun _ => False) (fun _ => True) :=
      forIndices_completes _ _ left swapped (by omega)
    simp [counted.mono]
  unfold pumpSearch
  split
  · nofun
  · cases phases : searchPhases casing layout ((nodeIds state.stack).length +
        remainingText (walked casing state) + matchedWork casing state) state with
    | timedOut _ =>
      rw [phases] at holds
      exact holds.elim
    | thrown _ => nofun
    | finished _ last => exact concludeSearch_ne_timeout layout last

/-- A search can be done in one call. -/
theorem search_completes (sound : Sound page state) (findText : Text) :
    ∃ budget, (search casing layout findText budget [] state).1 ≠ .timeout := by
  by_cases empty : findText = []
  · simp [empty, search_empty]
  · obtain ⟨budget, done⟩ : ∃ budget,
        (pumpSearch casing layout budget (started findText state)).1 ≠ .timeout :=
      exists_budget (sound.started empty)
    refine ⟨budget, ?_⟩
    unfold search pumpUntilDone highlightWord
    rw [if_neg empty]
    exact done

end ChromiumIos.FindInPage
