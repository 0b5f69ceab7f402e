import ChromiumIos.FindInPage.Searches

/-!
# Searches after other searches

`highlightWord` cleans up after an earlier search only if that has found
something.  If the earlier searches have left matches, or have not collected any
text, the next search finds what it finds in a module that was just loaded.  A
search that found nothing leaves its text and its sections, and the next one
finds everything twice.
-/

namespace ChromiumIos.FindInPage

open Lib

/-! ## Calls -/

/-- A call of the script, with the layout of the page and the timeout it has. -/
inductive Call where
  | highlightWord (layout : Layout) (findText : Text) (budget : Nat)
  | pumpSearch (layout : Layout) (budget : Nat)
  | goNext (layout : Layout)
  | goPrev (layout : Layout)

namespace Call

/-- The state after a call; `none` if it does not return. -/
def perform (casing : Casing) (state : State) : Call → Option State
  | highlightWord layout findText budget =>
    some (FindInPage.highlightWord casing layout findText budget state).2
  | pumpSearch layout budget => some (FindInPage.pumpSearch casing layout budget state).2
  | goNext layout => some (FindInPage.goNext layout state).2
  | goPrev layout => (FindInPage.goPrev layout state).map Prod.snd

end Call

variable {casing : Casing} {layout : Layout} {page : Page} {state after : State}

theorem Sound.pumpSearch (sound : Sound page state) (budget : Nat) :
    Sound page (pumpSearch casing layout budget state).2 := by
  by_cases inProgress : state.searchInProgress = true
  · exact (pumped_pumpSearch ⟨sound, inProgress, rfl⟩ budget).sound
  · simp [FindInPage.pumpSearch, inProgress, sound]

theorem Sound.perform (sound : Sound page state) {call : Call}
    (performed : call.perform casing state = some after) : Sound page after := by
  cases call with
  | highlightWord _ _ budget =>
    cases performed
    unfold highlightWord
    split
    · exact sound.cleanUpPrevious
    · next nonempty => exact (sound.started nonempty).pumpSearch budget
  | pumpSearch _ budget =>
    cases performed
    exact sound.pumpSearch budget
  | goNext layout =>
    cases performed
    exact sound.goNext layout
  | goPrev _ =>
    obtain ⟨⟨_, _⟩, went, rfl⟩ := Option.map_eq_some_iff.mp performed
    exact sound.goPrev went

theorem Sound.history {calls : List Call} (sound : Sound page state)
    (history : calls.foldlM (Call.perform casing) state = some after) : Sound page after := by
  induction calls generalizing state with
  | nil =>
    cases history
    exact sound
  | cons _ _ _ =>
    obtain ⟨next, performed, history⟩ := Option.bind_eq_some_iff.mp history
    grind [sound.perform]

/-! ## Where the matches lie -/

/-- The text ranges of the matches: for each part of a match the text node it
lies in and its offsets there. -/
def matchRanges (state : State) : List (List (NodeId × Int × Int)) :=
  (matchNodes state).map fun nodes => nodes.map fun found =>
    (found.within.node.id, (found.part.begin : Int) - found.within.begin,
      (found.part.ending : Int) - found.within.begin)

/-- What a search finds does not depend on which elements are visible. -/
theorem matchRanges_complete (casing : Casing) (layout layout' : Layout) (page : Page)
    (state : State) :
    matchRanges (complete casing layout page state).2 =
      matchRanges (complete casing layout' page state).2 := by
  grind [matchRanges, complete, matchNodes_concludeSearch, matchNodes_counted]

/-! ## What an earlier search leaves -/

/-- `highlightWord` finds nothing left of earlier searches: it cleans up after
them, or they have not collected any text.  Nothing is searched for an empty text. -/
def StartsClean (findText : Text) (state : State) : Prop :=
  findText = [] ∨ state.matches ≠ [] ∨ state.allText = [] ∧ state.sections = []

/-- A search that finds nothing left starts as in a module that was just loaded. -/
theorem started_eq_initial (sound : Sound page state) {findText : Text}
    (nonempty : findText ≠ []) (clean : StartsClean findText state) :
    started findText state = started findText (initial page) := by
  have cleaned := sound.cleanUpPrevious
  have none := cleanUpPrevious_matches state
  have document := cleaned.document_of_matches_nil none
  obtain ⟨index, selected, matchId, parts, replacements, replaced, highlighted⟩ :=
    cleaned.clean none
  have texts : (cleanUpPrevious state).allText = [] ∧ (cleanUpPrevious state).sections = [] := by
    unfold cleanUpPrevious
    split
    · next noMatches =>
        rcases clean with empty | found | blank <;> grind
    · exact ⟨rfl, rfl⟩
  unfold started
  grind [startSearch, cleanUpPrevious, initial]

/-- Whatever was called before, a search that finds nothing left of it yields the
matches it yields in a module that was just loaded. -/
theorem search_after_history (casing : Casing) (layout layout' : Layout) (page : Page)
    (calls : List Call) (state : State) (findText : Text) (budget budget' : Nat)
    (budgets budgets' : List Nat)
    (history : calls.foldlM (Call.perform casing) (initial page) = some state)
    (clean : StartsClean findText state)
    (done : (search casing layout findText budget budgets state).1 ≠ .timeout)
    (doneFresh :
      (search casing layout' findText budget' budgets' (initial page)).1 ≠ .timeout) :
    matchRanges (search casing layout findText budget budgets state).2 =
      matchRanges (search casing layout' findText budget' budgets' (initial page)).2 := by
  have sound := (sound_initial page).history history
  by_cases empty : findText = []
  · simp [empty, search_empty, matchRanges, matchNodes, cleanUpPrevious_matches]
  · have target := (search_pumped sound empty budget budgets).done done
    have fresh := (search_pumped (sound_initial page) empty budget' budgets').done doneFresh
    rw [started_eq_initial sound empty clean] at target
    calc matchRanges (search casing layout findText budget budgets state).2
        = matchRanges (complete casing layout page (started findText (initial page))).2 :=
          congrArg (fun result => matchRanges result.2) target
      _ = matchRanges (complete casing layout' page (started findText (initial page))).2 :=
          matchRanges_complete ..
      _ = matchRanges (search casing layout' findText budget' budgets' (initial page)).2 :=
          congrArg (fun result => matchRanges result.2) fresh.symm

/-- The text "ab" searched for "b" after "a" has been found. -/
theorem search_after_history_found :
    let layout : Layout := fun _ _ => true
    let state := (highlightWord asciiCasing layout [97] 9 (initial (Page.ofText [97, 98]))).2
    state.matches.length = 1 ∧
      matchRanges (search asciiCasing layout [98] 1 [9] state).2 =
        matchRanges (search asciiCasing layout [98] 9 [] (initial (Page.ofText [97, 98]))).2 := by
  intro layout state
  have found : state.matches.length = 1 := by decide +kernel
  refine ⟨found, ?_⟩
  apply search_after_history asciiCasing layout layout (Page.ofText [97, 98])
    [.highlightWord layout [97] 9] state [98] 1 9 [9] []
  · rfl
  · refine .inr (.inl ?_)
    intro none
    rw [none] at found
    cases found
  · decide +kernel
  · decide +kernel

/-- The same text searched for "b" after nothing was found for "x": the sections of
that search are still there, and "b" is found twice. -/
theorem search_after_history_leak :
    let layout : Layout := fun _ _ => true
    let page := Page.ofText [97, 98]
    let state := (highlightWord asciiCasing layout [120] 9 (initial page)).2
    [Call.highlightWord layout [120] 9].foldlM (Call.perform asciiCasing) (initial page) =
        some state ∧
      (search asciiCasing layout [98] 9 [] state).1 ≠ .timeout ∧
      (search asciiCasing layout [98] 9 [] (initial page)).1 ≠ .timeout ∧
      (matchRanges (search asciiCasing layout [98] 9 [] state).2).length = 2 ∧
      (matchRanges (search asciiCasing layout [98] 9 [] (initial page)).2).length = 1 := by
  refine ⟨rfl, ?_, ?_, ?_, ?_⟩ <;> decide +kernel

end ChromiumIos.FindInPage
