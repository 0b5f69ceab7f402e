import ChromiumIos.FindInPage.Highlights

/-!
# What holds between the calls of the script

The document shows the first so many replacements, all of which were made for
text nodes of the page.  None is executed while the walk or the matching loop is
under way, so that the nodes on the stack stand in the document as they were
pushed.  As long as nothing has been found the variables of the matching loop are
as `cleanUp` leaves them; the text and the sections are not among them.
-/

namespace ChromiumIos.FindInPage

open Lib

/-! ## The nodes made for a section -/

structure Numbered (replacement : Nat) (nodes : List Node) : Prop where
  ids : nodes.map Node.id = (List.range nodes.length).map (NodeId.made replacement)
  inside : ∀ {id nodeName childNodes}, Node.element id nodeName childNodes ∈ nodes →
    ∀ inner ∈ nodeIds childNodes, ∃ position child, inner = .inner replacement position child

theorem Numbered.nil (replacement : Nat) : Numbered replacement [] where
  ids := rfl
  inside := nofun

variable {after state : State} {replacement : Nat} {nodes : List Node}

theorem Numbered.append {node : Node} (numbered : Numbered replacement nodes)
    (named : node.id = .made replacement nodes.length)
    (inside : ∀ {id nodeName childNodes}, node = .element id nodeName childNodes →
      ∀ inner ∈ nodeIds childNodes, ∃ position child, inner = .inner replacement position child) :
    Numbered replacement (nodes ++ [node]) where
  ids := by simp [numbered.ids, named, List.range_succ]
  inside := by
    intro id nodeName childNodes mem
    rcases List.mem_append.mp mem with earlier | last
    · exact numbered.inside earlier
    · exact inside (List.mem_singleton.mp last).symm

theorem Numbered.madeFor (numbered : Numbered replacement nodes) (nonempty : nodes ≠ []) :
    MadeFor replacement nodes where
  nonempty := nonempty
  named := by
    grind [List.mem_map_of_mem, numbered.ids]
  distinct := by
    grind [List.nodup_range, numbered.ids]
  inside := numbered.inside

theorem nodeIds_innerNodes {position child : Nat} {pieces : List Piece} :
    ∀ inner ∈ nodeIds (innerNodes replacement position child pieces),
      ∃ child, inner = .inner replacement position child := by
  induction pieces generalizing child with
  | nil => nofun
  | cons piece _ ih =>
    intro inner mem
    cases piece with
    | run text | lineBreak =>
      rcases List.mem_append.mp mem with here | inRest
      · exact ⟨child, List.mem_singleton.mp here⟩
      · exact ih inner inRest

namespace Pieces

variable {replacement : Nat} {within : Section} {pieces : Pieces}

variable (numbered : Numbered replacement pieces.newNodes)
include numbered

theorem numbered_createTextNode (first second : Nat) :
    Numbered replacement (pieces.createTextNode replacement within first second).newNodes :=
  numbered.append rfl nofun

theorem numbered_createHighlight (part : PartialMatch) :
    Numbered replacement (pieces.createHighlight replacement within part).newNodes := by
  apply numbered.append rfl
  grind [createChromeFind, nodeIds_innerNodes]

theorem numbered_add (part : PartialMatch) :
    Numbered replacement (pieces.add replacement within part).newNodes := by
  grind [add, numbered_createHighlight, numbered_createTextNode]

theorem numbered_foldl (parts : List PartialMatch) :
    Numbered replacement (parts.foldl (add replacement within) pieces).newNodes := by
  induction parts generalizing pieces with
  | nil => exact numbered
  | cons part _ ih => exact ih (numbered_add numbered part)

omit numbered

theorem add_ne_nil (part : PartialMatch) :
    (pieces.add replacement within part).newNodes ≠ [] := by
  unfold add
  split <;> exact List.append_ne_nil_of_right_ne_nil _ (List.cons_ne_nil _ _)

theorem foldl_ne_nil {parts : List PartialMatch} (some : pieces.newNodes ≠ [] ∨ parts ≠ []) :
    (parts.foldl (add replacement within) pieces).newNodes ≠ [] := by
  induction parts generalizing pieces with
  | nil => simp [some.resolve_right]
  | cons part _ ih => exact ih (.inl (add_ne_nil part))

end Pieces

theorem madeFor_cutSection (within : Section) (parts : state.partialMatches ≠ []) :
    MadeFor state.replacements.length (cutSection state within).newNodes := by
  have numbered : Numbered state.replacements.length (state.partialMatches.foldl
      (Pieces.add state.replacements.length within) ⟨[], within.begin, state.matches⟩).newNodes :=
    Pieces.numbered_foldl (Numbered.nil _) _
  have nonempty : (state.partialMatches.foldl
      (Pieces.add state.replacements.length within) ⟨[], within.begin, state.matches⟩).newNodes ≠
        [] :=
    Pieces.foldl_ne_nil (.inr parts)
  unfold cutSection Pieces.close
  split
  · exact (Pieces.numbered_createTextNode numbered _ _).madeFor
      (List.append_ne_nil_of_left_ne_nil nonempty _)
  · exact numbered.madeFor nonempty

theorem Pieces.foldl_matches_length (replacement : Nat) (within : Section) (pieces : Pieces)
    (parts : List PartialMatch) :
    (parts.foldl (add replacement within) pieces).matches.length = pieces.matches.length := by
  induction parts generalizing pieces with
  | nil => rfl
  | cons _ _ ih =>
    rw [List.foldl_cons, ih]
    unfold add
    split <;> exact List.length_modify ..

theorem cutSection_matches_length (state : State) (within : Section) :
    (cutSection state within).matches.length = state.matches.length := by
  unfold cutSection Pieces.close
  split <;> exact Pieces.foldl_matches_length ..

theorem mem_textNodes_of_mem_filter {keep : Node → Bool} {node : TextNode}
    (mem : node ∈ textNodes (nodes.filter keep)) : node ∈ textNodes nodes := by
  induction nodes with
  | nil => exact mem
  | cons _ _ ih =>
    rw [List.filter_cons] at mem
    split at mem
    · rcases List.mem_append.mp mem with here | inRest
      · exact List.mem_append_left _ here
      · exact List.mem_append_right _ (ih inRest)
    · exact List.mem_append_right _ (ih mem)

/-! ## The invariant -/

/-- The variables of the matching loop and of the selection are reset. -/
structure Clean (state : State) : Prop where
  sectionsIndex : state.sectionsIndex = 0
  selectedMatchIndex : state.selectedMatchIndex = -1
  matchId : state.matchId = 0
  partialMatches : state.partialMatches = []
  replacements : state.replacements = []
  replacementsIndex : state.replacementsIndex = 0
  selectHighlighted : state.selectHighlighted = []

theorem Clean.of_same (clean : Clean state)
    (sectionsIndex : after.sectionsIndex = state.sectionsIndex)
    (selectedMatchIndex : after.selectedMatchIndex = state.selectedMatchIndex)
    (matchId : after.matchId = state.matchId)
    (partialMatches : after.partialMatches = state.partialMatches)
    (replacements : after.replacements = state.replacements)
    (replacementsIndex : after.replacementsIndex = state.replacementsIndex)
    (selectHighlighted : after.selectHighlighted = state.selectHighlighted) : Clean after where
  sectionsIndex := sectionsIndex.trans clean.sectionsIndex
  selectedMatchIndex := selectedMatchIndex.trans clean.selectedMatchIndex
  matchId := matchId.trans clean.matchId
  partialMatches := partialMatches.trans clean.partialMatches
  replacements := replacements.trans clean.replacements
  replacementsIndex := replacementsIndex.trans clean.replacementsIndex
  selectHighlighted := selectHighlighted.trans clean.selectHighlighted

structure Sound (page : Page) (state : State) : Prop where
  walked : ∀ current ∈ state.sections, current.node ∈ textNodes page.roots
  unwalked : ∀ node ∈ textNodes state.stack, node ∈ textNodes page.roots
  shown : ∃ count, state.replacementsIndex ≤ count ∧ Shows page count state
  source : ∀ {regex}, state.regex = some regex → regex.source ≠ []
  unexecuted : state.stack ≠ [] ∨ state.regex.isSome → state.document = page.roots
  clean : state.matches = [] → Clean state

theorem sound_initial (page : Page) : Sound page (initial page) where
  walked := nofun
  unwalked := nofun
  shown := ⟨0, Nat.le_refl _, nofun, Nat.le_refl _, (render_none page.roots).symm⟩
  source := nofun
  unexecuted _ := rfl
  clean _ := ⟨rfl, rfl, rfl, rfl, rfl, rfl, rfl⟩

namespace Sound

variable {page : Page} {state after : State}

/-- Before anything is found the document is the page. -/
theorem document_of_matches_nil (sound : Sound page state) (none : state.matches = []) :
    state.document = page.roots := by
  obtain ⟨_, -, shown⟩ := sound.shown
  rw [shown.document, (sound.clean none).replacements, List.take_nil]
  exact render_none page.roots

theorem shown_of_same (sound : Sound page state) (document : after.document = state.document)
    (replacements : after.replacements = state.replacements)
    (replacementsIndex : after.replacementsIndex = state.replacementsIndex) :
    ∃ count, after.replacementsIndex ≤ count ∧ Shows page count after := by
  obtain ⟨count, reached, shown⟩ := sound.shown
  refine ⟨count, replacementsIndex ▸ reached, ?_, ?_, ?_⟩
  · rw [replacements]
    exact shown.replaces
  · rw [replacements]
    exact shown.executed
  · rw [document, replacements]
    exact shown.document

/-- The parts of the state the invariant is about while there are matches. -/
theorem of_same (sound : Sound page state) (found : after.matches ≠ [])
    (sections : after.sections = state.sections) (stack : after.stack = state.stack)
    (document : after.document = state.document)
    (replacements : after.replacements = state.replacements)
    (replacementsIndex : after.replacementsIndex = state.replacementsIndex)
    (regex : after.regex = state.regex) : Sound page after where
  walked := sections ▸ sound.walked
  unwalked := stack ▸ sound.unwalked
  shown := sound.shown_of_same document replacements replacementsIndex
  source := regex ▸ sound.source
  unexecuted := stack ▸ regex ▸ document ▸ sound.unexecuted
  clean none := absurd none found

theorem rewalked (sound : Sound page state) {sections : List Section} {allText : Text}
    {stack : List Node} (walked : ∀ current ∈ sections, current.node ∈ textNodes page.roots)
    (unwalked : ∀ node ∈ textNodes stack, node ∈ textNodes page.roots)
    (walking : state.stack ≠ []) : Sound page { state with sections, allText, stack } where
  walked := walked
  unwalked := unwalked
  shown := sound.shown_of_same rfl rfl rfl
  source := sound.source
  unexecuted _ := sound.unexecuted (.inl walking)
  clean none := (sound.clean none).of_same rfl rfl rfl rfl rfl rfl rfl

theorem walkTurn (sound : Sound page state) {casing : Casing}
    (turned : walkTurn casing state = .again after) : Sound page after := by
  have unwalked := sound.unwalked
  unfold FindInPage.walkTurn at turned
  split at turned
  · cases turned
  · next node rest stack =>
      cases turned
      rw [stack] at unwalked
      apply sound.rewalked _ _ (stack ▸ List.cons_ne_nil _ _)
      · intro current mem
        rcases List.mem_append.mp mem with earlier | last
        · exact sound.walked current earlier
        · cases List.mem_singleton.mp last
          exact unwalked node (List.mem_cons_self ..)
      · exact fun other mem => unwalked other (List.mem_append_right _ mem)
  · next id nodeName childNodes rest stack =>
      cases turned
      rw [stack] at unwalked
      apply sound.rewalked sound.walked _ (stack ▸ List.cons_ne_nil _ _)
      intro node mem
      rw [textNodes, gather_append] at mem
      rcases List.mem_append.mp mem with below | later
      · exact unwalked node (List.mem_append_left _ (mem_textNodes_of_mem_filter below))
      · exact unwalked node (List.mem_append_right _ later)
  · next id rest stack =>
      cases turned
      rw [stack] at unwalked
      exact sound.rewalked sound.walked (fun node mem => unwalked node mem)
        (stack ▸ List.cons_ne_nil _ _)

end Sound

/-! ## The matching loop -/

/-- What dealing with the partial matches of the current section can do. -/
theorem process_cases (processed : processPartialMatchesInCurrentSection state = .ok after) :
    (state.partialMatches = [] ∧ after = state) ∨
      ∃ within, state.partialMatches ≠ [] ∧ state.sections[state.sectionsIndex]? = some within ∧
        after = { state with
          «matches» := (cutSection state within).matches
          replacements := state.replacements ++
            [⟨within.node, (cutSection state within).newNodes⟩]
          partialMatches := [] } := by
  grind [processPartialMatchesInCurrentSection]

theorem process_error {failed : State}
    (processed : processPartialMatchesInCurrentSection state = .error failed) : failed = state := by
  grind [processPartialMatchesInCurrentSection]

def Leaves (Holds : State → Prop) : Except State State → Prop
  | .ok state => Holds state
  | .error state => Holds state

/-- What is kept when the partial matches of a section are dealt with and does
not depend on the position of the loop is kept by the treatment of a match. -/
structure KeptByMatching (Kept : State → Prop) : Prop where
  processed : ∀ {state after}, Kept state →
    processPartialMatchesInCurrentSection state = .ok after → Kept after
  moved : ∀ {state} (sectionsIndex matchId : Nat) (partialMatches : List PartialMatch),
    Kept state → Kept { state with sectionsIndex, matchId, partialMatches }

namespace KeptByMatching

variable {Kept : State → Prop} {state : State}

theorem splitMatch (rule : KeptByMatching Kept) (kept : Kept state) (begin ending : Nat)
    (sections : List Section) : Leaves Kept (splitMatch begin ending sections state) := by
  induction sections generalizing state with
  | nil => exact kept
  | cons current _ ih =>
    have extended := rule.moved state.sectionsIndex state.matchId (state.partialMatches ++
      [⟨state.matchId, max current.begin begin, min current.ending ending⟩]) kept
    unfold FindInPage.splitMatch
    simp only
    split
    · split
      · next failed threw =>
          rw [process_error threw]
          exact extended
      · next next processed =>
          exact ih (rule.moved _ _ _ (rule.processed extended processed))
    · exact extended

theorem enterSection (rule : KeptByMatching Kept) (kept : Kept state) (newSectionIndex : Nat) :
    Leaves Kept (enterSection state newSectionIndex) := by
  unfold FindInPage.enterSection
  split
  · cases processed : processPartialMatchesInCurrentSection state with
    | error _ =>
      rw [process_error processed]
      exact kept
    | ok _ => exact rule.moved _ _ _ (rule.processed kept processed)
  · exact kept

theorem foundMatch (rule : KeptByMatching Kept)
    (pushed : Kept { state with «matches» := state.matches ++ [⟨[], none⟩] })
    (begin ending : Nat) : Leaves Kept (foundMatch begin ending state) := by
  unfold FindInPage.foundMatch
  simp only
  split
  · exact pushed
  · next newSectionIndex _ =>
      have entered := rule.enterSection pushed newSectionIndex
      split
      · next failed threw =>
          simpa [threw] using entered
      · next next enteredAt =>
          rw [enteredAt] at entered
          have split := rule.splitMatch entered begin ending
            (next.sections.drop next.sectionsIndex)
          cases splitAt : FindInPage.splitMatch begin ending
              (next.sections.drop next.sectionsIndex) next with
          | error _ =>
            rw [splitAt] at split
            exact split
          | ok _ =>
            rw [splitAt] at split
            exact rule.moved _ _ _ split

end KeptByMatching

structure Busy (page : Page) (state : State) : Prop where
  sound : Sound page state
  found : state.matches ≠ []

namespace Busy

variable {page : Page} {state after : State}

/-- Dealing with the partial matches of a section adds a replacement for its node. -/
theorem process (busy : Busy page state)
    (processed : processPartialMatchesInCurrentSection state = .ok after) : Busy page after := by
  rcases process_cases processed with ⟨-, rfl⟩ | ⟨within, parts, current, rfl⟩
  · exact busy
  · obtain ⟨count, reached, shown⟩ := busy.sound.shown
    have inPage : within.node ∈ textNodes page.roots :=
      busy.sound.walked within (List.mem_of_getElem? current)
    have found : (cutSection state within).matches ≠ [] := by
      grind [cutSection_matches_length, busy.found]
    refine ⟨⟨busy.sound.walked, busy.sound.unwalked, ⟨count, reached, ?_, ?_, ?_⟩,
      busy.sound.source, busy.sound.unexecuted, fun none => absurd none found⟩, found⟩
    · intro index replacement atIndex
      rcases Nat.lt_trichotomy index state.replacements.length with before | rfl | beyond
      · grind [shown.replaces]
      · rw [List.getElem?_append_right (Nat.le_refl _), Nat.sub_self] at atIndex
        cases atIndex
        exact ⟨inPage, madeFor_cutSection within parts⟩
      · grind
    · grind [shown.executed]
    · rw [List.take_append_of_le_length shown.executed]
      exact shown.document

/-- The parts of the state the invariant is about while there are matches. -/
theorem of_same (busy : Busy page state) (found : after.matches ≠ [])
    (sections : after.sections = state.sections) (stack : after.stack = state.stack)
    (document : after.document = state.document)
    (replacements : after.replacements = state.replacements)
    (replacementsIndex : after.replacementsIndex = state.replacementsIndex)
    (regex : after.regex = state.regex) : Busy page after :=
  ⟨by grind [busy.sound.of_same], found⟩

theorem keptByMatching (page : Page) : KeptByMatching (Busy page) where
  processed := process
  moved _ _ _ busy := busy.of_same busy.found rfl rfl rfl rfl rfl rfl

end Busy

/-- What is searched, and for what, does not change while a match is treated. -/
structure SameSearch (before after : State) : Prop where
  regex : after.regex = before.regex
  allText : after.allText = before.allText
  stack : after.stack = before.stack
  searchInProgress : after.searchInProgress = before.searchInProgress
  sections : after.sections = before.sections
  selectedMatchIndex : after.selectedMatchIndex = before.selectedMatchIndex

theorem SameSearch.refl (state : State) : SameSearch state state := ⟨rfl, rfl, rfl, rfl, rfl, rfl⟩

theorem SameSearch.keptByMatching (before : State) : KeptByMatching (SameSearch before) where
  processed same processed := by
    rcases process_cases processed with ⟨-, rfl⟩ | ⟨within, -, -, rfl⟩
    · exact same
    · exact ⟨same.regex, same.allText, same.stack, same.searchInProgress, same.sections,
        same.selectedMatchIndex⟩
  moved _ _ _ same := ⟨same.regex, same.allText, same.stack, same.searchInProgress,
    same.sections, same.selectedMatchIndex⟩

/-- The regular expression after a match, which remembers where the match ended. -/
def advance (regex : RegExp) (begin : Nat) (state : State) : State :=
  { state with regex := some { regex with lastIndex := begin + regex.source.length } }

/-- What one turn of the matching loop can do. -/
theorem matchTurn_cases (casing : Casing) (state : State) :
    (matchTurn casing state = .ended ∧ (state.regex = none ∨
      ∃ regex, state.regex = some regex ∧ regex.exec casing state.allText = none)) ∨
    ∃ regex begin, state.regex = some regex ∧
      regex.exec casing state.allText = some begin ∧
      ((∃ failed, matchTurn casing state = .thrown failed ∧
          foundMatch begin (begin + regex.source.length) (advance regex begin state) =
            .error failed) ∨
        ∃ next, matchTurn casing state = .again next ∧
          foundMatch begin (begin + regex.source.length) (advance regex begin state) =
            .ok next) := by
  unfold matchTurn
  cases isRegex : state.regex with
  | none => exact .inl ⟨rfl, .inl rfl⟩
  | some regex =>
    cases executed : regex.exec casing state.allText with
    | none =>
      simp [executed]
    | some begin =>
      refine .inr ⟨regex, begin, rfl, executed, ?_⟩
      simp only [executed]
      cases found : foundMatch begin (begin + regex.source.length)
          (advance regex begin state) with
      | error failed | ok next =>
        unfold advance at found
        simp [found]

theorem Sound.foundMatch {page : Page} {state : State} {regex : RegExp}
    (sound : Sound page state) (isRegex : state.regex = some regex) (begin : Nat) :
    Leaves (Busy page)
      (foundMatch begin (begin + regex.source.length) (advance regex begin state)) := by
  obtain ⟨count, reached, shown⟩ := sound.shown
  apply (Busy.keptByMatching page).foundMatch
  have found : state.matches ++ [⟨[], none⟩] ≠ [] :=
    List.append_ne_nil_of_right_ne_nil _ (List.cons_ne_nil _ _)
  refine ⟨⟨sound.walked, sound.unwalked, ⟨count, reached, shown.replaces, shown.executed,
    shown.document⟩, ?_, fun _ => sound.unexecuted (.inr (isRegex ▸ rfl)),
    fun none => absurd none found⟩, found⟩
  simp [advance, sound.source, isRegex]

end ChromiumIos.FindInPage
