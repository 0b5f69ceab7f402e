import ChromiumIos.FindInPage.Sections

/-!
# Which searches split the matches well

The begin of a section is counted in the lower-cased text and its end in the text
of the node.  The sections tile the text, and the matches are split into parts
that tile them and show the matched text, if and only if lower-casing keeps the
length of every text node and no line break or NUL is found.
-/

namespace ChromiumIos.FindInPage

open Lib

/-! ## The sections after the walk -/

def searchedTexts (page : Page) : List TextNode := page.roots.flatMap admittedTexts

/-- The texts put together, as they are and lower-cased. -/
def plainText (nodes : List TextNode) : Text := nodes.flatMap TextNode.textContent

def loweredText (casing : Casing) (nodes : List TextNode) : Text :=
  nodes.flatMap fun node => casing.toLowerCase node.textContent

def KeepsLength (casing : Casing) (node : TextNode) : Prop :=
  (casing.toLowerCase node.textContent).length = node.textContent.length

def laidOut (casing : Casing) : Nat → List TextNode → List Section
  | _, [] => []
  | offset, node :: rest =>
    ⟨offset, offset + node.textContent.length, node⟩ ::
      laidOut casing (offset + (casing.toLowerCase node.textContent).length) rest

theorem addSections_eq (casing : Casing) (nodes : List TextNode) (state : State) :
    addSections casing nodes state = { state with
      sections := state.sections ++ laidOut casing state.allText.length nodes
      allText := state.allText ++ loweredText casing nodes } := by
  induction nodes generalizing state with
  | nil =>
    simp [addSections, loweredText, laidOut]
  | cons node _ ih =>
    have next := ih (addSection casing node state)
    simpa [addSections, loweredText, laidOut, addSection] using next

variable {nodes : List TextNode} {within : Section} {state : State}
variable (unit : UInt16) {casing : Casing}

theorem whole_of_mem_laidOut {offset : Nat} (mem : within ∈ laidOut casing offset nodes) :
    within.ending = within.begin + within.node.textContent.length ∧ within.node ∈ nodes := by
  induction nodes generalizing offset with
  | nil => cases mem
  | cons _ _ _ =>
    rcases List.mem_cons.mp mem with rfl | mem <;> grind

/-- The sections tile the text exactly when lower-casing keeps all lengths. -/
theorem tiles_laidOut_iff (casing : Casing) (offset : Nat) (nodes : List TextNode) :
    Tiles offset (offset + (loweredText casing nodes).length)
        ((laidOut casing offset nodes).map Section.interval) ↔
      ∀ node ∈ nodes, KeepsLength casing node := by
  induction nodes generalizing offset with
  | nil =>
    constructor
    · exact fun _ => nofun
    · exact fun _ => .done offset
  | cons node rest ih =>
    have split : offset + (loweredText casing (node :: rest)).length =
        offset + (casing.toLowerCase node.textContent).length +
          (loweredText casing rest).length := by
      simp [loweredText, Nat.add_assoc]
    have restTiles := ih (offset + (casing.toLowerCase node.textContent).length)
    change Tiles offset _ ((offset, offset + node.textContent.length) :: _) ↔ _
    rw [split, Tiles.cons_iff, List.forall_mem_cons, ← restTiles]
    constructor
    · rintro ⟨-, -, following⟩
      have kept : KeepsLength casing node := by
        unfold KeepsLength
        cases rest with
        | nil =>
          have same := Tiles.nil_iff.mp following
          rw [show (loweredText casing []).length = 0 from rfl] at same
          omega
        | cons _ _ =>
          have same : offset + (casing.toLowerCase node.textContent).length =
              offset + node.textContent.length := (Tiles.cons_iff.mp following).1
          exact Nat.add_left_cancel same
      exact ⟨kept, kept ▸ following⟩
    · grind [KeepsLength]

theorem length_loweredText (kept : ∀ node ∈ nodes, KeepsLength casing node) :
    (loweredText casing nodes).length = (plainText nodes).length := by
  induction nodes with
  | nil => rfl
  | cons node _ ih =>
    have keptNode := kept node (List.mem_cons_self ..)
    have keptRest := ih fun other mem => kept other (List.mem_cons_of_mem _ mem)
    unfold loweredText plainText KeepsLength at *
    simp [keptRest, keptNode]

/-- Where lengths are kept each node holds its slice of the plain text. -/
theorem textContent_of_mem_laidOut {before : Text}
    (kept : ∀ node ∈ nodes, KeepsLength casing node)
    (mem : within ∈ laidOut casing before.length nodes) :
    within.node.textContent = slice (before ++ plainText nodes) within.begin within.ending := by
  induction nodes generalizing before with
  | nil => cases mem
  | cons node rest ih =>
    have keptNode : KeepsLength casing node := kept node (List.mem_cons_self ..)
    have split : before ++ plainText (node :: rest) =
        before ++ node.textContent ++ plainText rest := by
      simp [plainText]
    rcases List.mem_cons.mp mem with rfl | mem
    · simp [slice, split]
    · rw [split]
      apply ih fun other mem => kept other (List.mem_cons_of_mem _ mem)
      rw [keptNode] at mem
      rw [List.length_append]
      exact mem

theorem laid_laidOut (kept : ∀ node ∈ nodes, KeepsLength casing node) :
    Laid (plainText nodes) (laidOut casing 0 nodes) where
  tiled := by
    grind [length_loweredText kept, tiles_laidOut_iff]
  texts within mem := by
    change within ∈ laidOut casing ([] : Text).length nodes at mem
    exact textContent_of_mem_laidOut kept mem

/-- The walk over a page from the start of a search in a module just loaded. -/
theorem walked_started (casing : Casing) (page : Page) (findText : Text) :
    walked casing (started findText (initial page)) = { started findText (initial page) with
      stack := []
      sections := laidOut casing 0 (searchedTexts page)
      allText := loweredText casing (searchedTexts page) } := by
  unfold walked
  rw [addSections_eq]
  rfl

/-! ## Letter case -/

/-- Letter case: code units that differ in nothing else have the same fold, and a
lower-casing that keeps the length of a text changes nothing else in it.  Line
breaks and NUL have no other case. -/
structure LetterCase (casing : Casing) where
  fold : UInt16 → UInt16
  fold_toLowerCase : ∀ text, (casing.toLowerCase text).length = text.length →
    (casing.toLowerCase text).map fold = text.map fold
  isLost_of_fold : ∀ first second, fold first = fold second → isLost first = isLost second
  isLost_of_canonicalize : ∀ first second,
    casing.canonicalize first = casing.canonicalize second → isLost first = isLost second

theorem fold_loweredText (letters : LetterCase casing)
    (kept : ∀ node ∈ nodes, KeepsLength casing node) :
    (loweredText casing nodes).map letters.fold = (plainText nodes).map letters.fold := by
  unfold loweredText plainText
  rw [List.map_flatMap, List.map_flatMap]
  apply List.flatMap_congr
  intro node mem
  exact letters.fold_toLowerCase node.textContent (kept node mem)

/-- Texts that are the same up to a change that keeps line breaks and NULs. -/
theorem lossless_iff_of_map_eq {change : UInt16 → UInt16} {first second : Text}
    (keepsLost : ∀ first second, change first = change second → isLost first = isLost second)
    (same : first.map change = second.map change) : Lossless first ↔ Lossless second := by
  have lost : first.map isLost = second.map isLost := by
    induction first generalizing second with
    | nil =>
      simpa using same
    | cons _ _ _ =>
      cases second <;> grind
  have all : ∀ text : Text, Lossless text ↔ ∀ flag ∈ text.map isLost, flag = false := by
    simp [Lossless]
  rw [all, all, lost]

/-- Dropping the line breaks and NULs of a text changes it, whatever its case,
exactly when it has any. -/
theorem map_filter_keepsUnit_iff (fold : UInt16 → UInt16) (text : Text) :
    (text.filter keepsUnit).map fold = text.map fold ↔ Lossless text := by
  constructor
  · intro same
    have length := congrArg List.length same
    simpa [Lossless, keepsUnit] using length
  · intro lossless
    rw [filter_keepsUnit_of_lossless lossless]

/-! ## Selecting the first match -/

variable (layout : Layout)

theorem seekNext_ne_thrown (oldIndex : Int) (turns : Nat)
    (highlighted : ∀ found ∈ state.matches, found.nodes ≠ [])
    (above : 0 ≤ state.selectedMatchIndex)
    (below : state.selectedMatchIndex < state.matches.length) :
    (seekNext layout oldIndex turns state).1 ≠ .thrown := by
  induction turns generalizing state with
  | zero => nofun
  | succ _ _ =>
    have inRange : state.selectedMatchIndex.toNat < state.matches.length := by omega
    have selected : getCurrentSelectedMatch state =
        some state.matches[state.selectedMatchIndex.toNat] := by
      simp [getCurrentSelectedMatch, if_neg (Int.not_lt.mpr above)]
    unfold seekNext
    rw [selected]
    simp only
    split
    · unfold findScrollDimensions
      grind
    · grind [incrementIndex]

/-- Selecting a match does not throw when every match has a highlight. -/
theorem concludeSearch_ne_thrown (highlighted : ∀ found ∈ state.matches, found.nodes ≠ [])
    (unselected : state.selectedMatchIndex = -1) : (concludeSearch layout state).1 ≠ .thrown := by
  have next : (goNext layout { state with searchInProgress := false }).1 ≠ .thrown := by
    unfold goNext
    split
    · nofun
    · next some =>
        have length : 0 < state.matches.length := List.length_pos_iff_ne_nil.mpr some
        have cleared : clearSelection { state with searchInProgress := false } =
            .ok { state with searchInProgress := false } := by
          simp [clearSelection, unselected]
        have first : (incrementIndex
            { state with searchInProgress := false }).selectedMatchIndex = 0 := by
          simp [incrementIndex, unselected]
        rw [cleared]
        apply seekNext_ne_thrown
        · exact highlighted
        · exact Int.le_of_eq first.symm
        · exact first ▸ Int.ofNat_lt.mpr length
  unfold concludeSearch
  grind

/-! ## Matches that are split well -/

section WellSplit

variable {casing : Casing}

/-- The highlights of a match at `begin` lie in parts that tile its range, each in
its section, and show the matched text up to letter case. -/
structure MatchSplit (letters : LetterCase casing) (length : Nat) (state : State)
    (begin : Nat) (nodes : List ChromeFind) : Prop where
  tiles : Tiles begin (begin + length) (nodes.map fun found => found.part.interval)
  inside : ∀ found ∈ nodes, found.within ∈ state.sections ∧
    found.within.begin ≤ found.part.begin ∧ found.part.ending ≤ found.within.ending
  shown : (nodes.flatMap fun found => textContent [found.element]).map letters.fold =
    (slice state.allText begin (begin + length)).map letters.fold

/-- The sections tile the text, no section is read that does not exist, and every
match of the regular expression is split well. -/
structure WellSplit (letters : LetterCase casing) (findText : Text)
    (result : Outcome × State) : Prop where
  tiled : Tiles 0 result.2.allText.length (result.2.sections.map Section.interval)
  inRange : result.1 ≠ .thrown
  split : List.Forall₂ (MatchSplit letters findText.length result.2)
    (occurrences casing findText result.2.allText 0) (matchNodes result.2)

variable {begin : Nat} {plain : Text} {matched : State} {letters : LetterCase casing}

theorem matchesAt_of_mem_occurrences {source text : Text} {start : Nat}
    (mem : begin ∈ occurrences casing source text start) :
    RegExp.matchesAt casing source text begin := by
  fun_induction occurrences casing source text start with
  | case1 start none | case2 start first found empty => cases mem
  | case3 _ _ found _ ih =>
    rcases List.mem_cons.mp mem with rfl | mem
    · exact (RegExp.exec_eq_some found).2
    · exact ih mem

variable {Holds : State → Prop} {sections : List Section}

/-- In sections that tile the text a partial match covers its slice of it. -/
theorem Laid.partText_eq_slice (laid : Laid plain sections) {part : PartialMatch}
    (inSections : within ∈ sections) (fits : Fits within part)
    (whole : within.ending = within.begin + within.node.textContent.length)
    (ordered : part.begin ≤ part.ending) :
    partText within part = slice plain part.begin part.ending := by
  grind [partText, position, substring_eq_slice, slice_slice, laid.texts, fits.begin, fits.ending]

/-- The highlights of a match show the matched text without line breaks and NULs. -/
theorem Laid.textContent_nodes (laid : Laid plain sections) {ending : Nat}
    {nodes : List ChromeFind}
    (whole : ∀ within ∈ sections, within.ending = within.begin + within.node.textContent.length)
    (wraps : ∀ found ∈ nodes, Wraps sections found)
    (tiles : Tiles begin ending (nodes.map fun found => found.part.interval)) :
    nodes.flatMap (fun found => textContent [found.element]) =
      (slice plain begin ending).filter keepsUnit := by
  have shown : ∀ found ∈ nodes, textContent [found.element] =
      (slice plain found.part.begin found.part.ending).filter keepsUnit := by
    intro found mem
    have wrapped := wraps found mem
    have ordered := (tiles.bounds (List.mem_map_of_mem mem)).2.1
    rw [wrapped.text, laid.partText_eq_slice wrapped.inSections wrapped.fits
      (whole _ wrapped.inSections) ordered]
  have slices := tiles.flatMap_slice plain
  rw [List.flatMap_map] at slices
  rw [List.flatMap_congr shown, ← slices, List.filter_flatMap]
  rfl

/-- The matched text has line breaks or NULs exactly when the text searched for has. -/
theorem lossless_slice_iff (letters : LetterCase casing) {allText findText : Text}
    (sameLetters : allText.map letters.fold = plain.map letters.fold)
    (found : RegExp.matchesAt casing findText allText begin) :
    Lossless (slice plain begin (begin + findText.length)) ↔ Lossless findText := by
  have folded : (slice allText begin (begin + findText.length)).map letters.fold =
      (slice plain begin (begin + findText.length)).map letters.fold := by
    rw [map_slice, map_slice, sameLetters]
  have matched : (slice allText begin (begin + findText.length)).map casing.canonicalize =
      findText.map casing.canonicalize := by
    simpa [slice] using of_decide_eq_true found
  rw [← lossless_iff_of_map_eq letters.isLost_of_fold folded,
    lossless_iff_of_map_eq letters.isLost_of_canonicalize matched]

/-- A match is shown up to letter case exactly when the text searched for has no
line break and no NUL. -/
theorem shown_iff_lossless (letters : LetterCase casing) {allText findText : Text}
    {nodes : List ChromeFind} (sameLetters : allText.map letters.fold = plain.map letters.fold)
    (found : RegExp.matchesAt casing findText allText begin)
    (showsSlice : nodes.flatMap (fun found => textContent [found.element]) =
      (slice plain begin (begin + findText.length)).filter keepsUnit) :
    (nodes.flatMap fun found => textContent [found.element]).map letters.fold =
        (slice allText begin (begin + findText.length)).map letters.fold ↔
      Lossless findText := by
  grind [map_slice, map_filter_keepsUnit_iff, lossless_slice_iff]

/-! ## What the later phases leave alone -/

/-- The text, the sections and the selection are those of the walk. -/
structure SameTexts (before after : State) : Prop where
  allText : after.allText = before.allText
  sections : after.sections = before.sections
  selectedMatchIndex : after.selectedMatchIndex = before.selectedMatchIndex

theorem leaves_foldlM {treat : State → Nat → Except State State}
    (step : ∀ state begin, Holds state → Leaves Holds (treat state begin)) (begins : List Nat)
    (holds : Holds state) : Leaves Holds (begins.foldlM treat state) := by
  induction begins generalizing state with
  | nil => exact holds
  | cons begin _ ih =>
    have next := step state begin holds
    rw [List.foldlM_cons]
    cases treated : treat state begin with
    | error _ =>
      rw [treated] at next
      exact next
    | ok _ =>
      rw [treated] at next
      exact ih next

/-- What does not depend on what a match is treated with is kept by treating them all. -/
theorem leaves_treatAll {regex : RegExp} (kept : ∀ {current after begin}, Holds current →
      SameSearch (advance regex begin current) after → Holds after) (begins : List Nat)
    (holds : Holds state) :
    Leaves Holds (begins.foldlM (fun state begin =>
      foundMatch begin (begin + regex.source.length) (advance regex begin state)) state) := by
  apply leaves_foldlM _ begins holds
  intro current begin holds
  have same := leaves_sameSearch (advance regex begin current) begin
    (begin + regex.source.length)
  cases found : foundMatch begin (begin + regex.source.length)
      (advance regex begin current) with
  | error failed | ok next =>
    rw [found] at same
    exact kept holds same

theorem leaves_matchAll (state : State) :
    Leaves (SameTexts state) (matchAll casing state) := by
  unfold matchAll
  split
  · exact ⟨rfl, rfl, rfl⟩
  · next regex isRegex =>
      have kept : ∀ {current after begin}, SameTexts state current →
          SameSearch (advance regex begin current) after → SameTexts state after :=
        fun same search => ⟨search.allText.trans same.allText,
          search.sections.trans same.sections,
          search.selectedMatchIndex.trans same.selectedMatchIndex⟩
      have start : SameTexts state state := ⟨rfl, rfl, rfl⟩
      have looped := leaves_treatAll kept
        (occurrences casing regex.source state.allText regex.lastIndex) start
      cases fold : (occurrences casing regex.source state.allText regex.lastIndex).foldlM
          (fun state begin => foundMatch begin (begin + regex.source.length)
            (advance regex begin state)) state with
      | error _ =>
        rw [fold] at looped
        exact looped
      | ok last =>
        rw [fold] at looped
        change Leaves _ (finishMatching last)
        unfold finishMatching
        cases processed : processPartialMatchesInCurrentSection last with
        | error _ =>
          rw [process_error processed]
          exact looped
        | ok next =>
          have same : SameSearch last next :=
            (SameSearch.keptByMatching last).processed (SameSearch.refl last) processed
          exact ⟨same.allText.trans looped.allText, same.sections.trans looped.sections,
            same.selectedMatchIndex.trans looped.selectedMatchIndex⟩

theorem counted_eq (state : State) :
    ∃ «matches» visibleFound,
      counted layout state = { settle state with «matches», visibleFound } := by
  have uncut : ∀ (count index : Nat) (state : State), ∃ «matches» visibleFound,
      forIndicesUncut (countMatch layout) count index state =
        { state with «matches», visibleFound } := by
    intro count
    induction count with
    | zero => exact fun _ state => ⟨state.matches, state.visibleFound, rfl⟩
    | succ _ ih =>
      intro index state
      obtain ⟨_, _, first⟩ := countMatch_eq layout index state
      obtain ⟨«matches», visibleFound, rest⟩ := ih (index + 1) (countMatch layout index state)
      refine ⟨«matches», visibleFound, rest.trans ?_⟩
      rw [first]
  exact uncut _ _ _

theorem concludeSearch_eq (state : State) :
    SameButSelection { state with searchInProgress := false } (concludeSearch layout state).2 := by
  simp [concludeSearch_snd, sameButSelection_goNext]

/-- A completed search shows what the matching loop has left. -/
theorem complete_of_ok (page : Page) (done : matchAll casing (walked casing state) = .ok matched) :
    (complete casing layout page state).2.allText = matched.allText ∧
      (complete casing layout page state).2.sections = matched.sections ∧
      matchNodes (complete casing layout page state).2 = matchNodes matched ∧
      (complete casing layout page state).2.replacements = matched.replacements ∧
      (complete casing layout page state).2.regex = matched.regex := by
  have unfolded : complete casing layout page state =
      concludeSearch layout (counted layout (highlighted page matched)) := by
    unfold complete
    rw [done]
  obtain ⟨«_», _, same⟩ := counted_eq layout (highlighted page matched)
  have nodes : matchNodes (complete casing layout page state).2 = matchNodes matched := by
    rw [unfolded, matchNodes_concludeSearch, matchNodes_counted]
    rfl
  have shown := concludeSearch_eq layout (counted layout (highlighted page matched))
  rw [← unfolded] at shown
  rw [same] at shown
  refine ⟨?_, ?_, nodes, ?_, ?_⟩ <;> rw [shown] <;> rfl

theorem complete_of_error {layout : Layout} {page : Page} {failed : State}
    (threw : matchAll casing (walked casing state) = .error failed) :
    complete casing layout page state = (.thrown, settle failed) := by
  unfold complete
  rw [threw]

/-- However a search ends, the text and the sections are those of the walk. -/
theorem complete_sameTexts (casing : Casing) (layout : Layout) (page : Page) (state : State) :
    (complete casing layout page state).2.allText = (walked casing state).allText ∧
      (complete casing layout page state).2.sections = (walked casing state).sections := by
  have left : Leaves (SameTexts (walked casing state)) (matchAll casing (walked casing state)) :=
    leaves_matchAll _
  cases matched : matchAll casing (walked casing state) with
  | error _ =>
    rw [matched] at left
    rw [complete_of_error matched]
    exact ⟨left.allText, left.sections⟩
  | ok _ =>
    rw [matched] at left
    grind [complete_of_ok, left.allText, left.sections]

/-! ## The searches that split well -/

variable {page : Page} {findText : Text}

/-- After the walk nothing is pending and no match has been counted. -/
theorem counted_started (casing : Casing) (page : Page) (findText : Text) :
    Counted 0 (walked casing (started findText (initial page))) := by
  rw [walked_started]
  refine ⟨⟨?_, nofun, .nil, nofun, nofun, nofun, fun _ => nofun⟩, rfl⟩
  exact fun within mem => (whole_of_mem_laidOut mem).1

variable (kept : ∀ node ∈ searchedTexts page, KeepsLength casing node)
include kept

/-- Where lengths are kept the walk leaves sections that tile the text. -/
theorem splitting_started :
    Splitting (plainText (searchedTexts page)) 0
      (walked casing (started findText (initial page))) := by
  have laid := laid_laidOut kept
  refine ⟨counted_started casing page findText, ?_, ?_⟩
  · rw [walked_started]
    exact laid
  · intro nonempty
    rw [walked_started]
    cases nodes : searchedTexts page with
    | nil =>
      rw [nodes] at nonempty
      cases nonempty
    | cons node _ => exact ⟨⟨0, 0 + node.textContent.length, node⟩, rfl, Nat.le_refl 0⟩

/-- Then the matching loop does not throw and splits every occurrence. -/
theorem matchAll_started (nonempty : findText ≠ []) :
    ∃ matched, matchAll casing (walked casing (started findText (initial page))) = .ok matched ∧
      SplitAll (occurrences casing findText (loweredText casing (searchedTexts page)) 0)
        findText.length (walked casing (started findText (initial page))) matched := by
  have splitting : Splitting (plainText (searchedTexts page)) 0
    (walked casing (started findText (initial page))) := splitting_started kept
  have isRegex : (walked casing (started findText (initial page))).regex =
      some (getRegex findText) := by
    rw [walked_started]
    rfl
  have sameText : (walked casing (started findText (initial page))).allText =
      loweredText casing (searchedTexts page) := by
    rw [walked_started]
  apply splitting.matchAll isRegex nonempty (Nat.le_refl _)
  · rw [sameText, length_loweredText kept]
  · rw [sameText]
    rfl

omit kept

/-- The parts of a match are those of its highlights once nothing is pending. -/
theorem recorded_eq_of_matchNodes (emptied : state.partialMatches = []) {matchId : Nat}
    {nodes : List ChromeFind} (atId : (matchNodes state)[matchId]? = some nodes) :
    recorded state matchId = nodes.map fun found => found.part := by
  unfold matchNodes at atId
  rw [List.getElem?_map] at atId
  unfold recorded placedAt
  cases found : state.matches[matchId]? with
  | none =>
    rw [found] at atId
    cases atId
  | some _ =>
    rw [found] at atId
    cases atId
    simp [emptied]

include kept

/-- The highlights of every match tile its range inside the sections, and show the
matched text if the text searched for has no line break and no NUL. -/
theorem SplitAll.matchSplit_iff
    (splitAll : SplitAll (occurrences casing findText (loweredText casing (searchedTexts page)) 0)
      findText.length (walked casing (started findText (initial page))) matched)
    (sameText : matched.allText = loweredText casing (searchedTexts page)) {index : Nat}
    {nodes : List ChromeFind}
    (atIndex : (occurrences casing findText matched.allText 0)[index]? = some begin)
    (atId : (matchNodes matched)[index]? = some nodes) :
    MatchSplit letters findText.length matched begin nodes ↔ Lossless findText := by
  obtain ⟨_, pending⟩ := splitAll.pending
  have laid : Laid (plainText (searchedTexts page)) matched.sections := by
    rw [splitAll.sections, walked_started]
    exact laid_laidOut kept
  have tiles : Tiles begin (begin + findText.length)
      (nodes.map fun found => found.part.interval) := by
    have recorded := splitAll.tiles (sameText ▸ atIndex)
    rw [walked_started] at recorded
    change Tiles _ _ ((FindInPage.recorded matched (0 + index)).map _) at recorded
    rw [Nat.zero_add, recorded_eq_of_matchNodes splitAll.emptied atId, List.map_map] at recorded
    exact recorded
  obtain ⟨candidate, memCandidate, rfl⟩ := List.mem_map.mp (List.mem_of_getElem? atId)
  have wraps := pending.wraps candidate memCandidate
  have sameLetters : matched.allText.map letters.fold =
      (plainText (searchedTexts page)).map letters.fold := by
    rw [sameText]
    exact fold_loweredText letters kept
  have shown := shown_iff_lossless letters sameLetters
    (matchesAt_of_mem_occurrences (List.mem_of_getElem? atIndex))
    (laid.textContent_nodes pending.whole wraps tiles)
  constructor
  · exact fun split => shown.mp split.shown
  · refine fun lossless => ⟨tiles, fun found mem => ?_, shown.mpr lossless⟩
    have wrapped := wraps found mem
    exact ⟨wrapped.inSections, wrapped.fits.begin, wrapped.fits.ending⟩

omit kept

/-- Selecting the first match does not throw after a search that splits well. -/
theorem complete_ne_thrown (done : matchAll casing (walked casing state) = .ok matched)
    (highlights : ∀ nodes ∈ matchNodes matched, nodes ≠ [])
    (unselected : state.selectedMatchIndex = -1) :
    (complete casing layout page state).1 ≠ .thrown := by
  have same : SameTexts (walked casing state) matched := by
    have left : Leaves (SameTexts (walked casing state))
      (matchAll casing (walked casing state)) := leaves_matchAll _
    rw [done] at left
    exact left
  have selection : (walked casing state).selectedMatchIndex = -1 := by
    simp [walked, addSections_eq, unselected]
  have nodes : matchNodes (counted layout (highlighted page matched)) = matchNodes matched :=
    matchNodes_counted layout (highlighted page matched)
  obtain ⟨«_», _, counted⟩ := counted_eq layout (highlighted page matched)
  unfold complete
  rw [done]
  apply concludeSearch_ne_thrown
  · intro found mem
    apply highlights
    rw [← nodes]
    exact List.mem_map_of_mem mem
  · rw [counted]
    exact same.selectedMatchIndex.trans selection

include kept

/-- All matches are split well, or none is, unless there are none. -/
theorem SplitAll.forall₂_matchSplit_iff (nonempty : findText ≠ [])
    (splitAll : SplitAll (occurrences casing findText (loweredText casing (searchedTexts page)) 0)
      findText.length (walked casing (started findText (initial page))) matched)
    (sameText : matched.allText = loweredText casing (searchedTexts page)) :
    List.Forall₂ (MatchSplit letters findText.length matched)
        (occurrences casing findText matched.allText 0) (matchNodes matched) ↔
      Lossless findText ∨ (getRegex findText).exec casing matched.allText = none := by
  have count : (occurrences casing findText matched.allText 0).length =
      (matchNodes matched).length := by
    have length := splitAll.count
    rw [walked_started] at length
    unfold matchNodes
    rw [List.length_map, length, sameText]
    exact (Nat.zero_add _).symm
  rw [List.forall₂_iff_get]
  constructor
  · rintro ⟨-, each⟩
    cases executed : (getRegex findText).exec casing matched.allText with
    | none => exact .inr rfl
    | some begin =>
      left
      have first : (occurrences casing findText matched.allText 0)[0]? = some begin := by
        rw [show occurrences casing findText matched.allText 0 = _ from
          occurrences_of_some nonempty executed]
        rfl
      grind [splitAll.matchSplit_iff]
  · intro searched
    refine ⟨count, fun index inRange inNodes => ?_⟩
    rcases searched with lossless | none
    · exact (splitAll.matchSplit_iff kept sameText (List.getElem?_eq_getElem inRange)
        (List.getElem?_eq_getElem inNodes)).mpr lossless
    · have nothing : occurrences casing findText matched.allText 0 = [] :=
        occurrences_of_none none
      simp [nothing] at inRange

omit kept

/-- A match that is split well has highlights. -/
theorem nodes_ne_nil_of_matchSplit {begins : List Nat} {nodes : List (List ChromeFind)}
    (nonempty : findText ≠ [])
    (split : List.Forall₂ (MatchSplit letters findText.length state) begins nodes) :
    ∀ found ∈ nodes, found ≠ [] := by
  induction split with
  | nil => nofun
  | cons first _ ih =>
    intro found mem
    rcases List.mem_cons.mp mem with rfl | mem
    · rintro rfl
      have same := Tiles.nil_iff.mp first.tiles
      grind
    · exact ih found mem

theorem MatchSplit.of_same {length : Nat} {nodes : List ChromeFind} {after : State}
    (split : MatchSplit letters length state begin nodes) (allText : after.allText = state.allText)
    (sections : after.sections = state.sections) : MatchSplit letters length after begin nodes where
  tiles := split.tiles
  inside := sections ▸ split.inside
  shown := allText ▸ split.shown

theorem WellSplit.of_same {result other : Outcome × State}
    (split : WellSplit letters findText result) (outcome : other.1 = result.1)
    (allText : other.2.allText = result.2.allText) (sections : other.2.sections = result.2.sections)
    (nodes : matchNodes other.2 = matchNodes result.2) : WellSplit letters findText other where
  tiled := allText ▸ sections ▸ split.tiled
  inRange := outcome ▸ split.inRange
  split := by
    rw [allText, nodes]
    exact split.split.imp fun _ _ each => each.of_same allText sections

variable (letters : LetterCase casing) (layout : Layout) (page : Page)

/-- The searches without a timer that split well. -/
theorem wellSplit_complete_iff (nonempty : findText ≠ []) :
    WellSplit letters findText (complete casing layout page (started findText (initial page))) ↔
      (∀ node ∈ searchedTexts page, KeepsLength casing node) ∧
        (Lossless findText ∨
          (getRegex findText).exec casing (loweredText casing (searchedTexts page)) = none) := by
  obtain ⟨sameText, sameSections⟩ := complete_sameTexts casing layout page
    (started findText (initial page))
  have tiled := tiles_laidOut_iff casing 0 (searchedTexts page)
  rw [walked_started] at sameText sameSections
  simp only at sameText sameSections
  rw [Nat.zero_add, ← sameText, ← sameSections] at tiled
  by_cases kept : ∀ node ∈ searchedTexts page, KeepsLength casing node
  · obtain ⟨matched, done, splitAll⟩ := matchAll_started kept nonempty
    obtain ⟨allText, sections, nodes, -⟩ := complete_of_ok layout page done
    have matchedText : matched.allText = loweredText casing (searchedTexts page) :=
      allText.symm.trans sameText
    have splits : List.Forall₂ (MatchSplit letters findText.length matched) _ _ ↔ _ :=
      splitAll.forall₂_matchSplit_iff kept nonempty matchedText
    rw [← matchedText, ← splits]
    constructor
    · intro split
      refine ⟨kept, ?_⟩
      have each := split.split
      rw [nodes, allText] at each
      exact each.imp fun _ _ each => each.of_same allText.symm sections.symm
    · rintro ⟨-, split⟩
      refine ⟨tiled.mpr kept, ?_, ?_⟩
      · exact complete_ne_thrown layout done (nodes_ne_nil_of_matchSplit nonempty split) rfl
      · rw [nodes, allText]
        exact split.imp fun _ _ each => each.of_same allText sections
  · constructor
    · exact fun split => absurd (tiled.mp split.tiled) kept
    · exact fun kept' => absurd kept'.1 kept

theorem wellSplit_empty (budget : Nat) (budgets : List Nat) :
    WellSplit letters [] (search casing layout [] budget budgets (initial page)) := by
  rw [search_empty]
  refine ⟨.done 0, nofun, ?_⟩
  have nothing : occurrences casing [] (cleanUpPrevious (initial page)).allText 0 = [] := by
    unfold occurrences
    split
    · rfl
    · rfl
  rw [nothing]
  exact .nil

/-- However it is cut, a search in a module just loaded splits its matches well if
and only if lower-casing keeps the length of every text node and no line break or
NUL is found. -/
theorem search_wellSplit_iff (letters : LetterCase casing) (layout : Layout) (page : Page)
    (findText : Text) :
    (∀ budget budgets,
        (search casing layout findText budget budgets (initial page)).1 ≠ .timeout →
        WellSplit letters findText
          (search casing layout findText budget budgets (initial page))) ↔
      findText = [] ∨ ((∀ node ∈ searchedTexts page, KeepsLength casing node) ∧
        (Lossless findText ∨
          (getRegex findText).exec casing (loweredText casing (searchedTexts page)) = none)) := by
  by_cases empty : findText = []
  · subst empty
    simp [wellSplit_empty]
  · have same : ∀ {budget budgets},
        (search casing layout findText budget budgets (initial page)).1 ≠ .timeout →
        (WellSplit letters findText
            (search casing layout findText budget budgets (initial page)) ↔
          WellSplit letters findText
            (complete casing layout page (started findText (initial page)))) := by
      intro budget budgets done
      rw [← (search_pumped (sound_initial page) empty budget budgets).done done]
      constructor
      · exact fun split => split.of_same rfl rfl rfl rfl
      · exact fun split => split.of_same rfl rfl rfl rfl
    rw [or_iff_right empty, ← wellSplit_complete_iff letters layout page empty]
    constructor
    · intro split
      obtain ⟨budget, done⟩ : ∃ budget,
          (search casing layout findText budget [] (initial page)).1 ≠ .timeout :=
        search_completes (sound_initial page) findText
      exact (same done).mp (split budget [] done)
    · grind

end WellSplit

/-! ## A lower case of another length -/

def dottedCasing : Casing where
  toLowerCase := List.flatMap fun unit =>
    if unit = 0x130 then [105, 0x307] else asciiCasing.toLowerCase [unit]
  canonicalize := asciiCasing.canonicalize

def asciiLower (unit : UInt16) : UInt16 := if 65 ≤ unit ∧ unit ≤ 90 then unit + 32 else unit

theorem isLost_of_isLetter {unit : UInt16} (letter : 65 ≤ unit ∧ unit ≤ 122) :
    isLost unit = false := by
  unfold isLost
  grind [lineFeed, carriageReturn, nul]

theorem isLost_asciiLower : isLost (asciiLower unit) = isLost unit := by
  unfold asciiLower
  grind [isLost_of_isLetter]

theorem isLost_canonicalize : isLost (asciiCasing.canonicalize unit) = isLost unit := by
  grind [asciiCasing, isLost_of_isLetter]

theorem asciiLower_asciiLower : asciiLower (asciiLower unit) = asciiLower unit := by
  unfold asciiLower
  grind

/-- The dotted capital I makes a text longer; where it does not occur the text
keeps its letters. -/
theorem dottedCasing_toLowerCase (text : Text) :
    text.length ≤ (dottedCasing.toLowerCase text).length ∧
      ((dottedCasing.toLowerCase text).length = text.length →
        (dottedCasing.toLowerCase text).map asciiLower = text.map asciiLower) := by
  induction text with
  | nil => exact ⟨Nat.le_refl 0, fun _ => rfl⟩
  | cons unit rest _ =>
    have split : dottedCasing.toLowerCase (unit :: rest) =
        (if unit = 0x130 then [105, 0x307] else [asciiLower unit]) ++
          dottedCasing.toLowerCase rest := rfl
    grind [asciiLower_asciiLower]

def dottedLetters : LetterCase dottedCasing where
  fold := asciiLower
  fold_toLowerCase text := (dottedCasing_toLowerCase text).2
  isLost_of_fold first second same := by
    rw [← isLost_asciiLower first, same, isLost_asciiLower]
  isLost_of_canonicalize first second same :=
    (isLost_canonicalize first).symm.trans
      ((congrArg isLost same).trans (isLost_canonicalize second))

/-- The text "İx" searched for "x": the match is looked for in a section that does
not exist. -/
theorem search_wellSplit_dotted :
    let layout : Layout := fun _ _ => true
    let result := search dottedCasing layout [120] 9 [] (initial (Page.ofText [0x130, 120]))
    result.1 = .thrown ∧ ¬WellSplit dottedLetters [120] result := by
  intro layout result
  have threw : result.1 = .thrown := by decide +kernel
  exact ⟨threw, fun split => split.inRange threw⟩

end ChromiumIos.FindInPage
