import ChromiumIos.FindInPage.Histories
import ChromiumIos.FindInPage.WellSplit

/-!
# Searches cut by timeouts

However the calls of a search are cut, cleaning up restores the page, and the
search that is done has come to the same matches and the same document.  The
text of the document stays what it is, unless a line break or a NUL is
highlighted: those are lost on the way through the inner HTML.
-/

namespace ChromiumIos.FindInPage

open Lib

variable {casing : Casing} {layout : Layout} {page : Page} {findText : Text}

/-! ## The text of a document -/

/-- Exchanging text nodes for nodes with the same text keeps the text content. -/
theorem textContent_render {swaps : Swaps} {nodes : List Node}
    (same : ∀ node ∈ textNodes nodes, ∀ {newNodes}, swaps node.id = some newNodes →
      textContent newNodes = node.textContent) :
    textContent (render swaps nodes) = textContent nodes := by
  induction nodes using forest_induction with
  | nil => rfl
  | text node rest ih =>
    have here : textContent ((swaps node.id).getD [.text node]) = node.textContent := by
      cases swapped : swaps node.id with
      | none => exact List.append_nil _
      | some _ => exact same node (List.mem_cons_self ..) swapped
    have following := ih fun other mem => same other (List.mem_cons_of_mem _ mem)
    change textContent ((swaps node.id).getD [.text node] ++ render swaps rest) = _
    rw [textContent_append, here, following]
    rfl
  | element _ _ childNodes rest inside outside =>
    have within := inside fun node mem => same node (List.mem_append_left _ mem)
    have following := outside fun node mem => same node (List.mem_append_right _ mem)
    change textContent (render swaps childNodes) ++ textContent (render swaps rest) = _
    rw [within, following]
    rfl
  | other _ _ ih => exact ih same

variable {state : State}

/-- The document has the text of the page when every replacement has the text of
its node. -/
theorem Shows.textContent_document {count : Nat} (shown : Shows page count state)
    (same : ∀ replacement ∈ state.replacements,
      textContent replacement.newNodes = replacement.oldNode.textContent) :
    textContent state.document = textContent page.roots := by
  rw [shown.document]
  apply textContent_render
  intro node mem newNodes swapped
  obtain ⟨replacement, executed, sameId, rfl⟩ := placed_eq_some swapped
  have inState := List.mem_of_mem_take executed
  obtain ⟨index, replaces⟩ := shown.replaces_of_mem inState
  grind [textNode_eq_of_id_eq, page.distinct, replaces.inPage]

/-! ## What the matching loop highlights -/

/-- Whatever the lower case is, what the matching loop leaves is recorded. -/
theorem Counted.matchAll {frontier : Nat} {last : State} {regex : RegExp} {begins : List Nat}
    (counted : Counted frontier state) (isRegex : state.regex = some regex)
    (nonempty : regex.source ≠ []) (after : frontier ≤ regex.lastIndex)
    (occurs : occurrences casing regex.source state.allText regex.lastIndex = begins)
    (matched : matchAll casing state = .ok last) :
    (∃ frontier, Pending frontier last) ∧
      last.matches.length = state.matches.length + begins.length := by
  induction begins generalizing frontier state regex with
  | nil =>
    have none : regex.exec casing state.allText = none := by
      cases executed : regex.exec casing state.allText with
      | none => rfl
      | some _ =>
        simp [occurrences_of_some nonempty executed] at occurs
    obtain ⟨finished, done, splitAll⟩ := counted.pending.finishMatching
    rw [matchAll_of_none isRegex none, done] at matched
    cases matched
    exact ⟨(splitAll 0).pending, (splitAll 0).count⟩
  | cons begin _ ih =>
    cases executed : regex.exec casing state.allText with
    | none =>
      rw [occurrences_of_none executed] at occurs
      cases occurs
    | some _ =>
      rw [occurrences_of_some nonempty executed] at occurs
      cases occurs
      have advanced : Counted frontier (advance regex begin state) :=
        ⟨counted.pending.advance regex begin, counted.counted⟩
      have above := (RegExp.exec_eq_some executed).1
      cases found : FindInPage.foundMatch begin (begin + regex.source.length)
          (advance regex begin state) with
      | error _ =>
        grind [matchAll_of_thrown]
      | ok next =>
        obtain ⟨countedNext, length⟩ := advanced.foundMatch (Nat.le_trans after above)
          (Nat.le_add_right _ _) found
        have same := sameSearch_foundMatch found
        rw [← matchAll_of_found nonempty isRegex executed found] at matched
        obtain ⟨pending, count⟩ := ih countedNext same.regex nonempty (Nat.le_refl _)
          (congrArg (occurrences casing regex.source · (begin + regex.source.length))
            same.allText) matched
        have pushed : next.matches.length = state.matches.length + 1 := length
        grind

/-- A matching loop that throws leaves the regular expression. -/
theorem regex_of_matchAll_error {failed : State} (threw : matchAll casing state = .error failed) :
    failed.regex.isSome := by
  cases isRegex : state.regex with
  | none =>
    rw [matchAll_of_regex_none isRegex] at threw
    cases threw
  | some regex =>
    have kept : ∀ {current after : State} {begin}, current.regex.isSome →
        SameSearch (advance regex begin current) after → after.regex.isSome :=
      fun _ search => Option.isSome_of_eq_some search.regex
    have looped := leaves_treatAll kept
      (occurrences casing regex.source state.allText regex.lastIndex)
      (Option.isSome_of_eq_some isRegex)
    rw [matchAll_of_regex isRegex] at threw
    cases fold : (occurrences casing regex.source state.allText regex.lastIndex).foldlM
        (fun state begin => foundMatch begin (begin + regex.source.length)
          (advance regex begin state)) state with
    | error _ =>
      rw [fold] at looped threw
      cases threw
      exact looped
    | ok last =>
      rw [fold] at looped threw
      change finishMatching last = _ at threw
      unfold finishMatching at threw
      cases processed : processPartialMatchesInCurrentSection last with
      | error _ =>
        rw [processed] at threw
        cases threw
        exact (process_error processed) ▸ looped
      | ok _ =>
        rw [processed] at threw
        cases threw

/-- What a search that is over the matching loop has replaced. -/
theorem replacements_of_regex_none (ended : (complete casing layout page state).2.regex = none) :
    ∃ matched, matchAll casing (walked casing state) = .ok matched ∧
      (complete casing layout page state).2.replacements = matched.replacements := by
  cases matched : matchAll casing (walked casing state) with
  | error failed =>
    have isSome := regex_of_matchAll_error matched
    rw [complete_of_error matched] at ended
    rw [show failed.regex = none from ended] at isSome
    cases isSome
  | ok last =>
    obtain ⟨-, -, -, replacements, -⟩ := complete_of_ok layout page matched
    exact ⟨last, rfl, replacements⟩

/-! ## Searches that lose nothing -/

/-- Nothing that is highlighted has a line break or a NUL: no text node has, nothing
is found, or the text searched for has none and the matches lie where they are found. -/
def LosesNothing (casing : Casing) (page : Page) (findText : Text) : Prop :=
  (∀ node ∈ searchedTexts page, Lossless node.textContent) ∨
    (getRegex findText).exec casing (loweredText casing (searchedTexts page)) = none ∨
    (Lossless findText ∧ ∀ node ∈ searchedTexts page, KeepsLength casing node)

theorem mem_placedAt {«matches» : List Match} {matchId : Nat}
    {placed : Section × PartialMatch} (mem : placed ∈ placedAt «matches» matchId) :
    ∃ found, «matches»[matchId]? = some found ∧
      ∃ part ∈ found.nodes, placed = (part.within, part.part) := by
  unfold placedAt at mem
  grind

theorem lossless_partText {within : Section} {part : PartialMatch} (fits : Fits within part)
    (lossless : Lossless within.node.textContent) : Lossless (partText within part) := by
  exact fun unit mem => lossless unit (mem_of_mem_slice mem)

/-- Where lengths are kept a highlighted part lies in the text that is matched. -/
theorem lossless_partText_of_kept (letters : LetterCase casing) {matched : State}
    (kept : ∀ node ∈ searchedTexts page, KeepsLength casing node)
    (splitAll : SplitAll (occurrences casing findText (loweredText casing (searchedTexts page)) 0)
      findText.length (walked casing (started findText (initial page))) matched)
    (sameText : matched.allText = loweredText casing (searchedTexts page))
    (lossless : Lossless findText) {index : Nat} {candidate : Match}
    (atIndex : matched.matches[index]? = some candidate) :
    ∀ found ∈ candidate.nodes, Lossless (partText found.within found.part) := by
  obtain ⟨frontier, pending⟩ := splitAll.pending
  have laid : Laid (plainText (searchedTexts page)) matched.sections := by
    rw [splitAll.sections, walked_started]
    exact laid_laidOut kept
  have count : matched.matches.length =
      (occurrences casing findText matched.allText 0).length := by
    rw [splitAll.count, walked_started, sameText]
    exact Nat.zero_add _
  have inRange := (List.getElem?_eq_some_iff.mp atIndex).1
  rw [count] at inRange
  have begins := List.getElem?_eq_getElem inRange
  have atId : (matchNodes matched)[index]? = some candidate.nodes := by
    simp [matchNodes, atIndex]
  have split : MatchSplit letters findText.length matched _ candidate.nodes :=
    (splitAll.matchSplit_iff kept sameText begins atId).mpr lossless
  have sameLetters : matched.allText.map letters.fold =
      (plainText (searchedTexts page)).map letters.fold := by
    rw [sameText]
    exact fold_loweredText letters kept
  have whole := (lossless_slice_iff letters sameLetters
    (matchesAt_of_mem_occurrences (List.mem_of_getElem? begins))).mpr lossless
  intro found mem
  have wrapped := pending.wraps candidate (List.mem_of_getElem? atIndex) found mem
  obtain ⟨above, ordered, below⟩ : _ ≤ found.part.begin ∧
      found.part.begin ≤ found.part.ending ∧ found.part.ending ≤ _ :=
    split.tiles.bounds (List.mem_map_of_mem mem)
  rw [laid.partText_eq_slice wrapped.inSections wrapped.fits
    (pending.whole _ wrapped.inSections) ordered]
  grind [Lossless, slice, slice_slice (plainText (searchedTexts page)) above below]

/-- What such a search has highlighted has no line break and no NUL. -/
theorem LosesNothing.replaced (letters : LetterCase casing) {matched : State}
    (loses : LosesNothing casing page findText) (nonempty : findText ≠ [])
    (done : matchAll casing (walked casing (started findText (initial page))) = .ok matched) :
    ∀ replacement ∈ matched.replacements,
      textContent replacement.newNodes = replacement.oldNode.textContent := by
  have isRegex : (walked casing (started findText (initial page))).regex =
      some (getRegex findText) := by
    rw [walked_started]
    rfl
  obtain ⟨⟨_, pending⟩, count⟩ := (counted_started casing page findText).matchAll isRegex
    nonempty (Nat.le_refl _) rfl done
  have same : SameTexts (walked casing (started findText (initial page))) matched := by
    have left : Leaves (SameTexts (walked casing (started findText (initial page))))
        (matchAll casing (walked casing (started findText (initial page)))) := leaves_matchAll _
    rw [done] at left
    exact left
  apply pending.replaced
  intro matchId placed mem
  obtain ⟨candidate, atId, part, memPart, rfl⟩ := mem_placedAt mem
  have wrapped := pending.wraps candidate (List.mem_of_getElem? atId) part memPart
  rcases loses with texts | none | ⟨lossless, kept⟩
  · apply lossless_partText wrapped.fits
    have inSections := wrapped.inSections
    rw [same.sections, walked_started] at inSections
    exact texts _ (whole_of_mem_laidOut inSections).2
  · have nothing : occurrences casing (getRegex findText).source
        (walked casing (started findText (initial page))).allText
        (getRegex findText).lastIndex = [] := by
      rw [walked_started]
      exact occurrences_of_none none
    have inRange := (List.getElem?_eq_some_iff.mp atId).1
    rw [count, nothing, walked_started] at inRange
    cases inRange
  · obtain ⟨_, doneOther, splitAll⟩ := matchAll_started kept nonempty
    cases done.symm.trans doneOther
    have sameText : matched.allText = loweredText casing (searchedTexts page) := by
      rw [same.allText, walked_started]
    exact lossless_partText_of_kept letters kept splitAll sameText lossless atId part memPart

/-! ## Every cut of a search -/

/-- The text of the document at every cut of a search that loses nothing. -/
theorem Pumped.textContent_document (letters : LetterCase casing) {result : Outcome × State}
    (pumped : Pumped casing layout page
      (complete casing layout page (started findText (initial page))) result)
    (nonempty : findText ≠ []) (loses : LosesNothing casing page findText) :
    textContent result.2.document = textContent page.roots := by
  obtain ⟨count, -, shown⟩ := pumped.sound.shown
  by_cases pending : result.2.stack ≠ [] ∨ result.2.regex.isSome
  · rw [pumped.sound.unexecuted pending]
  · obtain ⟨walkedOver, matchedOver⟩ := not_or.mp pending
    have stack := not_not.mp walkedOver
    have regex := Option.not_isSome_iff_eq_none.mp matchedOver
    have reached : (complete casing layout page (started findText (initial page))).2.regex = none ∧
        (complete casing layout page (started findText (initial page))).2.replacements =
          result.2.replacements := by
      by_cases cut : result.1 = .timeout
      · have underway := pumped.cut cut
        have ended : matchAll casing (walked casing result.2) = .ok result.2 := by
          rw [walked_of_stack_nil stack, matchAll_of_regex_none regex]
        obtain ⟨-, -, -, replacements, sameRegex⟩ := complete_of_ok layout page ended
        grind [underway.completes]
      · rw [← pumped.done cut]
        exact ⟨regex, rfl⟩
    obtain ⟨_, done, replacements⟩ := replacements_of_regex_none reached.1
    apply shown.textContent_document
    rw [← reached.2, replacements]
    exact loses.replaced letters nonempty done

/-- However the calls of a search are cut, whatever was called before: cleaning up
restores the page, a search that is done has come to the matches and the document
of any other, and the text of the document is that of the page if the search starts
clean and loses nothing. -/
theorem search_cut (letters : LetterCase casing) (layout : Layout) (page : Page)
    (calls : List Call) (state : State) (findText : Text) (budget : Nat) (budgets : List Nat)
    (history : calls.foldlM (Call.perform casing) (initial page) = some state) :
    (cleanUp (search casing layout findText budget budgets state).2).document = page.roots ∧
      (∀ budget' budgets',
        (search casing layout findText budget budgets state).1 ≠ .timeout →
        (search casing layout findText budget' budgets' state).1 ≠ .timeout →
        (search casing layout findText budget budgets state).1 =
            (search casing layout findText budget' budgets' state).1 ∧
          settle (search casing layout findText budget budgets state).2 =
            settle (search casing layout findText budget' budgets' state).2) ∧
      (StartsClean findText state → LosesNothing casing page findText →
        textContent (search casing layout findText budget budgets state).2.document =
          textContent page.roots) := by
  have sound := (sound_initial page).history history
  by_cases empty : findText = []
  · subst empty
    simp only [search_empty]
    have cleaned := sound.cleanUpPrevious
    refine ⟨?_, fun _ _ _ _ => ⟨trivial, trivial⟩, fun _ _ => ?_⟩
    · obtain ⟨count, -, shown⟩ := cleaned.shown
      exact shown.cleanUp_document
    · rw [cleaned.document_of_matches_nil (cleanUpPrevious_matches state)]
  · have pumped : Pumped casing layout page _
        (search casing layout findText budget budgets state) :=
      search_pumped sound empty budget budgets
    refine ⟨?_, fun budget' budgets' done doneOther => ?_, fun clean loses => ?_⟩
    · obtain ⟨_, -, shown⟩ := pumped.sound.shown
      exact shown.cleanUp_document
    · have other := (search_pumped sound empty budget' budgets').done doneOther
      have same := (pumped.done done).trans other.symm
      exact Prod.mk.inj same
    · rw [started_eq_initial sound empty clean] at pumped
      exact pumped.textContent_document letters empty loses

/-- The text "ab" searched for "b" by a call that is cut. -/
theorem search_cut_found :
    let layout : Layout := fun _ _ => true
    let result := search dottedCasing layout [98] 3 [] (initial (Page.ofText [97, 98]))
    result.1 = .timeout ∧ (cleanUp result.2).document = (Page.ofText [97, 98]).roots ∧
      textContent result.2.document = textContent (Page.ofText [97, 98]).roots := by
  intro layout result
  have cut : result.1 = .timeout := by decide +kernel
  obtain ⟨cleaned, -, kept⟩ := search_cut dottedLetters layout (Page.ofText [97, 98]) []
    (initial (Page.ofText [97, 98])) [98] 3 [] rfl
  refine ⟨cut, cleaned, kept (.inr (.inr ⟨rfl, rfl⟩)) (.inl ?_)⟩
  intro node mem
  cases List.mem_singleton.mp mem
  have either : ∀ unit ∈ ([97, 98] : Text), unit = 97 ∨ unit = 98 := by
    intro unit within
    simpa using within
  intro unit within
  rcases either unit within with rfl | rfl <;> rfl

/-- The text "a", line feed, "b" searched for itself: the line feed becomes an element. -/
theorem search_cut_lineFeed :
    let layout : Layout := fun _ _ => true
    let page := Page.ofText [97, 10, 98]
    let result := search dottedCasing layout [97, 10, 98] 9 [] (initial page)
    result.1 = .results 1 (some 1) ∧ textContent result.2.document = [97, 98] ∧
      textContent page.roots = [97, 10, 98] := by
  intro layout page result
  refine ⟨?_, ?_, rfl⟩ <;> decide +kernel

end ChromiumIos.FindInPage
