import ChromiumIos.Lib.Tiling
import ChromiumIos.FindInPage.Invariant

/-!
# Cutting a section into pieces

The partial matches of a section follow one another, so that the pieces made for
them and for the text between them are consecutive slices of the text of its
node.  A piece that is highlighted loses its line breaks and NULs; where it has
none, the pieces put together are the text.
-/

namespace ChromiumIos.FindInPage

open Lib

/-! ## Substrings -/

variable (replacement : Nat) {first second : Nat} (state : State) (within : Section)

/-- Where an index of the whole text falls in the text of a section. -/
def position (within : Section) (index : Nat) : Nat :=
  min (index - within.begin) within.node.textContent.length

theorem position_mono (ordered : first ≤ second) :
    position within first ≤ position within second := by
  unfold position
  omega

/-- The substring the script takes for a range of the whole text. -/
theorem substring_eq_slice (ordered : position within first ≤ position within second) :
    substring within.node.textContent ((first : Int) - within.begin)
        ((second : Int) - within.begin) =
      slice within.node.textContent (position within first) (position within second) := by
  unfold position at ordered
  simp [substring, slice, position, ordered]

/-! ## The text of a highlight -/

def keepsUnit (unit : UInt16) : Bool := !isLost unit

def piecesText (pieces : List Piece) : Text :=
  pieces.flatMap fun piece =>
    match piece with
    | .run text => text
    | .lineBreak => []

theorem textContent_innerNodes (position child : Nat) (pieces : List Piece) :
    textContent (innerNodes replacement position child pieces) = piecesText pieces := by
  induction pieces generalizing child with
  | nil => rfl
  | cons piece _ ih =>
    cases piece with
    | run text => exact congrArg (text ++ ·) (ih (child + 1))
    | lineBreak => exact ih (child + 1)

theorem piecesText_innerPieces (afterReturn : Bool) (text : Text) :
    piecesText (innerPieces afterReturn text) = text.filter keepsUnit := by
  induction text generalizing afterReturn with
  | nil => rfl
  | cons unit _ ih =>
    unfold innerPieces
    by_cases isFeed : unit = lineFeed
    · have lost : keepsUnit unit = false := by rw [isFeed]; rfl
      rw [if_pos isFeed, List.filter_cons_of_neg (by simp [lost])]
      split
      · exact ih false
      · exact ih false
    · rw [if_neg isFeed]
      by_cases isReturn : unit = carriageReturn
      · have lost : keepsUnit unit = false := by rw [isReturn]; rfl
        rw [if_pos isReturn, List.filter_cons_of_neg (by simp [lost])]
        exact ih true
      · rw [if_neg isReturn]
        by_cases isNul : unit = nul
        · have lost : keepsUnit unit = false := by rw [isNul]; rfl
          grind
        · have kept : keepsUnit unit = true := by
            simp [keepsUnit, isLost, isFeed, isReturn, isNul]
          rw [if_neg isNul, List.filter_cons_of_pos kept, ← ih false]
          split
          · next text more pieces =>
              rw [pieces]
              rfl
          · rfl

/-- A highlight shows its text without line breaks and NULs. -/
theorem textContent_createChromeFind (position : Nat) (text : Text) :
    textContent [createChromeFind replacement position text] = text.filter keepsUnit := by
  have inside : textContent [createChromeFind replacement position text] =
      textContent (innerNodes replacement position 0 (innerPieces false text)) :=
    List.append_nil _
  rw [inside, textContent_innerNodes, piecesText_innerPieces]

/-! ## The text of the pieces -/

def partText (within : Section) (part : PartialMatch) : Text :=
  substring within.node.textContent ((part.begin : Int) - within.begin)
    ((part.ending : Int) - within.begin)

/-- A text that can be highlighted without losing anything. -/
def Lossless (text : Text) : Prop := ∀ unit ∈ text, isLost unit = false

theorem filter_keepsUnit_of_lossless {text : Text} (lossless : Lossless text) :
    text.filter keepsUnit = text := by
  rw [List.filter_eq_self]
  intro unit mem
  unfold keepsUnit
  rw [lossless unit mem]
  rfl

structure Fits (within : Section) (part : PartialMatch) : Prop where
  begin : within.begin ≤ part.begin
  ending : part.ending ≤ within.ending
  ordered : position within part.begin ≤ position within part.ending

theorem textContent_append (first second : List Node) :
    textContent (first ++ second) = textContent first ++ textContent second :=
  gather_append _ first second

variable {parts : List PartialMatch}

namespace Pieces

variable {replacement : Nat} {within : Section} {pieces : Pieces} {part : PartialMatch}

theorem textContent_createTextNode (text : textContent pieces.newNodes =
      slice within.node.textContent 0 (position within first)) (ordered : first ≤ second) :
    textContent (pieces.createTextNode replacement within first second).newNodes =
      slice within.node.textContent 0 (position within second) := by
  have appended : textContent (pieces.createTextNode replacement within first second).newNodes =
      textContent pieces.newNodes ++ slice within.node.textContent (position within first)
        (position within second) := by
    rw [← substring_eq_slice within (position_mono within ordered)]
    exact (textContent_append _ _).trans (congrArg _ (List.append_nil _))
  rw [appended, text]
  exact slice_append _ (Nat.zero_le _) (position_mono within ordered)

theorem textContent_createHighlight (fits : Fits within part)
    (text : textContent pieces.newNodes =
      slice within.node.textContent 0 (position within part.begin))
    (lossless : Lossless (partText within part)) :
    textContent (pieces.createHighlight replacement within part).newNodes =
      slice within.node.textContent 0 (position within part.ending) := by
  have appended : textContent (pieces.createHighlight replacement within part).newNodes =
      textContent pieces.newNodes ++ (partText within part).filter keepsUnit := by
    rw [← textContent_createChromeFind replacement pieces.newNodes.length]
    exact textContent_append _ _
  rw [appended, text, filter_keepsUnit_of_lossless lossless, partText,
    substring_eq_slice within fits.ordered]
  exact slice_append _ (Nat.zero_le _) fits.ordered

theorem previousEnd_add : (pieces.add replacement within part).previousEnd = part.ending := by
  unfold add
  split <;> rfl

theorem textContent_add (fits : Fits within part) (after : pieces.previousEnd ≤ part.begin)
    (text : textContent pieces.newNodes =
      slice within.node.textContent 0 (position within pieces.previousEnd))
    (lossless : Lossless (partText within part)) :
    textContent (pieces.add replacement within part).newNodes =
      slice within.node.textContent 0 (position within part.ending) := by
  unfold add
  grind [textContent_createHighlight, textContent_createTextNode]

/-- Partial matches that follow one another cut the text into consecutive slices. -/
theorem textContent_foldl (fits : ∀ part ∈ parts, Fits within part)
    (ordered : parts.Pairwise fun first second => first.ending ≤ second.begin)
    (after : ∀ part ∈ parts, pieces.previousEnd ≤ part.begin)
    (inside : pieces.previousEnd ≤ within.ending) (text : textContent pieces.newNodes =
      slice within.node.textContent 0 (position within pieces.previousEnd))
    (lossless : ∀ part ∈ parts, Lossless (partText within part)) :
    (parts.foldl (add replacement within) pieces).previousEnd ≤ within.ending ∧
      textContent (parts.foldl (add replacement within) pieces).newNodes =
        slice within.node.textContent 0
          (position within (parts.foldl (add replacement within) pieces).previousEnd) := by
  induction parts generalizing pieces with
  | nil => exact ⟨inside, text⟩
  | cons part rest ih =>
    have here : part ∈ part :: rest := List.mem_cons_self ..
    obtain ⟨follow, ordered⟩ := List.pairwise_cons.mp ordered
    apply ih (fun other mem => fits other (List.mem_cons_of_mem _ mem)) ordered
    · simpa [previousEnd_add] using follow
    · rw [previousEnd_add]
      exact (fits part here).ending
    · grind [previousEnd_add, textContent_add]
    · grind

end Pieces

/-- The pieces of a section put together are its text, if nothing highlighted is lost. -/
theorem textContent_cutSection {state : State} {within : Section}
    (whole : within.ending = within.begin + within.node.textContent.length)
    (fits : ∀ part ∈ state.partialMatches, Fits within part)
    (ordered : state.partialMatches.Pairwise fun first second => first.ending ≤ second.begin)
    (lossless : ∀ part ∈ state.partialMatches, Lossless (partText within part)) :
    textContent (cutSection state within).newNodes = within.node.textContent := by
  have start : position within within.begin = 0 := by
    unfold position
    omega
  have finish : position within within.ending = within.node.textContent.length := by
    unfold position
    omega
  have all : slice within.node.textContent 0 within.node.textContent.length =
      within.node.textContent := List.take_length
  have none : textContent [] = slice within.node.textContent 0 (position within within.begin) := by
    rw [start]
    rfl
  obtain ⟨inside, text⟩ : _ ∧ textContent (state.partialMatches.foldl
      (Pieces.add state.replacements.length within)
      ⟨[], within.begin, state.matches⟩).newNodes = _ :=
    Pieces.textContent_foldl fits ordered (fun part mem => (fits part mem).begin)
      (by rw [whole]; exact Nat.le_add_right _ _) none lossless
  unfold cutSection Pieces.close
  grind [Pieces.textContent_createTextNode]

/-! ## The parts of the matches -/

def placedAt («matches» : List Match) (matchId : Nat) : List (Section × PartialMatch) :=
  («matches»[matchId]?.map fun found =>
    found.nodes.map fun part => (part.within, part.part)).getD []

/-- A highlight recorded in a match lies in one of the sections and shows its text. -/
structure Wraps (sections : List Section) (found : ChromeFind) : Prop where
  inSections : found.within ∈ sections
  fits : Fits found.within found.part
  text : textContent [found.element] = (partText found.within found.part).filter keepsUnit

namespace Pieces

variable {replacement : Nat} {within : Section} {pieces : Pieces} {part : PartialMatch}

theorem matches_add (replacement : Nat) (within : Section) (pieces : Pieces)
    (part : PartialMatch) :
    ∃ position, (pieces.add replacement within part).matches =
      pieces.matches.modify part.matchId fun found =>
        { found with nodes := found.nodes ++
          [⟨createChromeFind replacement position (partText within part), within, part⟩] } := by
  unfold add
  split
  · exact ⟨_, rfl⟩
  · exact ⟨_, rfl⟩

theorem length_matches_add :
    (pieces.add replacement within part).matches.length = pieces.matches.length := by
  obtain ⟨_, added⟩ := matches_add replacement within pieces part
  rw [added, List.length_modify]

theorem placedAt_add (known : part.matchId < pieces.matches.length) (matchId : Nat) :
    placedAt (pieces.add replacement within part).matches matchId =
      placedAt pieces.matches matchId ++
        ([part].filter fun part => part.matchId = matchId).map fun part => (within, part) := by
  obtain ⟨position, added⟩ := matches_add replacement within pieces part
  unfold placedAt
  grind

/-- Every part is recorded at the end of the match it belongs to. -/
theorem placedAt_foldl (known : ∀ part ∈ parts, part.matchId < pieces.matches.length)
    (matchId : Nat) :
    placedAt (parts.foldl (add replacement within) pieces).matches matchId =
      placedAt pieces.matches matchId ++
        (parts.filter fun part => part.matchId = matchId).map fun part => (within, part) := by
  induction parts generalizing pieces with
  | nil => exact (List.append_nil _).symm
  | cons _ _ _ =>
    grind [length_matches_add, placedAt_add]

variable {sections : List Section}

theorem wraps_add (inSections : within ∈ sections) (fits : Fits within part)
    (wraps : ∀ found ∈ pieces.matches, ∀ node ∈ found.nodes, Wraps sections node) :
    ∀ found ∈ (pieces.add replacement within part).matches, ∀ node ∈ found.nodes,
      Wraps sections node := by
  obtain ⟨position, added⟩ := matches_add replacement within pieces part
  rw [added]
  intro found mem node memNode
  obtain ⟨index, atIndex⟩ := List.mem_iff_getElem?.mp mem
  rw [List.getElem?_modify] at atIndex
  cases before : pieces.matches[index]? with
  | none =>
    rw [before] at atIndex
    cases atIndex
  | some earlier =>
    rw [before] at atIndex
    have memEarlier := List.mem_of_getElem? before
    have sameFound := Option.some.inj atIndex
    split at sameFound
    · rw [← sameFound] at memNode
      rcases List.mem_append.mp memNode with memNode | memNode
      · exact wraps earlier memEarlier node memNode
      · cases List.mem_singleton.mp memNode
        exact ⟨inSections, fits, textContent_createChromeFind _ _ _⟩
    · grind

theorem wraps_foldl (inSections : within ∈ sections) (fits : ∀ part ∈ parts, Fits within part)
    (wraps : ∀ found ∈ pieces.matches, ∀ node ∈ found.nodes, Wraps sections node) :
    ∀ found ∈ (parts.foldl (add replacement within) pieces).matches, ∀ node ∈ found.nodes,
      Wraps sections node := by
  induction parts generalizing pieces with
  | nil => exact wraps
  | cons _ _ _ =>
    grind [wraps_add, List.mem_cons_self]

end Pieces

theorem cutSection_matches :
    (cutSection state within).matches =
      (state.partialMatches.foldl (Pieces.add state.replacements.length within)
        ⟨[], within.begin, state.matches⟩).matches := by
  unfold cutSection Pieces.close
  split <;> rfl

/-! ## What has been recorded and what is pending -/

def recorded (state : State) (matchId : Nat) : List PartialMatch :=
  (placedAt state.matches matchId).map Prod.snd ++
    state.partialMatches.filter fun part => part.matchId = matchId

/-- Nothing is lost by highlighting the parts recorded so far. -/
def Intact (state : State) : Prop :=
  ∀ matchId, ∀ placed ∈ placedAt state.matches matchId, Lossless (partText placed.1 placed.2)

/-- The pending partial matches lie in the current section, follow one another
and end at the latest at `frontier`. -/
structure Pending (frontier : Nat) (state : State) : Prop where
  whole : ∀ within ∈ state.sections,
    within.ending = within.begin + within.node.textContent.length
  current : ∀ part ∈ state.partialMatches, ∃ within,
    state.sections[state.sectionsIndex]? = some within ∧ Fits within part
  ordered : state.partialMatches.Pairwise fun first second => first.ending ≤ second.begin
  before : ∀ part ∈ state.partialMatches, part.ending ≤ frontier
  known : ∀ part ∈ state.partialMatches, part.matchId < state.matches.length
  wraps : ∀ found ∈ state.matches, ∀ node ∈ found.nodes, Wraps state.sections node
  replaced : Intact state → ∀ replacement ∈ state.replacements,
    textContent replacement.newNodes = replacement.oldNode.textContent

/-- Dealing with the pending partial matches records them. -/
structure Recorded (before after : State) : Prop where
  emptied : after.partialMatches = []
  length : after.matches.length = before.matches.length
  recorded : ∀ matchId, recorded after matchId = recorded before matchId
  sections : after.sections = before.sections
  sectionsIndex : after.sectionsIndex = before.sectionsIndex
  matchId : after.matchId = before.matchId

namespace Pending

variable {frontier : Nat} {state after : State}

theorem process (pending : Pending frontier state) :
    ∃ after, processPartialMatchesInCurrentSection state = .ok after ∧
      Pending frontier after ∧ Recorded state after := by
  unfold processPartialMatchesInCurrentSection
  by_cases none : state.partialMatches = []
  · rw [if_pos none]
    exact ⟨state, rfl, pending, none, rfl, fun _ => rfl, rfl, rfl, rfl⟩
  · rw [if_neg none]
    obtain ⟨part, rest, parts⟩ := List.exists_cons_of_ne_nil none
    obtain ⟨within, current, -⟩ := pending.current part (parts ▸ List.mem_cons_self ..)
    have inSections := List.mem_of_getElem? current
    have fits : ∀ part ∈ state.partialMatches, Fits within part := by
      intro part mem
      obtain ⟨other, same, fits⟩ := pending.current part mem
      grind
    have placed : ∀ matchId, placedAt (cutSection state within).matches matchId =
        placedAt state.matches matchId ++ (state.partialMatches.filter fun part =>
          part.matchId = matchId).map fun part => (within, part) := by
      intro matchId
      rw [cutSection_matches]
      exact Pieces.placedAt_foldl pending.known matchId
    rw [current]
    refine ⟨_, rfl, ⟨pending.whole, nofun, .nil, nofun, nofun, ?_, ?_⟩,
      rfl, cutSection_matches_length state within, ?_, rfl, rfl, rfl⟩
    · simpa [cutSection_matches] using Pieces.wraps_foldl inSections fits pending.wraps
    · intro intact replacement mem
      rcases List.mem_append.mp mem with earlier | last
      · apply pending.replaced _ replacement earlier
        intro matchId recordedPart memPart
        apply intact matchId
        simp [placed, memPart]
      · cases List.mem_singleton.mp last
        apply textContent_cutSection (pending.whole within inSections) fits pending.ordered
        intro part mem
        apply intact part.matchId (within, part)
        simp [placed, mem]
    · intro matchId
      change (placedAt (cutSection state within).matches matchId).map _ ++ [] = _
      rw [placed, List.map_append, List.map_map, List.append_nil]
      congr 1
      exact List.map_id _

end Pending

end ChromiumIos.FindInPage
