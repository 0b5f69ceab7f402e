import ChromiumIos.Lib.Resumable
import ChromiumIos.FindInPage.Dom

/-!
# The find-in-page script

The functions of `find_in_page.js` over an explicit state that holds the
variables of the module and the document.  The lower-casing of the strings, the
case-insensitive comparison of the regular expression and the layout that makes
an element visible are parameters.  A call that throws leaves the state as it
was when it threw.

The timer of a call is given by its budget: how many of the calls of `overtime`
still answer false.
-/

namespace ChromiumIos.FindInPage

open Lib

/-! ## Strings -/

def substring (text : Text) (first second : Int) : Text :=
  let low := min (min first.toNat text.length) (min second.toNat text.length)
  let high := max (min first.toNat text.length) (min second.toNat text.length)
  (text.drop low).take (high - low)

def lineFeed : UInt16 := 10
def carriageReturn : UInt16 := 13
def nul : UInt16 := 0

/-- The code units a text loses on the way through `innerText` and `innerHTML`:
line breaks become elements and NUL is dropped by the HTML parser. -/
def isLost (unit : UInt16) : Bool :=
  unit = lineFeed || unit = carriageReturn || unit = nul

inductive Piece where
  | run (text : Text)
  | lineBreak
deriving DecidableEq, Repr

/-- What the text set as `innerText` and parsed again as `innerHTML` consists of:
runs of text, and one `br` for each LF, CR or CR LF. -/
def innerPieces : Bool → Text → List Piece
  | _, [] => []
  | afterReturn, unit :: rest =>
    if unit = lineFeed then
      if afterReturn then innerPieces false rest else .lineBreak :: innerPieces false rest
    else if unit = carriageReturn then .lineBreak :: innerPieces true rest
    else if unit = nul then innerPieces false rest
    else
      match innerPieces false rest with
      | .run text :: more => .run (unit :: text) :: more
      | more => .run [unit] :: more

def innerNodes (replacement position : Nat) : Nat → List Piece → List Node
  | _, [] => []
  | child, .run text :: rest =>
    .text ⟨.inner replacement position child, text⟩ ::
      innerNodes replacement position (child + 1) rest
  | child, .lineBreak :: rest =>
    .element (.inner replacement position child) .br [] ::
      innerNodes replacement position (child + 1) rest

variable (index replacement : Nat)

def createChromeFind (position : Nat) (text : Text) : Node :=
  .element (.made replacement position) .chromeFind
    (innerNodes replacement position 0 (innerPieces false text))

/-- How strings are lower-cased, and which code units the flag `i` of a regular
expression takes for the same. -/
structure Casing where
  toLowerCase : Text → Text
  canonicalize : UInt16 → UInt16

def asciiCasing : Casing where
  toLowerCase := List.map fun unit => if 65 ≤ unit ∧ unit ≤ 90 then unit + 32 else unit
  canonicalize unit := if 97 ≤ unit ∧ unit ≤ 122 then unit - 32 else unit

/-- The regular expression for an escaped text with the flags `i` and `g`. -/
structure RegExp where
  source : Text
  lastIndex : Nat
deriving DecidableEq, Repr

def getRegex (findText : Text) : RegExp := ⟨findText, 0⟩

variable (casing : Casing)

namespace RegExp

/-- Does the text hold the source at this index, up to canonicalization? -/
def matchesAt (source text : Text) (index : Nat) : Bool :=
  ((text.drop index).take source.length).map casing.canonicalize =
    source.map casing.canonicalize

def exec (regex : RegExp) (text : Text) : Option Nat :=
  (List.range' regex.lastIndex (text.length + 1 - regex.lastIndex)).find?
    (matchesAt casing regex.source text)

end RegExp

/-! ## Data -/

structure Section where
  begin : Nat
  ending : Nat
  node : TextNode
deriving DecidableEq, Repr

structure PartialMatch where
  matchId : Nat
  begin : Nat
  ending : Nat
deriving DecidableEq, Repr

structure ChromeFind where
  element : Node
  within : Section
  part : PartialMatch

structure Match where
  nodes : List ChromeFind
  visibleIndex : Option Nat

/-- Which elements of a document are visible. -/
abbrev Layout := List Node → Node → Bool

variable (layout : Layout) (budget : Nat)

def Match.visible (document : List Node) (candidate : Match) : Bool :=
  candidate.nodes.all fun found => layout document found.element

structure Replacement where
  oldNode : TextNode
  newNodes : List Node

namespace Replacement

def doSwap (replacement : Replacement) : List Node → List Node :=
  updateParent replacement.oldNode.id fun childNodes =>
    removeChild replacement.oldNode.id
      (replacement.newNodes.foldl
        (fun childNodes newNode => insertBefore newNode replacement.oldNode.id childNodes)
        childNodes)

def undoSwap (replacement : Replacement) (document : List Node) : List Node :=
  match replacement.newNodes with
  | [] => document
  | first :: _ =>
    updateParent first.id (fun childNodes =>
      replacement.newNodes.foldl
        (fun childNodes newNode => removeChild newNode.id childNodes)
        (insertBefore (.text replacement.oldNode) first.id childNodes)) document

end Replacement

/-- The variables of the module, and the document.  `stack` has its top first,
and `selectHighlighted` are the elements whose class has `findysel`. -/
structure State where
  document : List Node
  allText : Text
  sections : List Section
  sectionsIndex : Nat
  «matches» : List Match
  selectedMatchIndex : Int
  matchId : Nat
  partialMatches : List PartialMatch
  replacements : List Replacement
  replacementsIndex : Nat
  searchInProgress : Bool
  stack : List Node
  visibleFound : Nat
  visibleIndex : Nat
  regex : Option RegExp
  selectHighlighted : List NodeId

/-- The module as it is loaded. -/
def initial (page : Page) : State where
  document := page.roots
  allText := []
  sections := []
  sectionsIndex := 0
  «matches» := []
  selectedMatchIndex := -1
  matchId := 0
  partialMatches := []
  replacements := []
  replacementsIndex := 0
  searchInProgress := false
  stack := []
  visibleFound := 0
  visibleIndex := 0
  regex := none
  selectHighlighted := []

/-! ## The walk -/

def reasonable : Node → Bool
  | .text _ => true
  | .element _ nodeName _ =>
    match nodeName with
    | .script | .style | .embed | .object | .select | .textarea => false
    | _ => true
  | .other _ => false

variable (state : State) (within : Section)

def addSection (node : TextNode) (state : State) : State :=
  { state with
    sections := state.sections ++
      [⟨state.allText.length, state.allText.length + node.textContent.length, node⟩]
    allText := state.allText ++ casing.toLowerCase node.textContent }

def walkTurn : Turn State :=
  match state.stack with
  | [] => .ended
  | .text node :: rest => .again (addSection casing node { state with stack := rest })
  | .element _ _ childNodes :: rest =>
    .again { state with stack := childNodes.filter reasonable ++ rest }
  | .other _ :: rest => .again { state with stack := rest }

/-! ## The matching loop -/

namespace findFirstSectionEndsAfter

/-- The binary search between `left` and `right`, which `fuel` keeps apart. -/
def search (sections : List Section) (index : Nat) : Nat → Nat → Nat → Option Nat
  | 0, left, _ => some left
  | fuel + 1, left, right =>
    if left < right then
      match sections[(left + right) / 2]? with
      | none => none
      | some middle =>
        if middle.ending ≤ index then
          search sections index fuel ((left + right) / 2 + 1) right
        else search sections index fuel left ((left + right) / 2)
    else some left

end findFirstSectionEndsAfter

/-- The first section from `sectionsIndex` on that ends after an index of the
text; `none` when a section is read that does not exist. -/
def findFirstSectionEndsAfter (state : State) (index : Nat) : Option Nat :=
  findFirstSectionEndsAfter.search state.sections index
    (state.sections.length - state.sectionsIndex) state.sectionsIndex state.sections.length

/-- What the loop over the partial matches of a section has built up. -/
structure Pieces where
  newNodes : List Node
  previousEnd : Nat
  «matches» : List Match

namespace Pieces

variable (pieces : Pieces)

def createTextNode (first second : Nat) (pieces : Pieces) : Pieces :=
  { pieces with
    newNodes := pieces.newNodes ++
      [.text ⟨.made replacement pieces.newNodes.length,
        substring within.node.textContent ((first : Int) - within.begin)
          ((second : Int) - within.begin)⟩] }

def createHighlight (part : PartialMatch) (pieces : Pieces) : Pieces :=
  let newNode := createChromeFind replacement pieces.newNodes.length
    (substring within.node.textContent ((part.begin : Int) - within.begin)
      ((part.ending : Int) - within.begin))
  { newNodes := pieces.newNodes ++ [newNode]
    previousEnd := part.ending
    «matches» := pieces.matches.modify part.matchId fun found =>
      { found with nodes := found.nodes ++ [⟨newNode, within, part⟩] } }

/-- One turn of the loop: the leading piece that does not match, then the match. -/
def add (part : PartialMatch) : Pieces :=
  if pieces.previousEnd < part.begin then
    (pieces.createTextNode replacement within pieces.previousEnd part.begin).createHighlight
      replacement within part
  else pieces.createHighlight replacement within part

/-- The trailing piece that does not match. -/
def close : Pieces :=
  if pieces.previousEnd ≠ within.ending then
    pieces.createTextNode replacement within pieces.previousEnd within.ending
  else pieces

end Pieces

def cutSection : Pieces :=
  (state.partialMatches.foldl (Pieces.add state.replacements.length within)
    ⟨[], within.begin, state.matches⟩).close state.replacements.length within

def processPartialMatchesInCurrentSection : Except State State :=
  if state.partialMatches = [] then .ok state
  else
    match state.sections[state.sectionsIndex]? with
    | none => .error state
    | some within =>
      .ok { state with
        «matches» := (cutSection state within).matches
        replacements := state.replacements ++
          [⟨within.node, (cutSection state within).newNodes⟩]
        partialMatches := [] }

/-- Create the partial matches of a match, going through the sections that lie
from the current one on. -/
def splitMatch (begin ending : Nat) : List Section → State → Except State State
  | [], state => .error state
  | current :: rest, state =>
    let extended : State := { state with
      partialMatches := state.partialMatches ++
        [⟨state.matchId, max current.begin begin, min current.ending ending⟩] }
    if current.ending < ending then
      match processPartialMatchesInCurrentSection extended with
      | .error failed => .error failed
      | .ok next =>
        splitMatch begin ending rest { next with sectionsIndex := next.sectionsIndex + 1 }
    else .ok extended

def enterSection (newSectionIndex : Nat) : Except State State :=
  if state.sectionsIndex < newSectionIndex then
    (processPartialMatchesInCurrentSection state).map fun next =>
      { next with sectionsIndex := newSectionIndex }
  else .ok state

def foundMatch (begin ending : Nat) (state : State) : Except State State :=
  let pushed : State := { state with «matches» := state.matches ++ [⟨[], none⟩] }
  match findFirstSectionEndsAfter pushed begin with
  | none => .error pushed
  | some newSectionIndex =>
    match enterSection pushed newSectionIndex with
    | .error failed => .error failed
    | .ok entered =>
      (splitMatch begin ending (entered.sections.drop entered.sectionsIndex) entered).map
        fun next => { next with matchId := next.matchId + 1 }

/-- The next match of the regular expression, which remembers where it ended. -/
def matchTurn : Turn State :=
  match state.regex with
  | none => .ended
  | some regex =>
    match regex.exec casing state.allText with
    | none => .ended
    | some begin =>
      let ending := begin + regex.source.length
      match foundMatch begin ending
          { state with regex := some { regex with lastIndex := ending } } with
      | .error failed => .thrown failed
      | .ok next => .again next

def matchText : Pause State :=
  if state.regex.isSome then
    (whileTurns (matchTurn casing) budget state).bind fun left last =>
      match processPartialMatchesInCurrentSection last with
      | .error failed => .thrown failed
      | .ok next => .finished left { next with regex := none }
  else .finished budget state

/-! ## Highlighting and counting -/

def swapReplacement : State :=
  match state.replacements[index]? with
  | none => state
  | some replacement => { state with document := replacement.doSwap state.document }

def executeReplacements : Pause State :=
  forIndices (fun index cut => { cut with replacementsIndex := index }) swapReplacement
    (state.replacements.length - state.replacementsIndex) state.replacementsIndex budget state

def maxVisibleElements : Nat := 100

def setVisibleIndex (visibleIndex : Nat) (state : State) : State :=
  { state with
    «matches» := state.matches.modify index fun found =>
      { found with visibleIndex := some visibleIndex } }

def countMatch (index : Nat) (state : State) : State :=
  if maxVisibleElements < state.visibleFound then setVisibleIndex index maxVisibleElements state
  else
    match state.matches[index]? with
    | none => state
    | some candidate =>
      if candidate.visible layout state.document then
        setVisibleIndex index (state.visibleFound + 1)
          { state with visibleFound := state.visibleFound + 1 }
      else state

def countVisible : Pause State :=
  forIndices (fun index cut => { cut with visibleIndex := index }) (countMatch layout)
    (state.matches.length - state.visibleIndex) state.visibleIndex budget state

/-! ## Selecting a match -/

/-- What a call that selects a match comes to: the empty string, the visible
index and the position to scroll to, which is left out, or an exception. -/
inductive Landing where
  | blank
  | scrolled (visibleIndex : Option Nat)
  | thrown
deriving DecidableEq, Repr

def getCurrentSelectedMatch : Option Match :=
  if state.selectedMatchIndex < 0 then none
  else state.matches[state.selectedMatchIndex.toNat]?

def addSelectHighlight (selected : Match) (state : State) : State :=
  { state with
    selectHighlighted :=
      state.selectHighlighted ++ selected.nodes.map fun found => found.element.id }

def removeSelectHighlight (selected : Match) (state : State) : State :=
  { state with
    selectHighlighted := state.selectHighlighted.filter fun id =>
      id ∉ selected.nodes.map fun found => found.element.id }

def findScrollDimensions : Landing × State :=
  match getCurrentSelectedMatch state with
  | none => (.blank, state)
  | some selected =>
    match selected.nodes with
    | [] => (.thrown, state)
    | _ :: _ => (.scrolled selected.visibleIndex, addSelectHighlight selected state)

def incrementIndex : State :=
  { state with
    selectedMatchIndex :=
      if (state.matches.length : Int) - 1 ≤ state.selectedMatchIndex then 0
      else state.selectedMatchIndex + 1 }

def decrementIndex : State :=
  { state with
    selectedMatchIndex :=
      if state.selectedMatchIndex ≤ 0 then (state.matches.length : Int) - 1
      else state.selectedMatchIndex - 1 }

def clearSelection : Except State State :=
  if 0 ≤ state.selectedMatchIndex then
    match getCurrentSelectedMatch state with
    | none => .error state
    | some selected => .ok (removeSelectHighlight selected state)
  else .ok state

/-- The loop of `goNext`.  It has come back to where it began after as many
turns as there are matches. -/
def seekNext (layout : Layout) (oldIndex : Int) : Nat → State → Landing × State
  | 0, state => (.blank, state)
  | turns + 1, state =>
    match getCurrentSelectedMatch state with
    | none => (.thrown, state)
    | some selected =>
      if selected.visible layout state.document then findScrollDimensions state
      else if oldIndex = state.selectedMatchIndex then (.blank, state)
      else if (incrementIndex state).selectedMatchIndex = 0 ∧ oldIndex < 0 then
        (.blank, incrementIndex state)
      else seekNext layout oldIndex turns (incrementIndex state)

def goNext : Landing × State :=
  if state.matches = [] then (.blank, state)
  else
    match clearSelection state with
    | .error failed => (.thrown, failed)
    | .ok cleared =>
      seekNext layout cleared.selectedMatchIndex cleared.matches.length
        (incrementIndex cleared)

/-- The loop of `goPrev`.  If it has found neither a visible match nor the one
it began with after that many turns it goes on forever: `none`. -/
def seekPrev (layout : Layout) (old : Int) : Nat → State → Option (Landing × State)
  | 0, _ => none
  | turns + 1, state =>
    match getCurrentSelectedMatch state with
    | none => some (.thrown, state)
    | some selected =>
      if selected.visible layout state.document then some (findScrollDimensions state)
      else if old = (decrementIndex state).selectedMatchIndex then
        some (.blank, decrementIndex state)
      else seekPrev layout old turns (decrementIndex state)

def goPrev : Option (Landing × State) :=
  if state.matches = [] then some (.blank, state)
  else
    match clearSelection state with
    | .error failed => some (.thrown, failed)
    | .ok cleared =>
      seekPrev layout cleared.selectedMatchIndex (cleared.matches.length + 1)
        (decrementIndex cleared)

/-! ## The search -/

/-- What a call that searches returns, or that it throws. -/
inductive Outcome where
  | timeout
  | noResults
  | results (visibleFound : Nat) (visibleIndex : Option Nat)
  | thrown
deriving DecidableEq, Repr

def searchPhases : Pause State :=
  (whileTurns (walkTurn casing) budget state).bind fun left walked =>
    (matchText casing left walked).bind fun left matched =>
    (executeReplacements left matched).bind fun left swapped =>
      countVisible layout left swapped

def concludeSearch : Outcome × State :=
  match goNext layout { state with searchInProgress := false } with
  | (.blank, last) => (.noResults, last)
  | (.scrolled visibleIndex, last) => (.results last.visibleFound visibleIndex, last)
  | (.thrown, last) => (.thrown, last)

def pumpSearch : Outcome × State :=
  if state.searchInProgress = false then (.noResults, state)
  else
    match searchPhases casing layout budget state with
    | .timedOut cut => (.timeout, cut)
    | .thrown failed => (.thrown, failed)
    | .finished _ last => concludeSearch layout last

/-- Undo the swaps and reset the variables of the search. -/
def cleanUp : State :=
  { state with
    document := state.replacements.foldl
      (fun document replacement => replacement.undoSwap document) state.document
    allText := []
    sections := []
    sectionsIndex := 0
    «matches» := []
    selectedMatchIndex := -1
    matchId := 0
    partialMatches := []
    replacements := []
    replacementsIndex := 0
    selectHighlighted := [] }

def cleanUpPrevious : State :=
  if state.matches = [] then state else cleanUp state

/-- The variables of a new search for a text.  The body and the documents of the
frames are pushed as they stand in the document. -/
def startSearch (findText : Text) (state : State) : State :=
  { state with
    stack := state.document
    visibleFound := 0
    visibleIndex := 0
    regex := some (getRegex findText)
    searchInProgress := true }

def highlightWord (findText : Text) (budget : Nat) (state : State) : Outcome × State :=
  if findText = [] then (.noResults, cleanUpPrevious state)
  else pumpSearch casing layout budget (startSearch findText (cleanUpPrevious state))

end ChromiumIos.FindInPage
