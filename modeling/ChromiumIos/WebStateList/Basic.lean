import ChromiumIos.Lib.Checked
import ChromiumIos.Lib.IndexedList

/-!
# The list of WebStates and its order controller

A `WebStateList` keeps one wrapper per WebState and the index of the active
one.  WebStates are pointers owned by the list: `W` is the type of their
identities.  Everything the list reads from a WebState itself is the index of
its last committed navigation item, which the rest of the browser changes at
any time; it is passed in as the function `lastCommitted`.

The list of observers, the delegate and the lock against re-entrant calls are
not part of the state: an operation instead returns the notifications it sends.
The C++ `int` is the type of integers, so a list is never long enough to
overflow an index.
-/

namespace ChromiumIos

open Lib

def kInvalidIndex : Int := -1

def intMax : Int := 2147483647

structure WebStateOpener (W : Type) where
  opener : Option W
  navigationIndex : Int
  deriving DecidableEq, Repr

namespace WebStateOpener

variable {W : Type}

def navigationIndexFromWebState (lastCommitted : W → Int) : Option W → Int
  | none => -1
  | some webState => lastCommitted webState

def ofWebState (lastCommitted : W → Int) (opener : Option W) : WebStateOpener W :=
  ⟨opener, navigationIndexFromWebState lastCommitted opener⟩

/-- The default record, which names no opener. -/
def null : WebStateOpener W := ⟨none, -1⟩

end WebStateOpener

structure WebStateWrapper (W : Type) where
  webState : W
  opener : WebStateOpener W
  deriving DecidableEq, Repr

namespace WebStateWrapper

variable {W : Type} [DecidableEq W]

def wasOpenedBy (wrapper : WebStateWrapper W) (opener : W) (openerNavigationIndex : Int)
    (useGroup : Bool) : Bool :=
  if wrapper.opener.opener ≠ some opener then false
  else if !useGroup then true
  else wrapper.opener.navigationIndex == openerNavigationIndex

end WebStateWrapper

structure WebStateList (W : Type) where
  webStateWrappers : List (WebStateWrapper W)
  activeIndex : Int
  deriving DecidableEq, Repr

namespace WebStateList

variable {W : Type}

def empty : WebStateList W := ⟨[], kInvalidIndex⟩

variable (list : WebStateList W) (index : Int)

def count : Int := list.webStateWrappers.length

def webStates : List W :=
  list.webStateWrappers.map WebStateWrapper.webState

def ContainsIndex : Prop :=
  0 ≤ index ∧ index < list.count
deriving Decidable

/-- Asking for the WebState at an index outside the list fails an assertion. -/
def getWebStateAt : Checked W :=
  (at? list.webStateWrappers index).map WebStateWrapper.webState

def getActiveWebState : Checked (Option W) :=
  if list.activeIndex ≠ kInvalidIndex then
    (list.getWebStateAt list.activeIndex).map some
  else some none

def getOpenerOfWebStateAt : Checked (WebStateOpener W) :=
  (at? list.webStateWrappers index).map WebStateWrapper.opener

variable [DecidableEq W]

/-- The index of a WebState, which may be null; a null one is nowhere in the list. -/
def getIndexOfWebState (list : WebStateList W) (webState : Option W) : Int :=
  match list.webStateWrappers.findIdx? (fun wrapper => some wrapper.webState == webState) with
  | some index => index
  | none => kInvalidIndex

def setOpenerOfWebStateAt (list : WebStateList W) (index : Int) (opener : WebStateOpener W) :
    Checked (WebStateList W) := do
  dcheck (list.ContainsIndex index)
  dcheck (list.ContainsIndex (list.getIndexOfWebState opener.opener))
  let wrapper ← at? list.webStateWrappers index
  return { list with
    webStateWrappers := setAt list.webStateWrappers index { wrapper with opener := opener } }

/-! ## Searching for the WebStates that one WebState opened -/

/--
The loop over the wrappers from `index` on: `n` matches are still wanted and
`found` is the last one seen.  The loop ends when the run of matches ends.
-/
def nthOpenedByLoop (opened : WebStateWrapper W → Bool) :
    List (WebStateWrapper W) → Int → Nat → Int → Int
  | [], _, _, found => found
  | _ :: _, _, 0, found => found
  | wrapper :: rest, index, n + 1, found =>
    if opened wrapper then nthOpenedByLoop opened rest (index + 1) n index
    else if found ≠ kInvalidIndex then found
    else nthOpenedByLoop opened rest (index + 1) (n + 1) found

variable (lastCommitted : W → Int)

def getIndexOfNthWebStateOpenedBy (list : WebStateList W) (opener : Option W) (startIndex : Int)
    (useGroup : Bool) (n : Nat) : Int :=
  match opener with
  | none => kInvalidIndex
  | some opener =>
    if ¬ list.ContainsIndex startIndex ∨ startIndex = intMax then kInvalidIndex
    else
      let openerNavigationIndex := if useGroup then lastCommitted opener else -1
      nthOpenedByLoop (fun wrapper => wrapper.wasOpenedBy opener openerNavigationIndex useGroup)
        (list.webStateWrappers.drop (startIndex + 1).toNat) (startIndex + 1) n kInvalidIndex

def getIndexOfNextWebStateOpenedBy (list : WebStateList W) (opener : Option W) (startIndex : Int)
    (useGroup : Bool) : Int :=
  list.getIndexOfNthWebStateOpenedBy lastCommitted opener startIndex useGroup 1

def getIndexOfLastWebStateOpenedBy (list : WebStateList W) (opener : Option W) (startIndex : Int)
    (useGroup : Bool) : Int :=
  list.getIndexOfNthWebStateOpenedBy lastCommitted opener startIndex useGroup intMax.toNat

/-! ## The order controller -/

def determineInsertionIndex (list : WebStateList W) (opener : Option W) : Checked Int :=
  match opener with
  | none => some list.count
  | some opener => do
      let openerIndex := list.getIndexOfWebState (some opener)
      dcheck (openerIndex ≠ kInvalidIndex)
      let listChildIndex :=
        list.getIndexOfLastWebStateOpenedBy lastCommitted (some opener) openerIndex true
      let referenceIndex :=
        if listChildIndex ≠ kInvalidIndex then listChildIndex else openerIndex
      dcheck (referenceIndex < intMax)
      return referenceIndex + 1

/-- The correction for the element about to be removed, as the source has it. -/
def getValidIndex (index removingIndex : Int) : Int :=
  if removingIndex < index then min 0 (index - 1) else index

def determineNewActiveIndex (list : WebStateList W) (removingIndex : Int) : Checked Int := do
  dcheck (list.ContainsIndex removingIndex)
  let removed ← list.getWebStateAt removingIndex
  let index := list.getIndexOfNextWebStateOpenedBy lastCommitted (some removed) removingIndex false
  if index ≠ kInvalidIndex then
    return getValidIndex index removingIndex
  else
    let opener ← list.getOpenerOfWebStateAt removingIndex
    if opener.opener.isSome then
      let index :=
        list.getIndexOfNextWebStateOpenedBy lastCommitted opener.opener removingIndex false
      if index ≠ kInvalidIndex then
        return getValidIndex index removingIndex
      else
        return getValidIndex (list.getIndexOfWebState opener.opener) removingIndex
    else if list.count = 1 then
      return kInvalidIndex
    else if removingIndex ≥ list.count - 1 then
      return removingIndex - 1
    else
      return removingIndex

end WebStateList

end ChromiumIos
