import ChromiumIos.Lib.Runs
import ChromiumIos.WebStateList.Basic

/-!
# The mutating operations of the list

Each operation returns the list it leaves and the notifications it sends to
every observer, in order, or fails one of its assertions.  `step` gathers the
operations behind one type of inputs, so that a run of the list is a sequence
of inputs.  The environment that an insertion or a removal reads belongs to the
input, because it may be different every time.
-/

namespace ChromiumIos

open Lib

/-- Why the active WebState changed. -/
inductive ChangeReason where
  | none
  | replaced
  | userAction
  deriving DecidableEq, Repr

/-- The methods of `WebStateListObserver`, with their arguments. -/
inductive Notification (W : Type) where
  | insertedAt (webState : W) (index : Int) (activating : Bool)
  | moved (webState : W) (fromIndex toIndex : Int)
  | replacedAt (oldWebState newWebState : W) (index : Int)
  | willDetachAt (webState : W) (index : Int)
  | detachedAt (webState : W) (index : Int)
  | willCloseAt (webState : W) (index : Int) (userAction : Bool)
  | activatedAt (oldWebState newWebState : Option W) (activeIndex : Int) (reason : ChangeReason)
  deriving DecidableEq, Repr

abbrev Flags := BitVec 32

def insertActivate : Flags := 1#32
def insertForceIndex : Flags := 2#32
def insertInheritOpener : Flags := 4#32
def closeUserAction : Flags := 1#32

def isFlagSet (flagset flag : Flags) : Bool := flagset &&& flag == flag

namespace WebStateList

variable {W : Type} [DecidableEq W]

/-- The list left by an operation with the notifications it sent. -/
abbrev Outcome (W : Type) := WebStateList W × List (Notification W)

variable (lastCommitted : W → Int) (list : WebStateList W) (index : Int) (webState : W)

def notifyIfActiveWebStateChanged (oldWebState : Option W) (reason : ChangeReason) :
    Checked (List (Notification W)) := do
  let newWebState ← list.getActiveWebState
  if oldWebState = newWebState then
    return []
  else
    return [.activatedAt oldWebState newWebState list.activeIndex reason]

def activateWebStateAt : Checked (Outcome W) := do
  dcheck (list.ContainsIndex index)
  let oldWebState ← list.getActiveWebState
  let activated := { list with activeIndex := index }
  let notifications ← activated.notifyIfActiveWebStateChanged oldWebState .userAction
  return (activated, notifications)

def insertionOpener (insertionFlags : Flags) (opener : WebStateOpener W) :
    Checked (WebStateOpener W) :=
  if isFlagSet insertionFlags insertInheritOpener then
    list.getActiveWebState.map (WebStateOpener.ofWebState lastCommitted)
  else some opener

def insertionIndex (insertionFlags : Flags) (opener : WebStateOpener W) : Checked Int :=
  if isFlagSet insertionFlags insertForceIndex then some index
  else
    (list.determineInsertionIndex lastCommitted opener.opener).map fun index =>
      if index < 0 ∨ list.count < index then list.count else index

def withInserted : WebStateList W where
  webStateWrappers := insertAt list.webStateWrappers index ⟨webState, .null⟩
  activeIndex := if list.activeIndex ≥ index then list.activeIndex + 1 else list.activeIndex

def recordOpener (opener : WebStateOpener W) : Checked (WebStateList W) :=
  if opener.opener.isSome then list.setOpenerOfWebStateAt index opener else some list

def insertWebState (insertionFlags : Flags) (opener : WebStateOpener W) : Checked (Outcome W) := do
  let activating := isFlagSet insertionFlags insertActivate
  let opener ← list.insertionOpener lastCommitted insertionFlags opener
  let index ← list.insertionIndex lastCommitted index insertionFlags opener
  dcheck (list.ContainsIndex index ∨ index = list.count)
  let opened ← (list.withInserted index webState).recordOpener index opener
  if activating then
    let (activated, notifications) ← opened.activateWebStateAt index
    return (activated, .insertedAt webState index activating :: notifications)
  else
    return (opened, [.insertedAt webState index activating])

def movedActiveIndex (activeIndex fromIndex toIndex : Int) : Int :=
  if activeIndex = fromIndex then toIndex
  else
    let delta := if fromIndex < toIndex then -1 else 1
    if min fromIndex toIndex ≤ activeIndex ∧ activeIndex ≤ max fromIndex toIndex then
      activeIndex + delta
    else activeIndex

def moveWebStateAt (fromIndex toIndex : Int) : Checked (Outcome W) := do
  dcheck (list.ContainsIndex fromIndex)
  dcheck (list.ContainsIndex toIndex)
  if fromIndex = toIndex then
    return (list, [])
  else
    let wrapper ← at? list.webStateWrappers fromIndex
    let moved : WebStateList W :=
      { webStateWrappers := insertAt (eraseAt list.webStateWrappers fromIndex) toIndex wrapper
        activeIndex := movedActiveIndex list.activeIndex fromIndex toIndex }
    return (moved, [.moved wrapper.webState fromIndex toIndex])

def clearOpener (wrapper : WebStateWrapper W) : WebStateWrapper W :=
  if wrapper.opener.opener = some webState then { wrapper with opener := .null } else wrapper

def clearOpenersReferencing : List (WebStateWrapper W) :=
  list.webStateWrappers.map (clearOpener webState)

def replaceWebStateAt : Checked (Outcome W) := do
  dcheck (list.ContainsIndex index)
  let oldWebState ← list.getWebStateAt index
  dcheck (webState ≠ oldWebState)
  let replaced := { list with
    webStateWrappers := setAt (list.clearOpenersReferencing oldWebState) index ⟨webState, .null⟩ }
  let notifications ← replaced.notifyIfActiveWebStateChanged (some oldWebState) .replaced
  return (replaced, .replacedAt oldWebState webState index :: notifications)

def withDetached (newActiveIndex : Int) : WebStateList W where
  webStateWrappers := eraseAt (list.clearOpenersReferencing webState) index
  activeIndex :=
    if list.activeIndex > index then list.activeIndex - 1
    else if list.activeIndex = index then newActiveIndex
    else list.activeIndex

def notifyIfActiveWasClosed (activeWebStateWasClosed : Bool) (webState : W) :
    Checked (List (Notification W)) :=
  if activeWebStateWasClosed then list.notifyIfActiveWebStateChanged (some webState) .none
  else some []

def detachWebStateAt : Checked (W × Outcome W) := do
  dcheck (list.ContainsIndex index)
  let newActiveIndex ← list.determineNewActiveIndex lastCommitted index
  let webState ← list.getWebStateAt index
  let detached := list.withDetached index webState newActiveIndex
  let notifications ←
    detached.notifyIfActiveWasClosed (decide (index = list.activeIndex)) webState
  return (webState, detached,
    .willDetachAt webState index :: .detachedAt webState index :: notifications)

def closeWebStateAt (closeFlags : Flags) : Checked (Outcome W) := do
  let (webState, detached, notifications) ← list.detachWebStateAt lastCommitted index
  let userAction := isFlagSet closeFlags closeUserAction
  return (detached, notifications ++ [.willCloseAt webState index userAction])

def closeAllLoop (lastCommitted : W → Int) (closeFlags : Flags) :
    Nat → WebStateList W → Checked (Outcome W)
  | 0, list => some (list, [])
  | bound + 1, list =>
    if list.webStateWrappers.isEmpty then some (list, [])
    else do
      let (closed, notifications) ←
        list.closeWebStateAt lastCommitted (list.count - 1) closeFlags
      let (last, more) ← closeAllLoop lastCommitted closeFlags bound closed
      return (last, notifications ++ more)

def closeAllWebStates (closeFlags : Flags) : Checked (Outcome W) :=
  closeAllLoop lastCommitted closeFlags list.webStateWrappers.length list

/-! ## Operations as inputs of one step function -/

inductive Operation (W : Type) where
  | insertWebState (index : Int) (webState : W) (insertionFlags : Flags)
      (opener : WebStateOpener W)
  | moveWebStateAt (fromIndex toIndex : Int)
  | replaceWebStateAt (index : Int) (webState : W)
  | detachWebStateAt (index : Int)
  | closeWebStateAt (index : Int) (closeFlags : Flags)
  | closeAllWebStates (closeFlags : Flags)
  | activateWebStateAt (index : Int)
  | setOpenerOfWebStateAt (index : Int) (opener : WebStateOpener W)

/-- An operation together with the navigation indices it may read. -/
structure Input (W : Type) where
  lastCommitted : W → Int
  operation : Operation W

variable (input : Input W)

def step (input : Input W) : Checked (Outcome W) :=
  match input.operation with
  | .insertWebState index webState insertionFlags opener =>
    list.insertWebState input.lastCommitted index webState insertionFlags opener
  | .moveWebStateAt fromIndex toIndex => list.moveWebStateAt fromIndex toIndex
  | .replaceWebStateAt index webState => list.replaceWebStateAt index webState
  | .detachWebStateAt index =>
    (list.detachWebStateAt input.lastCommitted index).map Prod.snd
  | .closeWebStateAt index closeFlags =>
    list.closeWebStateAt input.lastCommitted index closeFlags
  | .closeAllWebStates closeFlags => list.closeAllWebStates input.lastCommitted closeFlags
  | .activateWebStateAt index => list.activateWebStateAt index
  | .setOpenerOfWebStateAt index opener =>
    (list.setOpenerOfWebStateAt index opener).map fun list => (list, [])

/--
What the callers of an operation have to provide: valid indices, a WebState
that the list does not own already, and an opener that is in the list.  An
insertion also needs the number of WebStates to stay within the C++ `int`.
-/
def Admissible (input : Input W) : Prop :=
  match input.operation with
  | .insertWebState index webState insertionFlags opener =>
    webState ∉ list.webStates ∧ list.count < intMax ∧
    (isFlagSet insertionFlags insertForceIndex → 0 ≤ index ∧ index ≤ list.count) ∧
    (¬ isFlagSet insertionFlags insertInheritOpener →
      ∀ opening ∈ opener.opener, opening ∈ list.webStates)
  | .moveWebStateAt fromIndex toIndex =>
    list.ContainsIndex fromIndex ∧ list.ContainsIndex toIndex
  | .replaceWebStateAt index webState => list.ContainsIndex index ∧ webState ∉ list.webStates
  | .detachWebStateAt index => list.ContainsIndex index
  | .closeWebStateAt index _ => list.ContainsIndex index
  | .closeAllWebStates _ => True
  | .activateWebStateAt index => list.ContainsIndex index
  | .setOpenerOfWebStateAt index opener =>
    list.ContainsIndex index ∧ ∃ opening ∈ opener.opener, opening ∈ list.webStates

instance : Decidable (list.Admissible input) :=
  match input with
  | ⟨_, .insertWebState ..⟩ => inferInstanceAs (Decidable (_ ∧ _ ∧ _ ∧ _))
  | ⟨_, .moveWebStateAt ..⟩ => inferInstanceAs (Decidable (_ ∧ _))
  | ⟨_, .replaceWebStateAt ..⟩ => inferInstanceAs (Decidable (_ ∧ _))
  | ⟨_, .detachWebStateAt _⟩ => inferInstanceAs (Decidable (ContainsIndex ..))
  | ⟨_, .closeWebStateAt ..⟩ => inferInstanceAs (Decidable (ContainsIndex ..))
  | ⟨_, .closeAllWebStates _⟩ => inferInstanceAs (Decidable True)
  | ⟨_, .activateWebStateAt _⟩ => inferInstanceAs (Decidable (ContainsIndex ..))
  | ⟨_, .setOpenerOfWebStateAt ..⟩ => inferInstanceAs (Decidable (_ ∧ ∃ _ ∈ _, _))

def MakesOwnOpener (input : Input W) : Prop :=
  match input.operation with
  | .setOpenerOfWebStateAt index opener =>
    ∃ webState ∈ opener.opener, list.getWebStateAt index = some webState
  | _ => False

instance : Decidable (list.MakesOwnOpener input) :=
  match input with
  | ⟨_, .setOpenerOfWebStateAt ..⟩ => inferInstanceAs (Decidable (∃ _ ∈ _, _))
  | ⟨_, .insertWebState ..⟩ | ⟨_, .moveWebStateAt ..⟩ | ⟨_, .replaceWebStateAt ..⟩
  | ⟨_, .detachWebStateAt _⟩ | ⟨_, .closeWebStateAt ..⟩ | ⟨_, .closeAllWebStates _⟩
  | ⟨_, .activateWebStateAt _⟩ => inferInstanceAs (Decidable False)

/-- The lists reached by runs whose operations meet their preconditions. -/
abbrev Run (notifications : List (Notification W)) (list : WebStateList W) : Prop :=
  Runs step Admissible empty notifications list

abbrev ProperRun (notifications : List (Notification W)) (list : WebStateList W) : Prop :=
  Runs step (fun list input => list.Admissible input ∧ ¬ list.MakesOwnOpener input)
    empty notifications list

end WebStateList

end ChromiumIos
