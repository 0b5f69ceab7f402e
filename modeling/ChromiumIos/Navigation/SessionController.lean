import ChromiumIos.Lib.IndexedList
import ChromiumIos.Navigation.NavigationManager

/-!
# The session controller of the legacy navigation manager

The controller keeps the committed items in one list and points into it with
three signed indices: the last committed item, the one committed before it, and
the item of a pending back or forward navigation.  A new navigation keeps its
pending item outside the list.  The rewriters for the next load belong to the
manager; they are kept here, because the setter of the last committed index
drops them.

Reading an item at an index outside the list is a failed assertion, and so is
reading a missing item where the code dereferences it.  Callbacks of the
delegate are left out.
-/

namespace ChromiumIos

open Lib

structure SessionController where
  items : List NavigationItem := []
  lastCommittedItemIndex : Int := -1
  previousItemIndex : Int := -1
  pendingItemIndex : Int := -1
  /-- The pending item of a new navigation, as opposed to one in the history. -/
  newPendingItem : Option NavigationItem := none
  transientItem : Option NavigationItem := none
  timeSmoother : TimeSmoother := {}
  transientUrlRewriters : List URLRewriter := []

namespace SessionController

/-! ## Initialisation -/

def initWithBrowserState : SessionController := {}

/-- The index arrives as an unsigned word and is read as a signed one. -/
def initWithNavigationItems (items : List NavigationItem)
    (lastCommittedItemIndex : BitVec 64) : SessionController :=
  { items := items
    lastCommittedItemIndex := min lastCommittedItemIndex.toInt (items.length - 1) }

/-! ## Accessors -/

variable (controller : SessionController) (now index : Int) (item : NavigationItem)

def pendingItem : Checked (Option NavigationItem) :=
  if controller.pendingItemIndex = -1 then
    some controller.newPendingItem
  else
    (at? controller.items controller.pendingItemIndex).map some

def lastCommittedItem : Checked (Option NavigationItem) :=
  if controller.lastCommittedItemIndex = -1 then
    some none
  else
    (at? controller.items controller.lastCommittedItemIndex).map some

def currentItem : Checked (Option NavigationItem) :=
  match controller.transientItem with
  | some item => some (some item)
  | none => do
      match ← controller.pendingItem with
      | some item => return some item
      | none => controller.lastCommittedItem

/-- A pending item is shown only if it is a new navigation that the browser started, so
that a page cannot show the URL of another one. -/
def visibleItem : Checked (Option NavigationItem) :=
  match controller.transientItem with
  | some item => some (some item)
  | none => do
      match ← controller.pendingItem with
      | some pendingItem =>
        if pendingItem.navigationInitiationType = .browserInitiated ∧
            controller.pendingItemIndex = -1 then
          return some pendingItem
        else
          controller.lastCommittedItem
      | none => controller.lastCommittedItem

def canPruneAllButLastCommittedItem : Bool :=
  controller.lastCommittedItemIndex ≠ -1 ∧ controller.pendingItemIndex = -1 ∧
    controller.transientItem = none

/-! ## Writing to an item where it is kept -/

def writePendingItem : SessionController :=
  if controller.pendingItemIndex = -1 then
    { controller with newPendingItem := some item }
  else
    { controller with items := setAt controller.items controller.pendingItemIndex item }

def writeLastCommittedItem : SessionController :=
  { controller with items := setAt controller.items controller.lastCommittedItemIndex item }

def writeCurrentItem : Checked SessionController :=
  match controller.transientItem with
  | some _ => return { controller with transientItem := some item }
  | none => do
      match ← controller.pendingItem with
      | some _ => return controller.writePendingItem item
      | none => return controller.writeLastCommittedItem item

/-! ## Setters -/

def setLastCommittedItemIndex : SessionController :=
  if controller.lastCommittedItemIndex ≠ index then
    { controller with lastCommittedItemIndex := index, transientUrlRewriters := [] }
  else
    controller

def setPendingItemIndex : Checked SessionController := do
  dcheck (-1 ≤ index)
  dcheck (index < controller.items.length)
  let updated := { controller with pendingItemIndex := index }
  let item ← updated.pendingItem
  dcheck (index = -1 ∨ item.isSome)
  return updated

def discardTransientItem : SessionController :=
  { controller with transientItem := none }

def discardNonCommittedItems : Checked SessionController :=
  setPendingItemIndex { controller.discardTransientItem with newPendingItem := none } (-1)

def smoothedTime : Int :=
  (controller.timeSmoother.getSmoothedTime now).1

def advanceTimeSmoother : SessionController :=
  { controller with timeSmoother := (controller.timeSmoother.getSmoothedTime now).2 }

/-! ## What the manager computes from the controller -/

section Manager

variable (env : NavigationEnvironment)
variable (controller : SessionController)

/-- The page that restores a session does not count as committed. -/
def getLastCommittedItem : Checked (Option NavigationItem) := do
  let item ← controller.lastCommittedItem
  return item.filter fun item => !env.isRestoreSessionUrl item.url

def createNavigationItem (url : GURL) (referrer : Referrer) (transition : PageTransition)
    (initiationType : NavigationInitiationType) : Checked (NavigationItem × SessionController) := do
  let lastCommittedItem ← controller.getLastCommittedItem env
  let previousUrl := (lastCommittedItem.map NavigationItem.url).getD .empty
  let item ← createNavigationItemWithRewriters env (fun _ => false) url referrer
    transition initiationType previousUrl controller.transientUrlRewriters
  return (item, { controller with transientUrlRewriters := [] })

def lastItemWithUserAgentType (items : List NavigationItem) :
    Nat → Checked (Option NavigationItem)
  | 0 => some none
  | count + 1 => do
      let item ← items[count]?
      if env.urlNeedsUserAgentType item.url then
        return some item
      else
        lastItemWithUserAgentType items count

def getLastCommittedItemWithUserAgentType : Checked (Option NavigationItem) :=
  lastItemWithUserAgentType env controller.items
    (controller.lastCommittedItemIndex + 1).toNat

def onNavigationItemCommitted : Checked Unit := do
  let item ← controller.lastCommittedItem
  dcheck item.isSome

end Manager

/-! ## Operations -/

section Operations

variable (env : NavigationEnvironment)
variable (controller : SessionController) (url : GURL) (now : Int)

/-- A load of the URL of the current item is a new item only when a form is
submitted or the user agent changes. -/
def shouldCreatePendingItem (transition : PageTransition)
    (userAgentOverrideOption : UserAgentOverrideOption) : Checked Bool := do
  match ← controller.currentItem with
  | none => return true
  | some currentItem => do
      dcheck (userAgentOverrideOption ≠ .desktop ∨ currentItem.userAgentType ≠ .desktop)
      dcheck (userAgentOverrideOption ≠ .mobile ∨ currentItem.userAgentType ≠ .mobile)
      if currentItem.url ≠ url then
        return true
      else if transition.coreTypeIs PageTransition.formSubmit ∧
          ¬ currentItem.transitionType.coreTypeIs PageTransition.formSubmit then
        return true
      else
        return transition.coreTypeIs PageTransition.reload ∧ userAgentOverrideOption ≠ .inherit

def addPendingItem (referrer : Referrer) (transition : PageTransition)
    (initiationType : NavigationInitiationType)
    (userAgentOverrideOption : UserAgentOverrideOption) : Checked SessionController := do
  let controller ← controller.discardTransientItem.setPendingItemIndex (-1)
  if ← controller.shouldCreatePendingItem url transition userAgentOverrideOption then
    let (item, controller) ←
      controller.createNavigationItem env url referrer transition initiationType
    dcheck (controller.pendingItemIndex = -1)
    return { controller with newPendingItem := some item }
  else
    return controller

def legacyAddPendingItem (referrer : Referrer) (transition : PageTransition)
    (initiationType : NavigationInitiationType)
    (userAgentOverrideOption : UserAgentOverrideOption) : Checked SessionController := do
  let controller ← controller.addPendingItem env url referrer transition initiationType
    userAgentOverrideOption
  match ← controller.pendingItem with
  | none => return controller
  | some pendingItem => do
      let inheritFromItem ← controller.getLastCommittedItemWithUserAgentType env
      let item ← updatePendingItemUserAgentType env userAgentOverrideOption
        inheritFromItem pendingItem
      return controller.writePendingItem item

def updatePendingItemUrl : Checked SessionController := do
  match ← controller.pendingItem with
  | none => return controller
  | some pendingItem => do
      if url = pendingItem.url then
        return controller
      else
        dcheck (controller.transientItem = none)
        let redirected := (pendingItem.setURL url).setVirtualURL url
        return controller.writePendingItem
          { redirected with postData := none, httpRequestHeaders := none }

def clearForwardItems : Checked SessionController := do
  dcheck (controller.pendingItemIndex = -1)
  let controller := controller.discardTransientItem
  let forwardItemStartIndex := controller.lastCommittedItemIndex + 1
  dcheck (0 ≤ forwardItemStartIndex)
  if forwardItemStartIndex ≥ controller.items.length then
    return controller
  else
    return { controller with
      previousItemIndex :=
        if controller.previousItemIndex ≥ forwardItemStartIndex then -1
        else controller.previousItemIndex
      items := controller.items.take forwardItemStartIndex.toNat }

def commitNewItem (item : NavigationItem) : Checked SessionController := do
  let controller ← controller.clearForwardItems
  let items := controller.items ++ [item]
  return setLastCommittedItemIndex
    { controller with items := items, previousItemIndex := controller.lastCommittedItemIndex }
    (items.length - 1)

def moveToHistory (item : NavigationItem) : Checked SessionController :=
  if controller.pendingItemIndex = -1 then
    commitNewItem { controller with newPendingItem := none } item
  else
    return setLastCommittedItemIndex
      { controller.writePendingItem item with
        previousItemIndex := controller.lastCommittedItemIndex }
      controller.pendingItemIndex

def commitIfPending : Checked SessionController := do
  match ← controller.pendingItem with
  | none => return controller
  | some pendingItem => do
      let controller ← controller.moveToHistory pendingItem.resetForCommit
      let controller ← controller.setPendingItemIndex (-1)
      dcheck (controller.newPendingItem = none)
      return controller

/-- The current item is stamped also when there was nothing to commit. -/
def commitPendingItem : Checked SessionController := do
  let controller ← controller.commitIfPending
  match ← controller.currentItem with
  | none => do
      dcheck (controller.pendingItemIndex = -1)
      return controller
  | some item => do
      let controller ← (controller.advanceTimeSmoother now).writeCurrentItem
        { item with timestamp := controller.smoothedTime now }
      controller.onNavigationItemCommitted
      dcheck (controller.pendingItemIndex = -1)
      return controller

def addTransientItem : Checked SessionController := do
  let (item, controller) ← controller.createNavigationItem env url
    ⟨.empty, referrerPolicyDefault⟩ PageTransition.clientRedirect .browserInitiated
  return { controller.advanceTimeSmoother now with
    transientItem := some { item with timestamp := controller.smoothedTime now } }

def itemCoveredByTransient : Checked (Option NavigationItem) := do
  match ← controller.pendingItem with
  | some pendingItem => return some pendingItem
  | none => controller.getLastCommittedItemWithUserAgentType env

/-- The manager also gives the transient item the user agent of the page it covers. -/
def legacyAddTransientItem : Checked SessionController := do
  let controller ← controller.addTransientItem env url now
  match ← controller.itemCoveredByTransient env with
  | none => return controller
  | some item => do
      dcheck (item.userAgentType ≠ .none)
      let transientItem ← controller.transientItem
      let transientItem ← transientItem.setUserAgentType env item.userAgentType
      return { controller with transientItem := some transientItem }

def pushNewItem (stateObject : Option String) (transition : PageTransition) (now : Int) :
    Checked SessionController := do
  let pendingItem ← controller.pendingItem
  dcheck (pendingItem = none)
  let currentItem ← controller.currentItem
  dcheck currentItem.isSome
  let lastCommittedItem ← ← controller.lastCommittedItem
  let valid ← isHistoryStateChangeValid env lastCommittedItem.url url
  dcheck valid
  let (item, controller) ← controller.createNavigationItem env url
    ⟨lastCommittedItem.url, referrerPolicyDefault⟩ transition .browserInitiated
  let item ← item.setUserAgentType env lastCommittedItem.userAgentType
  let controller ← (controller.advanceTimeSmoother now).commitNewItem
    { item with
      serializedStateObject := stateObject
      isCreatedFromPushState := true
      timestamp := controller.smoothedTime now }
  controller.onNavigationItemCommitted
  return controller

def updateCurrentItemForReplaceState (stateObject : Option String) : Checked SessionController := do
  dcheck (controller.transientItem = none)
  let currentItem ← ← controller.currentItem
  controller.writeCurrentItem
    { currentItem.setURL url with
      serializedStateObject := stateObject
      hasStateBeenReplaced := true
      postData := none }

/-- The items of the source up to its last committed one are put before the last
committed item of the controller, which is all that is kept of its own. -/
def copyStateFromSessionControllerAndPrune (source : SessionController) :
    Checked SessionController := do
  if ¬ controller.canPruneAllButLastCommittedItem then
    return controller
  else if source.items = [] then
    return controller
  else
    match ← source.lastCommittedItem with
    | none => return controller
    | some _ => do
        dcheck (source.lastCommittedItemIndex > -1)
        let lastCommittedItem ← at? controller.items controller.lastCommittedItemIndex
        let mergedItems :=
          source.items.take (source.lastCommittedItemIndex + 1).toNat ++ [lastCommittedItem]
        return { controller with
          items := mergedItems
          previousItemIndex := -1
          lastCommittedItemIndex := mergedItems.length - 1 }

def discardForGoTo (index : Int) (discard : Bool) : Checked SessionController :=
  if ¬ discard then
    return controller
  else if index < controller.lastCommittedItemIndex then
    controller.discardNonCommittedItems
  else
    return controller.discardTransientItem

def goToItemAtIndex (index : Int) (discard : Bool) : Checked SessionController := do
  if index < 0 ∨ index ≥ controller.items.length then
    return controller
  else if index = controller.lastCommittedItemIndex then
    return controller
  else
    let controller ← controller.discardForGoTo index discard
    return { controller with
      previousItemIndex := controller.lastCommittedItemIndex
      lastCommittedItemIndex := index }

def removeItemAtIndex (index : Int) : Checked SessionController := do
  dcheck (index < controller.items.length)
  dcheck (index ≠ controller.lastCommittedItemIndex)
  dcheck (index ≥ 0)
  let controller ← controller.discardNonCommittedItems
  return { controller with
    items := eraseAt controller.items index
    lastCommittedItemIndex :=
      if controller.lastCommittedItemIndex > index then controller.lastCommittedItemIndex - 1
      else controller.lastCommittedItemIndex
    previousItemIndex :=
      if controller.previousItemIndex ≥ index then controller.previousItemIndex - 1
      else controller.previousItemIndex }

/-- Every item of a same-document sequence was made by the page itself, with a URL
the page may have. -/
def sameDocumentItems (firstUrl : GURL) : List NavigationItem → Checked Bool
  | [] => return true
  | item :: rest => do
      if ¬ item.isCreatedFromPushState ∧ ¬ item.isCreatedFromHashChange then
        return false
      else if ← isHistoryStateChangeValid env firstUrl item.url then
        sameDocumentItems firstUrl rest
      else
        return false

/-- The two items are given by their indices in the history. -/
def isSameDocumentNavigationBetweenItems (firstIndex secondIndex : Nat) : Checked Bool := do
  if firstIndex = secondIndex then
    return false
  else
    let firstItem ← controller.items[firstIndex]?
    let secondItem ← controller.items[secondIndex]?
    if env.getOrigin firstItem.url ≠ env.getOrigin secondItem.url then
      return false
    else
      let startIndex := min firstIndex secondIndex
      let endIndex := max firstIndex secondIndex
      sameDocumentItems env firstItem.url
        ((controller.items.drop (startIndex + 1)).take (endIndex - startIndex))

def isSameDocumentAsLastCommitted (index : Nat) : Checked Bool := do
  match ← controller.getLastCommittedItem env with
  | none => return false
  | some _ =>
    controller.isSameDocumentNavigationBetweenItems env
      controller.lastCommittedItemIndex.toNat index

/-- Going to an item of the same document commits it at once; any other one becomes
the pending item. -/
def finishGoToIndex (index : Nat) : Checked SessionController := do
  let toItem ← controller.items[index]?
  let controller := { controller with
    items := controller.items.set index
      { toItem with transitionType := toItem.transitionType ||| PageTransition.forwardBack } }
  if ← controller.isSameDocumentAsLastCommitted env index then
    controller.goToItemAtIndex index true
  else
    let controller ← controller.discardNonCommittedItems
    controller.setPendingItemIndex index

def addTransientURLRewriter (rewriter : URLRewriter) : SessionController :=
  { controller with transientUrlRewriters := controller.transientUrlRewriters ++ [rewriter] }

end Operations

end SessionController

end ChromiumIos
