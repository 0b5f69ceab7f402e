import ChromiumIos.Lib.IndexedList
import ChromiumIos.Lib.Stateful
import ChromiumIos.Navigation.RestoreSession
import ChromiumIos.Navigation.NavigationManager

/-!
# The navigation manager that follows the web view

The slim navigation manager keeps no history of its own.  It reads the
back-forward list of the web view and stores a navigation item with every entry;
an entry that has none gets one when it is first looked at, so that looking at
the history writes to it.  Before the web view is removed the history is cached,
and a detached manager answers from the cache.  A window opened without a URL
has a committed item that is not in the list.

The delegate's web view is part of the state.  Whatever it does between two
calls of the manager is a change of the list, made by the environment.
-/

namespace ChromiumIos

open Lib

/-! ## The web view -/

structure WKBackForwardListItem where
  url : GURL
  title : String
  /-- The item that a holder associates with this entry. -/
  navigationItem : Option NavigationItem := none
  deriving DecidableEq, Repr

inductive WKBackForwardList where
  | empty
  | focused (backList : List WKBackForwardListItem) (currentItem : WKBackForwardListItem)
      (forwardList : List WKBackForwardListItem)
  deriving DecidableEq, Repr

namespace WKBackForwardList

def backList : WKBackForwardList → List WKBackForwardListItem
  | .empty => []
  | .focused backList _ _ => backList

def currentItem : WKBackForwardList → Option WKBackForwardListItem
  | .empty => none
  | .focused _ currentItem _ => some currentItem

def forwardList : WKBackForwardList → List WKBackForwardListItem
  | .empty => []
  | .focused _ _ forwardList => forwardList

def items (list : WKBackForwardList) : List WKBackForwardListItem :=
  list.backList ++ list.currentItem.toList ++ list.forwardList

def itemAtIndex (list : WKBackForwardList) (offset : Int) : Option WKBackForwardListItem :=
  at? list.items (list.backList.length + offset)

def setNavigationItem (list : WKBackForwardList) (position : Nat) (item : NavigationItem) :
    WKBackForwardList :=
  let associate := fun entry : WKBackForwardListItem => { entry with navigationItem := some item }
  match list with
  | .empty => .empty
  | .focused backList currentItem forwardList =>
    if position < backList.length then
      .focused (backList.modify position associate) currentItem forwardList
    else if position = backList.length then
      .focused backList (associate currentItem) forwardList
    else
      .focused backList currentItem
        (forwardList.modify (position - backList.length - 1) associate)

end WKBackForwardList

structure WKWebView where
  url : GURL
  backForwardList : WKBackForwardList := .empty
  deriving DecidableEq, Repr

/-! ## The state of the manager -/

structure WKNavigationManager where
  /-- The web view of the delegate, if it has one. -/
  webView : Option WKWebView := none
  /-- The time of the clock. -/
  now : Int := 0
  attachedToWebView : Bool := true
  cachedItems : List NavigationItem := []
  cachedCurrentItemIndex : Int := 0
  pendingItem : Option NavigationItem := none
  pendingItemIndex : Int := -1
  previousItemIndex : Int := -1
  lastCommittedItemIndex : Int := -1
  emptyWindowOpenItem : Option NavigationItem := none
  transientItem : Option NavigationItem := none
  timeSmoother : TimeSmoother := {}
  transientUrlRewriters : List URLRewriter := []
  isRestoreSessionInProgress : Bool := false
  restoredVisibleItem : Option NavigationItem := none
  /-- The loads that wait for the end of a restore. -/
  restoreSessionCompletionCallbacks : List WebLoadParams := []

namespace WKNavigationManager

abbrev Run := Stateful WKNavigationManager

def backForwardList (manager : WKNavigationManager) : WKBackForwardList :=
  (manager.webView.map WKWebView.backForwardList).getD .empty

variable (manager : WKNavigationManager) (index : Nat)

def getBackForwardListItemCount : Nat :=
  if manager.attachedToWebView then
    manager.backForwardList.items.length
  else
    manager.cachedItems.length

def getCurrentItemIndex : Int :=
  if manager.attachedToWebView then
    match manager.backForwardList.currentItem with
    | some _ => manager.backForwardList.backList.length
    | none => -1
  else
    manager.cachedCurrentItemIndex

def getWKItemAtIndex : Option WKBackForwardListItem :=
  if index ≥ manager.getBackForwardListItemCount then
    none
  else
    manager.backForwardList.itemAtIndex (index - manager.getCurrentItemIndex)

def setNavigationItemInWKItem (item : NavigationItem) : WKNavigationManager :=
  { manager with
    webView := manager.webView.map fun webView =>
      { webView with backForwardList := webView.backForwardList.setNavigationItem index item } }

def smoothedTime : Int :=
  (manager.timeSmoother.getSmoothedTime manager.now).1

def advanceTimeSmoother : WKNavigationManager :=
  { manager with timeSmoother := (manager.timeSmoother.getSmoothedTime manager.now).2 }

/-! ## Counting from the current item -/

def getItemCount : Int :=
  if manager.emptyWindowOpenItem.isSome then 1 else manager.getBackForwardListItemCount

def getIndexForOffset (offset : Int) : Int :=
  let currentItemIndex :=
    if manager.pendingItemIndex = -1 then
      if manager.emptyWindowOpenItem.isSome then 0 else manager.getCurrentItemIndex
    else
      manager.pendingItemIndex
  let offset :=
    if offset < 0 ∧ manager.transientItem.isSome ∧ manager.pendingItemIndex = -1 then offset + 1
    else offset
  currentItemIndex + offset

def canGoToOffset (offset : Int) : Bool :=
  if manager.isRestoreSessionInProgress then
    false
  else if manager.emptyWindowOpenItem.isSome then
    offset = 0
  else
    let index := manager.getIndexForOffset offset
    index ≥ 0 ∧ index < manager.getItemCount

/-- With a pending history navigation or an empty window the list is ahead of what is
committed. -/
def getLastCommittedItemIndexInCurrentOrRestoredSession : Int :=
  if manager.pendingItemIndex ≥ 0 ∨ manager.emptyWindowOpenItem.isSome then
    manager.lastCommittedItemIndex
  else
    manager.getCurrentItemIndex

/-! ## Reading items -/

section Reads

variable (env : NavigationEnvironment)

/-- The virtual URL of an entry that redirects to its target when it is loaded. -/
def withTargetURL (item : NavigationItem) : NavigationItem :=
  if env.isRestoreSessionUrl item.url then
    match env.extractTargetURL item.url with
    | none => item
    | some targetUrl =>
      if env.isPlaceholderUrl targetUrl then
        item.setVirtualURL (env.extractUrlFromPlaceholderUrl targetUrl)
      else
        item.setVirtualURL targetUrl
  else
    item

/-- The item for an entry of the list that the manager did not create. -/
def rebuiltItem (wkItem : WKBackForwardListItem) (previousWKItem : Option WKBackForwardListItem)
    (timestamp : Int) : Checked NavigationItem := do
  let referrer :=
    match previousWKItem with
    | some previous => ⟨previous.url, referrerPolicyAlways⟩
    | none => ⟨.empty, referrerPolicyDefault⟩
  let previousUrl := (previousWKItem.map WKBackForwardListItem.url).getD .empty
  let item ← createNavigationItemWithRewriters env env.isPlaceholderUrl wkItem.url
    referrer PageTransition.link .rendererInitiated previousUrl []
  return withTargetURL env { item with timestamp := timestamp, title := wkItem.title }

def createItemAtIndex (index : Nat) (wkItem : WKBackForwardListItem) : Run NavigationItem := do
  let manager ← get
  let previousWKItem := if index = 0 then none else manager.getWKItemAtIndex (index - 1)
  let item ← rebuiltItem env wkItem previousWKItem manager.smoothedTime
  modify fun manager => manager.advanceTimeSmoother.setNavigationItemInWKItem index item
  return item

def cacheNavigationItemImplAtIndex (index : Nat) : Run (Option NavigationItem) := do
  let manager ← get
  if index ≥ manager.getBackForwardListItemCount then
    return none
  else if ¬ manager.attachedToWebView then
    return manager.cachedItems[index]?
  else
    match manager.getWKItemAtIndex index with
    | none => return none
    | some wkItem =>
      match wkItem.navigationItem with
      | some item => return some item
      | none => do
          let item ← createItemAtIndex env index wkItem
          return some item

/-- A negative index becomes a large unsigned one, at which there is no item. -/
def getItemAtIndex (index : Int) : Run (Option NavigationItem) := do
  let manager ← get
  match manager.emptyWindowOpenItem with
  | some item => return if index = 0 then some item else none
  | none =>
    if index < 0 then
      return none
    else
      cacheNavigationItemImplAtIndex env index.toNat

def forwardIndices : List Int :=
  let first := manager.getCurrentItemIndex + 1
  (List.range (manager.getItemCount - first).toNat).map fun step : Nat => first + step

def getForwardItems : Run (List (Option NavigationItem)) := do
  let manager ← get
  if manager.isRestoreSessionInProgress then
    return []
  else
    manager.forwardIndices.mapM (getItemAtIndex env)

/-- Behind a transient item the last committed item counts as well. -/
def backwardIndices : List Int :=
  let current := manager.getCurrentItemIndex
  (if manager.transientItem.isSome ∧ current ≥ 0 then [current] else []) ++
    (List.range current.toNat).map fun step : Nat => current - 1 - step

def getBackwardItems : Run (List (Option NavigationItem)) := do
  let manager ← get
  if manager.isRestoreSessionInProgress then
    return []
  else
    manager.backwardIndices.mapM (getItemAtIndex env)

def getLastCommittedItemInCurrentOrRestoredSession : Run (Option NavigationItem) := do
  let manager ← get
  match manager.emptyWindowOpenItem with
  | some item => return some item
  | none => do
      let index := manager.getLastCommittedItemIndexInCurrentOrRestoredSession
      if index = -1 then
        dcheck (manager.getItemCount = 0)
        return none
      else
        getItemAtIndex env index

def getPendingItemInCurrentOrRestoredSession : Run (Option NavigationItem) := do
  let manager ← get
  if manager.pendingItemIndex = -1 then
    return manager.pendingItem
  else
    getItemAtIndex env manager.pendingItemIndex

def getLastCommittedItem : Run (Option NavigationItem) := do
  let manager ← get
  if manager.isRestoreSessionInProgress then
    return none
  else
    let item ← getLastCommittedItemInCurrentOrRestoredSession env
    return item.filter fun item => !env.isRestoreSessionUrl item.url

def getPendingItem : Run (Option NavigationItem) := do
  let manager ← get
  if manager.isRestoreSessionInProgress then
    return none
  else
    getPendingItemInCurrentOrRestoredSession env

/-- From the start of a restore the item that is restored as visible is shown; otherwise
a pending item only if it is a new navigation that the browser started. -/
def getVisibleItem : Run (Option NavigationItem) := do
  let manager ← get
  if manager.isRestoreSessionInProgress ∨ manager.restoredVisibleItem.isSome then
    return manager.restoredVisibleItem
  else
    match manager.transientItem with
    | some transientItem => return some transientItem
    | none => do
        match ← getPendingItemInCurrentOrRestoredSession env with
        | some pendingItem =>
          if pendingItem.navigationInitiationType = .browserInitiated ∧
              manager.pendingItemIndex = -1 then
            return some pendingItem
          else
            getLastCommittedItem env
        | none => getLastCommittedItem env

def lastItemWithUserAgentType : Nat → Run (Option NavigationItem)
  | 0 => return none
  | count + 1 => do
      let found ← getItemAtIndex env count
      let item ← found
      if env.urlNeedsUserAgentType item.url then
        return some item
      else
        lastItemWithUserAgentType count

def getLastCommittedItemWithUserAgentType : Run (Option NavigationItem) := do
  let manager ← get
  lastItemWithUserAgentType env
    (manager.getLastCommittedItemIndexInCurrentOrRestoredSession + 1).toNat

end Reads

end WKNavigationManager

end ChromiumIos
