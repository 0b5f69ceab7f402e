import ChromiumIos.Navigation.WKNavigationManager

/-!
# The operations of the navigation manager that follows the web view

Loading, committing, going to an index, restoring a session, and detaching from
the web view.  What the delegate does with the web view in answer to a load is
not modelled: the web view may change in any way between two operations.  The
only call of the delegate whose effect is awaited is the removal of the web
view, which detaches the manager first.
-/

namespace ChromiumIos.WKNavigationManager

open Lib

variable (manager : WKNavigationManager) (index : Int) (item : NavigationItem)

section Writes

def writeItemAtIndex : WKNavigationManager :=
  if manager.emptyWindowOpenItem.isSome then
    { manager with emptyWindowOpenItem := some item }
  else if manager.attachedToWebView then
    manager.setNavigationItemInWKItem index.toNat item
  else
    { manager with cachedItems := manager.cachedItems.set index.toNat item }

def writePendingItem : WKNavigationManager :=
  if manager.pendingItemIndex = -1 then
    { manager with pendingItem := some item }
  else
    manager.writeItemAtIndex manager.pendingItemIndex item

def writeLastCommittedItem : WKNavigationManager :=
  manager.writeItemAtIndex manager.getLastCommittedItemIndexInCurrentOrRestoredSession item

def discardNonCommittedItems : WKNavigationManager :=
  { manager with pendingItem := none, transientItem := none, pendingItemIndex := -1 }

end Writes

variable (env : NavigationEnvironment)

/-! ## Pending and transient items -/

def isSameOrPlaceholderOf (first second : GURL) : Bool :=
  first == second || first == env.createPlaceholderUrlForUrl second

def urlOf (item : Option NavigationItem) : GURL := (item.map NavigationItem.url).getD .empty

def itemCoveredByTransient : Run (Option NavigationItem) := do
  match ← getPendingItem env with
  | some pendingItem => return some pendingItem
  | none => getLastCommittedItemWithUserAgentType env

variable (url : GURL)

def addTransientItem : Run Unit := do
  dcheck (← get).attachedToWebView
  let lastCommittedItem ← getLastCommittedItem env
  let item ← createNavigationItemWithRewriters env env.isPlaceholderUrl url
    ⟨.empty, referrerPolicyDefault⟩ PageTransition.clientRedirect .browserInitiated
    (urlOf lastCommittedItem) []
  modify fun manager =>
    { manager.advanceTimeSmoother with
      transientItem := some { item with timestamp := manager.smoothedTime } }
  let covered ← itemCoveredByTransient env
  match covered, (← get).transientItem with
  | some covered, some transientItem => do
      dcheck (covered.userAgentType ≠ .none)
      let transientItem ← transientItem.setUserAgentType env covered.userAgentType
      modify fun manager => { manager with transientItem := some transientItem }
  | _, _ => return

/-- A pending item with the URL of the entry the web view is already at belongs to a
back or forward navigation of the web view, or to a reload of a placeholder. -/
def reuseCurrentItem (pendingItem : NavigationItem) : Run Unit := do
  let manager ← get
  match manager.backForwardList.currentItem, manager.webView with
  | some currentItem, some webView =>
    if isSameOrPlaceholderOf env currentItem.url pendingItem.url ∧
        isSameOrPlaceholderOf env currentItem.url webView.url then do
      let index := manager.getCurrentItemIndex
      modify fun manager =>
        if currentItem.navigationItem.isNone then
          manager.setNavigationItemInWKItem index.toNat pendingItem
        else
          manager
      modify fun manager => { manager with pendingItem := none, pendingItemIndex := index }
  | _, _ => return

def addPendingItem (referrer : Referrer) (navigationType : PageTransition)
    (initiationType : NavigationInitiationType)
    (userAgentOverrideOption : UserAgentOverrideOption) : Run Unit := do
  modify discardNonCommittedItems
  let lastCommittedItem ← getLastCommittedItemInCurrentOrRestoredSession env
  let item ← createNavigationItemWithRewriters env env.isPlaceholderUrl url
    referrer navigationType initiationType (urlOf lastCommittedItem)
    (← get).transientUrlRewriters
  modify fun manager => { manager with transientUrlRewriters := [] }
  let inheritFromItem ← getLastCommittedItemWithUserAgentType env
  let item ← updatePendingItemUserAgentType env userAgentOverrideOption inheritFromItem
    item
  modify fun manager => { manager with pendingItem := some item }
  if (← get).attachedToWebView then
    reuseCurrentItem env item

def updatePendingItemUrl : Run Unit := do
  match ← getPendingItemInCurrentOrRestoredSession env with
  | none => return
  | some pendingItem =>
    if url = pendingItem.url then
      return
    else do
      dcheck ((← get).transientItem = none)
      let redirected := (pendingItem.setURL url).setVirtualURL url
      modify fun manager => manager.writePendingItem
        { redirected with postData := none, httpRequestHeaders := none }

def updateCurrentItemForReplaceState (stateObject : Option String) : Run Unit := do
  dcheck ((← get).transientItem = none)
  let replaced := fun item : NavigationItem =>
    { item.setURL url with
      serializedStateObject := stateObject
      hasStateBeenReplaced := true
      postData := none }
  match ← getPendingItemInCurrentOrRestoredSession env with
  | some item => modify fun manager => manager.writePendingItem (replaced item)
  | none => do
      let lastCommittedItem ← getLastCommittedItemInCurrentOrRestoredSession env
      let item ← lastCommittedItem
      modify fun manager => manager.writeLastCommittedItem (replaced item)

/-! ## Committing -/

def onNavigationItemCommitted : Run Unit := do
  let lastCommittedItem ← getLastCommittedItemInCurrentOrRestoredSession env
  let item ← lastCommittedItem
  if ¬ env.isRestoreSessionUrl item.url then
    modify fun manager => { manager with restoredVisibleItem := none }

/-- An item committed while the list of the web view is empty is that of a window
opened without a URL; any other one is stored with the current entry. -/
def commitNewItem (pendingItem : NavigationItem) : Run Unit := do
  let manager ← get
  let item := { pendingItem.resetForCommit with timestamp := manager.smoothedTime }
  match manager.webView, manager.backForwardList.currentItem with
  | some webView, none => do
      dcheck ("about:blank".toList <+: webView.url.spec.toList)
      modify fun manager =>
        { manager.advanceTimeSmoother with emptyWindowOpenItem := some item }
  | _, currentItem => do
      dcheck currentItem.isSome
      modify fun manager =>
        { manager.advanceTimeSmoother.setNavigationItemInWKItem
            manager.getCurrentItemIndex.toNat item with
          emptyWindowOpenItem := none }

/-- The item of a history navigation is stored with its entry already. -/
def commitItem : Run Unit := do
  if manager.pendingItemIndex = -1 then do
    let pendingItem ← manager.pendingItem
    commitNewItem pendingItem

def commitPendingItem : Run Unit := do
  let manager ← get
  dcheck manager.attachedToWebView
  if manager.pendingItemIndex = -1 ∧ manager.pendingItem = none then
    return
  else do
    commitItem manager
    modify fun committed =>
      { committed with
        pendingItemIndex := -1
        pendingItem := none
        previousItemIndex :=
          if manager.emptyWindowOpenItem.isSome then committed.previousItemIndex
          else committed.lastCommittedItemIndex
        lastCommittedItemIndex :=
          if committed.emptyWindowOpenItem.isSome then 0 else committed.getCurrentItemIndex }
    onNavigationItemCommitted env

/-! ## The cache -/

def itemOfEntry (index : Nat) : Run NavigationItem := do
  let found ← cacheNavigationItemImplAtIndex env index
  found

def detachFromWebView : Run Unit := do
  let manager ← get
  if manager.attachedToWebView then do
    let items ←
      (List.range manager.getBackForwardListItemCount).mapM (itemOfEntry env)
    modify fun detached =>
      { detached with
        cachedItems := items
        cachedCurrentItemIndex := manager.getCurrentItemIndex
        attachedToWebView := false }

def resetToAttached : WKNavigationManager :=
  { manager with cachedItems := [], cachedCurrentItemIndex := -1, attachedToWebView := true }

def releaseCachedItems : Run (List NavigationItem) := do
  let manager ← get
  dcheck (¬ manager.attachedToWebView)
  modify fun manager => { manager with cachedItems := [] }
  return manager.cachedItems

def removeWebView : Run Unit := do
  if (← get).webView.isSome then do
    detachFromWebView env
    modify fun manager => { manager with webView := none }

/-! ## Loading and restoring -/

variable (params : WebLoadParams)

/-- The item that a load adds, or the last committed one it repeats. -/
def addHeadersAndPostData (item : NavigationItem) : Checked NavigationItem := do
  let item :=
    match params.extraHeaders with
    | some headers => item.addHttpRequestHeaders headers
    | none => item
  match params.postData with
  | none => return item
  | some postData => do
      dcheck ((item.httpRequestHeaders.getD []).any fun header => header.1 == "Content-Type")
      return { item with postData := some postData, shouldSkipRepostFormConfirmation := true }

/-- A load of another fragment of the last committed page, with the URL to display. -/
def describeLoad (lastCommittedItem : Option NavigationItem) (pendingItem : NavigationItem) :
    NavigationItem :=
  let lastCommittedUrl := (lastCommittedItem.map NavigationItem.getVirtualURL).getD .empty
  let item :=
    if lastCommittedUrl ≠ pendingItem.url ∧
        env.equalsIgnoringRef lastCommittedUrl pendingItem.url then
      { pendingItem with isCreatedFromHashChange := true }
    else
      pendingItem
  if env.isValid params.virtualUrl then item.setVirtualURL params.virtualUrl else item

/-- What every load does before it starts. -/
def addItemForLoad : Run Unit := do
  dcheck (params.transitionType &&& PageTransition.forwardBack = 0)
  let initiationType :=
    if params.isRendererInitiated then NavigationInitiationType.rendererInitiated
    else .browserInitiated
  addPendingItem env params.url params.referrer params.transitionType initiationType
    params.userAgentOverrideOption
  match ← getPendingItemInCurrentOrRestoredSession env with
  | some pendingItem => do
      let lastCommittedItem ← getLastCommittedItemInCurrentOrRestoredSession env
      dcheck ((← get).transientItem = none)
      let item ← addHeadersAndPostData params
        (describeLoad env params lastCommittedItem pendingItem)
      modify fun manager => manager.writePendingItem item
  | none => do
      dcheck ((← get).transientItem = none)
      let lastCommittedItem ← getLastCommittedItemInCurrentOrRestoredSession env
      let item ← lastCommittedItem
      let item ← addHeadersAndPostData params item
      modify fun manager => manager.writeLastCommittedItem item

def rewriteItemURLIfNecessary (item : NavigationItem) : NavigationItem :=
  match env.rewriteURLIfNecessary item.url with
  | some url => (item.setURL url).setVirtualURL item.url
  | none => item

variable (codec : SessionCodec) (baseUrl : String)

def addRestoreCompletionCallback (manager : WKNavigationManager) : WKNavigationManager :=
  { manager with
    restoreSessionCompletionCallbacks :=
      manager.restoreSessionCompletionCallbacks ++ [params.copy] }

def loadRestorePage : Run Unit := do
  if env.isRestoreSessionUrl params.url then do
    addItemForLoad env params
    dcheck (← get).attachedToWebView
  else
    modify (addRestoreCompletionCallback params)

/-- The history is replayed by a page, which is loaded like any other one. -/
def unsafeRestore (lastCommittedItemIndex : Int) (items : List NavigationItem) : Run Unit := do
  let items := items.map (rewriteItemURLIfNecessary env)
  let restoreUrl ← createRestoreSessionUrl env codec baseUrl lastCommittedItemIndex items
  let firstItem ← items[0]?
  let params : WebLoadParams :=
    { url := ⟨restoreUrl.baseUrl ++ restoreUrl.hash⟩
      transitionType := PageTransition.reload
      virtualUrl := firstItem.getVirtualURL }
  modify fun manager =>
    { manager with
      isRestoreSessionInProgress := true
      restoredVisibleItem :=
        if lastCommittedItemIndex > -1 then at? items lastCommittedItemIndex
        else manager.restoredVisibleItem }
  loadRestorePage env params
  match ← getPendingItemInCurrentOrRestoredSession env with
  | none => return
  | some pendingItem =>
    modify fun manager => manager.writePendingItem { pendingItem with title := firstItem.title }

def removeWebViewWithItems : Run Unit := do
  if (← get).getItemCount > 0 then
    removeWebView env

def restore (lastCommittedItemIndex : Int) (items : List NavigationItem) : Run Unit := do
  dcheck (¬ (← get).isRestoreSessionInProgress)
  dcheck (lastCommittedItemIndex < items.length)
  dcheck (items = [] ∨ lastCommittedItemIndex ≥ 0)
  if items = [] then
    return
  else do
    modify fun manager => if manager.attachedToWebView then manager else manager.resetToAttached
    modify discardNonCommittedItems
    removeWebViewWithItems env
    dcheck ((← get).getItemCount = 0)
    dcheck ((← get).pendingItemIndex = -1)
    modify fun manager => { manager with previousItemIndex := -1, lastCommittedItemIndex := -1 }
    unsafeRestore env codec baseUrl lastCommittedItemIndex items

def restoreCachedItems (index : Int) : Run Unit := do
  let items ← releaseCachedItems
  restore env codec baseUrl index items
  dcheck (← get).attachedToWebView

/-- From the detached state a load replaces the forward part of the cached history. -/
def finishLoadURLWithParams : Run Unit := do
  let manager ← get
  if manager.attachedToWebView then
    return
  else do
    dcheck (manager.pendingItemIndex = -1)
    match manager.pendingItem with
    | some pendingItem =>
      if manager.getBackForwardListItemCount > 0 then do
        let cachedItems ← releaseCachedItems
        let nextItemIndex := manager.getCurrentItemIndex + 1
        dcheck (nextItemIndex > 0)
        dcheck (nextItemIndex ≤ cachedItems.length)
        modify fun manager => { manager with pendingItem := none }
        restore env codec baseUrl nextItemIndex
          (cachedItems.take nextItemIndex.toNat ++ [pendingItem])
        dcheck (← get).attachedToWebView
      else
        modify resetToAttached
    | none => modify resetToAttached

/-- Loads that are asked for during a restore wait for its end. -/
def loadURLWithParams (params : WebLoadParams) : Run Unit := do
  if (← get).isRestoreSessionInProgress ∧ ¬ env.isRestoreSessionUrl params.url then
    modify (addRestoreCompletionCallback params)
  else do
    addItemForLoad env params
    finishLoadURLWithParams env codec baseUrl

def loadIfNecessary : Run Unit := do
  let manager ← get
  if ¬ manager.attachedToWebView then
    restoreCachedItems env codec baseUrl manager.getCurrentItemIndex

def onRendererInitiatedNavigationStarted (url : GURL) : Run Unit := do
  let manager ← get
  if ¬ env.isRestoreSessionUrl url ∧ manager.isRestoreSessionInProgress then do
    modify fun manager => { manager with isRestoreSessionInProgress := false }
    manager.restoreSessionCompletionCallbacks.forM
      (loadURLWithParams env codec baseUrl)
    modify fun manager => { manager with restoreSessionCompletionCallbacks := [] }
    loadIfNecessary env codec baseUrl

/-! ## Going to an index and reloading -/

def finishGoToIndex (index : Int) : Run Unit := do
  if ¬ (← get).attachedToWebView then
    restoreCachedItems env codec baseUrl index
  else do
    modify discardNonCommittedItems
    let found ← getItemAtIndex env index
    let item ← found
    modify fun manager => manager.writeItemAtIndex index
      { item with transitionType := item.transitionType ||| PageTransition.forwardBack }
    let manager ← get
    dcheck ((manager.getWKItemAtIndex index.toNat).isSome ∨
      index = 0 ∧ manager.emptyWindowOpenItem.isSome)

/-- The item the user leaves; it is only looked at for its user agent. -/
def getPreviousItem : Run (Option NavigationItem) := do
  match ← getPendingItem env with
  | some pendingItem => return some pendingItem
  | none => getLastCommittedItem env

def goToIndex (index : Int) : Run Unit := do
  dcheck (0 ≤ index ∧ index < (← get).getItemCount)
  let found ← getItemAtIndex env index
  let _ ← found
  let _ ← getPreviousItem env
  finishGoToIndex env codec baseUrl index

def finishReload : Run Unit := do
  let manager ← get
  if ¬ manager.attachedToWebView then
    restoreCachedItems env codec baseUrl manager.getCurrentItemIndex

def reloadedItem (originalRequestUrl : Bool) (item : NavigationItem) : NavigationItem :=
  if originalRequestUrl then item.setURL item.originalRequestUrl else item

/-- The transient, pending or last committed item is reloaded; without any of them there
is nothing to do. -/
def reload (originalRequestUrl : Bool) : Run Unit := do
  let manager ← get
  if manager.isRestoreSessionInProgress then
    return
  else do
    match manager.transientItem with
    | some item => do
        modify fun manager =>
          { manager with transientItem := some (reloadedItem originalRequestUrl item) }
        finishReload env codec baseUrl
    | none => do
        match ← getPendingItem env with
        | some item => do
            modify fun manager => manager.writePendingItem (reloadedItem originalRequestUrl item)
            finishReload env codec baseUrl
        | none => do
            match ← getLastCommittedItem env with
            | some item => do
                modify fun manager =>
                  manager.writeLastCommittedItem (reloadedItem originalRequestUrl item)
                finishReload env codec baseUrl
            | none => return

def applyWKWebViewForwardHistoryClobberWorkaround : Run Unit := do
  let manager ← get
  dcheck manager.attachedToWebView
  let currentItemIndex := manager.getCurrentItemIndex
  dcheck (currentItemIndex ≥ 0)
  dcheck (currentItemIndex < manager.getItemCount)
  let indices := (List.range (manager.getItemCount - currentItemIndex).toNat).map
    fun step : Nat => currentItemIndex + step
  let found ← indices.mapM (getItemAtIndex env)
  let forwardItems ← (found.mapM id : Checked (List NavigationItem))
  modify discardNonCommittedItems
  unsafeRestore env codec baseUrl 0 forwardItems

/-! ## Runs -/

inductive Operation where
  | addTransientItem (url : GURL)
  | addPendingItem (url : GURL) (referrer : Referrer) (navigationType : PageTransition)
      (initiationType : NavigationInitiationType)
      (userAgentOverrideOption : UserAgentOverrideOption)
  | updatePendingItemUrl (url : GURL)
  | updateCurrentItemForReplaceState (url : GURL) (stateObject : Option String)
  | commitPendingItem
  | discardNonCommittedItems
  | setPendingItemIndex (index : Int)
  | setPreviousItemIndex (index : Int)
  | addTransientURLRewriter (rewriter : URLRewriter)
  | getItemAtIndex (index : Int)
  | detachFromWebView
  | removeWebView
  | restore (lastCommittedItemIndex : Int) (items : List NavigationItem)
  | loadURLWithParams (params : WebLoadParams)
  | loadIfNecessary
  | onRendererInitiatedNavigationStarted (url : GURL)
  | goToIndex (index : Int)
  | reload (originalRequestUrl : Bool)
  | applyWKWebViewForwardHistoryClobberWorkaround
  /-- The web view is made, navigates, or changes its URL. -/
  | webViewChanges (webView : Option WKWebView)
  | timePasses (now : Int)

def perform : Operation → Run Unit
  | .addTransientItem url => WKNavigationManager.addTransientItem env url
  | .addPendingItem url referrer navigationType initiationType option =>
    WKNavigationManager.addPendingItem env url referrer navigationType initiationType
      option
  | .updatePendingItemUrl url => WKNavigationManager.updatePendingItemUrl env url
  | .updateCurrentItemForReplaceState url stateObject =>
    WKNavigationManager.updateCurrentItemForReplaceState env url stateObject
  | .commitPendingItem => WKNavigationManager.commitPendingItem env
  | .discardNonCommittedItems => modify WKNavigationManager.discardNonCommittedItems
  | .setPendingItemIndex index =>
    modify fun manager => { manager with pendingItemIndex := index }
  | .setPreviousItemIndex index => do
      dcheck (← get).attachedToWebView
      modify fun manager => { manager with previousItemIndex := index }
  | .addTransientURLRewriter rewriter =>
    modify fun manager =>
      { manager with transientUrlRewriters := manager.transientUrlRewriters ++ [rewriter] }
  | .getItemAtIndex index => do
      let _ ← WKNavigationManager.getItemAtIndex env index
  | .detachFromWebView => WKNavigationManager.detachFromWebView env
  | .removeWebView => WKNavigationManager.removeWebView env
  | .restore lastCommittedItemIndex items =>
    WKNavigationManager.restore env codec baseUrl lastCommittedItemIndex items
  | .loadURLWithParams params =>
    WKNavigationManager.loadURLWithParams env codec baseUrl params
  | .loadIfNecessary => WKNavigationManager.loadIfNecessary env codec baseUrl
  | .onRendererInitiatedNavigationStarted url =>
    WKNavigationManager.onRendererInitiatedNavigationStarted env codec baseUrl url
  | .goToIndex index => WKNavigationManager.goToIndex env codec baseUrl index
  | .reload originalRequestUrl =>
    WKNavigationManager.reload env codec baseUrl originalRequestUrl
  | .applyWKWebViewForwardHistoryClobberWorkaround =>
    WKNavigationManager.applyWKWebViewForwardHistoryClobberWorkaround env codec baseUrl
  | .webViewChanges webView => modify fun manager => { manager with webView := webView }
  | .timePasses now => modify fun manager => { manager with now := now }

/-- The state after a sequence of operations; none if one of them fails an assertion. -/
def performAll (operations : List Operation) : Run Unit :=
  operations.forM (perform env codec baseUrl)

/-- A state that some sequence of operations of a new manager ends in. -/
def Reachable (manager : WKNavigationManager) : Prop :=
  ∃ operations, performAll env codec baseUrl operations {} = some ((), manager)

end ChromiumIos.WKNavigationManager
