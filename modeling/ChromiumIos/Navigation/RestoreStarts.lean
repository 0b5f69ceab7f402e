import ChromiumIos.Navigation.WKNavigationCache

/-!
# How a restore starts

A restore loads its page into a web view without history.  Once an attached manager has
nothing in it no assertion on the way can fail, and the item of the page is pending.  A
detached manager comes to that point exactly if there is something in its cache, no window
without a URL is open, and its web view has no history.
-/

namespace ChromiumIos.WKNavigationManager

open Lib

variable {env : NavigationEnvironment} {codec : SessionCodec} {baseUrl : String}
variable {manager after : WKNavigationManager}

structure Blank (manager : WKNavigationManager) : Prop where
  attached : manager.attachedToWebView = true
  noWindow : manager.emptyWindowOpenItem = none
  noHistory : manager.backForwardList = .empty

def KnowsRestorePage (env : NavigationEnvironment) (baseUrl : String) : Prop :=
  ∀ url : RestoreSessionUrl, url.baseUrl = baseUrl →
    env.isRestoreSessionUrl ⟨url.baseUrl ++ url.hash⟩ = true

/-- The page that restores the items is about to be loaded, and the item at the index is shown
meanwhile. -/
structure RestoreStarted (env : NavigationEnvironment) (codec : SessionCodec)
    (baseUrl : String) (rewriters : List URLRewriter) (index : Int)
    (items : List NavigationItem) (after : WKNavigationManager) : Prop where
  attached : after.attachedToWebView = true
  inProgress : after.isRestoreSessionInProgress = true
  visible : after.restoredVisibleItem =
    at? (items.map (rewriteItemURLIfNecessary env)) index
  page : ∃ url pendingItem,
    createRestoreSessionUrl env codec baseUrl index
      (items.map (rewriteItemURLIfNecessary env)) = some url ∧
    after.pendingItemIndex = -1 ∧ after.pendingItem = some pendingItem ∧
    pendingItem.url = loadedUrl env env.isPlaceholderUrl
      ⟨url.baseUrl ++ url.hash⟩ .browserInitiated .empty rewriters

/-! ## Items of a manager without history -/

namespace Blank

theorem getCurrentItemIndex (blank : Blank manager) : manager.getCurrentItemIndex = -1 := by
  unfold WKNavigationManager.getCurrentItemIndex
  rw [if_pos blank.attached, blank.noHistory]
  rfl

theorem getItemCount (blank : Blank manager) : manager.getItemCount = 0 := by
  unfold WKNavigationManager.getItemCount getBackForwardListItemCount
  rw [blank.noWindow, if_pos blank.attached, blank.noHistory]
  rfl

/-- Without a pending history navigation nothing counts as committed. -/
theorem getLastCommittedItemIndex (blank : Blank manager)
    (settled : manager.pendingItemIndex = -1) :
    manager.getLastCommittedItemIndexInCurrentOrRestoredSession = -1 := by
  unfold getLastCommittedItemIndexInCurrentOrRestoredSession
  rw [blank.noWindow, settled, blank.getCurrentItemIndex]
  rfl

theorem getLastCommittedItem (blank : Blank manager) (settled : manager.pendingItemIndex = -1) :
    getLastCommittedItemInCurrentOrRestoredSession env manager = some (none, manager) := by
  unfold getLastCommittedItemInCurrentOrRestoredSession
  rw [Stateful.run_get, blank.noWindow]
  dsimp only
  rw [if_pos (blank.getLastCommittedItemIndex settled), Stateful.run_dcheck,
    if_pos blank.getItemCount]
  rfl

theorem getLastCommittedItemWithUserAgentType (blank : Blank manager)
    (settled : manager.pendingItemIndex = -1) :
    WKNavigationManager.getLastCommittedItemWithUserAgentType env manager =
      some (none, manager) := by
  unfold WKNavigationManager.getLastCommittedItemWithUserAgentType
  rw [Stateful.run_get, blank.getLastCommittedItemIndex settled]
  rfl

theorem reuseCurrentItem (blank : Blank manager) (pendingItem : NavigationItem) :
    WKNavigationManager.reuseCurrentItem env pendingItem manager = some ((), manager) := by
  unfold WKNavigationManager.reuseCurrentItem
  rw [Stateful.run_get, blank.noHistory]
  rfl

end Blank

variable {item : NavigationItem} {index : Int} {items : List NavigationItem} {result : Unit}
variable {url : RestoreSessionUrl} {firstItem : NavigationItem} {rewriters : List URLRewriter}

/-- A new item has the URL that is loaded and nothing else to display. -/
theorem createNavigationItemWithRewriters_spec {isPlaceholderUrl : GURL → Bool}
    {url previousUrl : GURL} {referrer : Referrer} {transition : PageTransition}
    {initiationType : NavigationInitiationType}
    (created : createNavigationItemWithRewriters env isPlaceholderUrl url referrer
      transition initiationType previousUrl rewriters = some item) :
    item.url = loadedUrl env isPlaceholderUrl url initiationType previousUrl rewriters ∧
      item.virtualUrl = .empty ∧ item.userAgentType ≠ .desktop := by
  grind [createNavigationItemWithRewriters_cases]

/-- Without an option and an earlier item the user agent is kept. -/
theorem updatePendingItemUserAgentType_inherit (notDesktop : item.userAgentType ≠ .desktop) :
    updatePendingItemUserAgentType env .inherit none item = some item := by
  simp [updatePendingItemUserAgentType, notDesktop]

def withPendingItem (manager : WKNavigationManager) (item : NavigationItem) :
    WKNavigationManager :=
  { manager.discardNonCommittedItems with transientUrlRewriters := [], pendingItem := some item }

theorem getPendingItem_withPendingItem (manager : WKNavigationManager) (item : NavigationItem) :
    getPendingItemInCurrentOrRestoredSession env (manager.withPendingItem item) =
      some (some item, manager.withPendingItem item) := rfl

theorem addPendingItem_blank (blank : Blank manager) (url : GURL) (referrer : Referrer)
    (transition : PageTransition) (initiationType : NavigationInitiationType) :
    ∃ item, addPendingItem env url referrer transition initiationType .inherit manager =
        some ((), manager.withPendingItem item) ∧
      item.url = loadedUrl env env.isPlaceholderUrl url initiationType .empty
        manager.transientUrlRewriters ∧ item.virtualUrl = .empty := by
  have discarded : Blank manager.discardNonCommittedItems :=
    ⟨blank.attached, blank.noWindow, blank.noHistory⟩
  have cleared : Blank { manager.discardNonCommittedItems with transientUrlRewriters := [] } :=
    ⟨blank.attached, blank.noWindow, blank.noHistory⟩
  obtain ⟨item, created⟩ := createNavigationItemWithRewriters_returns env
    env.isPlaceholderUrl url referrer transition initiationType (urlOf none)
    manager.discardNonCommittedItems.transientUrlRewriters
  obtain ⟨loaded, plain, notDesktop⟩ := createNavigationItemWithRewriters_spec created
  have pending : Blank (manager.withPendingItem item) :=
    ⟨blank.attached, blank.noWindow, blank.noHistory⟩
  refine ⟨item, ?_, loaded, plain⟩
  unfold addPendingItem
  rw [Stateful.run_modify, Stateful.run_bind (discarded.getLastCommittedItem rfl),
    Stateful.run_get, Stateful.run_bind (Stateful.run_lift created _), Stateful.run_modify,
    Stateful.run_bind (cleared.getLastCommittedItemWithUserAgentType rfl),
    Stateful.run_bind (Stateful.run_lift (updatePendingItemUserAgentType_inherit notDesktop) _),
    Stateful.run_modify, Stateful.run_get]
  grind [withPendingItem, pending.attached, pending.reuseCurrentItem]

theorem describeLoad_url (params : WebLoadParams) (last : Option NavigationItem)
    (item : NavigationItem) : (describeLoad env params last item).url = item.url := by
  unfold describeLoad
  dsimp only
  split_ifs <;> rfl

def restoreParams (url : RestoreSessionUrl) (firstItem : NavigationItem) : WebLoadParams where
  url := ⟨url.baseUrl ++ url.hash⟩
  transitionType := PageTransition.reload
  virtualUrl := firstItem.getVirtualURL

theorem addItemForLoad_blank (blank : Blank manager) (url : RestoreSessionUrl)
    (firstItem : NavigationItem) :
    ∃ item, addItemForLoad env (restoreParams url firstItem) manager =
        some ((), manager.withPendingItem
          (describeLoad env (restoreParams url firstItem) none item)) ∧
      item.url = loadedUrl env env.isPlaceholderUrl ⟨url.baseUrl ++ url.hash⟩
        .browserInitiated .empty manager.transientUrlRewriters ∧ item.virtualUrl = .empty := by
  obtain ⟨item, added, loaded, plain⟩ := @addPendingItem_blank env manager blank
    ⟨url.baseUrl ++ url.hash⟩ ⟨.empty, referrerPolicyDefault⟩ PageTransition.reload
    .browserInitiated
  have pending : Blank (manager.withPendingItem item) :=
    ⟨blank.attached, blank.noWindow, blank.noHistory⟩
  refine ⟨item, ?_, loaded, plain⟩
  have plainLoad : (restoreParams url firstItem).transitionType &&&
      PageTransition.forwardBack = 0 :=
    (by decide : PageTransition.reload &&& PageTransition.forwardBack = 0)
  unfold addItemForLoad
  rw [Stateful.run_dcheck, if_pos plainLoad]
  change (addPendingItem env ⟨url.baseUrl ++ url.hash⟩ ⟨.empty, referrerPolicyDefault⟩
    PageTransition.reload .browserInitiated .inherit >>= _) manager = _
  rw [Stateful.run_bind added, Stateful.run_bind (getPendingItem_withPendingItem manager item)]
  dsimp only
  have uncovered : (manager.withPendingItem item).transientItem = none := rfl
  rw [Stateful.run_bind (pending.getLastCommittedItem rfl), Stateful.run_get, Stateful.run_dcheck,
    if_pos uncovered]
  rfl

/-! ## The page of a restore -/

theorem loadRestorePage_blank (blank : Blank manager) (url : RestoreSessionUrl)
    (firstItem : NavigationItem)
    (known : env.isRestoreSessionUrl ⟨url.baseUrl ++ url.hash⟩ = true) :
    ∃ item, loadRestorePage env (restoreParams url firstItem) manager =
        some ((), manager.withPendingItem
          (describeLoad env (restoreParams url firstItem) none item)) ∧
      item.url = loadedUrl env env.isPlaceholderUrl ⟨url.baseUrl ++ url.hash⟩
        .browserInitiated .empty manager.transientUrlRewriters ∧ item.virtualUrl = .empty := by
  obtain ⟨item, added, loaded, plain⟩ := @addItemForLoad_blank env _ blank url firstItem
  refine ⟨item, ?_, loaded, plain⟩
  have attached : (manager.withPendingItem
      (describeLoad env (restoreParams url firstItem) none item)).attachedToWebView =
      true := blank.attached
  change (if env.isRestoreSessionUrl ⟨url.baseUrl ++ url.hash⟩ = true then _ else _ :
    Run Unit) manager = _
  rw [if_pos known, Stateful.run_bind added, Stateful.run_get]
  exact Stateful.run_lift (dcheck_of attached) _

def restoring (manager : WKNavigationManager) (visible : Option NavigationItem)
    (pendingItem : NavigationItem) : WKNavigationManager :=
  { manager.withPendingItem pendingItem with
    isRestoreSessionInProgress := true
    restoredVisibleItem := visible }

def primedItem (env : NavigationEnvironment) (url : RestoreSessionUrl)
    (firstItem item : NavigationItem) : NavigationItem :=
  { describeLoad env (restoreParams url firstItem) none item with
    title := firstItem.title }

theorem unsafeRestore_blank (blank : Blank manager) (knows : KnowsRestorePage env baseUrl)
    (valid : 0 ≤ index) (made : createRestoreSessionUrl env codec baseUrl index
      (items.map (rewriteItemURLIfNecessary env)) = some url)
    (first : (items.map (rewriteItemURLIfNecessary env))[0]? = some firstItem) :
    ∃ item, unsafeRestore env codec baseUrl index items manager =
        some ((), manager.restoring (at? (items.map (rewriteItemURLIfNecessary env)) index)
          (primedItem env url firstItem item)) ∧
      item.url = loadedUrl env env.isPlaceholderUrl ⟨url.baseUrl ++ url.hash⟩
        .browserInitiated .empty manager.transientUrlRewriters ∧ item.virtualUrl = .empty := by
  have base : url.baseUrl = baseUrl := by
    obtain ⟨_, made⟩ := dcheck_bind_eq_some.mp made
    obtain ⟨session, _, result⟩ := Option.bind_eq_some_iff.mp made
    grind
  have started : Blank { manager with
      isRestoreSessionInProgress := true
      restoredVisibleItem := if index > -1 then
        at? (items.map (rewriteItemURLIfNecessary env)) index
        else manager.restoredVisibleItem } :=
    ⟨blank.attached, blank.noWindow, blank.noHistory⟩
  obtain ⟨item, loads, loaded, plain⟩ :=
    @loadRestorePage_blank env _ started url firstItem (knows url base)
  refine ⟨item, ?_, loaded, plain⟩
  have shown : index > -1 := by omega
  unfold unsafeRestore
  dsimp only
  rw [Stateful.run_bind (Stateful.run_lift made _), Stateful.run_bind (Stateful.run_lift first _),
    Stateful.run_modify]
  change (loadRestorePage env (restoreParams url firstItem) >>= _) _ = _
  rw [Stateful.run_bind loads, Stateful.run_bind (getPendingItem_withPendingItem ..), if_pos shown]
  rfl

theorem restoreStarted_restoring (attached : manager.attachedToWebView = true)
    (made : createRestoreSessionUrl env codec baseUrl index
      (items.map (rewriteItemURLIfNecessary env)) = some url)
    (loaded : item.url = loadedUrl env env.isPlaceholderUrl
      ⟨url.baseUrl ++ url.hash⟩ .browserInitiated .empty rewriters) :
    RestoreStarted env codec baseUrl rewriters index items
      (manager.restoring (at? (items.map (rewriteItemURLIfNecessary env)) index)
        (primedItem env url firstItem item)) where
  attached := attached
  inProgress := rfl
  visible := rfl
  page := ⟨url, _, made, rfl, rfl, (describeLoad_url _ _ item).trans loaded⟩

/-! ## Restoring items -/

/-- What `Restore` asserts of the manager: no restore is under way, and nothing is left once the
web view is removed. -/
structure ReadyToRestore (manager : WKNavigationManager) : Prop where
  idle : manager.isRestoreSessionInProgress = false
  noWindow : manager.emptyWindowOpenItem = none
  noHistory : manager.backForwardList = .empty

theorem readyToRestore_congr
    (idle : after.isRestoreSessionInProgress = manager.isRestoreSessionInProgress)
    (window : after.emptyWindowOpenItem = manager.emptyWindowOpenItem)
    (webView : after.webView = manager.webView) :
    ReadyToRestore after ↔ ReadyToRestore manager := by
  have history : after.backForwardList = manager.backForwardList := by
    unfold backForwardList
    rw [webView]
  constructor
  · intro ready
    exact ⟨idle.symm.trans ready.idle, window.symm.trans ready.noWindow,
      history.symm.trans ready.noHistory⟩
  · intro ready
    exact ⟨idle.trans ready.idle, window.trans ready.noWindow, history.trans ready.noHistory⟩

/-- The manager as a restore leaves it before it loads its page. -/
def cleared (manager : WKNavigationManager) : WKNavigationManager :=
  let attached := if manager.attachedToWebView then manager else manager.resetToAttached
  { attached.discardNonCommittedItems with previousItemIndex := -1, lastCommittedItemIndex := -1 }

theorem cleared_transientUrlRewriters :
    manager.cleared.transientUrlRewriters = manager.transientUrlRewriters := by
  unfold cleared
  dsimp only
  split
  · rfl
  · rfl

theorem ReadyToRestore.blank (ready : ReadyToRestore manager) : Blank manager.cleared := by
  unfold cleared
  cases attached : manager.attachedToWebView with
  | false => exact ⟨rfl, ready.noWindow, ready.noHistory⟩
  | true => exact ⟨attached, ready.noWindow, ready.noHistory⟩

/-- There is nothing to remove. -/
theorem removeWebViewWithItems_blank (empty : manager.getItemCount = 0) :
    removeWebViewWithItems env manager = some ((), manager) := by
  unfold removeWebViewWithItems
  rw [Stateful.run_get, empty]
  rfl

theorem ne_nil_of_inside (inside : 0 ≤ index ∧ index < items.length) : items ≠ [] := by
  grind

theorem restore_ready (ready : ReadyToRestore manager) (inside : 0 ≤ index ∧ index < items.length) :
    restore env codec baseUrl index items manager =
      unsafeRestore env codec baseUrl index items manager.cleared := by
  have nonempty := ne_nil_of_inside inside
  have notRestoring : ¬ manager.isRestoreSessionInProgress = true := by simp [ready.idle]
  have empty : (if manager.attachedToWebView then manager
      else manager.resetToAttached).discardNonCommittedItems.getItemCount = 0 :=
    ready.blank.getItemCount
  unfold restore
  rw [Stateful.run_get, Stateful.run_dcheck, if_pos notRestoring, Stateful.run_dcheck,
    if_pos inside.2, Stateful.run_dcheck, if_pos (.inr inside.1), if_neg nonempty,
    Stateful.run_modify, Stateful.run_modify,
    Stateful.run_bind (removeWebViewWithItems_blank empty), Stateful.run_get,
    Stateful.run_dcheck, if_pos empty, Stateful.run_get, Stateful.run_dcheck]
  exact if_pos rfl

theorem detachFromWebView_spec
    (ran : detachFromWebView env manager = some (result, after)) :
    after.attachedToWebView = false ∧ after.getItemCount = manager.getItemCount := by
  unfold detachFromWebView at ran
  rw [Stateful.run_get] at ran
  split at ran
  · next attached =>
      obtain ⟨items, read, reading, ran⟩ := Stateful.bind_run ran
      cases ran
      have length := length_mapM reading
      have same : SameHistory manager read := by
        refine Keeps.mapM (fun index => ?_) _ (.refl manager) reading
        exact (cacheNavigationItemImplAtIndex_keeps index).bind fun _ => .lift _
      simp [getItemCount, same.emptyWindowOpenItem, getBackForwardListItemCount, length]
  · next detached =>
      cases ran
      grind

/-- All items are cached before the web view is removed, and still count. -/
theorem removeWebViewWithItems_getItemCount
    (removed : removeWebViewWithItems env manager = some (result, after)) :
    after.getItemCount = manager.getItemCount := by
  unfold removeWebViewWithItems removeWebView at removed
  rw [Stateful.run_get] at removed
  split at removed
  · rw [Stateful.run_get] at removed
    split at removed
    · obtain ⟨_, _, detaching, removed⟩ := Stateful.bind_run removed
      cases removed
      obtain ⟨notAttached, count⟩ := detachFromWebView_spec detaching
      simpa [getItemCount, getBackForwardListItemCount, notAttached] using count
    · cases removed
      rfl
  · cases removed
    rfl

theorem getItemCount_eq_zero (attached : manager.attachedToWebView = true)
    (empty : manager.getItemCount = 0) :
    manager.emptyWindowOpenItem = none ∧ manager.backForwardList = .empty := by
  unfold getItemCount getBackForwardListItemCount at empty
  split at empty
  · cases empty
  · next noWindow =>
      refine ⟨by simpa using noWindow, ?_⟩
      cases list : manager.backForwardList with
      | empty => rfl
      | focused _ _ _ =>
        grind [WKBackForwardList.items, WKBackForwardList.currentItem]

/-- A manager that restores something was ready, and the URL of the page was made. -/
theorem restore_run (nonempty : items ≠ [])
    (ran : restore env codec baseUrl index items manager = some (result, after)) :
    ReadyToRestore manager ∧ (0 ≤ index ∧ index < items.length) ∧
      (createRestoreSessionUrl env codec baseUrl index
        (items.map (rewriteItemURLIfNecessary env))).isSome = true := by
  have restored := ran
  unfold restore at ran
  rw [Stateful.run_get] at ran
  obtain ⟨idle, ran⟩ := Stateful.dcheck_run ran
  obtain ⟨upper, ran⟩ := Stateful.dcheck_run ran
  obtain ⟨lower, ran⟩ := Stateful.dcheck_run ran
  rw [if_neg nonempty, Stateful.run_modify, Stateful.run_modify] at ran
  obtain ⟨_, _, removing, ran⟩ := Stateful.bind_run ran
  rw [Stateful.run_get] at ran
  obtain ⟨empty, _⟩ := Stateful.dcheck_run ran
  rw [removeWebViewWithItems_getItemCount removing] at empty
  have ready : ReadyToRestore manager := by
    cases attached : manager.attachedToWebView with
    | true =>
      rw [if_pos attached] at empty
      obtain ⟨noWindow, noHistory⟩ :=
        @getItemCount_eq_zero manager.discardNonCommittedItems attached empty
      exact ⟨Bool.eq_false_iff.mpr idle, noWindow, noHistory⟩
    | false =>
      rw [if_neg (by simp [attached])] at empty
      obtain ⟨noWindow, noHistory⟩ := getItemCount_eq_zero rfl empty
      exact ⟨Bool.eq_false_iff.mpr idle, noWindow, noHistory⟩
  have inside : 0 ≤ index ∧ index < items.length := ⟨lower.resolve_left nonempty, upper⟩
  refine ⟨ready, inside, ?_⟩
  rw [restore_ready ready inside] at restored
  obtain ⟨_, _, made, _⟩ := Stateful.bind_run restored
  rw [(Stateful.lift_run made).1]
  rfl

/-- A detached manager stays detached where there is nothing to restore. -/
theorem restore_detached (detached : manager.attachedToWebView = false)
    (ran : restore env codec baseUrl index items manager = some (result, after))
    (attached : after.attachedToWebView = true) :
    ReadyToRestore manager ∧ (0 ≤ index ∧ index < items.length) ∧
      (createRestoreSessionUrl env codec baseUrl index
        (items.map (rewriteItemURLIfNecessary env))).isSome = true := by
  by_cases nonempty : items = []
  · unfold restore at ran
    rw [Stateful.run_get] at ran
    obtain ⟨-, ran⟩ := Stateful.dcheck_run ran
    obtain ⟨-, ran⟩ := Stateful.dcheck_run ran
    obtain ⟨-, ran⟩ := Stateful.dcheck_run ran
    rw [if_pos nonempty] at ran
    cases ran
    grind
  · exact restore_run nonempty ran

/-- The session that is sent ends inside the items. -/
def FitsWindow (index : Int) (count : Nat) : Prop :=
  ¬(kMaxSessionSize < count ∧ count - index = (kMaxSessionSize / 2 : Nat))

theorem isSome_createRestoreSessionUrl (inside : 0 ≤ index ∧ index < items.length) :
    (createRestoreSessionUrl env codec baseUrl index items).isSome = true ↔
      FitsWindow index items.length := by
  obtain ⟨position, rfl⟩ := Int.eq_ofNat_of_zero_le inside.1
  have bound : position < items.length := by omega
  have window := getSafeItemIterators_inside bound
  unfold FitsWindow
  rw [Option.isSome_iff_exists]
  constructor
  · grind [createRestoreSessionUrl_eq_some_iff, restoredSession_eq_some_iff]
  · intro elsewhere
    have sent := (restoredSession_eq_some_iff env position items).mpr
      ⟨window.mpr (by omega), rfl⟩
    simp [createRestoreSessionUrl, bound, sent]

theorem restore_starts (knows : KnowsRestorePage env baseUrl)
    (ready : ReadyToRestore manager) (inside : 0 ≤ index ∧ index < items.length)
    (fits : FitsWindow index items.length) :
    ∃ after, restore env codec baseUrl index items manager = some ((), after) ∧
      RestoreStarted env codec baseUrl manager.transientUrlRewriters index items after := by
  have rewritten : 0 ≤ index ∧
      index < (items.map (rewriteItemURLIfNecessary env)).length := by
    rw [List.length_map]
    exact inside
  have window : FitsWindow index (items.map (rewriteItemURLIfNecessary env)).length := by
    rw [List.length_map]
    exact fits
  obtain ⟨url, made⟩ := Option.isSome_iff_exists.mp
    ((@isSome_createRestoreSessionUrl env codec baseUrl _ _ rewritten).mpr window)
  have nonempty : 0 < (items.map (rewriteItemURLIfNecessary env)).length := by omega
  have first := List.getElem?_eq_getElem nonempty
  have blank := ready.blank
  grind [unsafeRestore_blank, restore_ready, cleared_transientUrlRewriters,
    restoreStarted_restoring, blank.attached]

theorem restoreCachedItems_run (detached : manager.attachedToWebView = false)
    (ran : restoreCachedItems env codec baseUrl index manager = some (result, after)) :
    ReadyToRestore manager ∧ (0 ≤ index ∧ index < manager.cachedItems.length) ∧
      FitsWindow index manager.cachedItems.length := by
  obtain ⟨items, released, releasing, ran⟩ := Stateful.bind_run ran
  obtain ⟨_, rfl, rfl⟩ := releaseCachedItems_run releasing
  obtain ⟨_, restored, restoring, ran⟩ := Stateful.bind_run ran
  obtain ⟨checked, rfl⟩ := Stateful.lift_run ran
  have emptied : { manager with cachedItems := [] }.attachedToWebView = false := detached
  obtain ⟨ready, inside, made⟩ := restore_detached emptied restoring (dcheck_eq_some.mp checked)
  refine ⟨⟨ready.idle, ready.noWindow, ready.noHistory⟩, inside, ?_⟩
  grind [isSome_createRestoreSessionUrl]

/-- A detached manager restores its cache if and only if it is ready and the cache has an item
at the index. -/
theorem restoreCachedItems_iff (knows : KnowsRestorePage env baseUrl)
    (detached : manager.attachedToWebView = false) (index : Int) :
    (∃ after, restoreCachedItems env codec baseUrl index manager = some ((), after) ∧
      RestoreStarted env codec baseUrl manager.transientUrlRewriters index
        manager.cachedItems after) ↔
      ReadyToRestore manager ∧ (0 ≤ index ∧ index < manager.cachedItems.length) ∧
        FitsWindow index manager.cachedItems.length := by
  constructor
  · rintro ⟨after, ran, started⟩
    exact restoreCachedItems_run detached ran
  · rintro ⟨ready, inside, fits⟩
    have notAttached : ¬ manager.attachedToWebView = true := by simp [detached]
    have released : ReadyToRestore { manager with cachedItems := [] } :=
      ⟨ready.idle, ready.noWindow, ready.noHistory⟩
    obtain ⟨after, restored, started⟩ := @restore_starts env codec baseUrl _ index
      manager.cachedItems knows released inside fits
    have releasing : releaseCachedItems manager =
        some (manager.cachedItems, { manager with cachedItems := [] }) := by
      unfold releaseCachedItems
      rw [Stateful.run_get, Stateful.run_dcheck, if_pos notAttached]
      rfl
    unfold restoreCachedItems
    grind [Stateful.run_bind, Stateful.run_get, Stateful.run_lift, dcheck_of, started.attached]

end ChromiumIos.WKNavigationManager
