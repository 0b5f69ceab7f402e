import ChromiumIos.Navigation.WKNavigationOperations
import ChromiumIos.Navigation.WKNavigationReads

/-!
# What the operations of the manager can change

Every operation is put together from a few changes.  Most of them write to the
history, to the pending item or to the clock; the others discard or cover what is
shown, commit, start a restore, defer a load, detach from the web view, or attach
to it again.  What these changes keep is kept by every operation.

The loads that wait for the end of a restore are read only when it ends.  Until
then no operation notices which loads wait already; it only adds to them.
-/

namespace ChromiumIos.WKNavigationManager

open Lib

variable {env : NavigationEnvironment} {codec : SessionCodec} {baseUrl : String}
variable {manager after : WKNavigationManager} {Holds : WKNavigationManager → Prop}
variable {earlier : List WebLoadParams}

/-- A manager in which some loads wait already. -/
def withCallbacks (earlier : List WebLoadParams) (manager : WKNavigationManager) :
    WKNavigationManager :=
  { manager with
    restoreSessionCompletionCallbacks := earlier ++ manager.restoreSessionCompletionCallbacks }

/-! ## The changes -/

/-- At most the history, the pending item and the clock have changed. -/
structure SameSession (before after : WKNavigationManager) : Prop where
  attached : after.attachedToWebView = before.attachedToWebView
  cachedIndex : after.cachedCurrentItemIndex = before.cachedCurrentItemIndex
  cachedLength : after.cachedItems.length = before.cachedItems.length
  transient : after.transientItem = before.transientItem
  restoring : after.isRestoreSessionInProgress = before.isRestoreSessionInProgress
  restored : after.restoredVisibleItem = before.restoredVisibleItem
  callbacks : after.restoreSessionCompletionCallbacks = before.restoreSessionCompletionCallbacks

theorem SameSession.writeItemAtIndex (manager : WKNavigationManager) (index : Int)
    (item : NavigationItem) : SameSession manager (manager.writeItemAtIndex index item) := by
  simp only [WKNavigationManager.writeItemAtIndex]
  split_ifs
  · exact ⟨rfl, rfl, rfl, rfl, rfl, rfl, rfl⟩
  · exact ⟨rfl, rfl, rfl, rfl, rfl, rfl, rfl⟩
  · exact ⟨rfl, rfl, List.length_set, rfl, rfl, rfl, rfl⟩

theorem SameSession.writePendingItem (manager : WKNavigationManager) (item : NavigationItem) :
    SameSession manager (manager.writePendingItem item) := by
  simp only [WKNavigationManager.writePendingItem]
  split
  · exact ⟨rfl, rfl, rfl, rfl, rfl, rfl, rfl⟩
  · exact .writeItemAtIndex manager _ item

/-- What survives reads, writes to the history, and a new pending item. -/
structure HistoryStable (Holds : WKNavigationManager → Prop) : Prop where
  same : ∀ {before after}, Holds before → SameSession before after → Holds after
  discards : ∀ {manager}, Holds manager → Holds manager.discardNonCommittedItems

/-- What survives every change but the end of a restore. -/
structure Stable (Holds : WKNavigationManager → Prop) : Prop extends HistoryStable Holds where
  covers : ∀ {manager item}, Holds manager →
    (item.navigationInitiationType = .browserInitiated ∨
      ∃ shown, manager.transientItem = some shown ∧
        item.navigationInitiationType = shown.navigationInitiationType) →
    Holds { manager with transientItem := some item }
  commits : ∀ {manager}, Holds manager → Holds { manager with restoredVisibleItem := none }
  starts : ∀ {manager visible}, Holds manager →
    Holds { manager with isRestoreSessionInProgress := true, restoredVisibleItem := visible }
  defers : ∀ {manager params}, Holds manager → Holds (addRestoreCompletionCallback params manager)
  detaches : ∀ {manager items index}, Holds manager → -1 ≤ index → index < items.length →
    Holds { manager with
      cachedItems := items, cachedCurrentItemIndex := index, attachedToWebView := false }
  attaches : ∀ {manager}, Holds manager → Holds manager.resetToAttached

theorem writeItemAtIndex_withCallbacks (manager : WKNavigationManager) (index : Int)
    (item : NavigationItem) :
    (withCallbacks earlier manager).writeItemAtIndex index item =
      withCallbacks earlier (manager.writeItemAtIndex index item) := by
  simp only [writeItemAtIndex]
  rw [apply_ite (withCallbacks earlier), apply_ite (withCallbacks earlier)]
  rfl

theorem writePendingItem_withCallbacks (manager : WKNavigationManager) (item : NavigationItem) :
    (withCallbacks earlier manager).writePendingItem item =
      withCallbacks earlier (manager.writePendingItem item) := by
  simp only [writePendingItem]
  rw [apply_ite (withCallbacks earlier), ← writeItemAtIndex_withCallbacks]
  rfl

/-- The current entry is inside the list, and the cache has one item for each entry. -/
theorem getCurrentItemIndex_inRange (attached : manager.attachedToWebView = true) :
    -1 ≤ manager.getCurrentItemIndex ∧
      manager.getCurrentItemIndex < manager.getBackForwardListItemCount := by
  rw [getCurrentItemIndex_eq, if_pos attached]
  simp only [getBackForwardListItemCount]
  rw [if_pos attached]
  cases manager.backForwardList with
  | empty => exact ⟨Int.le_refl _, by decide⟩
  | focused _ _ _ =>
    simp only [WKBackForwardList.currentItem, Option.isSome_some, if_true,
      WKBackForwardList.items, WKBackForwardList.backList, WKBackForwardList.forwardList,
      Option.toList_some, List.length_append, List.length_singleton]
    omega

/-! ## Reads -/

section History

variable (stable : HistoryStable Holds)
include stable

theorem HistoryStable.modify {update : WKNavigationManager → WKNavigationManager}
    (same : ∀ manager, SameSession manager (update manager))
    (unnoticed : ∀ manager,
      update (withCallbacks earlier manager) = withCallbacks earlier (update manager)) :
    Respects (withCallbacks earlier) Holds (modify update : Run PUnit) :=
  .modify (fun manager holds => stable.same holds (same manager)) unnoticed

theorem respects_createItemAtIndex (index : Nat) (wkItem : WKBackForwardListItem) :
    Respects (withCallbacks earlier) Holds (createItemAtIndex env index wkItem) := by
  refine .get_bind (fun _ => rfl) fun _ => (Respects.lift _).bind fun _ => ?_
  refine Respects.bind ?_ fun _ => .pure _
  exact stable.modify (fun _ => ⟨rfl, rfl, rfl, rfl, rfl, rfl, rfl⟩) fun _ => rfl

theorem respects_cacheNavigationItemImplAtIndex (index : Nat) :
    Respects (withCallbacks earlier) Holds (cacheNavigationItemImplAtIndex env index) := by
  refine .get_bind (fun _ => rfl) fun manager => ?_
  refine .ite (fun _ => .pure _) fun _ => .ite (fun _ => .pure _) fun _ => ?_
  cases manager.getWKItemAtIndex index with
  | none => exact .pure _
  | some wkItem =>
    dsimp only
    cases wkItem.navigationItem with
    | some _ => exact .pure _
    | none => exact (respects_createItemAtIndex stable index wkItem).bind fun _ => .pure _

theorem respects_getItemAtIndex (index : Int) :
    Respects (withCallbacks earlier) Holds (getItemAtIndex env index) := by
  refine .get_bind (fun _ => rfl) fun manager => ?_
  cases manager.emptyWindowOpenItem with
  | some _ => exact .pure _
  | none =>
    refine .ite (fun _ => .pure _) fun _ => ?_
    exact respects_cacheNavigationItemImplAtIndex stable index.toNat

theorem respects_getLastCommittedItemInCurrentOrRestoredSession :
    Respects (withCallbacks earlier) Holds
      (getLastCommittedItemInCurrentOrRestoredSession env) := by
  refine .get_bind (fun _ => rfl) fun manager => ?_
  cases manager.emptyWindowOpenItem with
  | some _ => exact .pure _
  | none =>
    refine .ite (fun _ => ?_) fun _ => respects_getItemAtIndex stable _
    exact (Respects.lift _).bind fun _ => .pure _

theorem respects_getPendingItemInCurrentOrRestoredSession :
    Respects (withCallbacks earlier) Holds
      (getPendingItemInCurrentOrRestoredSession env) :=
  .get_bind (fun _ => rfl) fun _ =>
    .ite (fun _ => .pure _) fun _ => respects_getItemAtIndex stable _

theorem respects_getLastCommittedItem :
    Respects (withCallbacks earlier) Holds (getLastCommittedItem env) :=
  .get_bind (fun _ => rfl) fun _ => .ite (fun _ => .pure _) fun _ =>
    (respects_getLastCommittedItemInCurrentOrRestoredSession stable).bind fun _ => .pure _

theorem respects_getPendingItem :
    Respects (withCallbacks earlier) Holds (getPendingItem env) :=
  .get_bind (fun _ => rfl) fun _ => .ite (fun _ => .pure _) fun _ =>
    respects_getPendingItemInCurrentOrRestoredSession stable

theorem respects_lastItemWithUserAgentType (count : Nat) :
    Respects (withCallbacks earlier) Holds (lastItemWithUserAgentType env count) := by
  induction count with
  | zero => exact .pure _
  | succ _ ih =>
    refine (respects_getItemAtIndex stable _).bind fun found => ?_
    refine (Respects.lift found).bind fun item => ?_
    exact .ite (fun _ => .pure _) fun _ => ih

theorem respects_getLastCommittedItemWithUserAgentType :
    Respects (withCallbacks earlier) Holds
      (getLastCommittedItemWithUserAgentType env) :=
  .get_bind (fun _ => rfl) fun _ => respects_lastItemWithUserAgentType stable _

/-! ## Pending items -/

theorem respects_discardNonCommittedItems :
    Respects (withCallbacks earlier) Holds (modify discardNonCommittedItems : Run PUnit) :=
  .modify (fun _ holds => stable.discards holds) fun _ => rfl

theorem respects_writePendingItem (item : NavigationItem) :
    Respects (withCallbacks earlier) Holds
      (modify fun manager => manager.writePendingItem item : Run PUnit) :=
  stable.modify (fun manager => .writePendingItem manager item)
    fun manager => writePendingItem_withCallbacks manager item

theorem respects_writeItemAtIndex (index : Int) (item : NavigationItem) :
    Respects (withCallbacks earlier) Holds
      (modify fun manager => manager.writeItemAtIndex index item : Run PUnit) :=
  stable.modify (fun manager => .writeItemAtIndex manager index item)
    fun manager => writeItemAtIndex_withCallbacks manager index item

theorem respects_writeLastCommittedItem (item : NavigationItem) :
    Respects (withCallbacks earlier) Holds
      (modify fun manager => manager.writeLastCommittedItem item : Run PUnit) :=
  stable.modify (fun manager => .writeItemAtIndex manager _ item)
    fun manager => writeItemAtIndex_withCallbacks manager _ item

theorem respects_reuseCurrentItem (pendingItem : NavigationItem) :
    Respects (withCallbacks earlier) Holds (reuseCurrentItem env pendingItem) := by
  refine .get_bind (fun _ => rfl) fun manager => ?_
  cases manager.backForwardList.currentItem with
  | none => exact .pure _
  | some _ =>
    cases manager.webView with
    | none => exact .pure _
    | some _ =>
      refine .ite (fun _ => ?_) fun _ => .pure _
      refine (stable.modify (fun state => ?_) fun state => ?_).bind fun _ => ?_
      · split
        · exact ⟨rfl, rfl, rfl, rfl, rfl, rfl, rfl⟩
        · exact ⟨rfl, rfl, rfl, rfl, rfl, rfl, rfl⟩
      · rw [apply_ite (withCallbacks earlier)]
        rfl
      · refine stable.modify (fun _ => ?_) fun _ => rfl
        exact ⟨rfl, rfl, rfl, rfl, rfl, rfl, rfl⟩

theorem respects_addPendingItem (url : GURL) (referrer : Referrer) (transition : PageTransition)
    (initiationType : NavigationInitiationType) (option : UserAgentOverrideOption) :
    Respects (withCallbacks earlier) Holds
      (addPendingItem env url referrer transition initiationType option) := by
  refine (respects_discardNonCommittedItems stable).bind fun _ => ?_
  refine (respects_getLastCommittedItemInCurrentOrRestoredSession stable).bind fun _ => ?_
  refine .get_bind (fun _ => rfl) fun _ => (Respects.lift _).bind fun _ => ?_
  refine Respects.bind ?_ fun _ => ?_
  · exact stable.modify (fun _ => ⟨rfl, rfl, rfl, rfl, rfl, rfl, rfl⟩) fun _ => rfl
  refine (respects_getLastCommittedItemWithUserAgentType stable).bind fun _ => ?_
  refine (Respects.lift _).bind fun item => ?_
  refine Respects.bind ?_ fun _ => ?_
  · exact stable.modify (fun _ => ⟨rfl, rfl, rfl, rfl, rfl, rfl, rfl⟩) fun _ => rfl
  refine .get_bind (fun _ => rfl) fun _ => .ite (fun _ => ?_) fun _ => .pure _
  exact respects_reuseCurrentItem stable item

theorem respects_updatePendingItemUrl (url : GURL) :
    Respects (withCallbacks earlier) Holds (updatePendingItemUrl env url) := by
  refine (respects_getPendingItemInCurrentOrRestoredSession stable).bind fun pendingItem => ?_
  cases pendingItem with
  | none => exact .pure _
  | some _ =>
    refine .ite (fun _ => .pure _) fun _ => ?_
    refine .get_bind (fun _ => rfl) fun _ => (Respects.lift _).bind fun _ => ?_
    exact respects_writePendingItem stable _

theorem respects_updateCurrentItemForReplaceState (url : GURL) (stateObject : Option String) :
    Respects (withCallbacks earlier) Holds
      (updateCurrentItemForReplaceState env url stateObject) := by
  refine .get_bind (fun _ => rfl) fun _ => (Respects.lift _).bind fun _ => ?_
  refine (respects_getPendingItemInCurrentOrRestoredSession stable).bind fun pendingItem => ?_
  cases pendingItem with
  | some _ => exact respects_writePendingItem stable _
  | none =>
    refine (respects_getLastCommittedItemInCurrentOrRestoredSession stable).bind fun found => ?_
    refine (Respects.lift found).bind fun item => ?_
    exact respects_writeLastCommittedItem stable _

/-- A load adds its item, whatever it does then. -/
theorem respects_addItemForLoad (params : WebLoadParams) :
    Respects (withCallbacks earlier) Holds (addItemForLoad env params) := by
  refine (Respects.lift _).bind fun _ => ?_
  refine (respects_addPendingItem stable ..).bind fun _ => ?_
  refine (respects_getPendingItemInCurrentOrRestoredSession stable).bind fun pendingItem => ?_
  cases pendingItem with
  | some _ =>
    refine (respects_getLastCommittedItemInCurrentOrRestoredSession stable).bind fun _ => ?_
    refine .get_bind (fun _ => rfl) fun _ => (Respects.lift _).bind fun _ => ?_
    refine (Respects.lift _).bind fun _ => ?_
    exact respects_writePendingItem stable _
  | none =>
    refine .get_bind (fun _ => rfl) fun _ => (Respects.lift _).bind fun _ => ?_
    refine (respects_getLastCommittedItemInCurrentOrRestoredSession stable).bind fun found => ?_
    refine (Respects.lift found).bind fun _ => (Respects.lift _).bind fun _ => ?_
    exact respects_writeLastCommittedItem stable _

theorem respects_commitNewItem (pendingItem : NavigationItem) :
    Respects (withCallbacks earlier) Holds (commitNewItem pendingItem) := by
  refine .get_bind (fun _ => rfl) fun manager => ?_
  dsimp only
  split
  · refine (Respects.lift _).bind fun _ => stable.modify (fun _ => ?_) fun _ => rfl
    exact ⟨rfl, rfl, rfl, rfl, rfl, rfl, rfl⟩
  · refine (Respects.lift _).bind fun _ => stable.modify (fun _ => ?_) fun _ => rfl
    exact ⟨rfl, rfl, rfl, rfl, rfl, rfl, rfl⟩

theorem respects_commitItem (pending : WKNavigationManager) :
    Respects (withCallbacks earlier) Holds (commitItem pending) := by
  refine .ite (fun _ => ?_) fun _ => .pure _
  exact (Respects.lift _).bind fun pendingItem => respects_commitNewItem stable pendingItem

theorem respects_getPreviousItem :
    Respects (withCallbacks earlier) Holds (getPreviousItem env) := by
  refine (respects_getPendingItem stable).bind fun pendingItem => ?_
  cases pendingItem with
  | some _ => exact .pure _
  | none => exact respects_getLastCommittedItem stable

theorem respects_itemCoveredByTransient :
    Respects (withCallbacks earlier) Holds (itemCoveredByTransient env) := by
  refine (respects_getPendingItem stable).bind fun pendingItem => ?_
  cases pendingItem with
  | some _ => exact .pure _
  | none => exact respects_getLastCommittedItemWithUserAgentType stable

end History

/-! ## Transient items and commits -/

section Session

variable (stable : Stable Holds)
include stable

/-- A transient item that takes over a user agent is still the one that was shown. -/
theorem respects_takeUserAgent (covered : Option NavigationItem) :
    Respects (withCallbacks earlier) Holds (do
      match covered, (← get).transientItem with
      | some covered, some transientItem => do
          dcheck (covered.userAgentType ≠ .none)
          let transientItem ← transientItem.setUserAgentType env covered.userAgentType
          modify fun manager => { manager with transientItem := some transientItem }
      | _, _ => return : Run Unit) := by
  constructor
  · intro state result after holds ran
    rw [Stateful.run_get] at ran
    cases covered with
    | none =>
      cases ran
      exact holds
    | some _ =>
      cases shown : state.transientItem with
      | none =>
        rw [shown] at ran
        cases ran
        exact holds
      | some _ =>
        rw [shown] at ran
        obtain ⟨-, ran⟩ := Stateful.dcheck_run ran
        obtain ⟨taken, middle, taking, ran⟩ := Stateful.bind_run ran
        obtain ⟨made, rfl⟩ := Stateful.lift_run taking
        obtain ⟨-, made⟩ := dcheck_bind_eq_some.mp made
        cases made
        cases ran
        grind [stable.covers]
  · refine (?_ : Respects (withCallbacks earlier) (fun _ => True) _).commutes
    refine .get_bind (fun _ => rfl) fun manager => ?_
    cases covered with
    | none => exact .pure _
    | some _ =>
      cases manager.transientItem with
      | none => exact .pure _
      | some _ =>
        refine (Respects.lift _).bind fun _ => (Respects.lift _).bind fun _ => ?_
        exact .modify (fun _ _ => trivial) fun _ => rfl

theorem respects_addTransientItem (url : GURL) :
    Respects (withCallbacks earlier) Holds (addTransientItem env url) := by
  refine .get_bind (fun _ => rfl) fun _ => (Respects.lift _).bind fun _ => ?_
  refine (respects_getLastCommittedItem stable.toHistoryStable).bind fun _ => ?_
  refine (Respects.lift _).bind_returned fun {item _ _} creating => ?_
  have browser := navigationInitiationType_eq (Stateful.lift_run creating).1
  refine Respects.bind ?_ fun _ => ?_
  · refine .modify (fun manager holds => ?_) fun _ => rfl
    have kept : Holds manager.advanceTimeSmoother :=
      stable.same holds ⟨rfl, rfl, rfl, rfl, rfl, rfl, rfl⟩
    exact stable.covers kept (.inl browser)
  · refine (respects_itemCoveredByTransient stable.toHistoryStable).bind fun covered => ?_
    exact respects_takeUserAgent stable covered

theorem respects_onNavigationItemCommitted :
    Respects (withCallbacks earlier) Holds (onNavigationItemCommitted env) := by
  refine (respects_getLastCommittedItemInCurrentOrRestoredSession stable.toHistoryStable).bind
    fun found => (Respects.lift found).bind fun item => ?_
  exact .ite (fun _ => .modify (fun _ holds => stable.commits holds) fun _ => rfl) fun _ => .pure _

theorem respects_commitPendingItem :
    Respects (withCallbacks earlier) Holds (commitPendingItem env) := by
  refine .get_bind (fun _ => rfl) fun manager => (Respects.lift _).bind fun _ => ?_
  refine .ite (fun _ => .pure _) fun _ => ?_
  refine (respects_commitItem stable.toHistoryStable manager).bind fun _ => ?_
  refine Respects.bind ?_ fun _ => respects_onNavigationItemCommitted stable
  exact stable.modify (fun _ => ⟨rfl, rfl, rfl, rfl, rfl, rfl, rfl⟩) fun _ => rfl

/-! ## Detaching -/

theorem respects_itemOfEntry (index : Nat) :
    Respects (withCallbacks earlier) Holds (itemOfEntry env index) :=
  (respects_cacheNavigationItemImplAtIndex stable.toHistoryStable index).bind fun _ => .lift _

theorem respects_detachFromWebView :
    Respects (withCallbacks earlier) Holds (detachFromWebView env) := by
  refine .get_bind (fun _ => rfl) fun manager => .ite (fun attached => ?_) fun _ => .pure _
  refine (Respects.mapM (respects_itemOfEntry stable) _).bind_returned fun {items _ _} read => ?_
  have inside := getCurrentItemIndex_inRange attached
  have length := length_mapM read
  rw [List.length_range] at length
  refine .modify (fun _ holds => ?_) fun _ => rfl
  exact stable.detaches holds inside.1 (by omega)

theorem respects_removeWebView :
    Respects (withCallbacks earlier) Holds (removeWebView env) := by
  refine .get_bind (fun _ => rfl) fun _ => .ite (fun _ => ?_) fun _ => .pure _
  refine (respects_detachFromWebView stable).bind fun _ => ?_
  exact stable.modify (fun _ => ⟨rfl, rfl, rfl, rfl, rfl, rfl, rfl⟩) fun _ => rfl

theorem respects_removeWebViewWithItems :
    Respects (withCallbacks earlier) Holds (removeWebViewWithItems env) :=
  .get_bind (fun _ => rfl) fun _ =>
    .ite (fun _ => respects_removeWebView stable) fun _ => .pure _

/-! ## Loading and restoring -/

theorem respects_addRestoreCompletionCallback (params : WebLoadParams) :
    Respects (withCallbacks earlier) Holds
      (modify (addRestoreCompletionCallback params) : Run PUnit) := by
  refine .modify (fun _ holds => stable.defers holds) fun manager => ?_
  simp [addRestoreCompletionCallback, withCallbacks]

theorem respects_loadRestorePage (params : WebLoadParams) :
    Respects (withCallbacks earlier) Holds (loadRestorePage env params) := by
  refine .ite (fun _ => ?_) fun _ => respects_addRestoreCompletionCallback stable params
  refine (respects_addItemForLoad stable.toHistoryStable params).bind fun _ => ?_
  exact .get_bind (fun _ => rfl) fun _ => .lift _

theorem respects_unsafeRestore (lastCommittedItemIndex : Int) (items : List NavigationItem) :
    Respects (withCallbacks earlier) Holds
      (unsafeRestore env codec baseUrl lastCommittedItemIndex items) := by
  refine (Respects.lift _).bind fun _ => (Respects.lift _).bind fun firstItem => ?_
  refine Respects.bind ?_ fun _ => ?_
  · exact .modify (fun _ holds => stable.starts holds) fun _ => rfl
  refine (respects_loadRestorePage stable _).bind fun _ => ?_
  refine (respects_getPendingItemInCurrentOrRestoredSession stable.toHistoryStable).bind
    fun pendingItem => ?_
  cases pendingItem with
  | none => exact .pure _
  | some _ => exact respects_writePendingItem stable.toHistoryStable _

theorem respects_restore (lastCommittedItemIndex : Int) (items : List NavigationItem) :
    Respects (withCallbacks earlier) Holds
      (restore env codec baseUrl lastCommittedItemIndex items) := by
  refine .get_bind (fun _ => rfl) fun _ => (Respects.lift _).bind fun _ => ?_
  refine (Respects.lift _).bind fun _ => (Respects.lift _).bind fun _ => ?_
  refine .ite (fun _ => .pure _) fun _ => ?_
  refine Respects.bind ?_ fun _ => ?_
  · refine .modify (fun manager holds => ?_) fun manager => ?_
    · split <;> grind [stable.attaches]
    · rw [apply_ite (withCallbacks earlier)]
      rfl
  refine (respects_discardNonCommittedItems stable.toHistoryStable).bind fun _ => ?_
  refine (respects_removeWebViewWithItems stable).bind fun _ => ?_
  refine .get_bind (fun _ => rfl) fun _ => (Respects.lift _).bind fun _ => ?_
  refine .get_bind (fun _ => rfl) fun _ => (Respects.lift _).bind fun _ => ?_
  refine Respects.bind ?_ fun _ => respects_unsafeRestore stable _ _
  exact stable.modify (fun _ => ⟨rfl, rfl, rfl, rfl, rfl, rfl, rfl⟩) fun _ => rfl

omit stable in
/-- A restore of items attaches a detached manager first, so that it makes no difference
what was in the cache. -/
theorem restore_resetToAttached (detached : manager.attachedToWebView = false)
    (lastCommittedItemIndex : Int) {items : List NavigationItem} (nonempty : items ≠ []) :
    restore env codec baseUrl lastCommittedItemIndex items manager =
      restore env codec baseUrl lastCommittedItemIndex items manager.resetToAttached := by
  have attaching : (modify fun manager : WKNavigationManager =>
      if manager.attachedToWebView then manager else manager.resetToAttached : Run PUnit) manager =
      some (PUnit.unit, manager.resetToAttached) := by
    change some (PUnit.unit, if manager.attachedToWebView then manager else _) = _
    rw [detached]
    rfl
  unfold restore
  rw [Stateful.run_get, Stateful.run_get]
  simp only [Stateful.run_dcheck, if_neg nonempty]
  refine if_congr Iff.rfl (if_congr Iff.rfl (if_congr Iff.rfl ?_ rfl) rfl) rfl
  exact Stateful.run_bind attaching

/-- Nothing has to be known of the cache when a restore attaches the manager. -/
theorem restore_keeps {lastCommittedItemIndex : Int} {items : List NavigationItem} {result : Unit}
    (ran : restore env codec baseUrl lastCommittedItemIndex items manager =
      some (result, after))
    (detached : manager.attachedToWebView = false) (holds : Holds manager.resetToAttached)
    (attached : after.attachedToWebView = true) : Holds after := by
  by_cases empty : items = []
  · unfold restore at ran
    rw [Stateful.run_get] at ran
    obtain ⟨-, ran⟩ := Stateful.dcheck_run ran
    obtain ⟨-, ran⟩ := Stateful.dcheck_run ran
    obtain ⟨-, ran⟩ := Stateful.dcheck_run ran
    rw [if_pos empty] at ran
    cases ran
    grind
  · rw [restore_resetToAttached detached lastCommittedItemIndex empty] at ran
    have kept : Respects (withCallbacks []) Holds
        (restore env codec baseUrl lastCommittedItemIndex items) :=
      respects_restore stable lastCommittedItemIndex items
    exact kept.keeps holds ran

omit stable in
theorem releaseCachedItems_run {items : List NavigationItem}
    (ran : releaseCachedItems manager = some (items, after)) :
    manager.attachedToWebView = false ∧ items = manager.cachedItems ∧
      after = { manager with cachedItems := [] } := by
  unfold releaseCachedItems at ran
  rw [Stateful.run_get] at ran
  obtain ⟨detached, ran⟩ := Stateful.dcheck_run ran
  cases ran
  grind

omit stable in
theorem commutes_releaseCachedItems :
    Commutes (withCallbacks earlier) releaseCachedItems := by
  refine (?_ : Respects (withCallbacks earlier) (fun _ => True) _).commutes
  refine .get_bind (fun _ => rfl) fun _ => (Respects.lift _).bind fun _ => ?_
  exact Respects.bind (.modify (fun _ _ => trivial) fun _ => rfl) fun _ => .pure _

theorem respects_restoreCachedItems (index : Int) :
    Respects (withCallbacks earlier) Holds
      (restoreCachedItems env codec baseUrl index) := by
  constructor
  · intro state result after holds ran
    obtain ⟨items, _, releasing, ran⟩ := Stateful.bind_run ran
    obtain ⟨detached, -, rfl⟩ := releaseCachedItems_run releasing
    obtain ⟨_, _, restoring, ran⟩ := Stateful.bind_run ran
    obtain ⟨attached, rfl⟩ := Stateful.lift_run ran
    have reset : Holds state.resetToAttached := stable.attaches holds
    exact restore_keeps stable restoring detached reset (dcheck_eq_some.mp attached)
  · refine commutes_releaseCachedItems.bind fun {items _ _} _ => ?_
    refine (respects_restore stable index items).commutes.bind fun _ => ?_
    refine (?_ : Respects (withCallbacks earlier) (fun _ => True) _).commutes
    exact .get_bind (fun _ => rfl) fun _ => .lift _

theorem respects_resetToAttached :
    Respects (withCallbacks earlier) Holds (modify resetToAttached : Run PUnit) :=
  .modify (fun _ holds => stable.attaches holds) fun _ => rfl

/-- The cached history with the pending item at its end is restored. -/
theorem respects_restoreWithPendingItem (detached : WKNavigationManager)
    (pendingItem : NavigationItem) :
    Respects (withCallbacks earlier) Holds (do
      let cachedItems ← releaseCachedItems
      let nextItemIndex := detached.getCurrentItemIndex + 1
      dcheck (nextItemIndex > 0)
      dcheck (nextItemIndex ≤ cachedItems.length)
      modify fun manager => { manager with pendingItem := none }
      restore env codec baseUrl nextItemIndex
        (cachedItems.take nextItemIndex.toNat ++ [pendingItem])
      dcheck (← get).attachedToWebView : Run Unit) := by
  constructor
  · intro state result after holds ran
    obtain ⟨items, _, releasing, ran⟩ := Stateful.bind_run ran
    obtain ⟨detached, -, rfl⟩ := releaseCachedItems_run releasing
    obtain ⟨-, ran⟩ := Stateful.dcheck_run ran
    obtain ⟨-, ran⟩ := Stateful.dcheck_run ran
    obtain ⟨_, _, dropping, ran⟩ := Stateful.bind_run ran
    cases dropping
    obtain ⟨_, _, restoring, ran⟩ := Stateful.bind_run ran
    obtain ⟨attached, rfl⟩ := Stateful.lift_run ran
    refine restore_keeps stable restoring detached ?_ (dcheck_eq_some.mp attached)
    exact stable.same (stable.attaches holds) ⟨rfl, rfl, rfl, rfl, rfl, rfl, rfl⟩
  · refine commutes_releaseCachedItems.bind fun {items _ _} _ => ?_
    refine (?_ : Respects (withCallbacks earlier) (fun _ => True) _).commutes
    refine (Respects.lift _).bind fun _ => (Respects.lift _).bind fun _ => ?_
    refine Respects.bind (.modify (fun _ _ => trivial) fun _ => rfl) fun _ => ?_
    refine Respects.bind ⟨fun _ _ _ _ _ => trivial, ?_⟩ fun _ => ?_
    · exact (respects_restore stable _ _).commutes
    · exact .get_bind (fun _ => rfl) fun _ => .lift _

theorem respects_finishLoadURLWithParams :
    Respects (withCallbacks earlier) Holds
      (finishLoadURLWithParams env codec baseUrl) := by
  refine .get_bind (fun _ => rfl) fun manager => .ite (fun _ => .pure _) fun _ => ?_
  refine (Respects.lift _).bind fun _ => ?_
  cases manager.pendingItem with
  | none => exact respects_resetToAttached stable
  | some pendingItem =>
    refine .ite (fun _ => ?_) fun _ => respects_resetToAttached stable
    exact respects_restoreWithPendingItem stable manager pendingItem

theorem respects_loadURLWithParams (params : WebLoadParams) :
    Respects (withCallbacks earlier) Holds
      (loadURLWithParams env codec baseUrl params) := by
  refine .get_bind (fun _ => rfl) fun _ =>
    .ite (fun _ => respects_addRestoreCompletionCallback stable params) fun _ => ?_
  refine (respects_addItemForLoad stable.toHistoryStable params).bind fun _ => ?_
  exact respects_finishLoadURLWithParams stable

theorem respects_loadIfNecessary :
    Respects (withCallbacks earlier) Holds (loadIfNecessary env codec baseUrl) :=
  .get_bind (fun _ => rfl) fun _ =>
    .ite (fun _ => respects_restoreCachedItems stable _) fun _ => .pure _

/-! ## Going to an index and reloading -/

theorem respects_finishGoToIndex (index : Int) :
    Respects (withCallbacks earlier) Holds
      (finishGoToIndex env codec baseUrl index) := by
  refine .get_bind (fun _ => rfl) fun _ =>
    .ite (fun _ => respects_restoreCachedItems stable index) fun _ => ?_
  refine (respects_discardNonCommittedItems stable.toHistoryStable).bind fun _ => ?_
  refine (respects_getItemAtIndex stable.toHistoryStable index).bind fun found => ?_
  refine (Respects.lift found).bind fun item => ?_
  refine (respects_writeItemAtIndex stable.toHistoryStable _ _).bind fun _ => ?_
  exact .get_bind (fun _ => rfl) fun _ => .lift _

theorem respects_goToIndex (index : Int) :
    Respects (withCallbacks earlier) Holds (goToIndex env codec baseUrl index) := by
  refine .get_bind (fun _ => rfl) fun _ => (Respects.lift _).bind fun _ => ?_
  refine (respects_getItemAtIndex stable.toHistoryStable index).bind fun found => ?_
  refine (Respects.lift found).bind fun _ => ?_
  refine (respects_getPreviousItem stable.toHistoryStable).bind fun _ => ?_
  exact respects_finishGoToIndex stable index

theorem respects_finishReload :
    Respects (withCallbacks earlier) Holds (finishReload env codec baseUrl) :=
  .get_bind (fun _ => rfl) fun _ =>
    .ite (fun _ => respects_restoreCachedItems stable _) fun _ => .pure _

theorem respects_reloadHistory (originalRequestUrl : Bool) :
    Respects (withCallbacks earlier) Holds (do
      match ← getPendingItem env with
      | some item => do
          modify fun manager => manager.writePendingItem (reloadedItem originalRequestUrl item)
          finishReload env codec baseUrl
      | none => do
          match ← getLastCommittedItem env with
          | some item => do
              modify fun manager =>
                manager.writeLastCommittedItem (reloadedItem originalRequestUrl item)
              finishReload env codec baseUrl
          | none => return : Run Unit) := by
  have history := stable.toHistoryStable
  refine (respects_getPendingItem history).bind fun pendingItem => ?_
  cases pendingItem with
  | some _ =>
    exact (respects_writePendingItem history _).bind fun _ => respects_finishReload stable
  | none =>
    refine (respects_getLastCommittedItem history).bind fun lastCommittedItem => ?_
    cases lastCommittedItem with
    | none => exact .pure _
    | some _ =>
      refine (respects_writeLastCommittedItem history _).bind fun _ => ?_
      exact respects_finishReload stable

theorem respects_reload (originalRequestUrl : Bool) :
    Respects (withCallbacks earlier) Holds
      (reload env codec baseUrl originalRequestUrl) := by
  have finishes : Respects (withCallbacks earlier) Holds
      (finishReload env codec baseUrl) := respects_finishReload stable
  have reloads := @respects_reloadHistory env codec baseUrl Holds earlier stable
    originalRequestUrl
  constructor
  · intro state result after holds ran
    unfold reload at ran
    rw [Stateful.run_get] at ran
    split at ran
    · cases ran
      exact holds
    · cases shown : state.transientItem with
      | none =>
        rw [shown] at ran
        exact reloads.keeps holds ran
      | some item =>
        rw [shown] at ran
        obtain ⟨_, _, showing, ran⟩ := Stateful.bind_run ran
        cases showing
        refine finishes.keeps (stable.covers holds (.inr ⟨item, shown, ?_⟩)) ran
        simp only [reloadedItem]
        split
        · rfl
        · rfl
  · refine (?_ : Respects (withCallbacks earlier) (fun _ => True) _).commutes
    refine .get_bind (fun _ => rfl) fun manager => .ite (fun _ => .pure _) fun _ => ?_
    cases manager.transientItem with
    | none => exact ⟨fun _ _ _ _ _ => trivial, reloads.commutes⟩
    | some _ =>
      refine Respects.bind (.modify (fun _ _ => trivial) fun _ => rfl) fun _ => ?_
      exact ⟨fun _ _ _ _ _ => trivial, finishes.commutes⟩

theorem respects_applyWKWebViewForwardHistoryClobberWorkaround :
    Respects (withCallbacks earlier) Holds
      (applyWKWebViewForwardHistoryClobberWorkaround env codec baseUrl) := by
  refine .get_bind (fun _ => rfl) fun _ => (Respects.lift _).bind fun _ => ?_
  refine (Respects.lift _).bind fun _ => (Respects.lift _).bind fun _ => ?_
  refine (Respects.mapM (respects_getItemAtIndex stable.toHistoryStable) _).bind fun _ => ?_
  refine (Respects.lift _).bind fun _ => ?_
  refine (respects_discardNonCommittedItems stable.toHistoryStable).bind fun _ => ?_
  exact respects_unsafeRestore stable _ _

/-! ## Runs -/

/-- Every operation keeps what is stable, except that a restore may end. -/
theorem respects_perform {operation : Operation}
    (during : ∀ url, operation ≠ .onRendererInitiatedNavigationStarted url) :
    Respects (withCallbacks earlier) Holds (perform env codec baseUrl operation) := by
  have history := stable.toHistoryStable
  cases operation with
  | addTransientItem => exact respects_addTransientItem stable _
  | addPendingItem => exact respects_addPendingItem history ..
  | updatePendingItemUrl => exact respects_updatePendingItemUrl history _
  | updateCurrentItemForReplaceState => exact respects_updateCurrentItemForReplaceState history ..
  | commitPendingItem => exact respects_commitPendingItem stable
  | discardNonCommittedItems => exact respects_discardNonCommittedItems history
  | setPendingItemIndex | addTransientURLRewriter | webViewChanges | timePasses =>
    exact history.modify (fun _ => ⟨rfl, rfl, rfl, rfl, rfl, rfl, rfl⟩) fun _ => rfl
  | setPreviousItemIndex =>
    refine .get_bind (fun _ => rfl) fun _ => (Respects.lift _).bind fun _ => ?_
    exact history.modify (fun _ => ⟨rfl, rfl, rfl, rfl, rfl, rfl, rfl⟩) fun _ => rfl
  | getItemAtIndex => exact (respects_getItemAtIndex history _).bind fun _ => .pure _
  | detachFromWebView => exact respects_detachFromWebView stable
  | removeWebView => exact respects_removeWebView stable
  | restore => exact respects_restore stable ..
  | loadURLWithParams => exact respects_loadURLWithParams stable _
  | loadIfNecessary => exact respects_loadIfNecessary stable
  | onRendererInitiatedNavigationStarted url => exact absurd rfl (during url)
  | goToIndex => exact respects_goToIndex stable _
  | reload => exact respects_reload stable _
  | applyWKWebViewForwardHistoryClobberWorkaround =>
    exact respects_applyWKWebViewForwardHistoryClobberWorkaround stable

/-- The end of a restore starts the loads that waited for it; it keeps what is stable as
soon as that holds with the restore ended. -/
theorem onRendererInitiatedNavigationStarted_keeps {url : GURL}
    (ran : onRendererInitiatedNavigationStarted env codec baseUrl url manager =
      some ((), after))
    (holds : Holds manager)
    (ended : Holds { manager with isRestoreSessionInProgress := false })
    (cleared : ∀ manager, Holds manager →
      Holds { manager with restoreSessionCompletionCallbacks := [] }) : Holds after := by
  unfold onRendererInitiatedNavigationStarted at ran
  rw [Stateful.run_get] at ran
  split at ran
  · obtain ⟨_, _, ending, ran⟩ := Stateful.bind_run ran
    cases ending
    refine (?_ : Keeps Holds _) ended ran
    refine Keeps.bind (Keeps.forM (fun params => ?_) _) fun _ => ?_
    · exact (respects_loadURLWithParams stable params : Respects (withCallbacks []) Holds _).keeps
    · refine (Keeps.modify cleared).bind fun _ => ?_
      exact (respects_loadIfNecessary stable : Respects (withCallbacks []) Holds _).keeps
  · cases ran
    exact holds

/-- What is stable and survives the end of a restore is kept by every operation. -/
theorem keeps_perform
    (ended : ∀ manager, Holds manager → Holds { manager with isRestoreSessionInProgress := false })
    (cleared : ∀ manager, Holds manager →
      Holds { manager with restoreSessionCompletionCallbacks := [] })
    (operation : Operation) : Keeps Holds (perform env codec baseUrl operation) := by
  by_cases ends : ∃ url, operation = .onRendererInitiatedNavigationStarted url
  · obtain ⟨url, rfl⟩ := ends
    intro state result after holds ran
    exact onRendererInitiatedNavigationStarted_keeps stable ran holds (ended state holds) cleared
  · have during : ∀ url, operation ≠ .onRendererInitiatedNavigationStarted url :=
      fun url same => ends ⟨url, same⟩
    exact (respects_perform stable during : Respects (withCallbacks []) Holds _).keeps

end Session

end ChromiumIos.WKNavigationManager
