import ChromiumIos.Navigation.SessionControllerUserAgents

/-!
# The user agents in the history of the web view

The manager that follows the web view keeps the items of its history with the entries
of the web view, and makes those that are missing when it reads them.  While loads,
redirects and replaced states give URLs only to items that have the user agent for
them, every stored item has the user agent it needs, and so has every item that is
read.
-/

namespace ChromiumIos.WKNavigationManager

open Lib

variable {env : NavigationEnvironment} {codec : SessionCodec} {baseUrl : String}
variable {manager before after : WKNavigationManager} {item : NavigationItem} {url : GURL}

structure CarriesUserAgents (env : NavigationEnvironment)
    (manager : WKNavigationManager) : Prop extends Settled manager where
  entries : ∀ {position item}, StoredAt manager position item → item.HasUserAgent env
  pending : ∀ {item}, manager.pendingItem = some item → item.HasUserAgent env
  window : ∀ {item}, manager.emptyWindowOpenItem = some item → item.HasUserAgent env

/-! ## When URLs are given to items that have the user agent for them -/

def getCurrentItem (env : NavigationEnvironment) : Run (Option NavigationItem) := do
  match (← get).transientItem with
  | some transientItem => return some transientItem
  | none =>
    match ← getPendingItemInCurrentOrRestoredSession env with
    | some pendingItem => return some pendingItem
    | none => getLastCommittedItemInCurrentOrRestoredSession env

/-- The loads, the changes of a URL, the commits, and what comes with them: history
navigations, transient items, and what the web view does meanwhile. -/
def Operation.navigates : Operation → Bool
  | .detachFromWebView => false
  | .removeWebView => false
  | .restore _ _ => false
  | .reload _ => false
  | .applyWKWebViewForwardHistoryClobberWorkaround => false
  | _ => true

def MovesStored (manager : WKNavigationManager) (webView : Option WKWebView) : Prop :=
  ∀ position item, StoredAt { manager with webView := webView } position item →
    ∃ earlier, StoredAt manager earlier item

/-- A load that displays a URL with a user agent makes an item for such a URL, or comes back to
an entry whose item has a user agent. -/
def DisplaysURL (env : NavigationEnvironment) (manager : WKNavigationManager)
    (params : WebLoadParams) : Prop :=
  env.isValid params.virtualUrl = true →
    env.urlNeedsUserAgentType params.virtualUrl = true →
      ∀ last read loaded,
        getLastCommittedItemInCurrentOrRestoredSession env
          manager.discardNonCommittedItems = some (last, read) →
        loadedUrl env env.isPlaceholderUrl params.url (initiationTypeOf params)
          (urlOf last) manager.transientUrlRewriters = loaded →
          if reusesCurrentItem env manager loaded then
            manager.emptyWindowOpenItem.isSome ∧ manager.getCurrentItemIndex ≠ 0 ∨
              ∀ item, last = some item → item.userAgentType ≠ .none
          else env.urlNeedsUserAgentType loaded = true

def GivesURL (env : NavigationEnvironment) (manager : WKNavigationManager) :
    Operation → Prop
  | .updatePendingItemUrl url =>
    ∀ item read, getPendingItemInCurrentOrRestoredSession env manager =
      some (some item, read) → url ≠ item.url →
      env.urlNeedsUserAgentType url = true → item.userAgentType ≠ .none
  | .updateCurrentItemForReplaceState url _ =>
    ∀ item read, getCurrentItem env manager = some (some item, read) →
      env.urlNeedsUserAgentType url = true → item.userAgentType ≠ .none
  | .loadURLWithParams params => DisplaysURL env manager params
  | _ => True

/-- A manager that is reached while URLs are given to items with the user agent for them. -/
inductive ReachedGiving (env : NavigationEnvironment) (codec : SessionCodec)
    (baseUrl : String) : WKNavigationManager → Prop where
  | new : ReachedGiving env codec baseUrl {}
  | performs {before after : WKNavigationManager} {operation : Operation}
      (run : ReachedGiving env codec baseUrl before)
      (navigates : operation.navigates = true)
      (moves : ∀ webView, operation = .webViewChanges webView → before.MovesStored webView)
      (gives : GivesURL env before operation)
      (performed : perform env codec baseUrl operation before = some ((), after)) :
      ReachedGiving env codec baseUrl after

/-! ## Items that are stored -/

/-- What is stored with an entry was stored with it already, or it is the new item. -/
theorem storedAt_setNavigationItemInWKItem {index position : Nat} {stored : NavigationItem}
    (storedAt : StoredAt (manager.setNavigationItemInWKItem index item) position stored) :
    stored = item ∨ StoredAt manager position stored := by
  obtain ⟨entry, located, holds⟩ := storedAt
  rw [backForwardList_setNavigationItemInWKItem, WKBackForwardList.items_setNavigationItem,
    List.getElem?_modify] at located
  obtain ⟨old, found, same⟩ := Option.map_eq_some_iff.mp located
  by_cases here : index = position
  · grind
  · rw [if_neg here] at same
    simp [StoredAt, same, holds, found]

namespace CarriesUserAgents

theorem setNavigationItemInWKItem (carries : manager.CarriesUserAgents env)
    (has : item.HasUserAgent env) (index : Nat) :
    (manager.setNavigationItemInWKItem index item).CarriesUserAgents env where
  toSettled := ⟨carries.attached, carries.notRestoring, carries.callbacks⟩
  entries := by
    intro position stored storedAt
    rcases storedAt_setNavigationItemInWKItem storedAt with rfl | old
    · exact has
    · exact carries.entries old
  pending := carries.pending
  window := carries.window

theorem advanceTimeSmoother (carries : manager.CarriesUserAgents env) :
    manager.advanceTimeSmoother.CarriesUserAgents env where
  toSettled := ⟨carries.attached, carries.notRestoring, carries.callbacks⟩
  entries := carries.entries
  pending := carries.pending
  window := carries.window

theorem discardNonCommittedItems (carries : manager.CarriesUserAgents env) :
    manager.discardNonCommittedItems.CarriesUserAgents env where
  toSettled := ⟨carries.attached, carries.notRestoring, carries.callbacks⟩
  entries := carries.entries
  pending := fun found => absurd found.symm (Option.some_ne_none _)
  window := carries.window

theorem writeItemAtIndex (carries : manager.CarriesUserAgents env)
    (has : item.HasUserAgent env) (index : Int) :
    (manager.writeItemAtIndex index item).CarriesUserAgents env := by
  unfold WKNavigationManager.writeItemAtIndex
  split
  · refine ⟨⟨carries.attached, carries.notRestoring, carries.callbacks⟩, carries.entries,
      carries.pending, ?_⟩
    simp [has]
  · simp [carries.attached, carries.setNavigationItemInWKItem, has]

theorem writePendingItem (carries : manager.CarriesUserAgents env)
    (has : item.HasUserAgent env) :
    (manager.writePendingItem item).CarriesUserAgents env := by
  unfold WKNavigationManager.writePendingItem
  split
  · refine ⟨⟨carries.attached, carries.notRestoring, carries.callbacks⟩, carries.entries, ?_,
      carries.window⟩
    simp [has]
  · exact carries.writeItemAtIndex has _

end CarriesUserAgents

/-! ## Items that are read -/

def FoundWithUserAgent (env : NavigationEnvironment) (found : Option NavigationItem) :
    Prop :=
  ∀ item, found = some item → item.HasUserAgent env

theorem FoundWithUserAgent.none : FoundWithUserAgent env none := by
  intro item found
  cases found

theorem FoundWithUserAgent.some (has : item.HasUserAgent env) :
    FoundWithUserAgent env (some item) := by
  intro other found
  cases found
  exact has

section Reads

variable (restores : env.RestoresWithUserAgent)
include restores

theorem ensures_createItemAtIndex (index : Nat) (wkItem : WKBackForwardListItem) :
    Ensures (CarriesUserAgents env) (createItemAtIndex env index wkItem)
      fun item => item.HasUserAgent env := by
  refine .get_bind fun manager _ => ?_
  refine Ensures.bind (.lift fun item rebuilt => rebuiltItem_hasUserAgent restores rebuilt) ?_
  intro item has
  refine .modify_bind (fun state carries => ?_) (.pure has)
  exact carries.advanceTimeSmoother.setNavigationItemInWKItem has index

theorem ensures_cacheNavigationItemImplAtIndex (index : Nat) :
    Ensures (CarriesUserAgents env) (cacheNavigationItemImplAtIndex env index)
      (FoundWithUserAgent env) := by
  refine .get_bind fun manager carries => .ite (fun _ => .pure .none) fun _ => ?_
  refine .ite (fun detached => absurd carries.attached detached) fun _ => ?_
  rw [getWKItemAtIndex_eq carries.attached]
  cases located : manager.backForwardList.items[index]? with
  | none => exact .pure .none
  | some wkItem =>
    dsimp only
    cases stored : wkItem.navigationItem with
    | some _ => exact .pure (.some (carries.entries ⟨wkItem, located, stored⟩))
    | none =>
      refine (ensures_createItemAtIndex restores index wkItem).bind fun item has => ?_
      exact .pure (.some has)

theorem ensures_getItemAtIndex (index : Int) :
    Ensures (CarriesUserAgents env) (getItemAtIndex env index)
      (FoundWithUserAgent env) := by
  refine .get_bind fun manager carries => ?_
  cases window : manager.emptyWindowOpenItem with
  | some _ =>
    refine .pure ?_
    simp [FoundWithUserAgent, carries.window, window]
  | none =>
    refine .ite (fun _ => .pure .none) fun _ => ?_
    exact ensures_cacheNavigationItemImplAtIndex restores index.toNat

theorem ensures_getLastCommittedItemInCurrentOrRestoredSession :
    Ensures (CarriesUserAgents env)
      (getLastCommittedItemInCurrentOrRestoredSession env)
      (FoundWithUserAgent env) := by
  refine .get_bind fun manager carries => ?_
  cases window : manager.emptyWindowOpenItem with
  | some _ => exact .pure (.some (carries.window window))
  | none =>
    refine .ite (fun _ => ?_) fun _ => ensures_getItemAtIndex restores _
    exact Ensures.bind (.lift fun _ _ => trivial) fun _ _ => .pure .none

theorem ensures_getPendingItemInCurrentOrRestoredSession :
    Ensures (CarriesUserAgents env)
      (getPendingItemInCurrentOrRestoredSession env) (FoundWithUserAgent env) := by
  refine .get_bind fun manager carries => .ite (fun _ => ?_) fun _ => ?_
  · exact .pure fun item found => carries.pending found
  · exact ensures_getItemAtIndex restores _

/-- What the search finds is an item with a URL that needs a user agent. -/
theorem ensures_lastItemWithUserAgentType (count : Nat) :
    Ensures (CarriesUserAgents env) (lastItemWithUserAgentType env count)
      fun found => ∀ item, found = some item → item.userAgentType ≠ .none := by
  induction count with
  | zero => exact .pure fun item found => absurd found.symm (Option.some_ne_none item)
  | succ _ ih =>
    refine (ensures_getItemAtIndex restores _).bind fun found has => ?_
    refine Ensures.bind (.lift has) fun item has => .ite (fun needed => ?_) fun _ => ih
    refine .pure fun other same => ?_
    cases same
    exact has.url needed

theorem ensures_getLastCommittedItemWithUserAgentType :
    Ensures (CarriesUserAgents env)
      (getLastCommittedItemWithUserAgentType env)
      fun found => ∀ item, found = some item → item.userAgentType ≠ .none :=
  .get_bind fun _ _ => ensures_lastItemWithUserAgentType restores _

end Reads

/-! ## Operations -/

namespace CarriesUserAgents

/-- The web view may do what it likes but make items. -/
theorem webViewChanges (carries : manager.CarriesUserAgents env)
    {webView : Option WKWebView} (moves : manager.MovesStored webView) :
    CarriesUserAgents env { manager with webView := webView } where
  toSettled := ⟨carries.attached, carries.notRestoring, carries.callbacks⟩
  entries := by
    intro position item storedAt
    obtain ⟨_, stored⟩ := moves position item storedAt
    exact carries.entries stored
  pending := carries.pending
  window := carries.window

/-- Any other change that leaves the items alone. -/
theorem of_same (carries : before.CarriesUserAgents env)
    (attached : after.attachedToWebView = before.attachedToWebView)
    (restoring : after.isRestoreSessionInProgress = before.isRestoreSessionInProgress)
    (callbacks :
      after.restoreSessionCompletionCallbacks = before.restoreSessionCompletionCallbacks)
    (webView : after.webView = before.webView)
    (pending : after.pendingItem = before.pendingItem ∨ after.pendingItem = none)
    (window : after.emptyWindowOpenItem = before.emptyWindowOpenItem) :
    after.CarriesUserAgents env where
  toSettled := ⟨attached.trans carries.attached, restoring.trans carries.notRestoring,
    callbacks.trans carries.callbacks⟩
  entries := by
    intro position item storedAt
    unfold StoredAt backForwardList at storedAt
    rw [webView] at storedAt
    exact carries.entries storedAt
  pending := by
    grind [carries.pending]
  window := by
    rw [window]
    exact carries.window

end CarriesUserAgents

theorem ensures_reuseCurrentItem (has : item.HasUserAgent env) :
    Ensures (CarriesUserAgents env) (reuseCurrentItem env item)
      fun _ => True := by
  refine .get_bind fun manager _ => ?_
  cases manager.backForwardList.currentItem with
  | none => exact .pure trivial
  | some _ =>
    cases manager.webView with
    | none => exact .pure trivial
    | some _ =>
      refine .ite (fun _ => ?_) fun _ => .pure trivial
      refine .modify_bind (fun state carries => ?_) (.modify fun state carries => ?_)
      · grind [carries.setNavigationItemInWKItem]
      · simp [carries.of_same]

/-- Without a transient item the pending one is the current one. -/
theorem getCurrentItem_of_uncovered {pending : Option NavigationItem} {read : WKNavigationManager}
    (uncovered : manager.transientItem = none)
    (reading : getPendingItemInCurrentOrRestoredSession env manager =
      some (pending, read)) :
    getCurrentItem env manager =
      match pending with
      | some pendingItem => some (some pendingItem, read)
      | none => getLastCommittedItemInCurrentOrRestoredSession env read := by
  unfold getCurrentItem
  rw [Stateful.run_get, uncovered]
  refine (Stateful.run_bind reading).trans ?_
  cases pending with
  | some pendingItem | none => rfl

section Operations

variable (restores : env.RestoresWithUserAgent)
include restores

theorem ensures_addPendingItem (url : GURL) (referrer : Referrer) (transition : PageTransition)
    (initiationType : NavigationInitiationType) (option : UserAgentOverrideOption) :
    Ensures (CarriesUserAgents env)
      (addPendingItem env url referrer transition initiationType option)
      fun _ => True := by
  refine .modify_bind (fun _ carries => carries.discardNonCommittedItems) ?_
  refine (ensures_getLastCommittedItemInCurrentOrRestoredSession restores).bind fun last _ => ?_
  refine .get_bind fun manager _ => ?_
  refine Ensures.bind (.lift fun made created =>
    createNavigationItemWithRewriters_userAgentType created) fun made new => ?_
  refine .modify_bind (fun _ carries => carries.of_same rfl rfl rfl rfl (.inl rfl) rfl) ?_
  refine (ensures_getLastCommittedItemWithUserAgentType restores).bind fun inherited _ => ?_
  refine Ensures.bind (.lift fun item updated =>
    updatePendingItemUserAgentType_hasUserAgent (.of_plain new.1 new.2) updated) fun item has => ?_
  refine .modify_bind (fun state carries => ?_) ?_
  · refine ⟨⟨carries.attached, carries.notRestoring, carries.callbacks⟩, carries.entries, ?_,
      carries.window⟩
    simp [has]
  · refine .get_bind fun state _ => .ite (fun _ => ?_) fun _ => .pure trivial
    exact ensures_reuseCurrentItem has

theorem updatePendingItemUrl_carries (carries : before.CarriesUserAgents env)
    (gives : GivesURL env before (.updatePendingItemUrl url))
    (updated : updatePendingItemUrl env url before = some ((), after)) :
    after.CarriesUserAgents env := by
  obtain ⟨pending, read, reading, updated⟩ := Stateful.bind_run updated
  obtain ⟨still, has⟩ := ensures_getPendingItemInCurrentOrRestoredSession restores carries reading
  cases pending with
  | none =>
    cases updated
    exact still
  | some pendingItem =>
    dsimp only at updated
    split at updated
    · cases updated
      exact still
    · rename_i different
      rw [Stateful.run_get] at updated
      obtain ⟨-, updated⟩ := Stateful.dcheck_run updated
      cases updated
      have needed := gives pendingItem read reading different
      have redirected := ((has pendingItem rfl).setURL needed).setVirtualURL needed
      exact still.writePendingItem ⟨redirected.url, redirected.virtualUrl⟩

theorem updateCurrentItemForReplaceState_carries {stateObject : Option String}
    (carries : before.CarriesUserAgents env)
    (gives : GivesURL env before (.updateCurrentItemForReplaceState url stateObject))
    (updated : updateCurrentItemForReplaceState env url stateObject before =
      some ((), after)) :
    after.CarriesUserAgents env := by
  have replaced : ∀ {item : NavigationItem}, item.HasUserAgent env →
      (env.urlNeedsUserAgentType url = true → item.userAgentType ≠ .none) →
      NavigationItem.HasUserAgent env
        { item.setURL url with
          serializedStateObject := stateObject
          hasStateBeenReplaced := true
          postData := none } := by
    intro item has needed
    exact ⟨(has.setURL needed).url, (has.setURL needed).virtualUrl⟩
  unfold updateCurrentItemForReplaceState at updated
  rw [Stateful.run_get] at updated
  obtain ⟨uncovered, updated⟩ := Stateful.dcheck_run updated
  obtain ⟨pending, read, reading, updated⟩ := Stateful.bind_run updated
  obtain ⟨still, has⟩ := ensures_getPendingItemInCurrentOrRestoredSession restores carries reading
  have current : getCurrentItem env before = _ :=
    getCurrentItem_of_uncovered uncovered reading
  cases pending with
  | some pendingItem =>
    cases updated
    exact still.writePendingItem (replaced (has pendingItem rfl) (gives pendingItem read current))
  | none =>
    obtain ⟨_, _, readingLast, updated⟩ := Stateful.bind_run updated
    obtain ⟨kept, hasLast⟩ :=
      ensures_getLastCommittedItemInCurrentOrRestoredSession restores still readingLast
    obtain ⟨lastItem, _, found, updated⟩ := Stateful.bind_run updated
    obtain ⟨rfl, rfl⟩ := Stateful.lift_run found
    cases updated
    exact kept.writeItemAtIndex
      (replaced (hasLast lastItem rfl) (gives lastItem _ (current.trans readingLast))) _

theorem addItemForLoad_carries {params : WebLoadParams}
    (carries : before.CarriesUserAgents env)
    (displays : DisplaysURL env before params)
    (added : addItemForLoad env params before = some ((), after)) :
    after.CarriesUserAgents env := by
  obtain ⟨-, added⟩ := Stateful.dcheck_run added
  obtain ⟨_, pended, adding, added⟩ := Stateful.bind_run added
  obtain ⟨last, read, made, readingLast, loads, -, needed, reads, -⟩ :=
    addPendingItem_reads carries.attached adding
  have still := (ensures_addPendingItem restores _ _ _ _ _ carries adding).1
  have has := (ensures_getPendingItemInCurrentOrRestoredSession restores still reads).2
  rw [Stateful.run_bind reads] at added
  cases pending : pendingOnce env before last made with
  | some pendingItem =>
    rw [pending] at added
    obtain ⟨lastNow, middle, readingNow, added⟩ := Stateful.bind_run added
    have kept :=
      (ensures_getLastCommittedItemInCurrentOrRestoredSession restores still readingNow).1
    rw [Stateful.run_get] at added
    obtain ⟨-, added⟩ := Stateful.dcheck_run added
    obtain ⟨described, _, describes, writing⟩ := Stateful.bind_run added
    obtain ⟨describing, rfl⟩ := Stateful.lift_run describes
    cases writing
    refine kept.writePendingItem (addHeadersAndPostData_hasUserAgent ?_ describing)
    refine describeLoad_hasUserAgent (has pendingItem pending) fun valid needs => ?_
    have shown := displays valid needs last read made.url readingLast loads.symm
    unfold pendingOnce at pending
    grind
  | none =>
    rw [pending] at added
    dsimp only at added
    rw [Stateful.run_get] at added
    obtain ⟨-, added⟩ := Stateful.dcheck_run added
    obtain ⟨_, _, readingNow, added⟩ := Stateful.bind_run added
    obtain ⟨kept, hasLast⟩ :=
      ensures_getLastCommittedItemInCurrentOrRestoredSession restores still readingNow
    obtain ⟨lastItem, _, finds, describes⟩ := Stateful.bind_run added
    obtain ⟨rfl, rfl⟩ := Stateful.lift_run finds
    obtain ⟨_, _, heads, writing⟩ := Stateful.bind_run describes
    obtain ⟨describing, rfl⟩ := Stateful.lift_run heads
    cases writing
    exact kept.writeItemAtIndex
      (addHeadersAndPostData_hasUserAgent (hasLast lastItem rfl) describing) _

/-! ### Commits -/

omit restores in
theorem ensures_commitNewItem (has : item.HasUserAgent env) :
    Ensures (CarriesUserAgents env) (commitNewItem item) fun _ => True := by
  refine .get_bind fun manager _ => ?_
  have committed : NavigationItem.HasUserAgent env
      { item.resetForCommit with timestamp := manager.smoothedTime } := ⟨has.url, has.virtualUrl⟩
  dsimp only
  split
  · refine Ensures.bind (.lift fun _ _ => trivial) fun _ _ => .modify fun state carries => ?_
    refine ⟨⟨carries.attached, carries.notRestoring, carries.callbacks⟩, carries.entries,
      carries.pending, ?_⟩
    simp [committed]
  · refine Ensures.bind (.lift fun _ _ => trivial) fun _ _ => .modify fun state carries => ?_
    have stored := carries.advanceTimeSmoother.setNavigationItemInWKItem committed
      state.getCurrentItemIndex.toNat
    refine ⟨⟨carries.attached, carries.notRestoring, carries.callbacks⟩, stored.entries,
      carries.pending, ?_⟩
    intro other found
    cases found

omit restores in
theorem ensures_commitItem (carries : manager.CarriesUserAgents env) :
    Ensures (CarriesUserAgents env) (commitItem manager) fun _ => True := by
  refine .ite (fun _ => ?_) fun _ => .pure trivial
  exact Ensures.bind (.lift fun _ found => carries.pending found) fun _ has =>
    ensures_commitNewItem has

theorem ensures_commitPendingItem :
    Ensures (CarriesUserAgents env) (commitPendingItem env) fun _ => True := by
  refine .get_bind fun manager carries => Ensures.bind (.lift fun _ _ => trivial) fun _ _ => ?_
  refine .ite (fun _ => .pure trivial) fun _ => ?_
  refine (ensures_commitItem carries).bind fun _ _ => ?_
  refine .modify_bind (fun _ carries => carries.of_same rfl rfl rfl rfl (.inr rfl) rfl) ?_
  refine (ensures_getLastCommittedItemInCurrentOrRestoredSession restores).bind fun last _ => ?_
  refine Ensures.bind (.lift fun _ _ => trivial) fun item _ => ?_
  refine .ite (fun _ => .modify fun _ carries => ?_) fun _ => .pure trivial
  simp [carries.of_same]

/-! ### History navigations and transient items -/

theorem ensures_getLastCommittedItem :
    Ensures (CarriesUserAgents env) (getLastCommittedItem env) fun _ => True := by
  refine .get_bind fun _ _ => .ite (fun _ => .pure trivial) fun _ => ?_
  exact (ensures_getLastCommittedItemInCurrentOrRestoredSession restores).bind fun _ _ =>
    .pure trivial

theorem ensures_getPendingItem :
    Ensures (CarriesUserAgents env) (getPendingItem env)
      (FoundWithUserAgent env) :=
  .get_bind fun _ _ => .ite (fun _ => .pure .none) fun _ =>
    ensures_getPendingItemInCurrentOrRestoredSession restores

theorem ensures_getPreviousItem :
    Ensures (CarriesUserAgents env) (getPreviousItem env) fun _ => True := by
  refine (ensures_getPendingItem restores).bind fun pending _ => ?_
  cases pending with
  | some _ => exact .pure trivial
  | none => exact ensures_getLastCommittedItem restores

theorem ensures_itemCoveredByTransient :
    Ensures (CarriesUserAgents env) (itemCoveredByTransient env)
      fun _ => True := by
  refine (ensures_getPendingItem restores).bind fun pending _ => ?_
  cases pending with
  | some _ => exact .pure trivial
  | none =>
    intro state result after carries ran
    exact ⟨(ensures_getLastCommittedItemWithUserAgentType restores carries ran).1, trivial⟩

theorem ensures_goToIndex (index : Int) :
    Ensures (CarriesUserAgents env) (goToIndex env codec baseUrl index)
      fun _ => True := by
  refine .get_bind fun _ _ => Ensures.bind (.lift fun _ _ => trivial) fun _ _ => ?_
  refine (ensures_getItemAtIndex restores index).bind fun found _ => ?_
  refine Ensures.bind (.lift fun _ _ => trivial) fun _ _ => ?_
  refine (ensures_getPreviousItem restores).bind fun _ _ => .get_bind fun manager carries => ?_
  refine .ite (fun detached => absurd carries.attached detached) fun _ => ?_
  refine .modify_bind (fun _ carries => carries.discardNonCommittedItems) ?_
  refine (ensures_getItemAtIndex restores index).bind fun found has => ?_
  refine Ensures.bind (.lift has) fun item has => ?_
  have marked : NavigationItem.HasUserAgent env
      { item with transitionType := item.transitionType ||| PageTransition.forwardBack } :=
    ⟨has.url, has.virtualUrl⟩
  refine .modify_bind (fun _ carries => carries.writeItemAtIndex marked index) ?_
  exact .get_bind fun _ _ => .lift fun _ _ => trivial

theorem ensures_addTransientItem (url : GURL) :
    Ensures (CarriesUserAgents env) (addTransientItem env url)
      fun _ => True := by
  refine .get_bind fun manager _ => Ensures.bind (.lift fun _ _ => trivial) fun _ _ => ?_
  refine (ensures_getLastCommittedItem restores).bind fun last _ => ?_
  refine Ensures.bind (.lift fun _ _ => trivial) fun made _ => ?_
  refine .modify_bind (fun _ carries => carries.of_same rfl rfl rfl rfl (.inl rfl) rfl) ?_
  refine (ensures_itemCoveredByTransient restores).bind fun covered _ => .get_bind fun state _ => ?_
  cases covered with
  | none => exact .pure trivial
  | some _ =>
    cases state.transientItem with
    | none => exact .pure trivial
    | some _ =>
      refine Ensures.bind (.lift fun _ _ => trivial) fun _ _ => ?_
      refine Ensures.bind (.lift fun _ _ => trivial) fun typed _ => .modify fun _ carries => ?_
      simp [carries.of_same]

theorem perform_carries {operation : Operation} (carries : before.CarriesUserAgents env)
    (navigates : operation.navigates = true)
    (moves : ∀ webView, operation = .webViewChanges webView → before.MovesStored webView)
    (gives : GivesURL env before operation)
    (performed : perform env codec baseUrl operation before = some ((), after)) :
    after.CarriesUserAgents env := by
  cases operation with
  | addTransientItem url => exact (ensures_addTransientItem restores url carries performed).1
  | addPendingItem => exact (ensures_addPendingItem restores _ _ _ _ _ carries performed).1
  | updatePendingItemUrl _ => exact updatePendingItemUrl_carries restores carries gives performed
  | updateCurrentItemForReplaceState _ _ =>
    exact updateCurrentItemForReplaceState_carries restores carries gives performed
  | commitPendingItem => exact (ensures_commitPendingItem restores carries performed).1
  | discardNonCommittedItems =>
    cases performed
    exact carries.discardNonCommittedItems
  | setPendingItemIndex index | addTransientURLRewriter rewriter | timePasses now =>
    cases performed
    simp [carries.of_same]
  | setPreviousItemIndex _ =>
    rw [perform, Stateful.run_get] at performed
    obtain ⟨-, performed⟩ := Stateful.dcheck_run performed
    cases performed
    simp [carries.of_same]
  | getItemAtIndex index =>
    obtain ⟨found, read, reading, performed⟩ := Stateful.bind_run performed
    cases performed
    exact (ensures_getItemAtIndex restores index carries reading).1
  | loadURLWithParams params =>
    refine addItemForLoad_carries restores carries gives ?_
    rw [← loadURLWithParams_settled carries.toSettled params]
    exact performed
  | loadIfNecessary =>
    rw [perform, WKNavigationManager.loadIfNecessary, Stateful.run_get,
      if_neg (not_not.mpr carries.attached)] at performed
    cases performed
    exact carries
  | onRendererInitiatedNavigationStarted _ =>
    rw [perform, WKNavigationManager.onRendererInitiatedNavigationStarted, Stateful.run_get,
      if_neg (by simp [carries.notRestoring])] at performed
    cases performed
    exact carries
  | goToIndex index => exact (ensures_goToIndex restores index carries performed).1
  | webViewChanges _ =>
    cases performed
    grind [carries.webViewChanges]
  | detachFromWebView | removeWebView | restore | reload
  | applyWKWebViewForwardHistoryClobberWorkaround => cases navigates

end Operations

/-! ## Runs -/

/-- As long as the last committed index is inside the history the search for a user agent ends;
what it finds is a committed item with one, and every item of the history that displays a URL
with a user agent has one. -/
structure HasUserAgents (env : NavigationEnvironment) (manager : WKNavigationManager) :
    Prop where
  returns : manager.getLastCommittedItemIndexInCurrentOrRestoredSession < manager.getItemCount →
    ∃ found read, getLastCommittedItemWithUserAgentType env manager = some (found, read)
  search : ∀ item read,
    getLastCommittedItemWithUserAgentType env manager = some (some item, read) →
      item.userAgentType ≠ .none ∧ ∃ index : Nat,
        index ≤ manager.getLastCommittedItemIndexInCurrentOrRestoredSession ∧
          getItemAtIndex env index read = some (some item, read)
  items : ∀ index item read, getItemAtIndex env index manager = some (some item, read) →
    env.urlNeedsUserAgentType item.getVirtualURL = true → item.userAgentType ≠ .none

variable {count : Nat}

/-- The item that is found can be read again. -/
theorem lastItemWithUserAgentType_found
    (found : lastItemWithUserAgentType env count manager = some (some item, after)) :
    ∃ index < count, getItemAtIndex env index after = some (some item, after) := by
  induction count generalizing manager with
  | zero => cases found
  | succ count _ =>
    obtain ⟨read, middle, reading, checks⟩ := Stateful.bind_run found
    obtain ⟨last, _, present, searches⟩ := Stateful.bind_run checks
    obtain ⟨rfl, rfl⟩ := Stateful.lift_run present
    by_cases needed : env.urlNeedsUserAgentType last.url = true
    · rw [if_pos needed] at searches
      cases searches
      exact ⟨count, Nat.lt_succ_self count, getItemAtIndex_memoised.settles reading⟩
    · grind

/-- There is an item at every index of the history. -/
theorem getItemAtIndex_inside (attached : manager.attachedToWebView = true) {index : Nat}
    (inside : index < manager.getItemCount) :
    ∃ item read, getItemAtIndex env index manager = some (some item, read) := by
  rw [getItemAtIndex_eq]
  unfold getItemCount at inside
  cases window : manager.emptyWindowOpenItem with
  | some _ =>
    have first : index = 0 := by
      grind
    simp [first]
  | none =>
    rw [window] at inside
    unfold getBackForwardListItemCount at inside
    rw [if_pos attached] at inside
    have listed : index < manager.backForwardList.items.length := by
      simpa using inside
    obtain ⟨entry, located⟩ : ∃ entry, manager.backForwardList.items[index]? = some entry :=
      ⟨_, List.getElem?_eq_getElem listed⟩
    cases stored : entry.navigationItem with
    | some item => exact ⟨item, manager, read_stored attached located stored⟩
    | none =>
      obtain ⟨item, made⟩ := read_missing attached located stored
      exact ⟨item, _, made⟩

theorem lastItemWithUserAgentType_returns (attached : manager.attachedToWebView = true)
    (inside : count ≤ manager.getItemCount) :
    ∃ found read, lastItemWithUserAgentType env count manager = some (found, read) := by
  induction count generalizing manager with
  | zero => exact ⟨none, manager, rfl⟩
  | succ count ih =>
    obtain ⟨item, read, reading⟩ : ∃ item read,
        getItemAtIndex env count manager = some (some item, read) :=
      getItemAtIndex_inside attached (by omega)
    unfold lastItemWithUserAgentType
    rw [Stateful.run_bind reading]
    change ∃ found last, (if env.urlNeedsUserAgentType item.url then pure (some item)
      else lastItemWithUserAgentType env count : Run (Option NavigationItem)) read =
        some (found, last)
    split
    · exact ⟨some item, read, rfl⟩
    · refine ih ?_ ?_
      · exact (tracks_getItemAtIndex _ (.refl manager) reading).attached.trans attached
      · rw [(getItemAtIndex_keeps _ (.refl manager) reading).itemCount]
        omega

theorem getItemCount_nonneg (manager : WKNavigationManager) : 0 ≤ manager.getItemCount := by
  unfold getItemCount
  split <;> omega

section Runs

variable (restores : env.RestoresWithUserAgent)
include restores

theorem CarriesUserAgents.hasUserAgents (carries : manager.CarriesUserAgents env) :
    manager.HasUserAgents env where
  returns := by
    intro inside
    have nonneg := getItemCount_nonneg manager
    exact lastItemWithUserAgentType_returns carries.attached (by omega)
  search := by
    intro item read found
    refine ⟨(ensures_getLastCommittedItemWithUserAgentType restores carries found).2 item rfl, ?_⟩
    obtain ⟨index, before, again⟩ := lastItemWithUserAgentType_found found
    grind
  items := fun index item read reading =>
    ((ensures_getItemAtIndex restores index carries reading).2 item rfl).virtualUrl

theorem ReachedGiving.carries (run : ReachedGiving env codec baseUrl manager) :
    manager.CarriesUserAgents env := by
  induction run with
  | new =>
    refine ⟨⟨rfl, rfl, rfl⟩, ?_, ?_, ?_⟩
    · rintro position item ⟨entry, located, -⟩
      cases located
    · intro item found
      cases found
    · intro item found
      cases found
  | performs _ _ _ _ _ _ =>
    grind [perform_carries]

end Runs

end ChromiumIos.WKNavigationManager

namespace ChromiumIos

/-! ## Both managers -/

/-- In every run of either manager whose steps give URLs only to items with the user agent for
them, the search for the last committed item with a user agent finds one that has it. -/
theorem histories_haveUserAgents (env : NavigationEnvironment) (codec : SessionCodec)
    (baseUrl : String) (restores : env.RestoresWithUserAgent) :
    (∀ controller, SessionController.ReachedGiving env controller →
      controller.HasUserAgents env) ∧
    ∀ manager, WKNavigationManager.ReachedGiving env codec baseUrl manager →
      manager.HasUserAgents env :=
  ⟨fun _ run => run.hasUserAgents, fun _ run => (run.carries restores).hasUserAgents restores⟩

def blankEnvironment : NavigationEnvironment :=
  { plainEnvironment with
    urlNeedsUserAgentType := fun url => url != ⟨"about:blank"⟩
    isValid := fun url => !url.isEmpty }

/-- Both managers load a page, are redirected to another one, and commit. -/
theorem histories_haveUserAgents_redirected :
    ∃ (controller : SessionController) (manager : WKNavigationManager),
      controller.items.map NavigationItem.url = [⟨"data:b"⟩] ∧
      controller.HasUserAgents blankEnvironment ∧
      manager.backForwardList.items.map WKBackForwardListItem.url = [⟨"data:b"⟩] ∧
      manager.HasUserAgents blankEnvironment := by
  have both := histories_haveUserAgents blankEnvironment WKNavigationManager.silentCodec "restore"
    fun _ restorePage => absurd restorePage Bool.false_ne_true
  have loaded := @SessionController.ReachedGiving.loads blankEnvironment _ _
    { url := ⟨"data:a"⟩ } .empty (fun valid => absurd valid (by decide)) rfl
  have redirected := @SessionController.ReachedGiving.performs blankEnvironment _ _
    (.updatePendingItemUrl ⟨"data:b"⟩) loaded
    (fun item found _ _ => by cases found; decide) (fun _ same => by cases same) rfl
  have committed := @SessionController.ReachedGiving.performs blankEnvironment _ _
    (.commitPendingItem 1) redirected trivial (fun _ same => by cases same) rfl
  have loads := @WKNavigationManager.ReachedGiving.performs blankEnvironment
    WKNavigationManager.silentCodec "restore" _ _ (.loadURLWithParams { url := ⟨"data:a"⟩ }) .new
    rfl (fun _ same => by cases same) (fun valid => absurd valid (by decide)) rfl
  have redirects := @WKNavigationManager.ReachedGiving.performs blankEnvironment
    WKNavigationManager.silentCodec "restore" _ _ (.updatePendingItemUrl ⟨"data:b"⟩) loads
    rfl (fun _ same => by cases same) (fun item read found _ _ => by cases found; decide) rfl
  have arrives := @WKNavigationManager.ReachedGiving.performs blankEnvironment
    WKNavigationManager.silentCodec "restore" _ _
    (.webViewChanges (some ⟨⟨"data:b"⟩, .focused [] ⟨⟨"data:b"⟩, "", none⟩ []⟩)) redirects
    rfl (fun webView same position item stored => by
      cases same
      obtain ⟨_, located, holds⟩ := stored
      cases position with
      | zero =>
        cases located
        cases holds
      | succ _ => cases located) trivial rfl
  have commits := @WKNavigationManager.ReachedGiving.performs blankEnvironment
    WKNavigationManager.silentCodec "restore" _ _ .commitPendingItem arrives
    rfl (fun _ same => by cases same) trivial rfl
  exact ⟨_, _, rfl, both.1 _ committed, rfl, both.2 _ commits⟩

/-- A blank page needs no user agent, and the page it is redirected to before it is committed
gets none in either manager. -/
theorem not_histories_haveUserAgents_redirectedBlank :
    (∃ controller item,
      [.legacyAddPendingItem ⟨"about:blank"⟩ ⟨.empty, 0⟩ PageTransition.link .browserInitiated
          .inherit,
        .updatePendingItemUrl ⟨"data:b"⟩, .commitPendingItem 1].foldlM
          (SessionController.perform blankEnvironment) SessionController.initWithBrowserState =
        some controller ∧
      controller.getLastCommittedItemWithUserAgentType blankEnvironment = some (some item) ∧
      item.userAgentType = .none ∧ ¬ controller.HasUserAgents blankEnvironment) ∧
    ∃ manager item read,
      WKNavigationManager.performAll blankEnvironment WKNavigationManager.silentCodec "restore"
          [.loadURLWithParams { url := ⟨"about:blank"⟩ }, .updatePendingItemUrl ⟨"data:b"⟩,
            .webViewChanges (some ⟨⟨"data:b"⟩, .focused [] ⟨⟨"data:b"⟩, "", none⟩ []⟩),
            .commitPendingItem] {} =
        some ((), manager) ∧
      WKNavigationManager.getLastCommittedItemWithUserAgentType blankEnvironment manager =
        some (some item, read) ∧
      item.userAgentType = .none ∧ ¬ manager.HasUserAgents blankEnvironment := by
  constructor
  · refine ⟨_, _, rfl, rfl, rfl, fun has => ?_⟩
    obtain ⟨_, searched, given⟩ := has.search
    cases searched
    exact (given _ rfl).1 rfl
  · exact ⟨_, _, _, rfl, rfl, rfl, fun has => (has.search _ _ rfl).1 rfl⟩

end ChromiumIos
