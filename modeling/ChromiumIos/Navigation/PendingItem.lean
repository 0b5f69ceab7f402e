import ChromiumIos.Navigation.ItemUserAgents
import ChromiumIos.Navigation.WKNavigationReads

/-!
# Which item becomes pending

Adding a pending item makes a new one, unless the web view is already at an entry
with the URL of the new item.  Then the item of that entry becomes pending again,
and what was asked for is dropped.  The reads on the way may store items with the
entries that had none, but an item that is stored stays.

The URL that the pending item will display can be told from the state before it is
added: it is the URL to load after rewriting, or the virtual URL of the last
committed item where its entry is reused.
-/

namespace ChromiumIos.WKNavigationManager

open Lib

variable {env : NavigationEnvironment} {start manager after : WKNavigationManager}
variable {item value : NavigationItem}

/-! ## What reads leave as it is -/

def StoredAt (manager : WKNavigationManager) (position : Nat) (item : NavigationItem) : Prop :=
  ∃ entry, manager.backForwardList.items[position]? = some entry ∧
    entry.navigationItem = some item

structure Tracks (start manager : WKNavigationManager) : Prop where
  attached : manager.attachedToWebView = start.attachedToWebView
  window : manager.emptyWindowOpenItem = start.emptyWindowOpenItem
  pendingIndex : manager.pendingItemIndex = start.pendingItemIndex
  index : manager.getCurrentItemIndex = start.getCurrentItemIndex
  count : manager.backForwardList.items.length = start.backForwardList.items.length
  webViewUrl : manager.webView.map WKWebView.url = start.webView.map WKWebView.url
  currentUrl : manager.backForwardList.currentItem.map WKBackForwardListItem.url =
    start.backForwardList.currentItem.map WKBackForwardListItem.url
  stored : ∀ {position item}, StoredAt start position item → StoredAt manager position item

theorem Tracks.refl (manager : WKNavigationManager) : Tracks manager manager :=
  ⟨rfl, rfl, rfl, rfl, rfl, rfl, rfl, id⟩

theorem currentItem_url_setNavigationItem (list : WKBackForwardList) (position : Nat)
    (item : NavigationItem) :
    (list.setNavigationItem position item).currentItem.map WKBackForwardListItem.url =
      list.currentItem.map WKBackForwardListItem.url := by
  cases list <;> grind [WKBackForwardList.currentItem, WKBackForwardList.setNavigationItem]

theorem Tracks.withItem (tracks : Tracks start manager) {position : Nat}
    {entry : WKBackForwardListItem} (found : manager.backForwardList.items[position]? = some entry)
    (missing : entry.navigationItem = none) (item : NavigationItem) :
    Tracks start (manager.withItem position item) where
  attached := tracks.attached
  window := tracks.window
  pendingIndex := tracks.pendingIndex
  index := (getCurrentItemIndex_setNavigationItemInWKItem _ position item).trans tracks.index
  count := by
    simp [items_withItem, tracks.count]
  webViewUrl := by
    rw [← tracks.webViewUrl]
    simp only [WKNavigationManager.withItem, setNavigationItemInWKItem, advanceTimeSmoother]
    rw [Option.map_map]
    rfl
  currentUrl := by
    simp only [WKNavigationManager.withItem]
    rw [backForwardList_setNavigationItemInWKItem, currentItem_url_setNavigationItem]
    exact tracks.currentUrl
  stored := by
    intro other value storedAt
    obtain ⟨known, located, stored⟩ := tracks.stored storedAt
    refine ⟨known, ?_, stored⟩
    grind [items_withItem]

theorem tracks_getItemAtIndex (index : Int) :
    Keeps (Tracks start) (getItemAtIndex env index) := by
  intro state value after tracks read
  rcases getItemAtIndex_cases env index state with ⟨fixed, constant⟩ | entry
  · grind
  · rw [entry rfl] at read
    rcases read_cases env state index.toNat with
      ⟨_, kept⟩ | ⟨item, _, -, found, missing, made⟩
    · grind
    · grind [tracks.withItem]

variable {index : Int}

/-- An item that was read from an entry is stored with it. -/
theorem storedAt_of_read (window : manager.emptyWindowOpenItem = none)
    (attached : manager.attachedToWebView = true) (nonneg : 0 ≤ index)
    (inside : index.toNat < manager.backForwardList.items.length) {found : Option NavigationItem}
    (read : getItemAtIndex env index manager = some (found, after)) :
    ∃ item, found = some item ∧ StoredAt after index.toNat item := by
  rw [getItemAtIndex_eq, window] at read
  rw [if_neg (by omega)] at read
  obtain ⟨entry, located⟩ : ∃ entry, manager.backForwardList.items[index.toNat]? = some entry :=
    ⟨_, List.getElem?_eq_getElem inside⟩
  cases stored : entry.navigationItem with
  | some _ =>
    grind [StoredAt, read_stored attached located stored]
  | none =>
    obtain ⟨_, made⟩ := @read_missing env _ _ _ attached located stored
    rw [made] at read
    cases read
    simp [StoredAt, items_withItem, located]

/-! ## The item that is made -/

theorem setUserAgentType_urls {userAgentType : UserAgentType} {typed : NavigationItem}
    (typing : item.setUserAgentType env userAgentType = some typed) :
    typed.url = item.url ∧ typed.virtualUrl = item.virtualUrl := by
  obtain ⟨-, typing⟩ := dcheck_then typing
  grind

variable {initiationType : NavigationInitiationType} {referrer : Referrer}
variable {transition : PageTransition} {url : GURL} {option : UserAgentOverrideOption}

theorem createNavigationItemWithRewriters_urls {isPlaceholderUrl : GURL → Bool} {previousUrl : GURL}
    {rewriters : List URLRewriter}
    (created : createNavigationItemWithRewriters env isPlaceholderUrl url referrer
      transition initiationType previousUrl rewriters = some item) :
    item.url = loadedUrl env isPlaceholderUrl url initiationType previousUrl rewriters ∧
      item.virtualUrl = .empty := by
  grind [createNavigationItemWithRewriters_cases]

theorem updatePendingItemUserAgentType_urls {inheritFrom : Option NavigationItem}
    {updated : NavigationItem}
    (updating : updatePendingItemUserAgentType env option inheritFrom item = some updated) :
    updated.url = item.url ∧ updated.virtualUrl = item.virtualUrl := by
  obtain ⟨-, updating⟩ := dcheck_then updating
  grind [setUserAgentType_urls, dcheck_then]

/-! ## The item that is pending -/

def reusesCurrentItem (env : NavigationEnvironment) (manager : WKNavigationManager)
    (url : GURL) : Bool :=
  match manager.backForwardList.currentItem.map WKBackForwardListItem.url,
    manager.webView.map WKWebView.url with
  | some currentUrl, some webViewUrl =>
    isSameOrPlaceholderOf env currentUrl url &&
      isSameOrPlaceholderOf env currentUrl webViewUrl
  | _, _ => false

theorem Tracks.reusesCurrentItem (tracks : Tracks start manager) (url : GURL) :
    WKNavigationManager.reusesCurrentItem env manager url =
      WKNavigationManager.reusesCurrentItem env start url := by
  simp only [WKNavigationManager.reusesCurrentItem]
  rw [tracks.currentUrl, tracks.webViewUrl]

/-- The URL that the pending item displays once it has been added, if there is one then. -/
def displayedUrl (env : NavigationEnvironment) (manager : WKNavigationManager)
    (url : GURL) (initiationType : NavigationInitiationType) : Option GURL :=
  (getLastCommittedItemInCurrentOrRestoredSession env
    manager.discardNonCommittedItems).bind fun (lastCommittedItem, _) =>
      let loaded := loadedUrl env env.isPlaceholderUrl url initiationType
        (urlOf lastCommittedItem) manager.transientUrlRewriters
      if reusesCurrentItem env manager loaded then
        if manager.emptyWindowOpenItem.isSome ∧ manager.getCurrentItemIndex ≠ 0 then none
        else lastCommittedItem.map NavigationItem.getVirtualURL
      else
        some loaded

theorem reuseCurrentItem_else (other : reusesCurrentItem env manager item.url = false) :
    reuseCurrentItem env item manager = some ((), manager) := by
  unfold reuseCurrentItem
  rw [Stateful.run_get]
  unfold reusesCurrentItem at other
  cases current : manager.backForwardList.currentItem with
  | none => rfl
  | some _ =>
    cases view : manager.webView with
    | none => rfl
    | some _ =>
      rw [current, view] at other
      dsimp only
      rw [if_neg (by simpa using other)]
      rfl

/-- The entry that is reused has an item already, or gets the one that was made. -/
theorem reuseCurrentItem_reused (reuses : reusesCurrentItem env manager item.url = true) :
    ∃ currentItem, manager.backForwardList.currentItem = some currentItem ∧
      reuseCurrentItem env item manager = some ((),
        { (if currentItem.navigationItem.isNone then
            manager.setNavigationItemInWKItem manager.getCurrentItemIndex.toNat item
          else manager) with
          pendingItem := none, pendingItemIndex := manager.getCurrentItemIndex }) := by
  unfold reusesCurrentItem at reuses
  cases current : manager.backForwardList.currentItem with
  | none =>
    rw [current] at reuses
    cases reuses
  | some currentItem =>
    cases view : manager.webView with
    | none =>
      simp [view] at reuses
    | some _ =>
      rw [current, view] at reuses
      refine ⟨currentItem, rfl, ?_⟩
      unfold reuseCurrentItem
      rw [Stateful.run_get, current, view]
      dsimp only
      rw [if_pos (by simpa using reuses)]
      rfl

variable {read : WKNavigationManager} {last : Option NavigationItem}
  {currentItem : WKBackForwardListItem}

/-- The current entry is the one at the current index. -/
theorem currentItem_located (attached : manager.attachedToWebView = true)
    (current : manager.backForwardList.currentItem = some currentItem) :
    0 ≤ manager.getCurrentItemIndex ∧
      manager.backForwardList.items[manager.getCurrentItemIndex.toNat]? = some currentItem := by
  rw [getCurrentItemIndex_eq, if_pos attached, current]
  cases list : manager.backForwardList with
  | empty =>
    rw [list] at current
    cases current
  | focused _ _ _ =>
    rw [list] at current
    simp [WKBackForwardList.items, current]

def Placed (manager : WKNavigationManager) : Prop :=
  manager.pendingItemIndex = -1 ∨
    manager.emptyWindowOpenItem.isSome ∧ manager.pendingItemIndex = 0 ∨
    manager.emptyWindowOpenItem = none ∧ manager.attachedToWebView = true ∧
      0 ≤ manager.pendingItemIndex ∧
      manager.pendingItemIndex.toNat < manager.backForwardList.items.length

structure AddsPending (env : NavigationEnvironment) (start after : WKNavigationManager)
    (url : GURL) (initiationType : NavigationInitiationType) (pending : Option NavigationItem) :
    Prop where
  reads : getPendingItemInCurrentOrRestoredSession env after = some (pending, after)
  displays : pending.map NavigationItem.getVirtualURL =
    displayedUrl env start url initiationType
  placed : pending.isSome → after.Placed

theorem getPendingItem_of_new (new : manager.pendingItemIndex = -1) :
    getPendingItemInCurrentOrRestoredSession env manager =
      some (manager.pendingItem, manager) := by
  unfold getPendingItemInCurrentOrRestoredSession
  rw [Stateful.run_get, if_pos new]
  rfl

theorem getPendingItem_of_history (history : 0 ≤ manager.pendingItemIndex) :
    getPendingItemInCurrentOrRestoredSession env manager =
      getItemAtIndex env manager.pendingItemIndex manager := by
  unfold getPendingItemInCurrentOrRestoredSession
  rw [Stateful.run_get, if_neg (by omega)]

theorem getItemAtIndex_of_storedAt (window : manager.emptyWindowOpenItem = none)
    (attached : manager.attachedToWebView = true) (nonneg : 0 ≤ index)
    (storedAt : StoredAt manager index.toNat value) :
    getItemAtIndex env index manager = some (some value, manager) := by
  obtain ⟨entry, located, stored⟩ := storedAt
  rw [getItemAtIndex_eq, window]
  dsimp only
  rw [if_neg (by omega)]
  exact read_stored attached located stored

/-- The item that is pending once one was made: that of the entry which is reused, or the new
one. -/
def pendingOnce (env : NavigationEnvironment) (manager : WKNavigationManager)
    (last : Option NavigationItem) (made : NavigationItem) : Option NavigationItem :=
  if reusesCurrentItem env manager made.url then
    if manager.emptyWindowOpenItem.isSome ∧ manager.getCurrentItemIndex ≠ 0 then none else last
  else
    some made

/-- Without an empty window the last committed item is that of the current entry. -/
theorem storedAt_lastCommittedItem (attached : start.attachedToWebView = true)
    (window : start.emptyWindowOpenItem = none)
    (current : start.backForwardList.currentItem = some currentItem)
    (reading : getLastCommittedItemInCurrentOrRestoredSession env
      start.discardNonCommittedItems = some (last, read)) :
    ∃ item, last = some item ∧ StoredAt read start.getCurrentItemIndex.toNat item := by
  obtain ⟨nonneg, located⟩ := currentItem_located attached current
  have index : start.discardNonCommittedItems.getLastCommittedItemIndexInCurrentOrRestoredSession =
      start.getCurrentItemIndex := by
    unfold getLastCommittedItemIndexInCurrentOrRestoredSession
    rw [if_neg (by simp [window, discardNonCommittedItems])]
    rfl
  unfold getLastCommittedItemInCurrentOrRestoredSession at reading
  have noWindow : start.discardNonCommittedItems.emptyWindowOpenItem = none := window
  have stillAttached : start.discardNonCommittedItems.attachedToWebView = true := attached
  rw [Stateful.run_get, noWindow] at reading
  rw [index, if_neg (by omega)] at reading
  refine storedAt_of_read noWindow stillAttached nonneg ?_ reading
  exact (List.getElem?_eq_some_iff.mp located).1

/-- The item of a reused entry is pending again; from an empty window there may be none. -/
theorem reads_reused (attached : after.attachedToWebView = true)
    (reading : getLastCommittedItemInCurrentOrRestoredSession env
      start.discardNonCommittedItems = some (last, read))
    (reuses : reusesCurrentItem env start item.url = true)
    (window : after.emptyWindowOpenItem = start.emptyWindowOpenItem)
    (nonneg : 0 ≤ start.getCurrentItemIndex)
    (history : after.pendingItemIndex = start.getCurrentItemIndex)
    (stored : start.emptyWindowOpenItem = none →
      ∃ item, last = some item ∧ StoredAt after start.getCurrentItemIndex.toNat item) :
    getPendingItemInCurrentOrRestoredSession env after =
        some (pendingOnce env start last item, after) ∧
      ((pendingOnce env start last item).isSome → after.Placed) := by
  unfold pendingOnce
  rw [if_pos reuses, getPendingItem_of_history (by omega), history]
  cases opened : start.emptyWindowOpenItem with
  | none =>
    obtain ⟨item, rfl, storedAt⟩ := stored opened
    refine ⟨getItemAtIndex_of_storedAt (window.trans opened) attached nonneg storedAt, ?_⟩
    intro _
    obtain ⟨entry, located, -⟩ := storedAt
    grind [Placed]
  | some windowItem =>
    have same : last = some windowItem := by
      unfold getLastCommittedItemInCurrentOrRestoredSession at reading
      have discarded : start.discardNonCommittedItems.emptyWindowOpenItem = some windowItem :=
        opened
      rw [Stateful.run_get, discarded] at reading
      cases reading
      rfl
    rw [getItemAtIndex_eq, window, opened, same]
    by_cases first : start.getCurrentItemIndex = 0
    · refine ⟨by simp [first], fun _ => .inr (.inl ⟨?_, history.trans first⟩)⟩
      rw [window, opened]
      rfl
    · grind

/-- A new item is made from what is committed and becomes pending, and the entry of the web
view is reused if it has the URL of the item. -/
theorem addPendingItem_run (attached : start.attachedToWebView = true)
    (ran : addPendingItem env url referrer transition initiationType option start =
      some ((), after)) :
    ∃ last read item searched,
      getLastCommittedItemInCurrentOrRestoredSession env
        start.discardNonCommittedItems = some (last, read) ∧
      item.url = loadedUrl env env.isPlaceholderUrl url initiationType
        (urlOf last) start.transientUrlRewriters ∧
      item.virtualUrl = .empty ∧
      (env.urlNeedsUserAgentType item.url = true → item.userAgentType ≠ .none) ∧
      Tracks start.discardNonCommittedItems read ∧ Tracks read searched ∧
      reuseCurrentItem env item { searched with pendingItem := some item } =
        some ((), after) := by
  obtain ⟨_, _, discarding, ran⟩ := Stateful.bind_run ran
  cases discarding
  obtain ⟨last, _, reading, ran⟩ := Stateful.bind_run ran
  rw [Stateful.run_get] at ran
  obtain ⟨made, read, making, added⟩ := Stateful.bind_run ran
  obtain ⟨created, rfl⟩ := Stateful.lift_run making
  obtain ⟨_, _, clearing, added⟩ := Stateful.bind_run added
  cases clearing
  obtain ⟨_, _, searching, added⟩ := Stateful.bind_run added
  obtain ⟨item, searched, updating, reusing⟩ := Stateful.bind_run added
  obtain ⟨updated, rfl⟩ := Stateful.lift_run updating
  obtain ⟨_, _, pending, reusing⟩ := Stateful.bind_run reusing
  cases pending
  have tracksRead := keeps_getLastCommittedItemInCurrentOrRestoredSession tracks_getItemAtIndex
    (.refl _) reading
  have tracksSearched : Tracks read searched := by
    refine keeps_getLastCommittedItemWithUserAgentType tracks_getItemAtIndex ?_ searching
    exact ⟨rfl, rfl, rfl, rfl, rfl, rfl, rfl, id⟩
  have rewriters : read.transientUrlRewriters = start.transientUrlRewriters := by
    rcases getLastCommittedItemInCurrentOrRestoredSession_state reading with rfl | ⟨_, _, rfl⟩
    · rfl
    · rfl
  obtain ⟨madeUrl, madePlain⟩ := createNavigationItemWithRewriters_urls created
  obtain ⟨itemUrl, itemPlain⟩ := updatePendingItemUserAgentType_urls updated
  have made := NavigationItem.HasUserAgent.of_plain madePlain
    (createNavigationItemWithRewriters_userAgentType created).2
  have stillAttached : searched.attachedToWebView = true :=
    (tracksSearched.attached.trans tracksRead.attached).trans attached
  rw [Stateful.run_get] at reusing
  rw [if_pos stillAttached] at reusing
  refine ⟨last, read, item, searched, reading, ?_, itemPlain.trans madePlain,
    (updatePendingItemUserAgentType_hasUserAgent made updated).url, tracksRead, tracksSearched,
    reusing⟩
  rw [itemUrl, madeUrl, rewriters]

/-- Which item is pending after one was added can be told from the state before. -/
theorem addPendingItem_reads (attached : start.attachedToWebView = true)
    (ran : addPendingItem env url referrer transition initiationType option start =
      some ((), after)) :
    ∃ last read made,
      getLastCommittedItemInCurrentOrRestoredSession env
        start.discardNonCommittedItems = some (last, read) ∧
      made.url = loadedUrl env env.isPlaceholderUrl url initiationType
        (urlOf last) start.transientUrlRewriters ∧
      made.virtualUrl = .empty ∧
      (env.urlNeedsUserAgentType made.url = true → made.userAgentType ≠ .none) ∧
      getPendingItemInCurrentOrRestoredSession env after =
        some (pendingOnce env start last made, after) ∧
      ((pendingOnce env start last made).isSome → after.Placed) := by
  obtain ⟨last, read, item, searched, reading, loads, plain, needed, tracksRead, tracksSearched,
    ran⟩ := addPendingItem_run attached ran
  refine ⟨last, read, item, reading, loads, plain, needed, ?_⟩
  have newIndex : searched.pendingItemIndex = -1 :=
    tracksSearched.pendingIndex.trans tracksRead.pendingIndex
  have sameReuse : reusesCurrentItem env { searched with pendingItem := some item }
      item.url = reusesCurrentItem env start item.url :=
    (tracksSearched.reusesCurrentItem item.url).trans (tracksRead.reusesCurrentItem item.url)
  cases reuses : reusesCurrentItem env start item.url with
  | false =>
    rw [reuseCurrentItem_else (sameReuse.trans reuses)] at ran
    cases ran
    unfold pendingOnce
    rw [reuses]
    exact ⟨getPendingItem_of_new newIndex, fun _ => .inl newIndex⟩
  | true =>
    obtain ⟨currentItem, current, reused⟩ := reuseCurrentItem_reused (sameReuse.trans reuses)
    obtain ⟨_, startCurrent, -⟩ := reuseCurrentItem_reused reuses
    have stillAttached : searched.attachedToWebView = true :=
      (tracksSearched.attached.trans tracksRead.attached).trans attached
    have index : searched.getCurrentItemIndex = start.getCurrentItemIndex :=
      tracksSearched.index.trans tracksRead.index
    have located : searched.backForwardList.items[start.getCurrentItemIndex.toNat]? =
        some currentItem := by
      rw [← index]
      exact (currentItem_located stillAttached current).2
    rw [reused] at ran
    cases ran
    refine reads_reused ?_ reading reuses ?_ ?_ index ?_
    · split
      · exact stillAttached
      · exact stillAttached
    · have window := tracksSearched.window.trans tracksRead.window
      split
      · exact window
      · exact window
    · exact (currentItem_located attached startCurrent).1
    · intro noWindow
      obtain ⟨value, same, storedAt⟩ :=
        storedAt_lastCommittedItem attached noWindow startCurrent reading
      have known := tracksSearched.stored storedAt
      obtain ⟨_, found, stored⟩ := id known
      rw [located] at found
      cases found
      refine ⟨value, same, ?_⟩
      rw [if_neg (by simp [stored])]
      exact known

/-- So can the URL that the pending item displays. -/
theorem addPendingItem_pending (attached : start.attachedToWebView = true)
    (ran : addPendingItem env url referrer transition initiationType option start =
      some ((), after)) :
    ∃ pending, AddsPending env start after url initiationType pending := by
  obtain ⟨_, _, _, reading, loads, plain, -, reads, placed⟩ :=
    addPendingItem_reads attached ran
  refine ⟨_, reads, ?_, placed⟩
  rw [displayedUrl, reading, Option.bind_some]
  dsimp only
  rw [← loads]
  unfold pendingOnce
  split
  · split <;> rfl
  · exact congrArg some (NavigationItem.getVirtualURL_of_plain plain)

/-! ## Writing to the pending item -/

theorem Placed.read_write (placed : manager.Placed) (item : NavigationItem) :
    getPendingItemInCurrentOrRestoredSession env (manager.writePendingItem item) =
      some (some item, manager.writePendingItem item) := by
  unfold writePendingItem
  rcases placed with new | ⟨window, first⟩ | ⟨window, attached, nonneg, inside⟩
  · rw [if_pos new]
    exact getPendingItem_of_new new
  · rw [if_neg (by omega), writeItemAtIndex, if_pos window, getPendingItem_of_history (by
      dsimp only; omega), getItemAtIndex_eq]
    dsimp only
    rw [if_pos first]
  · rw [if_neg (by omega), writeItemAtIndex, if_neg (by simp [window]), if_pos attached]
    grind [setNavigationItemInWKItem, StoredAt, backForwardList_setNavigationItemInWKItem,
      WKBackForwardList.items_setNavigationItem, getPendingItem_of_history,
      getItemAtIndex_of_storedAt, List.getElem?_modify_eq]

theorem Placed.of_withItem (placed : manager.Placed) (position : Nat) (item : NavigationItem) :
    (manager.withItem position item).Placed := by
  unfold Placed
  rw [items_withItem, List.length_modify]
  exact placed

end ChromiumIos.WKNavigationManager
