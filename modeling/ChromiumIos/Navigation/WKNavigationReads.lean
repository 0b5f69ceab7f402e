import ChromiumIos.Navigation.WKNavigationManager

/-!
# Looking at the history of the web view

Reading an item may store a new one with its entry.  It changes neither the
number of entries nor the current one, it always returns, and an item that was
read once is the item read from then on.
-/

namespace ChromiumIos

open Lib

/-! ## Storing an item with an entry -/

namespace WKBackForwardList

variable (list : WKBackForwardList) (position : Nat) (item : NavigationItem)

theorem length_backList_setNavigationItem :
    (list.setNavigationItem position item).backList.length = list.backList.length := by
  cases list <;> grind [backList, setNavigationItem]

theorem isSome_currentItem_setNavigationItem :
    (list.setNavigationItem position item).currentItem.isSome = list.currentItem.isSome := by
  cases list <;> grind [currentItem, setNavigationItem]

theorem items_setNavigationItem :
    (list.setNavigationItem position item).items =
      list.items.modify position fun entry => { entry with navigationItem := some item } := by
  cases list with
  | empty => simp [setNavigationItem, items, backList, currentItem, forwardList]
  | focused back current forward =>
    have whole : ∀ back current forward,
        (focused back current forward).items = back ++ current :: forward := by
      simp [items, backList, currentItem, forwardList]
    unfold setNavigationItem
    dsimp only
    split_ifs with before same
    · rw [whole, whole, modify_append, if_pos before]
    · simp [whole, modify_append, same]
    · rw [whole, whole, modify_append, if_neg before]
      grind

@[simp]
theorem length_items_setNavigationItem :
    (list.setNavigationItem position item).items.length = list.items.length := by
  rw [items_setNavigationItem, List.length_modify]

end WKBackForwardList

namespace WKNavigationManager

variable {env : NavigationEnvironment} {manager after : WKNavigationManager}
variable {index : Nat} {item : NavigationItem}

/-! ## What storing an item leaves as it is -/

theorem backForwardList_setNavigationItemInWKItem (manager : WKNavigationManager) (index : Nat)
    (item : NavigationItem) :
    (manager.setNavigationItemInWKItem index item).backForwardList =
      manager.backForwardList.setNavigationItem index item := by
  simp only [setNavigationItemInWKItem, backForwardList]
  cases manager.webView with
  | none | some webView => rfl

theorem getBackForwardListItemCount_setNavigationItemInWKItem (manager : WKNavigationManager)
    (index : Nat) (item : NavigationItem) :
    (manager.setNavigationItemInWKItem index item).getBackForwardListItemCount =
      manager.getBackForwardListItemCount := by
  simp only [getBackForwardListItemCount]
  rw [backForwardList_setNavigationItemInWKItem, WKBackForwardList.length_items_setNavigationItem]
  rfl

theorem getCurrentItemIndex_eq (manager : WKNavigationManager) :
    manager.getCurrentItemIndex =
      if manager.attachedToWebView then
        if manager.backForwardList.currentItem.isSome then
          (manager.backForwardList.backList.length : Int)
        else -1
      else manager.cachedCurrentItemIndex := by
  grind [getCurrentItemIndex]

theorem getCurrentItemIndex_setNavigationItemInWKItem (manager : WKNavigationManager)
    (index : Nat) (item : NavigationItem) :
    (manager.setNavigationItemInWKItem index item).getCurrentItemIndex =
      manager.getCurrentItemIndex := by
  rw [getCurrentItemIndex_eq, getCurrentItemIndex_eq, backForwardList_setNavigationItemInWKItem,
    WKBackForwardList.isSome_currentItem_setNavigationItem,
    WKBackForwardList.length_backList_setNavigationItem]
  rfl

/-! ## The entries -/

/-- Counting back from the current entry finds the entry at an index of the list. -/
theorem getWKItemAtIndex_eq (attached : manager.attachedToWebView) (index : Nat) :
    manager.getWKItemAtIndex index = manager.backForwardList.items[index]? := by
  unfold getWKItemAtIndex getBackForwardListItemCount
  rw [if_pos attached]
  split
  · grind
  · rw [getCurrentItemIndex_eq, if_pos attached]
    cases list : manager.backForwardList with
    | empty => rfl
    | focused _ _ _ =>
      simp only [WKBackForwardList.currentItem, Option.isSome_some, if_true,
        WKBackForwardList.itemAtIndex, WKBackForwardList.backList]
      rw [← at?_natCast]
      congr 1
      omega

def withItem (manager : WKNavigationManager) (index : Nat) (item : NavigationItem) :
    WKNavigationManager :=
  manager.advanceTimeSmoother.setNavigationItemInWKItem index item

theorem items_withItem (manager : WKNavigationManager) (index : Nat) (item : NavigationItem) :
    (manager.withItem index item).backForwardList.items =
      manager.backForwardList.items.modify index
        fun entry => { entry with navigationItem := some item } := by
  simp only [withItem]
  rw [backForwardList_setNavigationItemInWKItem, WKBackForwardList.items_setNavigationItem]
  rfl

/-! ## The outcomes of a read -/

section Returns

variable (env)

/-- Creating an item never fails its assertion. -/
theorem createNavigationItemWithRewriters_returns (isPlaceholderUrl : GURL → Bool) (url : GURL)
    (referrer : Referrer) (transition : PageTransition)
    (initiationType : NavigationInitiationType) (previousUrl : GURL)
    (rewriters : List URLRewriter) :
    ∃ item, createNavigationItemWithRewriters env isPlaceholderUrl url referrer
      transition initiationType previousUrl rewriters = some item :=
  ⟨_, createNavigationItemWithRewriters_eq _ _ _ _ _ _ _ _ rfl⟩

theorem rebuiltItem_returns (wkItem : WKBackForwardListItem)
    (previousWKItem : Option WKBackForwardListItem) (timestamp : Int) :
    ∃ item, rebuiltItem env wkItem previousWKItem timestamp = some item := by
  unfold rebuiltItem
  dsimp only
  obtain ⟨item, created⟩ := createNavigationItemWithRewriters_returns env
    env.isPlaceholderUrl wkItem.url _ PageTransition.link .rendererInitiated
    ((previousWKItem.map WKBackForwardListItem.url).getD .empty) []
  rw [created]
  exact ⟨_, rfl⟩

theorem createItemAtIndex_returns (manager : WKNavigationManager) (index : Nat)
    (wkItem : WKBackForwardListItem) :
    ∃ item, createItemAtIndex env index wkItem manager =
      some (item, manager.withItem index item) := by
  obtain ⟨item, rebuilt⟩ := rebuiltItem_returns env wkItem
    (if index = 0 then none else manager.getWKItemAtIndex (index - 1)) manager.smoothedTime
  refine ⟨item, ?_⟩
  simp only [createItemAtIndex]
  rw [Stateful.run_get, Stateful.run_bind (Stateful.run_lift rebuilt manager)]
  rfl

end Returns

/-- A detached manager answers from its cache. -/
theorem read_detached (detached : manager.attachedToWebView = false) :
    cacheNavigationItemImplAtIndex env index manager =
      some (manager.cachedItems[index]?, manager) := by
  have notAttached : ¬ manager.attachedToWebView := by simp [detached]
  simp only [cacheNavigationItemImplAtIndex]
  rw [Stateful.run_get, if_pos notAttached]
  unfold getBackForwardListItemCount
  rw [if_neg notAttached]
  split
  · rename_i outside
    rw [List.getElem?_eq_none outside]
    rfl
  · rfl

theorem read_attached (attached : manager.attachedToWebView) :
    cacheNavigationItemImplAtIndex env index manager =
      match manager.backForwardList.items[index]? with
      | none => some (none, manager)
      | some wkItem =>
        match wkItem.navigationItem with
        | some item => some (some item, manager)
        | none => (createItemAtIndex env index wkItem >>= fun item => pure (some item) :
            Run (Option NavigationItem)) manager := by
  simp only [cacheNavigationItemImplAtIndex]
  rw [Stateful.run_get, getWKItemAtIndex_eq attached, if_neg (not_not.mpr attached)]
  unfold getBackForwardListItemCount
  rw [if_pos attached]
  split
  · rename_i outside
    rw [List.getElem?_eq_none outside]
    rfl
  · cases manager.backForwardList.items[index]? with
    | none => rfl
    | some wkItem =>
      dsimp only
      cases wkItem.navigationItem <;> rfl

theorem read_outside (attached : manager.attachedToWebView)
    (outside : manager.backForwardList.items[index]? = none) :
    cacheNavigationItemImplAtIndex env index manager = some (none, manager) := by
  rw [read_attached attached, outside]

variable {entry : WKBackForwardListItem} {value : Option NavigationItem}

theorem read_stored (attached : manager.attachedToWebView)
    (found : manager.backForwardList.items[index]? = some entry)
    (stored : entry.navigationItem = some item) :
    cacheNavigationItemImplAtIndex env index manager = some (some item, manager) := by
  simp [read_attached attached, found, stored]

theorem read_missing (attached : manager.attachedToWebView)
    (found : manager.backForwardList.items[index]? = some entry)
    (missing : entry.navigationItem = none) :
    ∃ item, cacheNavigationItemImplAtIndex env index manager =
      some (some item, manager.withItem index item) := by
  obtain ⟨item, created⟩ := createItemAtIndex_returns env manager index entry
  refine ⟨item, ?_⟩
  rw [read_attached attached, found]
  dsimp only
  rw [missing]
  exact Stateful.run_bind created

/-- A read leaves the state alone, or it stores an item with an entry that has none. -/
theorem read_cases (env : NavigationEnvironment) (manager : WKNavigationManager)
    (index : Nat) :
    (∃ value, cacheNavigationItemImplAtIndex env index manager = some (value, manager)) ∨
      ∃ item entry, manager.attachedToWebView ∧
        manager.backForwardList.items[index]? = some entry ∧ entry.navigationItem = none ∧
        cacheNavigationItemImplAtIndex env index manager =
          some (some item, manager.withItem index item) := by
  cases attached : manager.attachedToWebView with
  | false => exact .inl ⟨_, read_detached attached⟩
  | true =>
    cases found : manager.backForwardList.items[index]? with
    | none => exact .inl ⟨none, read_outside attached found⟩
    | some entry =>
      cases stored : entry.navigationItem with
      | some item => exact .inl ⟨some item, read_stored attached found stored⟩
      | none =>
        obtain ⟨item, read⟩ := @read_missing env _ _ _ attached found stored
        grind

/-! ## Reads are memoised -/

theorem read_withItem (attached : manager.attachedToWebView)
    (found : manager.backForwardList.items[index]? = some entry) (item : NavigationItem) :
    cacheNavigationItemImplAtIndex env index (manager.withItem index item) =
      some (some item, manager.withItem index item) := by
  have modified : (manager.withItem index item).backForwardList.items[index]? =
      some { entry with navigationItem := some item } := by
    simp [items_withItem, found]
  exact read_stored attached modified rfl

theorem withItem_ne_self (found : manager.backForwardList.items[index]? = some entry)
    (missing : entry.navigationItem = none) (item : NavigationItem) :
    manager.withItem index item ≠ manager := by
  grind [items_withItem]

/-- The other entries keep their items. -/
theorem read_withItem_of_ne (attached : manager.attachedToWebView) {settled : Nat}
    (different : index ≠ settled) (item : NavigationItem)
    (known : cacheNavigationItemImplAtIndex env settled manager = some (value, manager)) :
    cacheNavigationItemImplAtIndex env settled (manager.withItem index item) =
      some (value, manager.withItem index item) := by
  have same : (manager.withItem index item).backForwardList.items[settled]? =
      manager.backForwardList.items[settled]? := by
    simp [items_withItem, different]
  cases found : manager.backForwardList.items[settled]? with
  | none =>
    rw [read_outside attached found] at known
    cases known
    exact read_outside attached (same.trans found)
  | some entry =>
    cases stored : entry.navigationItem with
    | some _ =>
      rw [read_stored attached found stored] at known
      cases known
      exact read_stored attached (same.trans found) stored
    | none =>
      obtain ⟨made, read⟩ := @read_missing env _ _ _ attached found stored
      rw [read] at known
      exact absurd (congrArg Prod.snd (Option.some.inj known))
        (withItem_ne_self found stored made)

theorem cacheNavigationItemImplAtIndex_memoised :
    Memoised (cacheNavigationItemImplAtIndex env) where
  settles := by
    intro index value state after read
    rcases read_cases env state index with
      ⟨same, kept⟩ | ⟨item, entry, attached, found, -, made⟩
    · grind
    · grind [read_withItem]
  stable := by
    intro settled index value other state after known read
    rcases read_cases env state index with
      ⟨same, kept⟩ | ⟨item, entry, attached, found, missing, made⟩
    · grind
    · grind [read_withItem_of_ne]

/-- Reads neither move the current entry nor touch anything but the stored items. -/
structure SameHistory (before after : WKNavigationManager) : Prop where
  currentItemIndex : after.getCurrentItemIndex = before.getCurrentItemIndex
  itemCount : after.getItemCount = before.getItemCount
  pendingItemIndex : after.pendingItemIndex = before.pendingItemIndex
  emptyWindowOpenItem : after.emptyWindowOpenItem = before.emptyWindowOpenItem
  transientItem : after.transientItem = before.transientItem

namespace SameHistory

variable {before middle : WKNavigationManager}

theorem refl (manager : WKNavigationManager) : SameHistory manager manager :=
  ⟨rfl, rfl, rfl, rfl, rfl⟩

theorem withItem (same : SameHistory before manager) (index : Nat) (item : NavigationItem) :
    SameHistory before (manager.withItem index item) where
  currentItemIndex :=
    (getCurrentItemIndex_setNavigationItemInWKItem _ index item).trans same.currentItemIndex
  itemCount := by
    rw [← same.itemCount]
    simp only [getItemCount, WKNavigationManager.withItem]
    rw [getBackForwardListItemCount_setNavigationItemInWKItem]
    rfl
  pendingItemIndex := same.pendingItemIndex
  emptyWindowOpenItem := same.emptyWindowOpenItem
  transientItem := same.transientItem

theorem getIndexForOffset (same : SameHistory before after) (offset : Int) :
    after.getIndexForOffset offset = before.getIndexForOffset offset := by
  simp only [WKNavigationManager.getIndexForOffset]
  rw [same.currentItemIndex, same.pendingItemIndex, same.emptyWindowOpenItem, same.transientItem]

end SameHistory

theorem cacheNavigationItemImplAtIndex_keeps (index : Nat) :
    Keeps (SameHistory manager) (cacheNavigationItemImplAtIndex env index) := by
  intro state value after same read
  rcases read_cases env state index with ⟨_, kept⟩ | ⟨item, _, -, -, -, made⟩
  · rw [kept] at read
    cases read
    exact same
  · grind [same.withItem]

/-! ## Items by a signed index -/

theorem getItemAtIndex_eq (env : NavigationEnvironment) (index : Int)
    (manager : WKNavigationManager) :
    getItemAtIndex env index manager =
      match manager.emptyWindowOpenItem with
      | some item => some (if index = 0 then some item else none, manager)
      | none =>
        if index < 0 then some (none, manager)
        else cacheNavigationItemImplAtIndex env index.toNat manager := by
  simp only [getItemAtIndex]
  rw [Stateful.run_get]
  cases manager.emptyWindowOpenItem with
  | some _ => rfl
  | none =>
    dsimp only
    split <;> rfl

/-- A read that can change the state is a read of an entry of the list. -/
theorem getItemAtIndex_cases (env : NavigationEnvironment) (index : Int)
    (manager : WKNavigationManager) :
    (∃ value, ∀ {state : WKNavigationManager},
        state.emptyWindowOpenItem = manager.emptyWindowOpenItem →
        getItemAtIndex env index state = some (value, state)) ∨
      ∀ {state : WKNavigationManager},
        state.emptyWindowOpenItem = manager.emptyWindowOpenItem →
        getItemAtIndex env index state =
          cacheNavigationItemImplAtIndex env index.toNat state := by
  cases window : manager.emptyWindowOpenItem with
  | some item =>
    left
    refine ⟨if index = 0 then some item else none, ?_⟩
    intro state same
    rw [getItemAtIndex_eq, same]
  | none =>
    by_cases negative : index < 0
    · left
      refine ⟨none, ?_⟩
      intro state same
      rw [getItemAtIndex_eq, same, if_pos negative]
    · right
      intro state same
      rw [getItemAtIndex_eq, same, if_neg negative]

theorem getItemAtIndex_keeps (index : Int) :
    Keeps (SameHistory manager) (getItemAtIndex env index) := by
  intro state value after same read
  rcases getItemAtIndex_cases env index state with ⟨fixed, constant⟩ | entry
  · grind
  · rw [entry rfl] at read
    exact cacheNavigationItemImplAtIndex_keeps index.toNat same read

/-- A read stores at most one item. -/
theorem getItemAtIndex_state {index : Int}
    (read : getItemAtIndex env index manager = some (value, after)) :
    after = manager ∨ ∃ position item, after = manager.withItem position item := by
  rcases getItemAtIndex_cases env index manager with ⟨fixed, constant⟩ | entry
  · grind
  · rw [entry rfl] at read
    rcases read_cases env manager index.toNat with ⟨_, kept⟩ | ⟨item, _, -, -, -,
      made⟩ <;> grind

theorem getItemAtIndex_returns (env : NavigationEnvironment) (index : Int)
    (manager : WKNavigationManager) :
    ∃ value after, getItemAtIndex env index manager = some (value, after) := by
  rcases getItemAtIndex_cases env index manager with ⟨fixed, constant⟩ | entry
  · simp [constant]
  · rw [entry rfl]
    rcases read_cases env manager index.toNat with ⟨value, kept⟩ | ⟨item, _, -, -, -,
      made⟩ <;> grind

theorem getItemAtIndex_memoised : Memoised (getItemAtIndex env) where
  settles := by
    intro index value state after read
    have window := (getItemAtIndex_keeps index (.refl state) read).emptyWindowOpenItem
    rcases getItemAtIndex_cases env index state with ⟨fixed, constant⟩ | entry
    · grind
    · rw [entry rfl] at read
      rw [entry window]
      exact cacheNavigationItemImplAtIndex_memoised.settles read
  stable := by
    intro settled index value other state after known read
    have window := (getItemAtIndex_keeps index (.refl state) read).emptyWindowOpenItem
    rcases getItemAtIndex_cases env settled state with ⟨fixed, constant⟩ | entry
    · grind
    · rw [entry rfl] at known
      rw [entry window]
      rcases getItemAtIndex_cases env index state with ⟨otherFixed, still⟩ | otherEntry
      · grind
      · rw [otherEntry rfl] at read
        exact cacheNavigationItemImplAtIndex_memoised.stable known read

theorem getLastCommittedItemInCurrentOrRestoredSession_state
    (read : getLastCommittedItemInCurrentOrRestoredSession env manager =
      some (value, after)) :
    after = manager ∨ ∃ position item, after = manager.withItem position item := by
  unfold getLastCommittedItemInCurrentOrRestoredSession at read
  rw [Stateful.run_get] at read
  cases window : manager.emptyWindowOpenItem with
  | some _ =>
    rw [window] at read
    cases read
    exact .inl rfl
  | none =>
    rw [window] at read
    dsimp only at read
    split at read
    · obtain ⟨-, read⟩ := Stateful.dcheck_run read
      cases read
      exact .inl rfl
    · exact getItemAtIndex_state read

/-! ## What every read keeps -/

section Kept

variable {Holds : WKNavigationManager → Prop}
variable (kept : ∀ index, Keeps Holds (getItemAtIndex env index))
include kept

theorem keeps_getPendingItemInCurrentOrRestoredSession :
    Keeps Holds (getPendingItemInCurrentOrRestoredSession env) :=
  Keeps.get.bind fun _ => .ite (fun _ => .pure _) fun _ => kept _

theorem keeps_getLastCommittedItemInCurrentOrRestoredSession :
    Keeps Holds (getLastCommittedItemInCurrentOrRestoredSession env) := by
  refine Keeps.get.bind fun manager => ?_
  cases manager.emptyWindowOpenItem with
  | some _ => exact .pure _
  | none =>
    refine .ite (fun _ => ?_) fun _ => kept _
    exact (Keeps.lift _).bind fun _ => .pure _

theorem keeps_getPendingItem : Keeps Holds (getPendingItem env) :=
  Keeps.get.bind fun _ => .ite (fun _ => .pure _) fun _ =>
    keeps_getPendingItemInCurrentOrRestoredSession kept

theorem keeps_getLastCommittedItem : Keeps Holds (getLastCommittedItem env) :=
  Keeps.get.bind fun _ => .ite (fun _ => .pure _) fun _ =>
    (keeps_getLastCommittedItemInCurrentOrRestoredSession kept).bind fun _ => .pure _

theorem keeps_lastItemWithUserAgentType (count : Nat) :
    Keeps Holds (lastItemWithUserAgentType env count) := by
  induction count with
  | zero => exact .pure _
  | succ _ ih =>
    refine (kept _).bind fun found => (Keeps.lift found).bind fun item => ?_
    exact .ite (fun _ => .pure _) fun _ => ih

theorem keeps_getLastCommittedItemWithUserAgentType :
    Keeps Holds (getLastCommittedItemWithUserAgentType env) :=
  Keeps.get.bind fun _ => keeps_lastItemWithUserAgentType kept _

end Kept

end WKNavigationManager

end ChromiumIos
