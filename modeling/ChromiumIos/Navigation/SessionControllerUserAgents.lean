import ChromiumIos.Navigation.DeferredLoads
import ChromiumIos.Navigation.PendingUserAgents
import ChromiumIos.Navigation.SessionControllerItems

/-!
# The user agents in the history of the session controller

The user agent of a load is taken from the last committed item whose URL needs one.
That item has a user agent as long as every item of the history does, and the pending
item has to have one before it is committed.  Three operations change the URLs of an
item that is there already: a redirect, a state that is replaced, and a load that
displays another URL than the one it loads.
-/

namespace ChromiumIos.SessionController

open Lib
open WKNavigationManager (initiationTypeOf describeLoad describeLoad_hasUserAgent
  addHeadersAndPostData addHeadersAndPostData_hasUserAgent)

variable {env : NavigationEnvironment} {controller before after : SessionController}
variable {item : NavigationItem} {url : GURL} {option : UserAgentOverrideOption}

/-! ## Loads -/

def loadURLWithParams (env : NavigationEnvironment) (controller : SessionController)
    (params : WebLoadParams) : Checked SessionController := do
  dcheck (params.transitionType &&& PageTransition.forwardBack = 0)
  let controller ← controller.legacyAddPendingItem env params.url params.referrer
    params.transitionType (initiationTypeOf params) params.userAgentOverrideOption
  match ← controller.pendingItem with
  | some pendingItem => do
      let lastCommittedItem ← controller.lastCommittedItem
      dcheck (controller.transientItem = none)
      let item ← addHeadersAndPostData params
        (describeLoad env params lastCommittedItem pendingItem)
      return controller.writePendingItem item
  | none => do
      dcheck (controller.transientItem = none)
      let item ← ← controller.lastCommittedItem
      let item ← addHeadersAndPostData params item
      return controller.writeLastCommittedItem item

/-! ## When URLs are given to items that have the user agent for them -/

def GivesURL (env : NavigationEnvironment) (controller : SessionController) :
    Operation → Prop
  | .updatePendingItemUrl url =>
    ∀ item, controller.pendingItem = some (some item) → url ≠ item.url →
      env.urlNeedsUserAgentType url = true → item.userAgentType ≠ .none
  | .updateCurrentItemForReplaceState url _ =>
    ∀ item, controller.currentItem = some (some item) →
      env.urlNeedsUserAgentType url = true → item.userAgentType ≠ .none
  | _ => True

/-- A load that displays a URL with a user agent makes an item for such a URL, or comes back to
a pending item that has a user agent. -/
def DisplaysURL (env : NavigationEnvironment) (controller : SessionController)
    (params : WebLoadParams) : Prop :=
  env.isValid params.virtualUrl = true →
    env.urlNeedsUserAgentType params.virtualUrl = true →
      ∀ creates loaded,
        controller.withoutPendingIndex.shouldCreatePendingItem params.url params.transitionType
          params.userAgentOverrideOption = some creates →
        controller.urlToLoad env params.url (initiationTypeOf params) = some loaded →
          if creates then env.urlNeedsUserAgentType loaded = true
          else ∀ item, controller.newPendingItem = some item → item.userAgentType ≠ .none

/-- A controller that is reached while URLs are given to items with the user agent for them.
Items from a stored session have the user agent they need. -/
inductive ReachedGiving (env : NavigationEnvironment) : SessionController → Prop where
  | empty : ReachedGiving env initWithBrowserState
  | restored {items : List NavigationItem} {lastCommittedItemIndex : BitVec 64}
      (inside : StartsInside items lastCommittedItemIndex)
      (stored : ∀ item ∈ items, item.HasUserAgent env) :
      ReachedGiving env (initWithNavigationItems items lastCommittedItemIndex)
  | performs {before after : SessionController} {operation : Operation}
      (run : ReachedGiving env before)
      (gives : GivesURL env before operation)
      (sources : ∀ source, operation = .copyStateFromSessionControllerAndPrune source →
        ReachedGiving env source)
      (performed : before.perform env operation = some after) :
      ReachedGiving env after
  | loads {before after : SessionController} {params : WebLoadParams}
      (run : ReachedGiving env before)
      (displays : DisplaysURL env before params)
      (loaded : before.loadURLWithParams env params = some after) :
      ReachedGiving env after

/-! ## The items of the history -/

structure ItemsHaveUserAgents (env : NavigationEnvironment)
    (controller : SessionController) : Prop where
  history : ∀ item ∈ controller.items, item.HasUserAgent env
  pending : ∀ item, controller.newPendingItem = some item → item.HasUserAgent env

namespace ItemsHaveUserAgents

variable (carried : before.ItemsHaveUserAgents env)
include carried

/-- Only the items that an operation adds have to be looked at. -/
theorem of_moves {New : NavigationItem → Prop} (moves : MovesItems New before after)
    (given : ∀ item, New item → item.HasUserAgent env) :
    after.ItemsHaveUserAgents env where
  history := by grind [moves.history, carried.history]
  pending := by
    grind [moves.pending, carried.pending]

theorem of_same (items : after.items = before.items)
    (pending : after.newPendingItem = before.newPendingItem) :
    after.ItemsHaveUserAgents env := by
  constructor
  · rw [items]
    exact carried.history
  · rw [pending]
    exact carried.pending

omit carried

/-! ### Items that are read -/

theorem pendingItem (carried : controller.ItemsHaveUserAgents env)
    (read : controller.pendingItem = some (some item)) : item.HasUserAgent env := by
  grind [pendingItem_of_new, mem_of_pendingItem, carried.pending, carried.history]

theorem currentItem (carried : controller.ItemsHaveUserAgents env)
    (uncovered : controller.transientItem = none)
    (read : controller.currentItem = some (some item)) : item.HasUserAgent env := by
  unfold SessionController.currentItem at read
  rw [uncovered] at read
  obtain ⟨pending, reading, read⟩ := bind_eq_some read
  grind [mem_of_lastCommittedItem, carried.pendingItem, carried.history]

/-! ### Items that are written -/

include carried

theorem setAt (index : Int) (has : item.HasUserAgent env) :
    ItemsHaveUserAgents env
      { before with items := Lib.setAt before.items index item } where
  history := by
    grind [mem_or_eq_of_mem_setAt, carried.history]
  pending := carried.pending

omit carried

theorem writePendingItem (carried : before.ItemsHaveUserAgents env)
    (has : item.HasUserAgent env) :
    (before.writePendingItem item).ItemsHaveUserAgents env := by
  unfold SessionController.writePendingItem
  split
  · refine ⟨carried.history, fun element found => ?_⟩
    cases found
    exact has
  · exact carried.setAt _ has

/-- A transient item may be any one. -/
theorem writeCurrentItem (carried : before.ItemsHaveUserAgents env)
    (has : before.transientItem = none → item.HasUserAgent env)
    (written : before.writeCurrentItem item = some after) :
    after.ItemsHaveUserAgents env := by
  unfold SessionController.writeCurrentItem at written
  cases covering : before.transientItem with
  | some _ =>
    rw [covering] at written
    cases written
    exact ⟨carried.history, carried.pending⟩
  | none =>
    rw [covering] at written
    obtain ⟨pending, -, written⟩ := bind_eq_some written
    cases pending with
    | some _ =>
      cases written
      grind [carried.writePendingItem]
    | none =>
      cases written
      exact carried.setAt _ (has covering)

/-! ### Operations -/

section Additions

variable {referrer : Referrer} {transition : PageTransition}
variable {initiationType : NavigationInitiationType}

theorem addPendingItem (carried : before.ItemsHaveUserAgents env)
    (added : before.addPendingItem env url referrer transition initiationType option =
      some after) : after.ItemsHaveUserAgents env := by
  rcases addPendingItem_cases added with rfl | ⟨made, created, creation, -, rfl⟩
  · exact carried.of_same rfl rfl
  · obtain ⟨⟨_, making⟩, rfl⟩ := createNavigationItem_fields creation
    obtain ⟨plain, needed⟩ := createNavigationItemWithRewriters_userAgentType making
    refine ⟨carried.history, fun item found => ?_⟩
    cases found
    exact .of_plain plain needed

theorem legacyAddPendingItem (carried : before.ItemsHaveUserAgents env)
    (added : before.legacyAddPendingItem env url referrer transition initiationType
      option = some after) : after.ItemsHaveUserAgents env := by
  obtain ⟨_, addition, updates⟩ := legacyAddPendingItem_cases added
  have still := carried.addPendingItem addition
  rcases updates with ⟨-, rfl⟩ | ⟨pendingItem, _, typed, reading, -, updating, rfl⟩
  · exact still
  · exact still.writePendingItem
      (updatePendingItemUserAgentType_hasUserAgent (still.pendingItem reading) updating)

end Additions

include carried

theorem updatePendingItemUrl (gives : GivesURL env before (.updatePendingItemUrl url))
    (updated : before.updatePendingItemUrl url = some after) :
    after.ItemsHaveUserAgents env := by
  rcases updatePendingItemUrl_cases updated with rfl | ⟨pendingItem, reading, different, -, rfl⟩
  · exact carried
  · have needed := gives pendingItem reading different
    have redirected := ((carried.pendingItem reading).setURL needed).setVirtualURL needed
    exact carried.writePendingItem ⟨redirected.url, redirected.virtualUrl⟩

omit carried

variable {stateObject : Option String} {now : Int}

include carried

theorem commitPendingItem (committed : before.commitPendingItem now = some after) :
    after.ItemsHaveUserAgents env := by
  obtain ⟨moved, moving, stamps⟩ := commitPendingItem_cases committed
  have still : moved.ItemsHaveUserAgents env := by
    refine carried.of_moves (commitIfPending_moves moving) ?_
    rintro _ ⟨pendingItem, reading, rfl⟩
    have has := carried.pendingItem reading
    exact ⟨has.url, has.virtualUrl⟩
  rcases stamps with ⟨-, rfl⟩ | ⟨current, reading, writing⟩
  · exact still
  · have stamped : (moved.advanceTimeSmoother now).ItemsHaveUserAgents env :=
      still.of_same rfl rfl
    refine stamped.writeCurrentItem (fun uncovered => ?_) writing
    have has := still.currentItem uncovered reading
    exact ⟨has.url, has.virtualUrl⟩

theorem addTransientItem (added : before.addTransientItem env url now = some after) :
    after.ItemsHaveUserAgents env := by
  obtain ⟨⟨_, _⟩, creation, added⟩ := bind_eq_some added
  cases added
  obtain ⟨-, rfl⟩ := createNavigationItem_fields creation
  exact carried.of_same rfl rfl

theorem legacyAddTransientItem
    (added : before.legacyAddTransientItem env url now = some after) :
    after.ItemsHaveUserAgents env := by
  obtain ⟨middle, addition, covers⟩ := legacyAddTransientItem_cases added
  have still := carried.addTransientItem addition
  grind [still.of_same]

theorem pushNewItem {transition : PageTransition}
    (pushed : before.pushNewItem env url stateObject transition now = some after) :
    after.ItemsHaveUserAgents env := by
  obtain ⟨_, _, _, _, _, _, making, typing, moves⟩ := pushNewItem_moves pushed
  have plain := (createNavigationItemWithRewriters_userAgentType making).1
  have has := NavigationItem.setUserAgentType_hasUserAgent plain typing
  refine carried.of_moves moves ?_
  rintro _ rfl
  exact ⟨has.url, has.virtualUrl⟩

theorem updateCurrentItemForReplaceState
    (gives : GivesURL env before (.updateCurrentItemForReplaceState url stateObject))
    (updated : before.updateCurrentItemForReplaceState url stateObject = some after) :
    after.ItemsHaveUserAgents env := by
  obtain ⟨uncovered, updated⟩ := dcheck_then updated
  obtain ⟨_, reading, updated⟩ := bind_eq_some updated
  obtain ⟨currentItem, found, updated⟩ := bind_eq_some updated
  cases found
  refine carried.writeCurrentItem (fun _ => ?_) updated
  have replaced := (carried.currentItem uncovered reading).setURL (gives currentItem reading)
  exact ⟨replaced.url, replaced.virtualUrl⟩

theorem finishGoToIndex {index : Nat}
    (gone : before.finishGoToIndex env index = some after) :
    after.ItemsHaveUserAgents env := by
  refine carried.of_moves (finishGoToIndex_moves gone) ?_
  rintro _ ⟨old, member, rfl⟩
  have has := carried.history old member
  exact ⟨has.url, has.virtualUrl⟩

theorem perform {operation : Operation} (gives : GivesURL env before operation)
    (sources : ∀ source, operation = .copyStateFromSessionControllerAndPrune source →
      source.ItemsHaveUserAgents env)
    (performed : before.perform env operation = some after) :
    after.ItemsHaveUserAgents env := by
  cases operation with
  | addPendingItem => exact carried.addPendingItem performed
  | legacyAddPendingItem => exact carried.legacyAddPendingItem performed
  | updatePendingItemUrl => exact carried.updatePendingItemUrl gives performed
  | commitPendingItem => exact carried.commitPendingItem performed
  | addTransientItem => exact carried.addTransientItem performed
  | legacyAddTransientItem => exact carried.legacyAddTransientItem performed
  | pushNewItem => exact carried.pushNewItem performed
  | updateCurrentItemForReplaceState =>
    exact carried.updateCurrentItemForReplaceState gives performed
  | discardNonCommittedItems =>
    exact carried.of_moves (discardNonCommittedItems_moves performed) fun _ => False.elim
  | goToItemAtIndex =>
    exact carried.of_moves (goToItemAtIndex_moves performed) fun _ => False.elim
  | finishGoToIndex => exact carried.finishGoToIndex performed
  | removeItemAtIndex =>
    exact carried.of_moves (removeItemAtIndex_moves performed) fun _ => False.elim
  | setPendingItemIndex =>
    exact carried.of_moves (setPendingItemIndex_moves performed) fun _ => False.elim
  | copyStateFromSessionControllerAndPrune source =>
    exact carried.of_moves (copyStateFromSessionControllerAndPrune_moves performed)
      (sources source rfl).history
  | addTransientURLRewriter =>
    cases performed
    exact carried.of_same rfl rfl

end ItemsHaveUserAgents

/-! ## Loads give items a user agent -/

section Loads

variable {params : WebLoadParams} {referrer : Referrer} {transition : PageTransition}
variable {initiationType : NavigationInitiationType}

/-- A pending item has been made for the URL that is loaded, or it was pending already; a user
agent that it has then is at most replaced by another one. -/
theorem legacyAddPendingItem_pending (wf : before.WellIndexed)
    (added : before.legacyAddPendingItem env url referrer transition initiationType
      option = some after)
    (read : after.pendingItem = some (some item)) :
    ∃ creates loaded,
      before.withoutPendingIndex.shouldCreatePendingItem url transition option = some creates ∧
      before.urlToLoad env url initiationType = some loaded ∧
      if creates then env.urlNeedsUserAgentType loaded = true → item.userAgentType ≠ .none
      else ∃ old, before.newPendingItem = some old ∧
        (old.userAgentType ≠ .none → item.userAgentType ≠ .none) := by
  obtain ⟨loaded, loads⟩ : ∃ loaded,
      before.urlToLoad env url initiationType = some loaded := wf.urlToLoad
  obtain ⟨middle, addition, -⟩ := bind_eq_some added
  have adds : before.addPendingItem env url referrer transition initiationType option =
    _ := addPendingItem_eq loads
  obtain ⟨creates, decided, result⟩ := Option.map_eq_some_iff.mp (adds.symm.trans addition)
  have new : middle.pendingItemIndex = -1 := by
    rw [← result]
    cases creates <;> rfl
  obtain ⟨inherited, inherits⟩ : ∃ inherited,
      middle.getLastCommittedItemWithUserAgentType env = some inherited :=
    ((addPendingItem_keeps addition).wellIndexed wf).getLastCommittedItemWithUserAgentType
  rw [legacyAddPendingItem_of_added addition new inherits] at added
  refine ⟨creates, loaded, decided, loads, ?_⟩
  have updates : ∃ old, middle.newPendingItem = some old ∧
      (old.userAgentType ≠ .none → item.userAgentType ≠ .none) := by
    cases pending : middle.newPendingItem with
    | none =>
      grind [pendingItem_of_new]
    | some _ =>
      rw [pending] at added
      obtain ⟨typed, updated, final⟩ := Option.map_eq_some_iff.mp added
      grind [pendingItem_of_new, updatePendingItemUserAgentType_present]
  obtain ⟨old, pending, keeps⟩ := updates
  cases creates with
  | false =>
    rw [← result] at pending
    exact ⟨old, pending, keeps⟩
  | true =>
    rw [← result] at pending
    cases pending
    intro needed
    simp [createdItem, keeps, needed]

theorem loadURLWithParams_keeps
    (loaded : before.loadURLWithParams env params = some after) :
    KeepsIndices before after := by
  obtain ⟨-, loaded⟩ := dcheck_then loaded
  obtain ⟨middle, adding, loaded⟩ := bind_eq_some loaded
  refine (legacyAddPendingItem_keeps adding).trans ?_
  obtain ⟨pending, -, loaded⟩ := bind_eq_some loaded
  cases pending with
  | some _ =>
    obtain ⟨last, -, loaded⟩ := bind_eq_some loaded
    obtain ⟨-, loaded⟩ := dcheck_then loaded
    obtain ⟨described, -, loaded⟩ := bind_eq_some loaded
    grind [bind_eq_some, writePendingItem_keeps]
  | none =>
    obtain ⟨-, loaded⟩ := dcheck_then loaded
    obtain ⟨_, -, loaded⟩ := bind_eq_some loaded
    obtain ⟨_, -, loaded⟩ := bind_eq_some loaded
    obtain ⟨_, -, loaded⟩ := bind_eq_some loaded
    cases loaded
    exact ⟨length_setAt .., rfl, rfl, .inl rfl⟩

theorem ItemsHaveUserAgents.loadURLWithParams (wf : before.WellIndexed)
    (carried : before.ItemsHaveUserAgents env)
    (displays : DisplaysURL env before params)
    (loaded : before.loadURLWithParams env params = some after) :
    after.ItemsHaveUserAgents env := by
  obtain ⟨-, loaded⟩ := dcheck_then loaded
  obtain ⟨middle, adding, loaded⟩ := bind_eq_some loaded
  have still := carried.legacyAddPendingItem adding
  obtain ⟨pending, reading, loaded⟩ := bind_eq_some loaded
  cases pending with
  | some _ =>
    obtain ⟨last, -, loaded⟩ := bind_eq_some loaded
    obtain ⟨-, loaded⟩ := dcheck_then loaded
    obtain ⟨described, describing, loaded⟩ := bind_eq_some loaded
    cases loaded
    refine still.writePendingItem (addHeadersAndPostData_hasUserAgent ?_ describing)
    refine describeLoad_hasUserAgent (still.pendingItem reading) fun valid needed => ?_
    obtain ⟨creates, url, decided, loads, outcome⟩ :=
      legacyAddPendingItem_pending wf adding reading
    have shown := displays valid needed creates url decided loads
    grind
  | none =>
    obtain ⟨-, loaded⟩ := dcheck_then loaded
    obtain ⟨_, readingLast, loaded⟩ := bind_eq_some loaded
    obtain ⟨lastItem, found, loaded⟩ := bind_eq_some loaded
    obtain ⟨_, describing, loaded⟩ := bind_eq_some loaded
    cases loaded
    cases found
    refine still.setAt _ (addHeadersAndPostData_hasUserAgent ?_ describing)
    exact still.history lastItem (mem_of_lastCommittedItem readingLast)

end Loads

/-! ## Runs -/

/-- The search for a user agent ends, and what it finds is a committed item with one; every
committed item that displays a URL with a user agent has one. -/
structure HasUserAgents (env : NavigationEnvironment) (controller : SessionController) :
    Prop where
  search : ∃ found, controller.getLastCommittedItemWithUserAgentType env = some found ∧
    ∀ item, found = some item → item.userAgentType ≠ .none ∧
      ∃ index : Nat, index ≤ controller.lastCommittedItemIndex ∧
        controller.items[index]? = some item
  items : ∀ item ∈ controller.items,
    env.urlNeedsUserAgentType item.getVirtualURL = true → item.userAgentType ≠ .none

theorem lastItemWithUserAgentType_found {items : List NavigationItem} {count : Nat}
    (found : lastItemWithUserAgentType env items count = some (some item)) :
    env.urlNeedsUserAgentType item.url = true ∧
      ∃ index < count, items[index]? = some item := by
  induction count with
  | zero => cases found
  | succ _ _ =>
    obtain ⟨last, located, found⟩ := bind_eq_some found
    grind

theorem ItemsHaveUserAgents.hasUserAgents (carried : controller.ItemsHaveUserAgents env)
    (wf : controller.WellIndexed) : controller.HasUserAgents env where
  search := by
    obtain ⟨found, searched⟩ : ∃ found,
        controller.getLastCommittedItemWithUserAgentType env = some found :=
      wf.getLastCommittedItemWithUserAgentType
    refine ⟨found, searched, ?_⟩
    rintro item rfl
    obtain ⟨needed, index, before, located⟩ := lastItemWithUserAgentType_found searched
    have has := carried.history item (List.mem_of_getElem? located)
    exact ⟨has.url needed, index, by omega, located⟩
  items := fun item member => (carried.history item member).virtualUrl

/-- While URLs are given only to items with the user agent for them, the indices stay inside the
history and its items have the user agents they need. -/
theorem ReachedGiving.invariant (run : ReachedGiving env controller) :
    controller.WellIndexed ∧ controller.ItemsHaveUserAgents env := by
  induction run with
  | empty =>
    refine ⟨.initWithBrowserState, ?_, ?_⟩
    · intro item member
      cases member
    · intro item found
      cases found
  | restored inside stored =>
    refine ⟨(Initial.restored inside).wellIndexed, stored, ?_⟩
    intro item found
    cases found
  | performs _ gives _ performed before sources =>
    refine ⟨perform_wellIndexed before.1 performed, ?_⟩
    exact before.2.perform gives (fun source same => (sources source same).2) performed
  | loads _ displays loaded before =>
    refine ⟨(loadURLWithParams_keeps loaded).wellIndexed before.1, ?_⟩
    exact before.2.loadURLWithParams before.1 displays loaded

theorem ReachedGiving.hasUserAgents (run : ReachedGiving env controller) :
    controller.HasUserAgents env :=
  run.invariant.2.hasUserAgents run.invariant.1

end ChromiumIos.SessionController
