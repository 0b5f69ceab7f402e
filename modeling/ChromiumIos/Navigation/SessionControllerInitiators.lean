import ChromiumIos.Navigation.SessionControllerItems

/-!
# Who started the items of the session controller

A renderer may start a navigation, but what it started is only ever the pending
item of a new navigation: transient items are made by the browser, and an item
that enters the history has forgotten its initiator.  Items that are changed in
place keep theirs, so that the history stays free of items of a renderer.
-/

namespace ChromiumIos.SessionController

open Lib

variable {env : NavigationEnvironment} {controller before middle after : SessionController}
variable {item : NavigationItem}

def NotByRenderer (item : NavigationItem) : Prop :=
  item.navigationInitiationType ≠ .rendererInitiated

structure FreeOfRenderer (controller : SessionController) : Prop where
  transient : ∀ item, controller.transientItem = some item → NotByRenderer item
  history : ∀ item ∈ controller.items, NotByRenderer item

theorem setUserAgentType_fields {userAgentType : UserAgentType} {typed : NavigationItem}
    (typing : item.setUserAgentType env userAgentType = some typed) :
    typed.navigationInitiationType = item.navigationInitiationType := by
  obtain ⟨-, typing⟩ := dcheck_then typing
  cases typing
  rfl

namespace FreeOfRenderer

variable (free : before.FreeOfRenderer)
include free

/-- New items of the history have to be free themselves; a transient item may go. -/
theorem of_items (items : ∀ item ∈ after.items, item ∈ before.items ∨ NotByRenderer item)
    (transient : after.transientItem = before.transientItem ∨ after.transientItem = none) :
    after.FreeOfRenderer where
  transient := by
    grind [free.transient]
  history := by
    grind [free.history]

theorem of_same (items : after.items = before.items)
    (transient : after.transientItem = before.transientItem ∨ after.transientItem = none) :
    after.FreeOfRenderer := by
  grind [free.of_items]

/-- Only the items that an operation adds have to be looked at. -/
theorem of_moves {New : NavigationItem → Prop} (moves : MovesItems New before after)
    (origin : ∀ item, New item → NotByRenderer item) : after.FreeOfRenderer :=
  by grind [free.of_items, moves.history, moves.transient]

/-! ## Items that are written -/

theorem setAt (index : Int) (origin : NotByRenderer item) :
    FreeOfRenderer { before with items := Lib.setAt before.items index item } := by
  grind [mem_or_eq_of_mem_setAt, free.of_items]

omit free

/-- A pending item of the history is written only with an item of the history. -/
theorem writePendingItem (free : before.FreeOfRenderer)
    (origin : before.pendingItemIndex ≠ -1 → NotByRenderer item) :
    (before.writePendingItem item).FreeOfRenderer := by
  grind [SessionController.writePendingItem, free.of_same, free.setAt]

/-- A changed item is written back to where it was read. -/
theorem writeCurrentItem {current : NavigationItem} (free : before.FreeOfRenderer)
    (read : before.currentItem = some (some current))
    (written : before.writeCurrentItem item = some after)
    (same : item.navigationInitiationType = current.navigationInitiationType) :
    after.FreeOfRenderer := by
  have origin : NotByRenderer current → NotByRenderer item := by
    simp [NotByRenderer, same]
  unfold SessionController.currentItem at read
  unfold SessionController.writeCurrentItem at written
  cases covering : before.transientItem with
  | some _ =>
    rw [covering] at read written
    cases read
    cases written
    refine ⟨?_, free.history⟩
    simp [origin, free.transient, covering]
  | none =>
    rw [covering] at read written
    obtain ⟨pending, reading, read⟩ := bind_eq_some read
    rw [reading] at written
    cases pending with
    | some _ =>
      grind [mem_of_pendingItem, free.writePendingItem, free.history]
    | none =>
      cases written
      exact free.setAt _ (origin (free.history _ (mem_of_lastCommittedItem read)))

/-! ## Operations -/

variable {transition : PageTransition} {url : GURL} {now : Int}
variable {referrer : Referrer} {stateObject : Option String} {option : UserAgentOverrideOption}
  {initiationType : NavigationInitiationType}

include free

theorem addPendingItem
    (added : before.addPendingItem env url referrer transition initiationType option =
      some after) : after.FreeOfRenderer ∧ after.pendingItemIndex = -1 := by
  rcases addPendingItem_cases added with rfl | ⟨item, created, creation, new, rfl⟩
  · simp [free.of_same]
  · obtain ⟨-, rfl⟩ := createNavigationItem_fields creation
    simp [free.of_same]

theorem legacyAddPendingItem
    (added : before.legacyAddPendingItem env url referrer transition initiationType
      option = some after) : after.FreeOfRenderer := by
  obtain ⟨middle, addition, updates⟩ := legacyAddPendingItem_cases added
  obtain ⟨kept, new⟩ := free.addPendingItem addition
  grind [kept.writePendingItem]

theorem updatePendingItemUrl (updated : before.updatePendingItemUrl url = some after) :
    after.FreeOfRenderer := by
  rcases updatePendingItemUrl_cases updated with rfl | ⟨pendingItem, reading, -, -, rfl⟩
  · exact free
  · refine free.writePendingItem fun history => ?_
    exact free.history pendingItem (mem_of_pendingItem reading history)

theorem commitIfPending (committed : before.commitIfPending = some after) :
    after.FreeOfRenderer := by
  refine free.of_moves (commitIfPending_moves committed) ?_
  rintro _ ⟨pendingItem, -, rfl⟩
  simp [NotByRenderer, NavigationItem.resetForCommit]

theorem commitPendingItem (committed : before.commitPendingItem now = some after) :
    after.FreeOfRenderer := by
  obtain ⟨moved, moving, stamps⟩ := commitPendingItem_cases committed
  have kept := free.commitIfPending moving
  rcases stamps with ⟨-, rfl⟩ | ⟨current, reading, writing⟩
  · exact kept
  · have stamped : (moved.advanceTimeSmoother now).FreeOfRenderer := kept.of_same rfl (.inl rfl)
    exact stamped.writeCurrentItem reading writing rfl

theorem addTransientItem (added : before.addTransientItem env url now = some after) :
    after.FreeOfRenderer := by
  obtain ⟨⟨_, _⟩, creation, added⟩ := bind_eq_some added
  cases added
  obtain ⟨⟨_, making⟩, rfl⟩ := createNavigationItem_fields creation
  refine ⟨?_, free.history⟩
  simp [NotByRenderer, navigationInitiationType_eq making]

theorem legacyAddTransientItem
    (added : before.legacyAddTransientItem env url now = some after) :
    after.FreeOfRenderer := by
  obtain ⟨_, addition, covers⟩ := legacyAddTransientItem_cases added
  have kept := free.addTransientItem addition
  rcases covers with ⟨-, rfl⟩ | ⟨_, transientItem, typed, -, -, shown, typing, rfl⟩
  · exact kept
  · refine ⟨?_, kept.history⟩
    simpa [NotByRenderer, setUserAgentType_fields typing] using kept.transient transientItem shown

theorem pushNewItem
    (pushed : before.pushNewItem env url stateObject transition now = some after) :
    after.FreeOfRenderer := by
  obtain ⟨_, _, made, _, typed, _, making, typing, moves⟩ := pushNewItem_moves pushed
  grind [NotByRenderer, navigationInitiationType_eq making, setUserAgentType_fields, free.of_moves]

theorem updateCurrentItemForReplaceState
    (updated : before.updateCurrentItemForReplaceState url stateObject = some after) :
    after.FreeOfRenderer := by
  obtain ⟨-, updated⟩ := dcheck_then updated
  obtain ⟨_, reading, updated⟩ := bind_eq_some updated
  obtain ⟨_, found, updated⟩ := bind_eq_some updated
  cases found
  exact free.writeCurrentItem reading updated rfl

theorem finishGoToIndex {index : Nat}
    (gone : before.finishGoToIndex env index = some after) : after.FreeOfRenderer := by
  refine free.of_moves (finishGoToIndex_moves gone) ?_
  rintro _ ⟨old, member, rfl⟩
  exact free.history old member

end FreeOfRenderer

/-! ## Runs -/

/-- A controller that a run leads to.  The items that it starts with come from a stored
session and have no initiator; a controller whose items are copied has been reached
itself. -/
inductive Reached (env : NavigationEnvironment) : SessionController → Prop where
  | empty : Reached env initWithBrowserState
  | restored {items : List NavigationItem} {lastCommittedItemIndex : BitVec 64}
      (stored : ∀ item ∈ items, item.navigationInitiationType = .none) :
      Reached env (initWithNavigationItems items lastCommittedItemIndex)
  | next {before after : SessionController} {operation : Operation}
      (run : Reached env before)
      (sources : ∀ source, operation = .copyStateFromSessionControllerAndPrune source →
        Reached env source)
      (performed : before.perform env operation = some after) :
      Reached env after

theorem perform_freeOfRenderer {operation : Operation} (free : before.FreeOfRenderer)
    (sources : ∀ source, operation = .copyStateFromSessionControllerAndPrune source →
      source.FreeOfRenderer)
    (performed : before.perform env operation = some after) : after.FreeOfRenderer := by
  cases operation with
  | addPendingItem => exact (free.addPendingItem performed).1
  | legacyAddPendingItem => exact free.legacyAddPendingItem performed
  | updatePendingItemUrl => exact free.updatePendingItemUrl performed
  | commitPendingItem => exact free.commitPendingItem performed
  | addTransientItem => exact free.addTransientItem performed
  | legacyAddTransientItem => exact free.legacyAddTransientItem performed
  | pushNewItem => exact free.pushNewItem performed
  | updateCurrentItemForReplaceState => exact free.updateCurrentItemForReplaceState performed
  | discardNonCommittedItems =>
    exact free.of_moves (discardNonCommittedItems_moves performed) fun _ => False.elim
  | goToItemAtIndex => exact free.of_moves (goToItemAtIndex_moves performed) fun _ => False.elim
  | finishGoToIndex => exact free.finishGoToIndex performed
  | removeItemAtIndex =>
    exact free.of_moves (removeItemAtIndex_moves performed) fun _ => False.elim
  | setPendingItemIndex =>
    exact free.of_moves (setPendingItemIndex_moves performed) fun _ => False.elim
  | copyStateFromSessionControllerAndPrune source =>
    exact free.of_moves (copyStateFromSessionControllerAndPrune_moves performed)
      (sources source rfl).history
  | addTransientURLRewriter =>
    cases performed
    exact free.of_same rfl (.inl rfl)

/-- In every run neither the history nor the transient item comes from a renderer. -/
theorem Reached.freeOfRenderer (run : Reached env controller) :
    controller.FreeOfRenderer := by
  induction run with
  | empty =>
    constructor
    · intro item shown
      cases shown
    · intro item member
      cases member
  | restored stored =>
    constructor
    · intro item shown
      cases shown
    · intro item member
      simp [NotByRenderer, stored item member]
  | next _ _ performed free sources =>
    exact perform_freeOfRenderer free sources performed

end ChromiumIos.SessionController
