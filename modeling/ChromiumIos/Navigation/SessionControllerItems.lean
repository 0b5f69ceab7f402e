import ChromiumIos.Navigation.SessionControllerIndices

/-!
# Where the items of the session controller come from

Most operations only move items.  The history after them is made of items that were
in it before and of the few that the operation adds, and at most the pending or the
transient item has gone.  What holds of the items before and of those that are added
holds of the items after.
-/

namespace ChromiumIos.SessionController

open Lib

variable {env : NavigationEnvironment} {controller before middle after : SessionController}
variable {New : NavigationItem → Prop} {item : NavigationItem} {index : Int}

/-! ## Items that are read -/

theorem mem_of_pendingItem (pending : controller.pendingItem = some (some item))
    (history : controller.pendingItemIndex ≠ -1) : item ∈ controller.items := by
  rw [pendingItem, if_neg history] at pending
  obtain ⟨found, located, same⟩ := Option.map_eq_some_iff.mp pending
  grind [mem_of_at?]

theorem mem_of_lastCommittedItem (last : controller.lastCommittedItem = some (some item)) :
    item ∈ controller.items := by
  unfold lastCommittedItem at last
  split at last
  · cases last
  · obtain ⟨found, located, same⟩ := Option.map_eq_some_iff.mp last
    grind [mem_of_at?]

/-! ## Items that are moved -/

structure MovesItems (New : NavigationItem → Prop) (before after : SessionController) : Prop where
  history : ∀ item ∈ after.items, item ∈ before.items ∨ New item
  pending : after.newPendingItem = before.newPendingItem ∨ after.newPendingItem = none
  transient : after.transientItem = before.transientItem ∨ after.transientItem = none

variable {url : GURL} {discard : Bool} {transition : PageTransition}
  (controller : SessionController)

namespace MovesItems

theorem of_items (items : after.items = before.items)
    (pending : after.newPendingItem = before.newPendingItem ∨ after.newPendingItem = none)
    (transient : after.transientItem = before.transientItem ∨ after.transientItem = none) :
    MovesItems New before after := by
  refine ⟨fun item member => .inl ?_, pending, transient⟩
  rw [← items]
  exact member

theorem refl : MovesItems New controller controller :=
  .of_items rfl (.inl rfl) (.inl rfl)

theorem trans (first : MovesItems New before middle) (second : MovesItems New middle after) :
    MovesItems New before after where
  history := by
    grind [second.history, first.history]
  pending := by
    grind [second.pending, first.pending]
  transient := by
    grind [second.transient, first.transient]

end MovesItems

theorem setPendingItemIndex_moves (set : before.setPendingItemIndex index = some after) :
    MovesItems New before after := by
  obtain ⟨-, set⟩ := dcheck_then set
  obtain ⟨-, set⟩ := dcheck_then set
  obtain ⟨_, -, set⟩ := bind_eq_some set
  obtain ⟨-, set⟩ := dcheck_then set
  cases set
  exact .of_items rfl (.inl rfl) (.inl rfl)

theorem discardNonCommittedItems_moves
    (discarded : before.discardNonCommittedItems = some after) :
    MovesItems New before after := by
  cases discarded
  exact .of_items rfl (.inr rfl) (.inr rfl)

theorem discardForGoTo_moves (discarded : before.discardForGoTo index discard = some after) :
    MovesItems New before after := by
  unfold discardForGoTo at discarded
  split at discarded
  · cases discarded
    exact .refl before
  · split at discarded
    · exact discardNonCommittedItems_moves discarded
    · cases discarded
      exact .of_items rfl (.inl rfl) (.inr rfl)

theorem setLastCommittedItemIndex_moves (index : Int) :
    MovesItems New controller (controller.setLastCommittedItemIndex index) := by
  unfold setLastCommittedItemIndex
  split
  · exact .of_items rfl (.inl rfl) (.inl rfl)
  · exact .refl controller

theorem clearForwardItems_moves (cleared : before.clearForwardItems = some after) :
    MovesItems New before after := by
  obtain ⟨-, cleared⟩ := dcheck_then cleared
  obtain ⟨-, cleared⟩ := dcheck_then cleared
  split at cleared
  · cases cleared
    exact .of_items rfl (.inl rfl) (.inr rfl)
  · cases cleared
    exact ⟨fun item member => .inl (List.mem_of_mem_take member), .inl rfl, .inr rfl⟩

/-! ## Items that are added -/

theorem commitNewItem_moves (committed : before.commitNewItem item = some after) :
    MovesItems (· = item) before after := by
  obtain ⟨_, clearing, committed⟩ := bind_eq_some committed
  cases committed
  refine (clearForwardItems_moves clearing).trans ?_
  refine .trans ?_ (setLastCommittedItemIndex_moves _ _)
  refine ⟨fun element member => ?_, .inl rfl, .inl rfl⟩
  simpa using member

theorem moveToHistory_moves (moved : before.moveToHistory item = some after) :
    MovesItems (· = item) before after := by
  unfold moveToHistory at moved
  split at moved
  · have dropped : MovesItems (· = item) before { before with newPendingItem := none } :=
      .of_items rfl (.inr rfl) (.inl rfl)
    exact dropped.trans (commitNewItem_moves moved)
  · rename_i history
    cases moved
    refine .trans ?_ (setLastCommittedItemIndex_moves _ _)
    unfold writePendingItem
    rw [if_neg history]
    exact ⟨fun element member => mem_or_eq_of_mem_setAt member, .inl rfl, .inl rfl⟩

/-- What is committed has been pending and forgets who has started it. -/
theorem commitIfPending_moves (committed : before.commitIfPending = some after) :
    MovesItems
      (fun item => ∃ pending, before.pendingItem = some (some pending) ∧
        item = pending.resetForCommit)
      before after := by
  obtain ⟨pending, reading, committed⟩ := bind_eq_some committed
  cases pending with
  | none =>
    cases committed
    exact .refl before
  | some _ =>
    obtain ⟨_, moving, committed⟩ := bind_eq_some committed
    obtain ⟨_, resetting, committed⟩ := bind_eq_some committed
    obtain ⟨-, committed⟩ := dcheck_then committed
    cases committed
    refine .trans ?_ (setPendingItemIndex_moves resetting)
    have moves := moveToHistory_moves moving
    refine ⟨fun item member => ?_, moves.pending, moves.transient⟩
    simp [moves.history, member, reading]

theorem goToItemAtIndex_moves (gone : before.goToItemAtIndex index discard = some after) :
    MovesItems New before after := by
  unfold goToItemAtIndex at gone
  split at gone
  · cases gone
    exact .refl before
  · split at gone
    · cases gone
      exact .refl before
    · obtain ⟨discarded, discarding, gone⟩ := bind_eq_some gone
      cases gone
      have moved : MovesItems New before discarded := discardForGoTo_moves discarding
      exact ⟨moved.history, moved.pending, moved.transient⟩

theorem removeItemAtIndex_moves (removed : before.removeItemAtIndex index = some after) :
    MovesItems New before after := by
  obtain ⟨-, removed⟩ := dcheck_then removed
  obtain ⟨-, removed⟩ := dcheck_then removed
  obtain ⟨-, removed⟩ := dcheck_then removed
  cases removed
  exact ⟨fun item member => .inl (mem_of_mem_eraseAt member), .inr rfl, .inr rfl⟩

theorem copyStateFromSessionControllerAndPrune_moves {source : SessionController}
    (copied : before.copyStateFromSessionControllerAndPrune source = some after) :
    MovesItems (· ∈ source.items) before after := by
  unfold copyStateFromSessionControllerAndPrune at copied
  split at copied
  · cases copied
    exact .refl before
  · split at copied
    · cases copied
      exact .refl before
    · obtain ⟨committed, -, copied⟩ := bind_eq_some copied
      cases committed with
      | none =>
        cases copied
        exact .refl before
      | some _ =>
        obtain ⟨-, copied⟩ := dcheck_then copied
        obtain ⟨lastCommittedItem, located, copied⟩ := bind_eq_some copied
        cases copied
        refine ⟨fun item member => ?_, .inl rfl, .inl rfl⟩
        grind [mem_of_at?]

/-- The item that is gone to is marked as one of a back or forward navigation. -/
theorem finishGoToIndex_moves {index : Nat}
    (gone : before.finishGoToIndex env index = some after) :
    MovesItems
      (fun item => ∃ old ∈ before.items,
        item = { old with transitionType := old.transitionType ||| PageTransition.forwardBack })
      before after := by
  obtain ⟨toItem, found, gone⟩ := bind_eq_some gone
  obtain ⟨sameDocument, -, gone⟩ := bind_eq_some gone
  have marked : MovesItems
      (fun item => ∃ old ∈ before.items,
        item = { old with transitionType := old.transitionType ||| PageTransition.forwardBack })
      before
      { before with
        items := before.items.set index
          { toItem with
            transitionType := toItem.transitionType ||| PageTransition.forwardBack } } := by
    refine ⟨fun item member => ?_, .inl rfl, .inl rfl⟩
    grind
  cases sameDocument with
  | true => exact marked.trans (goToItemAtIndex_moves gone)
  | false =>
    obtain ⟨_, discarding, gone⟩ := bind_eq_some gone
    exact (marked.trans (discardNonCommittedItems_moves discarding)).trans
      (setPendingItemIndex_moves gone)

theorem createNavigationItem_fields {referrer : Referrer}
    {initiationType : NavigationInitiationType}
    (created : before.createNavigationItem env url referrer transition initiationType =
      some (item, after)) :
    (∃ previousUrl, createNavigationItemWithRewriters env (fun _ => false) url referrer
      transition initiationType previousUrl before.transientUrlRewriters = some item) ∧
      after = { before with transientUrlRewriters := [] } := by
  obtain ⟨lastCommitted, -, created⟩ := bind_eq_some created
  obtain ⟨made, making, created⟩ := bind_eq_some created
  grind

/-- A page adds an item of its own, which the browser makes with the user agent of the page. -/
theorem pushNewItem_moves {stateObject : Option String} {now : Int}
    (pushed : before.pushNewItem env url stateObject transition now = some after) :
    ∃ previousUrl referrer made userAgentType typed timestamp,
      createNavigationItemWithRewriters env (fun _ => false) url referrer transition
        .browserInitiated previousUrl before.transientUrlRewriters = some made ∧
      made.setUserAgentType env userAgentType = some typed ∧
      MovesItems
        (· = { typed with
          serializedStateObject := stateObject
          isCreatedFromPushState := true
          timestamp := timestamp })
        before after := by
  obtain ⟨_, -, pushed⟩ := bind_eq_some pushed
  obtain ⟨-, pushed⟩ := dcheck_then pushed
  obtain ⟨_, -, pushed⟩ := bind_eq_some pushed
  obtain ⟨-, pushed⟩ := dcheck_then pushed
  obtain ⟨_, -, pushed⟩ := bind_eq_some pushed
  obtain ⟨_, -, pushed⟩ := bind_eq_some pushed
  obtain ⟨_, -, pushed⟩ := bind_eq_some pushed
  obtain ⟨-, pushed⟩ := dcheck_then pushed
  obtain ⟨⟨made, _⟩, creation, pushed⟩ := bind_eq_some pushed
  obtain ⟨typed, typing, pushed⟩ := bind_eq_some pushed
  obtain ⟨_, committing, pushed⟩ := bind_eq_some pushed
  obtain ⟨-, -, pushed⟩ := bind_eq_some pushed
  cases pushed
  obtain ⟨⟨previousUrl, making⟩, rfl⟩ := createNavigationItem_fields creation
  have moves := commitNewItem_moves committing
  exact ⟨previousUrl, _, made, _, typed, _, making, typing, moves.history, moves.pending,
    moves.transient⟩

end ChromiumIos.SessionController
