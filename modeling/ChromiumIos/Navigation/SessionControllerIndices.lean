import ChromiumIos.Lib.Runs
import ChromiumIos.Navigation.SessionController

/-!
# The indices of the session controller

After every sequence of operations the three indices point into the history or
are -1, and there is a last committed item as soon as there is any.  Most
operations only change items in place or drop the pending index; the others
commit a new item, move the last committed index, erase an item, or rebuild the
history, and each of these keeps the indices inside it.
-/

namespace ChromiumIos.SessionController

open Lib

variable {env : NavigationEnvironment} {controller before middle after : SessionController}

def IsIndex (items : List NavigationItem) (index : Int) : Prop :=
  -1 ≤ index ∧ index < items.length
deriving Decidable

structure WellIndexed (controller : SessionController) : Prop where
  lastCommitted : IsIndex controller.items controller.lastCommittedItemIndex
  previous : IsIndex controller.items controller.previousItemIndex
  pending : IsIndex controller.items controller.pendingItemIndex
  empty : controller.lastCommittedItemIndex = -1 ↔ controller.items = []

instance (controller : SessionController) : Decidable controller.WellIndexed :=
  decidable_of_iff
    (IsIndex controller.items controller.lastCommittedItemIndex ∧
      IsIndex controller.items controller.previousItemIndex ∧
      IsIndex controller.items controller.pendingItemIndex ∧
      (controller.lastCommittedItemIndex = -1 ↔ controller.items = []))
    ⟨fun ⟨lastCommitted, previous, pending, empty⟩ => ⟨lastCommitted, previous, pending, empty⟩,
      fun wf => ⟨wf.lastCommitted, wf.previous, wf.pending, wf.empty⟩⟩

/-! ## What the operations do -/

theorem setPendingItemIndex_eq (controller : SessionController) :
    controller.setPendingItemIndex (-1) = some { controller with pendingItemIndex := -1 } := by
  rfl

theorem discardNonCommittedItems_eq (controller : SessionController) :
    controller.discardNonCommittedItems = some { controller with
      transientItem := none, newPendingItem := none, pendingItemIndex := -1 } :=
  setPendingItemIndex_eq _

section Additions

variable {url : GURL} {referrer : Referrer} {transition : PageTransition}
variable {initiationType : NavigationInitiationType}
variable {userAgentOverrideOption : UserAgentOverrideOption}

/-- The pending and the transient items go, and then an item is created if one is needed. -/
theorem addPendingItem_cases
    (added : before.addPendingItem env url referrer transition initiationType
      userAgentOverrideOption = some after) :
    after = { before with transientItem := none, pendingItemIndex := -1 } ∨
      ∃ item created, createNavigationItem env
          { before with transientItem := none, pendingItemIndex := -1 } url referrer transition
          initiationType = some (item, created) ∧
        created.pendingItemIndex = -1 ∧ after = { created with newPendingItem := some item } := by
  unfold addPendingItem at added
  obtain ⟨_, discarding, added⟩ := bind_eq_some added
  cases discarding
  obtain ⟨should, -, added⟩ := bind_eq_some added
  cases should with
  | false =>
    cases added
    exact .inl rfl
  | true =>
    obtain ⟨⟨item, created⟩, creation, added⟩ := bind_eq_some added
    obtain ⟨new, added⟩ := dcheck_then added
    cases added
    exact .inr ⟨item, created, creation, new, rfl⟩

theorem legacyAddPendingItem_cases
    (added : before.legacyAddPendingItem env url referrer transition initiationType
      userAgentOverrideOption = some after) :
    ∃ middle, before.addPendingItem env url referrer transition initiationType
        userAgentOverrideOption = some middle ∧
      (middle.pendingItem = some none ∧ after = middle ∨
        ∃ pendingItem inheritFromItem item, middle.pendingItem = some (some pendingItem) ∧
          middle.getLastCommittedItemWithUserAgentType env = some inheritFromItem ∧
          updatePendingItemUserAgentType env userAgentOverrideOption inheritFromItem
            pendingItem = some item ∧
          after = middle.writePendingItem item) := by
  obtain ⟨middle, addition, added⟩ := bind_eq_some added
  refine ⟨middle, addition, ?_⟩
  obtain ⟨pending, reading, added⟩ := bind_eq_some added
  cases pending with
  | none =>
    cases added
    grind
  | some _ =>
    obtain ⟨inheritFromItem, inherits, added⟩ := bind_eq_some added
    obtain ⟨item, updating, added⟩ := bind_eq_some added
    grind

end Additions

variable {stateObject : Option String} {referrer : Referrer} {item : NavigationItem}
  {userAgentOverrideOption : UserAgentOverrideOption} {index now : Int}
  {initiationType : NavigationInitiationType} {transition : PageTransition} {url : GURL}

theorem updatePendingItemUrl_cases (updated : before.updatePendingItemUrl url = some after) :
    after = before ∨
      ∃ pendingItem, before.pendingItem = some (some pendingItem) ∧ url ≠ pendingItem.url ∧
        before.transientItem = none ∧
        after = before.writePendingItem
          { (pendingItem.setURL url).setVirtualURL url with
            postData := none, httpRequestHeaders := none } := by
  obtain ⟨pending, reading, updated⟩ := bind_eq_some updated
  grind [dcheck_then]

theorem legacyAddTransientItem_cases
    (added : before.legacyAddTransientItem env url now = some after) :
    ∃ middle, before.addTransientItem env url now = some middle ∧
      (middle.itemCoveredByTransient env = some none ∧ after = middle ∨
        ∃ covered transientItem typed,
          middle.itemCoveredByTransient env = some (some covered) ∧
          covered.userAgentType ≠ .none ∧ middle.transientItem = some transientItem ∧
          transientItem.setUserAgentType env covered.userAgentType = some typed ∧
          after = { middle with transientItem := some typed }) := by
  obtain ⟨middle, addition, added⟩ := bind_eq_some added
  refine ⟨middle, addition, ?_⟩
  obtain ⟨item, covering, added⟩ := bind_eq_some added
  cases item with
  | none =>
    cases added
    grind
  | some _ =>
    obtain ⟨present, added⟩ := dcheck_then added
    obtain ⟨transientItem, shown, added⟩ := bind_eq_some added
    obtain ⟨typed, typing, added⟩ := bind_eq_some added
    grind

/-- A pending item is committed before the current item is stamped. -/
theorem commitPendingItem_cases (committed : before.commitPendingItem now = some after) :
    ∃ moved, before.commitIfPending = some moved ∧
      (moved.currentItem = some none ∧ after = moved ∨
        ∃ item, moved.currentItem = some (some item) ∧
          (moved.advanceTimeSmoother now).writeCurrentItem
            { item with timestamp := moved.smoothedTime now } = some after) := by
  obtain ⟨moved, moving, committed⟩ := bind_eq_some committed
  obtain ⟨current, reading, committed⟩ := bind_eq_some committed
  cases current with
  | none =>
    grind [dcheck_then]
  | some _ =>
    obtain ⟨written, writing, committed⟩ := bind_eq_some committed
    obtain ⟨-, -, committed⟩ := bind_eq_some committed
    grind [dcheck_then]

/-! ## Changes that leave the indices alone -/

/-- The history keeps its length and its committed indices, and the pending index
is at most dropped. -/
structure KeepsIndices (before after : SessionController) : Prop where
  length : after.items.length = before.items.length
  lastCommitted : after.lastCommittedItemIndex = before.lastCommittedItemIndex
  previous : after.previousItemIndex = before.previousItemIndex
  pending : after.pendingItemIndex = before.pendingItemIndex ∨ after.pendingItemIndex = -1

namespace KeepsIndices

theorem refl (controller : SessionController) : KeepsIndices controller controller :=
  ⟨rfl, rfl, rfl, .inl rfl⟩

theorem trans (first : KeepsIndices before middle) (second : KeepsIndices middle after) :
    KeepsIndices before after where
  length := second.length.trans first.length
  lastCommitted := second.lastCommitted.trans first.lastCommitted
  previous := second.previous.trans first.previous
  pending := by
    grind [second.pending, first.pending]

theorem wellIndexed (kept : KeepsIndices before after) (wf : before.WellIndexed) :
    after.WellIndexed := by
  have inside : ∀ {index}, IsIndex before.items index → IsIndex after.items index := by
    simp [IsIndex, kept.length]
  constructor
  · rw [kept.lastCommitted]
    exact inside wf.lastCommitted
  · rw [kept.previous]
    exact inside wf.previous
  · rcases kept.pending with same | dropped
    · rw [same]
      exact inside wf.pending
    · rw [dropped]
      exact ⟨Int.le_refl _, by omega⟩
  · grind [kept.lastCommitted, wf.empty, kept.length]

end KeepsIndices

theorem discardNonCommittedItems_keeps (discarded : before.discardNonCommittedItems = some after) :
    KeepsIndices before after := by
  cases discarded
  exact ⟨rfl, rfl, rfl, .inr rfl⟩

theorem discardForGoTo_keeps {discard : Bool}
    (discarded : before.discardForGoTo index discard = some after) : KeepsIndices before after := by
  unfold discardForGoTo at discarded
  split at discarded
  · cases discarded
    exact .refl before
  · split at discarded
    · exact discardNonCommittedItems_keeps discarded
    · cases discarded
      exact ⟨rfl, rfl, rfl, .inl rfl⟩

theorem advanceTimeSmoother_keeps (controller : SessionController) (now : Int) :
    KeepsIndices controller (controller.advanceTimeSmoother now) :=
  ⟨rfl, rfl, rfl, .inl rfl⟩

theorem writePendingItem_keeps (controller : SessionController) (item : NavigationItem) :
    KeepsIndices controller (controller.writePendingItem item) := by
  simp only [writePendingItem]
  split
  · exact ⟨rfl, rfl, rfl, .inl rfl⟩
  · exact ⟨length_setAt .., rfl, rfl, .inl rfl⟩

theorem writeCurrentItem_keeps (written : before.writeCurrentItem item = some after) :
    KeepsIndices before after := by
  unfold writeCurrentItem at written
  split at written
  · cases written
    exact ⟨rfl, rfl, rfl, .inl rfl⟩
  · obtain ⟨pending, -, written⟩ := bind_eq_some written
    cases pending with
    | some _ =>
      cases written
      exact writePendingItem_keeps before item
    | none =>
      cases written
      exact ⟨length_setAt .., rfl, rfl, .inl rfl⟩

theorem createNavigationItem_keeps
    (created : before.createNavigationItem env url referrer transition initiationType =
      some (item, after)) : KeepsIndices before after := by
  obtain ⟨_, -, created⟩ := bind_eq_some created
  obtain ⟨_, -, created⟩ := bind_eq_some created
  cases created
  exact ⟨rfl, rfl, rfl, .inl rfl⟩

theorem addPendingItem_keeps
    (added : before.addPendingItem env url referrer transition initiationType
      userAgentOverrideOption = some after) : KeepsIndices before after := by
  rcases addPendingItem_cases added with rfl | ⟨item, created, creation, -, rfl⟩
  · exact ⟨rfl, rfl, rfl, .inr rfl⟩
  · have kept := createNavigationItem_keeps creation
    exact ⟨kept.length, kept.lastCommitted, kept.previous, .inr (by simpa using kept.pending)⟩

theorem legacyAddPendingItem_keeps
    (added : before.legacyAddPendingItem env url referrer transition initiationType
      userAgentOverrideOption = some after) : KeepsIndices before after := by
  obtain ⟨middle, addition, ⟨-, rfl⟩ | ⟨_, _, item, -, -, -, rfl⟩⟩ :=
    legacyAddPendingItem_cases added
  · exact addPendingItem_keeps addition
  · exact (addPendingItem_keeps addition).trans (writePendingItem_keeps middle item)

theorem updatePendingItemUrl_keeps (updated : before.updatePendingItemUrl url = some after) :
    KeepsIndices before after := by
  rcases updatePendingItemUrl_cases updated with rfl | ⟨pendingItem, -, -, -, rfl⟩
  · exact .refl after
  · exact writePendingItem_keeps before _

theorem addTransientItem_keeps (added : before.addTransientItem env url now = some after) :
    KeepsIndices before after := by
  obtain ⟨⟨_, _⟩, creation, added⟩ := bind_eq_some added
  cases added
  have kept := createNavigationItem_keeps creation
  exact ⟨kept.length, kept.lastCommitted, kept.previous, kept.pending⟩

theorem legacyAddTransientItem_keeps
    (added : before.legacyAddTransientItem env url now = some after) :
    KeepsIndices before after := by
  obtain ⟨_, addition, covers⟩ := legacyAddTransientItem_cases added
  have kept := addTransientItem_keeps addition
  rcases covers with ⟨-, rfl⟩ | ⟨_, _, typed, -, -, -, -, rfl⟩
  · exact kept
  · exact ⟨kept.length, kept.lastCommitted, kept.previous, kept.pending⟩

theorem updateCurrentItemForReplaceState_keeps
    (updated : before.updateCurrentItemForReplaceState url stateObject = some after) :
    KeepsIndices before after := by
  obtain ⟨-, updated⟩ := dcheck_then updated
  obtain ⟨_, -, updated⟩ := bind_eq_some updated
  obtain ⟨_, -, updated⟩ := bind_eq_some updated
  exact writeCurrentItem_keeps updated

/-! ## Changes that move the indices -/

namespace WellIndexed

/-- The indices of a history that has a last committed item. -/
theorem of_lastCommitted (nonneg : 0 ≤ controller.lastCommittedItemIndex)
    (inside : controller.lastCommittedItemIndex < controller.items.length)
    (previous : IsIndex controller.items controller.previousItemIndex)
    (pending : IsIndex controller.items controller.pendingItemIndex) :
    controller.WellIndexed where
  lastCommitted := ⟨by omega, inside⟩
  previous := previous
  pending := pending
  empty := by
    grind

theorem lastCommitted_nonneg (wf : controller.WellIndexed) (index : Int) (nonneg : 0 ≤ index)
    (inside : index < controller.items.length) : 0 ≤ controller.lastCommittedItemIndex := by
  have nonempty : controller.items ≠ [] := by
    grind
  have committed := mt wf.empty.mp nonempty
  have range := wf.lastCommitted.1
  omega

theorem lastCommittedItem_eq (wf : controller.WellIndexed) :
    controller.lastCommittedItemIndex = -1 ∧ controller.lastCommittedItem = some none ∨
      ∃ item, at? controller.items controller.lastCommittedItemIndex = some item ∧
        controller.lastCommittedItemIndex ≠ -1 ∧
        controller.lastCommittedItem = some (some item) := by
  have inside := wf.lastCommitted
  unfold IsIndex at inside
  by_cases missing : controller.lastCommittedItemIndex = -1
  · left
    exact ⟨missing, if_pos missing⟩
  · right
    obtain ⟨item, found⟩ := Option.isSome_iff_exists.mp
      ((at?_isSome_iff controller.items controller.lastCommittedItemIndex).mpr (by omega))
    simp [SessionController.lastCommittedItem, found, missing]

theorem initWithBrowserState : SessionController.initWithBrowserState.WellIndexed where
  lastCommitted := ⟨Int.le_refl _, by decide⟩
  previous := ⟨Int.le_refl _, by decide⟩
  pending := ⟨Int.le_refl _, by decide⟩
  empty := ⟨fun _ => rfl, fun _ => rfl⟩

variable (wf : before.WellIndexed)
include wf

theorem setPendingItemIndex (set : before.setPendingItemIndex index = some after) :
    after.WellIndexed := by
  obtain ⟨lower, set⟩ := dcheck_then set
  obtain ⟨upper, set⟩ := dcheck_then set
  obtain ⟨_, -, set⟩ := bind_eq_some set
  obtain ⟨-, set⟩ := dcheck_then set
  cases set
  exact ⟨wf.lastCommitted, wf.previous, ⟨lower, upper⟩, wf.empty⟩

omit wf

/-- A commit at `index` makes the last committed item the previous one. -/
theorem commitAt (controller : SessionController) (nonneg : 0 ≤ index)
    (inside : index < controller.items.length)
    (last : IsIndex controller.items controller.lastCommittedItemIndex)
    (pending : IsIndex controller.items controller.pendingItemIndex) :
    (SessionController.setLastCommittedItemIndex
      { controller with previousItemIndex := controller.lastCommittedItemIndex }
      index).WellIndexed := by
  unfold SessionController.setLastCommittedItemIndex
  grind [of_lastCommitted]

include wf

/-- Without its forward items the history ends at the last committed item. -/
theorem clearForwardItems (cleared : before.clearForwardItems = some after) :
    after.WellIndexed := by
  obtain ⟨noPending, cleared⟩ := dcheck_then cleared
  obtain ⟨start, cleared⟩ := dcheck_then cleared
  have last := wf.lastCommitted
  have previous := wf.previous
  unfold IsIndex at last previous
  by_cases atEnd : before.lastCommittedItemIndex + 1 ≥ before.items.length
  · rw [if_pos (by exact atEnd)] at cleared
    cases cleared
    exact ⟨wf.lastCommitted, wf.previous, wf.pending, wf.empty⟩
  · rw [if_neg (by exact atEnd)] at cleared
    cases cleared
    have committed := wf.lastCommitted_nonneg (before.lastCommittedItemIndex + 1) start (by omega)
    have length : ((before.items.take (before.lastCommittedItemIndex + 1).toNat).length : Int) =
        before.lastCommittedItemIndex + 1 := by
      rw [List.length_take]
      omega
    apply of_lastCommitted
    · exact committed
    · change before.lastCommittedItemIndex <
        ((before.items.take (before.lastCommittedItemIndex + 1).toNat).length : Int)
      rw [length]
      exact Int.lt_succ _
    · change IsIndex (before.items.take (before.lastCommittedItemIndex + 1).toNat)
        (if before.previousItemIndex ≥ before.lastCommittedItemIndex + 1 then -1
          else before.previousItemIndex)
      simp only [IsIndex]
      rw [length]
      split <;> omega
    · change IsIndex (before.items.take (before.lastCommittedItemIndex + 1).toNat)
        before.pendingItemIndex
      simp only [IsIndex]
      rw [length, noPending]
      omega

/-- A new item is committed behind the last committed one. -/
theorem commitNewItem (committed : before.commitNewItem item = some after) : after.WellIndexed := by
  obtain ⟨cleared, clearing, committed⟩ := bind_eq_some committed
  cases committed
  have kept := wf.clearForwardItems clearing
  have grown : ∀ {index}, IsIndex cleared.items index →
      IsIndex (cleared.items ++ [item]) index := by
    grind [IsIndex]
  have length : (cleared.items ++ [item]).length = cleared.items.length + 1 := by simp
  apply commitAt { cleared with items := cleared.items ++ [item] }
  · rw [length]
    omega
  · dsimp only
    omega
  · exact grown kept.lastCommitted
  · exact grown kept.pending

omit wf

theorem moveToHistory {item : NavigationItem} (wf : before.WellIndexed)
    (moved : before.moveToHistory item = some after) : after.WellIndexed := by
  unfold SessionController.moveToHistory at moved
  split at moved
  · have dropped : WellIndexed { before with newPendingItem := none } :=
      ⟨wf.lastCommitted, wf.previous, wf.pending, wf.empty⟩
    exact dropped.commitNewItem moved
  · have kept := writePendingItem_keeps before item
    have written := kept.wellIndexed wf
    have inside := wf.pending
    grind [IsIndex, kept.lastCommitted, kept.length, commitAt, written.lastCommitted,
      written.pending]

include wf

theorem commitIfPending (committed : before.commitIfPending = some after) : after.WellIndexed := by
  obtain ⟨pending, -, committed⟩ := bind_eq_some committed
  cases pending with
  | none =>
    cases committed
    exact wf
  | some _ =>
    obtain ⟨_, moving, committed⟩ := bind_eq_some committed
    obtain ⟨_, resetting, committed⟩ := bind_eq_some committed
    obtain ⟨-, committed⟩ := dcheck_then committed
    cases committed
    exact (wf.moveToHistory moving).setPendingItemIndex resetting

theorem commitPendingItem (committed : before.commitPendingItem now = some after) :
    after.WellIndexed := by
  obtain ⟨moved, moving, stamps⟩ := commitPendingItem_cases committed
  have movedWf := wf.commitIfPending moving
  rcases stamps with ⟨-, rfl⟩ | ⟨item, -, writing⟩
  · exact movedWf
  · exact (writeCurrentItem_keeps writing).wellIndexed
      ((advanceTimeSmoother_keeps moved now).wellIndexed movedWf)

theorem pushNewItem
    (pushed : before.pushNewItem env url stateObject transition now = some after) :
    after.WellIndexed := by
  obtain ⟨_, -, pushed⟩ := bind_eq_some pushed
  obtain ⟨-, pushed⟩ := dcheck_then pushed
  obtain ⟨_, -, pushed⟩ := bind_eq_some pushed
  obtain ⟨-, pushed⟩ := dcheck_then pushed
  obtain ⟨_, -, pushed⟩ := bind_eq_some pushed
  obtain ⟨_, -, pushed⟩ := bind_eq_some pushed
  obtain ⟨_, -, pushed⟩ := bind_eq_some pushed
  obtain ⟨-, pushed⟩ := dcheck_then pushed
  obtain ⟨⟨_, created⟩, creation, pushed⟩ := bind_eq_some pushed
  obtain ⟨_, -, pushed⟩ := bind_eq_some pushed
  obtain ⟨_, committing, pushed⟩ := bind_eq_some pushed
  obtain ⟨-, -, pushed⟩ := bind_eq_some pushed
  cases pushed
  have kept := (createNavigationItem_keeps creation).trans (advanceTimeSmoother_keeps created now)
  exact commitNewItem (kept.wellIndexed wf) committing

omit wf

theorem goToItemAtIndex {index : Int} {discard : Bool} (wf : before.WellIndexed)
    (gone : before.goToItemAtIndex index discard = some after) : after.WellIndexed := by
  unfold SessionController.goToItemAtIndex at gone
  split at gone
  · cases gone
    exact wf
  · split at gone
    · cases gone
      exact wf
    · obtain ⟨discarded, discarding, gone⟩ := bind_eq_some gone
      have kept := discardForGoTo_keeps discarding
      have discardedWf := kept.wellIndexed wf
      grind [of_lastCommitted, kept.length, discardedWf.lastCommitted, discardedWf.pending]

include wf

/-- Erasing an item other than the last committed one leaves that one in place. -/
theorem removeItemAtIndex (removed : before.removeItemAtIndex index = some after) :
    after.WellIndexed := by
  obtain ⟨inside, removed⟩ := dcheck_then removed
  obtain ⟨other, removed⟩ := dcheck_then removed
  obtain ⟨nonneg, removed⟩ := dcheck_then removed
  rw [discardNonCommittedItems_eq] at removed
  cases removed
  have committed := wf.lastCommitted_nonneg index nonneg inside
  have length := length_eraseAt nonneg inside
  have last := wf.lastCommitted
  have previous := wf.previous
  unfold IsIndex at last previous
  apply of_lastCommitted
  · dsimp only
    split <;> omega
  · dsimp only
    rw [length]
    split <;> omega
  · unfold IsIndex
    dsimp only
    rw [length]
    split <;> omega
  · exact ⟨Int.le_refl _, by dsimp only; omega⟩

omit wf

theorem copyStateFromSessionControllerAndPrune {source : SessionController}
    (wf : before.WellIndexed)
    (copied : before.copyStateFromSessionControllerAndPrune source = some after) :
    after.WellIndexed := by
  unfold SessionController.copyStateFromSessionControllerAndPrune at copied
  split at copied
  · cases copied
    exact wf
  · rename_i canPrune
    split at copied
    · cases copied
      exact wf
    · obtain ⟨committed, -, copied⟩ := bind_eq_some copied
      cases committed with
      | none =>
        cases copied
        exact wf
      | some sourceItem =>
        obtain ⟨-, copied⟩ := dcheck_then copied
        obtain ⟨lastCommittedItem, -, copied⟩ := bind_eq_some copied
        cases copied
        have noPending : before.pendingItemIndex = -1 := by
          simp only [canPruneAllButLastCommittedItem, decide_eq_true_eq, not_not] at canPrune
          exact canPrune.2.1
        apply of_lastCommitted
        · simp
        · dsimp only
          omega
        · exact ⟨Int.le_refl _, by dsimp only; omega⟩
        · simpa [noPending] using ⟨Int.le_refl _, by omega⟩

include wf

theorem finishGoToIndex {index : Nat}
    (gone : before.finishGoToIndex env index = some after) : after.WellIndexed := by
  obtain ⟨toItem, -, gone⟩ := bind_eq_some gone
  obtain ⟨sameDocument, -, gone⟩ := bind_eq_some gone
  have marked : KeepsIndices before { before with
      items := before.items.set index
        { toItem with transitionType := toItem.transitionType ||| PageTransition.forwardBack } } :=
    ⟨List.length_set, rfl, rfl, .inl rfl⟩
  cases sameDocument with
  | true => exact (marked.wellIndexed wf).goToItemAtIndex gone
  | false =>
    obtain ⟨_, discarding, gone⟩ := bind_eq_some gone
    exact ((marked.trans (discardNonCommittedItems_keeps discarding)).wellIndexed
      wf).setPendingItemIndex gone

end WellIndexed

/-! ## Runs -/

inductive Operation where
  | addPendingItem (url : GURL) (referrer : Referrer) (transition : PageTransition)
      (initiationType : NavigationInitiationType)
      (userAgentOverrideOption : UserAgentOverrideOption)
  | legacyAddPendingItem (url : GURL) (referrer : Referrer) (transition : PageTransition)
      (initiationType : NavigationInitiationType)
      (userAgentOverrideOption : UserAgentOverrideOption)
  | updatePendingItemUrl (url : GURL)
  | commitPendingItem (now : Int)
  | addTransientItem (url : GURL) (now : Int)
  | legacyAddTransientItem (url : GURL) (now : Int)
  | pushNewItem (url : GURL) (stateObject : Option String) (transition : PageTransition)
      (now : Int)
  | updateCurrentItemForReplaceState (url : GURL) (stateObject : Option String)
  | discardNonCommittedItems
  | goToItemAtIndex (index : Int) (discard : Bool)
  | finishGoToIndex (index : Nat)
  | removeItemAtIndex (index : Int)
  | setPendingItemIndex (index : Int)
  | copyStateFromSessionControllerAndPrune (source : SessionController)
  | addTransientURLRewriter (rewriter : URLRewriter)

/-- One operation; it returns nothing when an assertion of the code fails. -/
def perform (env : NavigationEnvironment) (controller : SessionController) :
    Operation → Checked SessionController
  | .addPendingItem url referrer transition initiationType option =>
    controller.addPendingItem env url referrer transition initiationType option
  | .legacyAddPendingItem url referrer transition initiationType option =>
    controller.legacyAddPendingItem env url referrer transition initiationType option
  | .updatePendingItemUrl url => controller.updatePendingItemUrl url
  | .commitPendingItem now => controller.commitPendingItem now
  | .addTransientItem url now => controller.addTransientItem env url now
  | .legacyAddTransientItem url now => controller.legacyAddTransientItem env url now
  | .pushNewItem url stateObject transition now =>
    controller.pushNewItem env url stateObject transition now
  | .updateCurrentItemForReplaceState url stateObject =>
    controller.updateCurrentItemForReplaceState url stateObject
  | .discardNonCommittedItems => controller.discardNonCommittedItems
  | .goToItemAtIndex index discard => controller.goToItemAtIndex index discard
  | .finishGoToIndex index => controller.finishGoToIndex env index
  | .removeItemAtIndex index => controller.removeItemAtIndex index
  | .setPendingItemIndex index => controller.setPendingItemIndex index
  | .copyStateFromSessionControllerAndPrune source =>
    controller.copyStateFromSessionControllerAndPrune source
  | .addTransientURLRewriter rewriter => some (controller.addTransientURLRewriter rewriter)

/-- Every operation keeps the indices inside the history. -/
theorem perform_wellIndexed {operation : Operation} (wf : before.WellIndexed)
    (performed : before.perform env operation = some after) : after.WellIndexed := by
  cases operation with
  | addPendingItem => exact (addPendingItem_keeps performed).wellIndexed wf
  | legacyAddPendingItem => exact (legacyAddPendingItem_keeps performed).wellIndexed wf
  | updatePendingItemUrl => exact (updatePendingItemUrl_keeps performed).wellIndexed wf
  | commitPendingItem => exact wf.commitPendingItem performed
  | addTransientItem => exact (addTransientItem_keeps performed).wellIndexed wf
  | legacyAddTransientItem => exact (legacyAddTransientItem_keeps performed).wellIndexed wf
  | pushNewItem => exact wf.pushNewItem performed
  | updateCurrentItemForReplaceState =>
    exact (updateCurrentItemForReplaceState_keeps performed).wellIndexed wf
  | discardNonCommittedItems => exact (discardNonCommittedItems_keeps performed).wellIndexed wf
  | goToItemAtIndex => exact wf.goToItemAtIndex performed
  | finishGoToIndex => exact wf.finishGoToIndex performed
  | removeItemAtIndex => exact wf.removeItemAtIndex performed
  | setPendingItemIndex => exact wf.setPendingItemIndex performed
  | copyStateFromSessionControllerAndPrune =>
    exact wf.copyStateFromSessionControllerAndPrune performed
  | addTransientURLRewriter =>
    cases performed
    exact ⟨wf.lastCommitted, wf.previous, wf.pending, wf.empty⟩

/-- The index given for the last committed item is one of the items, or -1 when there
are none; an index behind the last item counts as the last. -/
def StartsInside (items : List NavigationItem) (lastCommittedItemIndex : BitVec 64) : Prop :=
  if items = [] then -1 ≤ lastCommittedItemIndex.toInt else 0 ≤ lastCommittedItemIndex.toInt

inductive Initial : SessionController → Prop where
  | empty : Initial initWithBrowserState
  | restored {items : List NavigationItem} {lastCommittedItemIndex : BitVec 64}
      (inside : StartsInside items lastCommittedItemIndex) :
      Initial (initWithNavigationItems items lastCommittedItemIndex)

theorem Initial.wellIndexed (initial : Initial controller) : controller.WellIndexed := by
  cases initial with
  | empty => exact .initWithBrowserState
  | @restored items lastCommittedItemIndex inside =>
    unfold StartsInside at inside
    have none : ∀ items : List NavigationItem, IsIndex items (-1) :=
      fun items => ⟨Int.le_refl _, by omega⟩
    split at inside
    · rename_i empty
      subst empty
      have last : (initWithNavigationItems [] lastCommittedItemIndex).lastCommittedItemIndex =
          -1 := by
        simp only [initWithNavigationItems, List.length_nil]
        omega
      refine ⟨?_, none _, none _, ?_⟩
      · rw [last]
        exact none _
      · simpa [initWithNavigationItems] using last
    · rename_i nonempty
      have length := List.length_pos_iff.mpr nonempty
      grind [initWithNavigationItems, WellIndexed.of_lastCommitted]

theorem WellIndexed.pendingItem_mem (wf : controller.WellIndexed)
    (history : controller.pendingItemIndex ≠ -1) :
    ∃ item ∈ controller.items, controller.pendingItem = some (some item) := by
  have inside := wf.pending
  unfold IsIndex at inside
  obtain ⟨item, found⟩ := Option.isSome_iff_exists.mp
    ((at?_isSome_iff controller.items controller.pendingItemIndex).mpr (by omega))
  refine ⟨item, mem_of_at? found, ?_⟩
  simp [SessionController.pendingItem, if_neg history, found]

/-- In every run the indices stay inside the history, there is a last committed item
exactly when there are items, and a pending index is that of a pending item. -/
theorem run_indices {initial last : SessionController} (starts : Initial initial)
    {operations : List Operation}
    (performed : operations.foldlM (perform env) initial = some last) :
    IsIndex last.items last.lastCommittedItemIndex ∧
      IsIndex last.items last.previousItemIndex ∧
      IsIndex last.items last.pendingItemIndex ∧
      (last.lastCommittedItemIndex = -1 ↔ last.items = []) ∧
      (last.pendingItemIndex ≠ -1 →
        ∃ item ∈ last.items, last.pendingItem = some (some item)) := by
  have wf : last.WellIndexed :=
    foldlM_invariant performed starts.wellIndexed fun wf stepped => perform_wellIndexed wf stepped
  exact ⟨wf.lastCommitted, wf.previous, wf.pending, wf.empty, wf.pendingItem_mem⟩

/-- A step back to the first item and a load that replaces the forward history; then
the step back is started again. -/
def backAndLoad : List Operation :=
  [.finishGoToIndex 0, .commitPendingItem 1,
    .legacyAddPendingItem ⟨"d"⟩ ⟨.empty, 0⟩ PageTransition.link .browserInitiated .inherit,
    .commitPendingItem 2, .setPendingItemIndex 0]

def threeItems : List NavigationItem :=
  [{ url := ⟨"a"⟩ }, { url := ⟨"b"⟩ }, { url := ⟨"c"⟩ }]

theorem run_indices_backAndLoad :
    ∃ last,
      backAndLoad.foldlM (perform plainEnvironment) (initWithNavigationItems threeItems 7#64) =
        some last ∧
      last.items.map NavigationItem.url = [⟨"a"⟩, ⟨"d"⟩] ∧
      last.lastCommittedItemIndex = 1 ∧ last.previousItemIndex = 0 ∧
      IsIndex last.items last.lastCommittedItemIndex ∧
      IsIndex last.items last.previousItemIndex ∧
      IsIndex last.items last.pendingItemIndex ∧
      (last.lastCommittedItemIndex = -1 ↔ last.items = []) ∧
      (last.pendingItemIndex ≠ -1 →
        ∃ item ∈ last.items, last.pendingItem = some (some item)) := by
  have inside : StartsInside threeItems 7#64 := by
    simp only [StartsInside]
    decide
  refine ⟨_, rfl, rfl, rfl, rfl, ?_⟩
  exact @run_indices plainEnvironment _ _ (.restored inside) backAndLoad rfl

/-- An index above the signed range is read as -1, so that no item is committed. -/
theorem initWithNavigationItems_allOnes :
    ¬ ((initWithNavigationItems [{}] (BitVec.allOnes 64)).lastCommittedItemIndex = -1 ↔
      (initWithNavigationItems [{}] (BitVec.allOnes 64)).items = []) := by
  decide

end ChromiumIos.SessionController
