import ChromiumIos.Navigation.SessionControllerIndices

/-!
# Moves of the session controller between items and between sessions

A tab takes over the history of another one by putting that history before its
own last committed item.  Going to an item of the same document commits it
without a load; what was being loaded before should then be gone, and is if the
move is backward.
-/

namespace ChromiumIos.SessionController

open Lib

variable {env : NavigationEnvironment} {controller before after : SessionController}

/-! ## Taking over the history of another session -/

/-- Both controllers after the copy; the source is only read, its items are copied. -/
def copyBetween (receiver source : SessionController) :
    Checked (SessionController × SessionController) := do
  let receiver ← receiver.copyStateFromSessionControllerAndPrune source
  return (receiver, source)

/-- The receiver is alone with its last committed item and the source has one. -/
def CanCopy (receiver source : SessionController) : Prop :=
  receiver.canPruneAllButLastCommittedItem = true ∧
    ∃ item, source.lastCommittedItem = some (some item)

/-- The receiver after the history of the source was put before its own item. -/
structure TakesOver (receiver source after : SessionController) : Prop where
  items : ∃ own, receiver.lastCommittedItem = some (some own) ∧
    after.items = source.items.take (source.lastCommittedItemIndex + 1).toNat ++ [own]
  lastCommitted : after.lastCommittedItemIndex = after.items.length - 1
  previous : after.previousItemIndex = -1
  pending : after.pendingItem = receiver.pendingItem
  newPending : after.newPendingItem = receiver.newPendingItem
  transient : after.transientItem = none

theorem canPruneAllButLastCommittedItem_iff :
    controller.canPruneAllButLastCommittedItem = true ↔
      controller.lastCommittedItemIndex ≠ -1 ∧ controller.pendingItemIndex = -1 ∧
        controller.transientItem = none := by
  simp [canPruneAllButLastCommittedItem]

variable {index : Int} {source : SessionController}

theorem copyState_takesOver (wf : before.WellIndexed) (sourceWf : source.WellIndexed)
    (can : CanCopy before source) :
    ∃ after, before.copyStateFromSessionControllerAndPrune source = some after ∧
      TakesOver before source after := by
  obtain ⟨prunes, item, committed⟩ := can
  obtain ⟨present, noPending, noTransient⟩ := canPruneAllButLastCommittedItem_iff.mp prunes
  obtain ⟨missing, _⟩ | ⟨own, found, _, ownCommitted⟩ := wf.lastCommittedItem_eq
  · exact absurd missing present
  obtain ⟨_, absent⟩ | ⟨_, _, sourcePresent, _⟩ := sourceWf.lastCommittedItem_eq
  · cases absent.symm.trans committed
  have nonempty : source.items ≠ [] := fun empty => sourcePresent (sourceWf.empty.mpr empty)
  have inside := sourceWf.lastCommitted
  unfold IsIndex at inside
  have nonneg : source.lastCommittedItemIndex > -1 := by omega
  have copied : before.copyStateFromSessionControllerAndPrune source = some { before with
      items := source.items.take (source.lastCommittedItemIndex + 1).toNat ++ [own]
      previousItemIndex := -1
      lastCommittedItemIndex :=
        (source.items.take (source.lastCommittedItemIndex + 1).toNat ++ [own]).length - 1 } := by
    simp [copyStateFromSessionControllerAndPrune, prunes, nonempty, committed, nonneg, found]
  refine ⟨_, copied, ⟨own, ownCommitted, rfl⟩, rfl, rfl, ?_, rfl, noTransient⟩
  simp only [pendingItem, noPending, if_true]

theorem copyState_unchanged (sourceWf : source.WellIndexed) (cannot : ¬ CanCopy before source) :
    before.copyStateFromSessionControllerAndPrune source = some before := by
  unfold copyStateFromSessionControllerAndPrune
  by_cases prunes : before.canPruneAllButLastCommittedItem
  · obtain ⟨_, absent⟩ | ⟨item, _, _, committed⟩ := sourceWf.lastCommittedItem_eq
    · simp [prunes, absent]
    · exact absurd ⟨prunes, item, committed⟩ cannot
  · simp [prunes]

/--
The history of the source is put before the item of the receiver if there is one
to put there and the receiver can be pruned; nothing changes otherwise, and the
source never does.
-/
theorem copyBetween_spec (receiver source : SessionController) (wf : receiver.WellIndexed)
    (sourceWf : source.WellIndexed) :
    ∃ after, copyBetween receiver source = some (after, source) ∧
      (CanCopy receiver source → TakesOver receiver source after) ∧
      (¬ CanCopy receiver source → after = receiver) := by
  by_cases can : CanCopy receiver source
  · obtain ⟨_, copied, takes⟩ := copyState_takesOver wf sourceWf can
    simp [copyBetween, copied, takes, can]
  · simp [copyBetween, copyState_unchanged sourceWf can, can]

def middleOfThree : SessionController :=
  { items := threeItems, lastCommittedItemIndex := 1 }

def loadingAfterTwo : SessionController :=
  { items := [{ url := ⟨"e"⟩ }, { url := ⟨"g"⟩ }]
    lastCommittedItemIndex := 1
    previousItemIndex := 0
    newPendingItem := some { url := ⟨"h"⟩ } }

theorem copyBetween_loadingAfterTwo :
    CanCopy loadingAfterTwo middleOfThree ∧
      ∃ after, copyBetween loadingAfterTwo middleOfThree = some (after, middleOfThree) ∧
        (CanCopy loadingAfterTwo middleOfThree →
          TakesOver loadingAfterTwo middleOfThree after) ∧
        (¬ CanCopy loadingAfterTwo middleOfThree → after = loadingAfterTwo) := by
  have wf : loadingAfterTwo.WellIndexed := by decide
  have sourceWf : middleOfThree.WellIndexed := by decide
  exact ⟨⟨by decide, _, rfl⟩, copyBetween_spec loadingAfterTwo middleOfThree wf sourceWf⟩

/-! ## Going to an item -/

/-- The item at the index is the last committed one, and nothing is left that is not committed. -/
structure SettledAt (after : SessionController) (index : Int) : Prop where
  lastCommitted : after.lastCommittedItemIndex = index
  pending : after.pendingItem = some none
  transient : after.transientItem = none

def EndsAt (moved : Checked SessionController) (index : Int) : Prop :=
  ∃ after, moved = some after ∧ after.SettledAt index

/-- The two directions of a move: forward it keeps the pending item. -/
theorem goToItemAtIndex_eq (inside : 0 ≤ index ∧ index < controller.items.length)
    (other : index ≠ controller.lastCommittedItemIndex) :
    controller.goToItemAtIndex index true =
      if index < controller.lastCommittedItemIndex then
        some { controller with
          transientItem := none
          newPendingItem := none
          pendingItemIndex := -1
          previousItemIndex := controller.lastCommittedItemIndex
          lastCommittedItemIndex := index }
      else
        some { controller with
          transientItem := none
          previousItemIndex := controller.lastCommittedItemIndex
          lastCommittedItemIndex := index } := by
  unfold goToItemAtIndex discardForGoTo
  rw [if_neg (by omega), if_neg other, if_neg (by decide)]
  split_ifs
  · rw [discardNonCommittedItems_eq]
    rfl
  · rfl

theorem goToItemAtIndex_endsAt (inside : 0 ≤ index ∧ index < controller.items.length)
    (other : index ≠ controller.lastCommittedItemIndex) :
    EndsAt (controller.goToItemAtIndex index true) index ↔
      index < controller.lastCommittedItemIndex ∨ controller.pendingItem = some none := by
  unfold EndsAt
  rw [goToItemAtIndex_eq inside other]
  split_ifs with back
  · exact iff_of_true ⟨_, rfl, rfl, rfl, rfl⟩ (.inl back)
  · constructor
    · rintro ⟨after, moved, settled⟩
      cases moved
      exact .inr settled.pending
    · rintro (impossible | none)
      · exact absurd impossible back
      · exact ⟨_, rfl, rfl, none, rfl⟩

def documentKey (item : NavigationItem) : GURL × Bool × Bool :=
  (item.url, item.isCreatedFromPushState, item.isCreatedFromHashChange)

/-- The items are at their places and there is a pending item when there was one; only
page states and transitions may have changed. -/
structure SamePlaces (before after : SessionController) : Prop where
  items : after.items.map documentKey = before.items.map documentKey
  lastCommitted : after.lastCommittedItemIndex = before.lastCommittedItemIndex
  pendingIndex : after.pendingItemIndex = before.pendingItemIndex
  newPending : after.newPendingItem = none ↔ before.newPendingItem = none

theorem sameDocumentItems_congr (firstUrl : GURL) {items others : List NavigationItem}
    (same : items.map documentKey = others.map documentKey) :
    sameDocumentItems env firstUrl items =
      sameDocumentItems env firstUrl others := by
  induction items generalizing others with
  | nil =>
    rw [List.map_nil, eq_comm, List.map_eq_nil_iff] at same
    rw [same]
  | cons _ _ ih =>
    cases others with
    | nil => cases same
    | cons _ _ =>
      obtain ⟨keys, tails⟩ := List.cons.inj same
      obtain ⟨url, flags⟩ := Prod.mk.inj keys
      obtain ⟨pushed, hashed⟩ := Prod.mk.inj flags
      unfold sameDocumentItems
      rw [url, pushed, hashed, ih tails]

namespace SamePlaces

theorem refl (controller : SessionController) : SamePlaces controller controller :=
  ⟨rfl, rfl, rfl, Iff.rfl⟩

theorem length (same : SamePlaces before after) : after.items.length = before.items.length := by
  have lengths := congrArg List.length same.items
  rwa [List.length_map, List.length_map] at lengths

theorem key (same : SamePlaces before after) (index : Nat) :
    after.items[index]?.map documentKey = before.items[index]?.map documentKey := by
  rw [← List.getElem?_map, same.items, List.getElem?_map]

theorem pendingItem (same : SamePlaces before after) :
    after.pendingItem = some none ↔ before.pendingItem = some none := by
  unfold SessionController.pendingItem
  rw [same.pendingIndex]
  split_ifs
  · rw [Option.some.injEq, Option.some.injEq, same.newPending]
  · simp

/-- Writing an item in the place of one with the same key. -/
theorem of_setAt {item other : NavigationItem} (found : at? controller.items index = some other)
    (keys : documentKey item = documentKey other) :
    SamePlaces controller { controller with items := setAt controller.items index item } := by
  refine ⟨?_, rfl, rfl, Iff.rfl⟩
  have foundKey : at? (controller.items.map documentKey) index = some (documentKey item) := by
    rw [at?_map, found, Option.map_some, keys]
  calc (setAt controller.items index item).map documentKey
      = setAt (controller.items.map documentKey) index (documentKey item) := List.map_set
    _ = controller.items.map documentKey := setAt_self foundKey

theorem betweenItems (same : SamePlaces before after) (first second : Nat) :
    after.isSameDocumentNavigationBetweenItems env first second =
      before.isSameDocumentNavigationBetweenItems env first second := by
  have keyFirst := same.key first
  have keySecond := same.key second
  have between : ∀ start count,
      ((after.items.drop start).take count).map documentKey =
        ((before.items.drop start).take count).map documentKey := by
    simp [same.items]
  unfold isSameDocumentNavigationBetweenItems
  cases foundFirst : after.items[first]? with
  | none =>
    grind
  | some item =>
    rw [foundFirst, Option.map_some, eq_comm, Option.map_eq_some_iff] at keyFirst
    obtain ⟨other, foundOther, keys⟩ := keyFirst
    have url : other.url = item.url := congrArg Prod.fst keys
    rw [foundOther]
    cases foundSecond : after.items[second]? with
    | none =>
      grind
    | some target =>
      rw [foundSecond, Option.map_some, eq_comm, Option.map_eq_some_iff] at keySecond
      obtain ⟨otherTarget, foundTarget, targetKeys⟩ := keySecond
      have targetUrl : otherTarget.url = target.url := congrArg Prod.fst targetKeys
      grind [sameDocumentItems_congr]

theorem lastCommittedItem (env : NavigationEnvironment)
    (same : SamePlaces before after) :
    after.getLastCommittedItem env = none ∧
        before.getLastCommittedItem env = none ∨
      ∃ found other, after.getLastCommittedItem env = some found ∧
        before.getLastCommittedItem env = some other ∧
        found.map documentKey = other.map documentKey := by
  unfold getLastCommittedItem SessionController.lastCommittedItem
  rw [same.lastCommitted]
  split_ifs
  · right
    exact ⟨none, none, rfl, rfl, rfl⟩
  · have keys : (at? after.items before.lastCommittedItemIndex).map documentKey =
        (at? before.items before.lastCommittedItemIndex).map documentKey := by
      rw [← at?_map, same.items, at?_map]
    cases found : at? after.items before.lastCommittedItemIndex with
    | none =>
      rw [found, Option.map_none, eq_comm, Option.map_eq_none_iff] at keys
      left
      rw [keys]
      exact ⟨rfl, rfl⟩
    | some item =>
      rw [found, Option.map_some, eq_comm, Option.map_eq_some_iff] at keys
      obtain ⟨other, foundOther, keys⟩ := keys
      have url : other.url = item.url := congrArg Prod.fst keys
      grind

theorem asLastCommitted (same : SamePlaces before after) (index : Nat) :
    after.isSameDocumentAsLastCommitted env index =
      before.isSameDocumentAsLastCommitted env index := by
  unfold isSameDocumentAsLastCommitted
  rw [same.lastCommitted]
  obtain ⟨absent, absentBefore⟩ | ⟨found, other, here, there, keys⟩ :=
    same.lastCommittedItem env
  · rw [absent, absentBefore]
    rfl
  · rw [here, there]
    cases found with
    | none =>
      grind
    | some _ =>
      rw [Option.map_some, eq_comm, Option.map_eq_some_iff] at keys
      grind [same.betweenItems]

end SamePlaces

def recordPageStateInNavigationItem (controller : SessionController)
    (pageDisplayState : Option PageDisplayState) : Checked SessionController := do
  match pageDisplayState, ← controller.currentItem with
  | some state, some item => controller.writeCurrentItem { item with pageDisplayState := state }
  | _, _ => return controller

/-- An interstitial that is shown is dismissed, with what is not committed. -/
def clearTransientContent (controller : SessionController) (interstitial : Bool) :
    Checked SessionController :=
  if interstitial then controller.discardNonCommittedItems else return controller

/-- The notice of another user agent is left out. -/
def goToIndex (env : NavigationEnvironment) (pageDisplayState : Option PageDisplayState)
    (interstitial : Bool) (controller : SessionController) (index : Int) :
    Checked SessionController := do
  if index < 0 ∨ index ≥ controller.items.length then
    return controller
  else
    let controller ←
      if controller.transientItem = none then
        controller.recordPageStateInNavigationItem pageDisplayState
      else
        pure controller
    let controller ← controller.clearTransientContent interstitial
    controller.finishGoToIndex env index.toNat

variable {index : Nat}

theorem finishGoToIndex_endsAt (inside : index < controller.items.length)
    (other : (index : Int) ≠ controller.lastCommittedItemIndex)
    (document : controller.isSameDocumentAsLastCommitted env index = some true) :
    EndsAt (controller.finishGoToIndex env index) index ↔
      index < controller.lastCommittedItemIndex ∨ controller.pendingItem = some none := by
  have found : controller.items[index]? = some controller.items[index] :=
    List.getElem?_eq_getElem inside
  let marked : SessionController := { controller with
    items := setAt controller.items index { controller.items[index] with
      transitionType := controller.items[index].transitionType ||| PageTransition.forwardBack } }
  have same : SamePlaces controller marked := SamePlaces.of_setAt found rfl
  have moves : controller.finishGoToIndex env index =
      marked.goToItemAtIndex index true := by
    unfold finishGoToIndex
    rw [found]
    change ((marked.isSameDocumentAsLastCommitted env index).bind fun sameDocument =>
      if sameDocument then _ else _) = _
    rw [same.asLastCommitted, document]
    rfl
  grind [goToItemAtIndex_endsAt, same.length, same.pendingItem]

theorem currentItem_spec (wf : controller.WellIndexed)
    (noTransient : controller.transientItem = none) :
    ∃ found, controller.currentItem = some found ∧
      ∀ item other, found = some item → documentKey other = documentKey item →
        ∃ after, controller.writeCurrentItem other = some after ∧
          SamePlaces controller after := by
  unfold currentItem writeCurrentItem
  rw [noTransient]
  dsimp only
  by_cases new : controller.pendingItemIndex = -1
  · have pending : controller.pendingItem = some controller.newPendingItem := if_pos new
    rw [pending]
    cases made : controller.newPendingItem with
    | some item =>
      refine ⟨some item, rfl, fun _ other _ _ => ⟨_, rfl, ?_⟩⟩
      simpa [writePendingItem, if_pos new] using ⟨rfl, rfl, rfl, by simp [made]⟩
    | none =>
      obtain ⟨_, absent⟩ | ⟨item, found, _, committed⟩ := wf.lastCommittedItem_eq
      · simp [absent]
      · refine ⟨some item, committed, fun _ other same keys => ⟨_, rfl, ?_⟩⟩
        cases same
        exact SamePlaces.of_setAt found keys
  · have inside := wf.pending
    unfold IsIndex at inside
    obtain ⟨item, found⟩ := Option.isSome_iff_exists.mp
      ((at?_isSome_iff controller.items controller.pendingItemIndex).mpr (by omega))
    have pending : controller.pendingItem = some (some item) := by
      simp [SessionController.pendingItem, if_neg new, found]
    rw [pending]
    refine ⟨some item, rfl, fun _ other same keys => ⟨_, rfl, ?_⟩⟩
    cases same
    unfold writePendingItem
    rw [if_neg new]
    exact SamePlaces.of_setAt found keys

theorem recordPageState_samePlaces (wf : controller.WellIndexed)
    (noTransient : controller.transientItem = none) (pageDisplayState : Option PageDisplayState) :
    ∃ after, controller.recordPageStateInNavigationItem pageDisplayState = some after ∧
      SamePlaces controller after := by
  obtain ⟨found, current, writes⟩ := currentItem_spec wf noTransient
  unfold recordPageStateInNavigationItem
  rw [current]
  cases pageDisplayState with
  | none => exact ⟨controller, rfl, .refl controller⟩
  | some _ =>
    cases found with
    | none => exact ⟨controller, rfl, .refl controller⟩
    | some item => exact writes item _ rfl rfl

/-- Dismissing an interstitial leaves no pending item, and anything else leaves it alone. -/
theorem clearTransientContent_spec (controller : SessionController) (interstitial : Bool) :
    ∃ after, controller.clearTransientContent interstitial = some after ∧
      after.items = controller.items ∧
      after.lastCommittedItemIndex = controller.lastCommittedItemIndex ∧
      (after.pendingItem = some none ↔
        controller.pendingItem = some none ∨ interstitial = true) ∧
      ∀ env index, after.isSameDocumentAsLastCommitted env index =
        controller.isSameDocumentAsLastCommitted env index := by
  unfold clearTransientContent
  cases interstitial with
  | true =>
    refine ⟨_, discardNonCommittedItems_eq controller, rfl, rfl, ?_, fun _ _ => rfl⟩
    exact iff_of_true rfl (.inr rfl)
  | false =>
    simp

theorem goToIndex_endsAt (wf : controller.WellIndexed) (inside : index < controller.items.length)
    (other : (index : Int) ≠ controller.lastCommittedItemIndex)
    (document : controller.isSameDocumentAsLastCommitted env index = some true)
    (pageDisplayState : Option PageDisplayState) (interstitial : Bool) :
    EndsAt (goToIndex env pageDisplayState interstitial controller index) index ↔
      index < controller.lastCommittedItemIndex ∨ controller.pendingItem = some none ∨
        interstitial = true := by
  obtain ⟨recorded, recording, same⟩ : ∃ recorded,
      (if controller.transientItem = none then
          controller.recordPageStateInNavigationItem pageDisplayState
        else some controller) = some recorded ∧ SamePlaces controller recorded := by
    split_ifs with noTransient
    · exact recordPageState_samePlaces wf noTransient pageDisplayState
    · exact ⟨controller, rfl, .refl controller⟩
  obtain ⟨cleared, clearing, items, lastCommitted, pending, documents⟩ :=
    clearTransientContent_spec recorded interstitial
  have moves : goToIndex env pageDisplayState interstitial controller index =
      cleared.finishGoToIndex env index := by
    unfold goToIndex
    grind
  grind [finishGoToIndex_endsAt, same.length, same.lastCommitted, same.asLastCommitted,
    same.pendingItem]

/--
Going to another item of the history leaves nothing that is not committed exactly
if the move is backward or nothing was pending.  For a move inside a document by
the manager it is enough that an interstitial was dismissed.
-/
theorem goTo_endsAt_iff (env : NavigationEnvironment) (wf : controller.WellIndexed)
    {index : Nat} (inside : index < controller.items.length)
    (other : (index : Int) ≠ controller.lastCommittedItemIndex) :
    (EndsAt (controller.goToItemAtIndex index true) index ↔
      index < controller.lastCommittedItemIndex ∨ controller.pendingItem = some none) ∧
    (controller.isSameDocumentAsLastCommitted env index = some true →
      ∀ pageDisplayState interstitial,
        EndsAt (goToIndex env pageDisplayState interstitial controller index) index ↔
          index < controller.lastCommittedItemIndex ∨ controller.pendingItem = some none ∨
            interstitial = true) :=
  ⟨goToItemAtIndex_endsAt (by omega) other, goToIndex_endsAt wf inside other⟩

/-- A document that pushed a state, with a load on the way to another page. -/
def pushedOnce (lastCommittedItemIndex : Int) : SessionController :=
  { items := [{ url := ⟨"a"⟩ }, { url := ⟨"a#1"⟩, isCreatedFromPushState := true }]
    lastCommittedItemIndex
    newPendingItem := some { url := ⟨"b"⟩ } }

/-- Back to the page before its state was pushed. -/
theorem goTo_endsAt_back :
    EndsAt ((pushedOnce 1).goToItemAtIndex 0 true) 0 ∧
      EndsAt (goToIndex plainEnvironment none false (pushedOnce 1) 0) 0 := by
  have wf : (pushedOnce 1).WellIndexed := by decide
  have ends := goTo_endsAt_iff plainEnvironment wf (show 0 < 2 by decide) (by decide)
  have document : (pushedOnce 1).isSameDocumentAsLastCommitted plainEnvironment 0 = some true := by
    decide
  grind [pushedOnce]

/-- Forward to the pushed state the load of the other page stays pending. -/
theorem goTo_keepsPending_forward :
    (pushedOnce 0).WellIndexed ∧
      (pushedOnce 0).isSameDocumentAsLastCommitted plainEnvironment 1 = some true ∧
      ¬ EndsAt ((pushedOnce 0).goToItemAtIndex 1 true) 1 ∧
      ¬ EndsAt (goToIndex plainEnvironment none false (pushedOnce 0) 1) 1 := by
  have wf : (pushedOnce 0).WellIndexed := by decide
  have document : (pushedOnce 0).isSameDocumentAsLastCommitted plainEnvironment 1 = some true := by
    decide
  have pending : (pushedOnce 0).pendingItem ≠ some none := by decide
  refine ⟨wf, document, fun ends => ?_, fun ends => ?_⟩
  · rcases (goToItemAtIndex_endsAt (by decide) (by decide)).mp ends with back | none
    · exact absurd back (by decide)
    · exact pending none
  · rcases (goToIndex_endsAt wf (show 1 < 2 by decide) (by decide) document none false).mp ends
      with back | none | dismissed
    · exact absurd back (by decide)
    · exact pending none
    · cases dismissed

end ChromiumIos.SessionController
