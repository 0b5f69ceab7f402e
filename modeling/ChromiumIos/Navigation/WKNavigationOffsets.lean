import ChromiumIos.Navigation.WKNavigationCache

/-!
# Offsets and the back and forward lists

The manager tells how far one can go from the current item in two ways: by the
lists of items before and after it, and by offsets into the history.  The lists
are read from the current entry of the web view, whereas offsets count from a
pending item of the history when there is one.  Where both count from the same
item they agree, attached or detached, with or without a transient item.
-/

namespace ChromiumIos.WKNavigationManager

open Lib

variable {env : NavigationEnvironment} {codec : SessionCodec} {baseUrl : String}
variable {manager : WKNavigationManager}

/-- The offset that is `distance` steps away can be gone to exactly when the list has that
many items, and the item at its index is the one the list has there. -/
def Agrees (env : NavigationEnvironment) (manager : WKNavigationManager)
    (list : Run (List (Option NavigationItem))) (offset : Int) (distance : Nat) : Prop :=
  ∃ items after, list manager = some (items, after) ∧
    (manager.canGoToOffset offset = true ↔ distance ≤ items.length) ∧
    ∀ item, items[distance - 1]? = some item →
      getItemAtIndex env (after.getIndexForOffset offset) after = some (item, after)

variable {operations : List Operation} {offset : Int} {list : Run (List (Option NavigationItem))}
  {distance : Nat}

/-- A list that is read at the indices of the offsets agrees with them. -/
theorem agrees_of_indices {indices : List Int} (positive : 1 ≤ distance)
    (reads : list manager = indices.mapM (getItemAtIndex env) manager)
    (reached : manager.canGoToOffset offset = true ↔ distance ≤ indices.length)
    (located : distance ≤ indices.length →
      indices[distance - 1]? = some (manager.getIndexForOffset offset)) :
    Agrees env manager list offset distance := by
  obtain ⟨items, after, ran⟩ :=
    mapM_returns (getItemAtIndex_returns env) indices manager
  have length := length_mapM ran
  have same : SameHistory manager after :=
    Keeps.mapM getItemAtIndex_keeps indices (.refl manager) ran
  refine ⟨items, after, reads.trans ran, ?_, ?_⟩
  · rw [length]
    exact reached
  · intro item found
    have inside : distance ≤ indices.length := by
      grind
    obtain ⟨value, read, settled⟩ :=
      getItemAtIndex_memoised.mapM_settled ran _ _ (located inside)
    grind [same.getIndexForOffset]

/-! ## The range of the current index -/

theorem Reachable.getCurrentItemIndex_inRange
    (reachable : Reachable env codec baseUrl manager) :
    -1 ≤ manager.getCurrentItemIndex ∧
      manager.getCurrentItemIndex < manager.getBackForwardListItemCount := by
  cases attached : manager.attachedToWebView with
  | true => exact WKNavigationManager.getCurrentItemIndex_inRange attached
  | false =>
    have range := reachable.cacheInRange attached
    simp [getCurrentItemIndex, getBackForwardListItemCount, attached, range]

theorem getItemCount_eq (window : manager.emptyWindowOpenItem = none) :
    manager.getItemCount = manager.getBackForwardListItemCount := by
  simp [getItemCount, window]

theorem canGoToOffset_iff (window : manager.emptyWindowOpenItem = none)
    (settled : manager.isRestoreSessionInProgress = false) (offset : Int) :
    manager.canGoToOffset offset = true ↔
      0 ≤ manager.getIndexForOffset offset ∧
        manager.getIndexForOffset offset < manager.getBackForwardListItemCount := by
  simp [canGoToOffset, window, settled, getItemCount_eq window]

/-- During a restore one can go nowhere, and both lists are empty. -/
theorem agrees_of_restore (restoring : manager.isRestoreSessionInProgress = true)
    (empty : list manager = some ([], manager)) (offset : Int) (positive : 1 ≤ distance) :
    Agrees env manager list offset distance := by
  have reads : list manager = ([] : List Int).mapM (getItemAtIndex env) manager := empty
  refine agrees_of_indices positive reads ?_ ?_
  · simp [canGoToOffset, restoring]
    omega
  · intro inside
    simp at inside
    omega

/-! ## Forward -/

theorem getIndexForOffset_forward (window : manager.emptyWindowOpenItem = none)
    (current : manager.pendingItemIndex = -1 ∨
      manager.pendingItemIndex = manager.getCurrentItemIndex) (forward : 0 ≤ offset) :
    manager.getIndexForOffset offset = manager.getCurrentItemIndex + offset := by
  simp only [getIndexForOffset]
  grind

theorem agrees_forward (reachable : Reachable env codec baseUrl manager)
    (window : manager.emptyWindowOpenItem = none)
    (current : manager.isRestoreSessionInProgress = true ∨ manager.pendingItemIndex = -1 ∨
      manager.pendingItemIndex = manager.getCurrentItemIndex) (positive : 1 ≤ distance) :
    Agrees env manager (getForwardItems env) distance distance := by
  cases restoring : manager.isRestoreSessionInProgress with
  | true =>
    refine agrees_of_restore restoring ?_ _ positive
    simp only [getForwardItems]
    rw [Stateful.run_get, if_pos restoring]
    rfl
  | false =>
    have counted := current.resolve_left (by simp [restoring])
    have index := getIndexForOffset_forward window counted (Int.natCast_nonneg distance)
    have range := reachable.getCurrentItemIndex_inRange
    have reads : getForwardItems env manager =
        manager.forwardIndices.mapM (getItemAtIndex env) manager := by
      simp only [getForwardItems]
      rw [Stateful.run_get, if_neg (by simp [restoring])]
    have length : manager.forwardIndices.length =
        (manager.getBackForwardListItemCount - (manager.getCurrentItemIndex + 1)).toNat := by
      simp [forwardIndices, getItemCount_eq window]
    refine agrees_of_indices positive reads ?_ ?_
    · rw [canGoToOffset_iff window restoring, index, length]
      omega
    · intro inside
      rw [length] at inside
      rw [index]
      simp only [forwardIndices]
      rw [getItemCount_eq window, List.getElem?_map, List.getElem?_range (by omega),
        Option.map_some, Option.some.injEq]
      omega

/-! ## Backward -/

/-- How many items there are before the current one, the current one included when a
transient item covers it. -/
def backwardCount (manager : WKNavigationManager) : Nat :=
  if manager.transientItem.isSome then (manager.getCurrentItemIndex + 1).toNat
  else manager.getCurrentItemIndex.toNat

/-- The items before the current one are read from the nearest to the first. -/
theorem backwardIndices_eq (range : -1 ≤ manager.getCurrentItemIndex) :
    manager.backwardIndices =
      (List.range manager.backwardCount).map
        fun step : Nat => (manager.backwardCount - 1 - step : Int) := by
  simp only [backwardIndices, backwardCount]
  cases atStart : manager.getCurrentItemIndex with
  | negSucc _ =>
    grind
  | ofNat index =>
    cases manager.transientItem.isSome with
    | false => simp
    | true =>
      have count : (Int.ofNat index + 1).toNat = index + 1 := rfl
      simp only [true_and, if_true, count, List.range_succ_eq_map, List.map_cons,
        List.map_map]
      have nonneg : Int.ofNat index ≥ 0 := Int.natCast_nonneg index
      refine congrArg₂ List.cons ?_ (List.map_congr_left ?_)
      · simp
      · grind

theorem getIndexForOffset_backward (window : manager.emptyWindowOpenItem = none)
    (current : manager.pendingItemIndex = -1 ∨
      manager.pendingItemIndex = manager.getCurrentItemIndex ∧ manager.transientItem = none)
    (backward : offset < 0) :
    manager.getIndexForOffset offset =
      manager.getCurrentItemIndex + offset + if manager.transientItem.isSome then 1 else 0 := by
  simp only [getIndexForOffset]
  grind

theorem agrees_backward (reachable : Reachable env codec baseUrl manager)
    (window : manager.emptyWindowOpenItem = none)
    (current : manager.isRestoreSessionInProgress = true ∨ manager.pendingItemIndex = -1 ∨
      manager.pendingItemIndex = manager.getCurrentItemIndex ∧ manager.transientItem = none)
    (positive : 1 ≤ distance) :
    Agrees env manager (getBackwardItems env) (-distance) distance := by
  cases restoring : manager.isRestoreSessionInProgress with
  | true =>
    refine agrees_of_restore restoring ?_ _ positive
    simp only [getBackwardItems]
    rw [Stateful.run_get, if_pos restoring]
    rfl
  | false =>
    have counted := current.resolve_left (by simp [restoring])
    have index := getIndexForOffset_backward window counted
      (show -(distance : Int) < 0 by omega)
    have range := reachable.getCurrentItemIndex_inRange
    have reads : getBackwardItems env manager =
        manager.backwardIndices.mapM (getItemAtIndex env) manager := by
      simp only [getBackwardItems]
      rw [Stateful.run_get, if_neg (by simp [restoring])]
    rw [backwardIndices_eq range.1] at reads
    have first : distance ≤ manager.backwardCount →
        manager.getIndexForOffset (-distance) =
          manager.backwardCount - 1 - (distance - 1 : Nat) := by
      rw [index]
      simp only [backwardCount]
      split <;> omega
    refine agrees_of_indices positive reads ?_ ?_
    · rw [canGoToOffset_iff window restoring, index, List.length_map, List.length_range]
      simp only [backwardCount]
      split <;> omega
    · intro inside
      rw [List.length_map, List.length_range] at inside
      rw [List.getElem?_map, List.getElem?_range (by omega), Option.map_some, first inside]

/-! ## Both directions -/

/-- In every reachable state the offsets agree with the lists wherever they count from the
same item: forward unless the pending item is elsewhere in the history, backward
unless, in addition, it is covered by a transient item.  From the page of a window
opened without a URL no other offset can be gone to. -/
theorem offsets_agree (reachable : Reachable env codec baseUrl manager)
    {distance : Nat} (positive : 1 ≤ distance) :
    (manager.emptyWindowOpenItem = none →
      (manager.isRestoreSessionInProgress = true ∨ manager.pendingItemIndex = -1 ∨
        manager.pendingItemIndex = manager.getCurrentItemIndex →
        Agrees env manager (getForwardItems env) distance distance) ∧
      (manager.isRestoreSessionInProgress = true ∨ manager.pendingItemIndex = -1 ∨
        manager.pendingItemIndex = manager.getCurrentItemIndex ∧ manager.transientItem = none →
        Agrees env manager (getBackwardItems env) (-distance) distance)) ∧
    (manager.emptyWindowOpenItem.isSome →
      manager.canGoToOffset distance = false ∧ manager.canGoToOffset (-distance) = false) := by
  refine ⟨fun window => ⟨?_, ?_⟩, fun window => ?_⟩
  · grind [agrees_forward]
  · grind [agrees_backward]
  · have notHere : distance ≠ 0 := by omega
    simp [canGoToOffset, window, notHere]

/-- A web view with an entry before and one after the current one. -/
def threeEntries : WKWebView where
  url := ⟨"b"⟩
  backForwardList := .focused [⟨⟨"a"⟩, "A", none⟩] ⟨⟨"b"⟩, "B", none⟩ [⟨⟨"c"⟩, "C", none⟩]

/-- A codec that carries nothing; no session is restored with it. -/
def silentCodec : SessionCodec where
  jsonWrite := fun _ => ""
  escapeQueryParamValue := fun text => text
  decodeURIComponent := fun text => text
  encodeURIComponent := fun text => text
  jsonParse := fun _ => none

def coveredAndDetached : List Operation :=
  [.webViewChanges (some threeEntries), .addTransientItem ⟨"warning"⟩, .detachFromWebView]

def stateAfter (operations : List Operation) : WKNavigationManager :=
  (((performAll plainEnvironment silentCodec "" operations {}).map Prod.snd).getD {})

theorem reachable_stateAfter
    (returned : (performAll plainEnvironment silentCodec "" operations {}).isSome) :
    Reachable plainEnvironment silentCodec "" (stateAfter operations) := by
  obtain ⟨⟨_, _⟩, ran⟩ := Option.isSome_iff_exists.mp returned
  refine ⟨operations, ?_⟩
  simp only [stateAfter]
  rw [ran]
  rfl

def stateWithRestores (operations : List Operation) : WKNavigationManager :=
  ((performAll restoringEnvironment silentCodec "restore" operations {}).map Prod.snd).getD {}

theorem performAll_stateWithRestores
    (returned : (performAll restoringEnvironment silentCodec "restore" operations {}).isSome) :
    performAll restoringEnvironment silentCodec "restore" operations {} =
      some ((), stateWithRestores operations) := by
  obtain ⟨⟨_, _⟩, ran⟩ := Option.isSome_iff_exists.mp returned
  simp [stateWithRestores, ran]

theorem offsets_agree_detached :
    (stateAfter coveredAndDetached).attachedToWebView = false ∧
      (stateAfter coveredAndDetached).transientItem.isSome ∧
      (stateAfter coveredAndDetached).canGoToOffset 1 = true ∧
      (stateAfter coveredAndDetached).canGoToOffset (-2) = true ∧
      Agrees plainEnvironment (stateAfter coveredAndDetached)
        (getForwardItems plainEnvironment) (1 : Nat) 1 ∧
      Agrees plainEnvironment (stateAfter coveredAndDetached)
        (getBackwardItems plainEnvironment) (-(2 : Nat)) 2 := by
  have reachable : Reachable plainEnvironment silentCodec "" (stateAfter coveredAndDetached) :=
    reachable_stateAfter (by decide +kernel)
  have window : (stateAfter coveredAndDetached).emptyWindowOpenItem = none := by decide +kernel
  have pending : (stateAfter coveredAndDetached).pendingItemIndex = -1 := by decide +kernel
  refine ⟨by decide +kernel, by decide +kernel, by decide +kernel, by decide +kernel, ?_, ?_⟩
  · exact ((offsets_agree reachable (by decide)).1 window).1 (.inr (.inl pending))
  · exact ((offsets_agree reachable (by decide)).1 window).2 (.inr (.inl pending))

def backPending : List Operation :=
  [.webViewChanges (some ⟨⟨"b"⟩, .focused [⟨⟨"a"⟩, "A", none⟩] ⟨⟨"b"⟩, "B", none⟩ []⟩),
    .setPendingItemIndex 0]

/-- Offsets count from the pending item, the forward items from the current one. -/
theorem not_agrees_backPending :
    Reachable plainEnvironment silentCodec "" (stateAfter backPending) ∧
      ¬ Agrees plainEnvironment (stateAfter backPending)
        (getForwardItems plainEnvironment) 1 1 := by
  refine ⟨reachable_stateAfter (by decide +kernel), ?_⟩
  rintro ⟨items, after, listed, reached, -⟩
  have none : getForwardItems plainEnvironment (stateAfter backPending) =
      some ([], stateAfter backPending) := rfl
  cases listed
  exact absurd (reached.mp (by decide +kernel)) (by decide)

end ChromiumIos.WKNavigationManager
