import ChromiumIos.Tabs.TabGrid

/-!
# The grid shows the list

The items of the grid stand in the order of the list, and an index of the list is the
index at which the grid finds the identifier of the WebState there.  A move that the user
makes has already been made in the grid when the list reports it: the grid then finds the
item where it is to go.
-/

namespace ChromiumIos

open Lib WebStateList

variable {W Id : Type} [DecidableEq W] [DecidableEq Id]

/-! ## The consumer -/

namespace GridViewController

variable {grid : GridViewController Id} {index : Int} {itemID : Id} {item : GridItem Id}

omit [DecidableEq Id] in
theorem length_identifiers (grid : GridViewController Id) :
    grid.identifiers.length = grid.items.length :=
  List.length_map _

theorem indexOfItemWithID_eq (nodup : grid.identifiers.Nodup)
    (found : at? grid.identifiers index = some itemID) :
    grid.indexOfItemWithID itemID = some index.toNat := by
  have inside := (at?_isSome_iff _ index).mp (by rw [found]; rfl)
  rw [at?_of_nonneg _ inside.1] at found
  exact findIdx?_key GridItem.identifier nodup found

theorem indexOfItemWithID_eq_none (absent : itemID ∉ grid.identifiers) :
    grid.indexOfItemWithID itemID = none :=
  findIdx?_key_eq_none GridItem.identifier absent

theorem populateItems_eq {items : List (GridItem Id)}
    (nodup : (items.map GridItem.identifier).Nodup) (selectedItemID : Option Id) :
    grid.populateItems items selectedItemID = some { grid with items, selectedItemID } := by
  unfold populateItems
  rw [dcheck_of nodup]
  rfl

theorem insertItem_eq (item : GridItem Id) (absent : item.identifier ∉ grid.identifiers)
    (nonneg : 0 ≤ index) (inside : index ≤ grid.items.length) (selectedItemID : Option Id) :
    grid.insertItem item index selectedItemID =
      some { grid with
        items := insertAt grid.items index item
        selectedItemID
        lastInsertedItemID := some item.identifier } := by
  unfold insertItem
  rw [dcheck_of (indexOfItemWithID_eq_none absent), dcheck_of ⟨nonneg, inside⟩]
  rfl

theorem removeItemWithID_eq (nodup : grid.identifiers.Nodup)
    (found : at? grid.identifiers index = some itemID) (selectedItemID : Option Id) :
    grid.removeItemWithID itemID selectedItemID =
      some { grid with items := eraseAt grid.items index, selectedItemID } := by
  unfold removeItemWithID
  rw [indexOfItemWithID_eq nodup found]
  rfl

theorem replaceItemID_eq (item : GridItem Id) (nodup : grid.identifiers.Nodup)
    (found : at? grid.identifiers index = some itemID)
    (new : item.identifier = itemID ∨ item.identifier ∉ grid.identifiers) :
    grid.replaceItemID itemID item = some { grid with items := setAt grid.items index item } := by
  simp [replaceItemID, setAt, indexOfItemWithID_eq nodup found,
    dcheck_of (new.imp id indexOfItemWithID_eq_none)]

theorem replaceItemID_unknown (absent : itemID ∉ grid.identifiers) :
    grid.replaceItemID itemID item = some grid := by
  unfold replaceItemID
  rw [indexOfItemWithID_eq_none absent]

/-- An item that is made anew for its tab, whether or not the grid has one. -/
theorem replaceItemID_same (nodup : grid.identifiers.Nodup) (same : item.identifier = itemID) :
    ∃ replaced, grid.replaceItemID itemID item = some replaced ∧
      replaced.identifiers = grid.identifiers ∧
      replaced.selectedItemID = grid.selectedItemID := by
  by_cases mem : itemID ∈ grid.identifiers
  · obtain ⟨position, found⟩ := List.mem_iff_getElem?.mp mem
    have found : at? grid.identifiers (position : Int) = some itemID := found
    refine ⟨_, replaceItemID_eq item nodup found (.inl same), ?_, rfl⟩
    simpa [identifiers, map_setAt, same] using setAt_self found
  · exact ⟨grid, replaceItemID_unknown mem, rfl, rfl⟩

omit [DecidableEq Id] in
/-- An item that is put elsewhere in the grid. -/
theorem moveItem_eq {fromIndex toIndex : Int} (taken : at? grid.items fromIndex = some item)
    (nonneg : 0 ≤ toIndex) (inside : toIndex < grid.items.length) :
    grid.moveItem fromIndex.toNat toIndex =
      some { grid with items := insertAt (eraseAt grid.items fromIndex) toIndex item } := by
  have insideFrom := (at?_isSome_iff _ fromIndex).mp (by rw [taken]; rfl)
  have shorter := length_eraseAt insideFrom.1 insideFrom.2
  rw [at?_of_nonneg _ insideFrom.1] at taken
  unfold eraseAt at shorter
  unfold moveItem
  rw [taken]
  dsimp only [Option.bind_eq_bind, Option.bind_some]
  rw [dcheck_of ⟨nonneg, by omega⟩]
  rfl

theorem moveItemWithID_of_ne {fromIndex toIndex : Int} (nodup : grid.identifiers.Nodup)
    (taken : at? grid.items fromIndex = some item) (elsewhere : fromIndex ≠ toIndex)
    (nonneg : 0 ≤ toIndex) (inside : toIndex < grid.items.length) :
    grid.moveItemWithID item.identifier toIndex =
      some { grid with items := insertAt (eraseAt grid.items fromIndex) toIndex item } := by
  have insideFrom := (at?_isSome_iff _ fromIndex).mp (by rw [taken]; rfl)
  have found : at? grid.identifiers fromIndex = some item.identifier := by
    simp [identifiers, taken]
  have different : (some fromIndex.toNat).map Int.ofNat ≠ some toIndex := by
    grind
  unfold moveItemWithID
  rw [indexOfItemWithID_eq nodup found, if_neg different]
  exact moveItem_eq taken nonneg inside

/-- An item that already is where it is to go. -/
theorem moveItemWithID_in_place (nodup : grid.identifiers.Nodup)
    (found : at? grid.identifiers index = some itemID) :
    grid.moveItemWithID itemID index = some grid := by
  have inside := (at?_isSome_iff _ index).mp (by rw [found]; rfl)
  have same : (some index.toNat).map Int.ofNat = some index := by
    grind
  unfold moveItemWithID
  rw [indexOfItemWithID_eq nodup found, if_pos same]

omit [DecidableEq Id] in
/-- The item that the user drops is put elsewhere before anything else happens. -/
theorem moveItemAtIndexPath_spec {source destination : Nat}
    (taken : grid.items[source]? = some item) (inside : destination < grid.items.length) :
    ∃ dropped, grid.moveItemAtIndexPath source destination = some (dropped, item.identifier) ∧
      dropped.identifiers =
        insertAt (eraseAt grid.identifiers source) destination item.identifier ∧
      dropped.selectedItemID = grid.selectedItemID := by
  have moved : grid.moveItem source destination = some _ :=
    @moveItem_eq _ grid item source destination taken (Int.natCast_nonneg destination)
      (Int.ofNat_lt.mpr inside)
  have returned : grid.moveItemAtIndexPath source destination = some ({ grid with
      items := insertAt (eraseAt grid.items source) destination item
      hasChangedOrder := true }, item.identifier) := by
    simp [moveItemAtIndexPath, taken, moved]
  simp [identifiers, map_insertAt, map_eraseAt, returned]

end GridViewController

/-! ## The observer -/

namespace ScopedObserver

theorem add_eq {observer : ScopedObserver W} {source : W} (absent : source ∉ observer.sources) :
    observer.add source = some ⟨observer.sources ++ [source]⟩ := by
  unfold add
  rw [dcheck_of absent]
  rfl

theorem remove_eq {observer : ScopedObserver W} {source : W} (mem : source ∈ observer.sources) :
    observer.remove source = some ⟨observer.sources.erase source⟩ := by
  unfold remove
  rw [dcheck_of mem]
  rfl

theorem foldlM_add {observer : ScopedObserver W} {sources : List W}
    (nodup : (observer.sources ++ sources).Nodup) :
    sources.foldlM add observer = some ⟨observer.sources ++ sources⟩ := by
  induction sources generalizing observer with
  | nil => rw [List.append_nil]; rfl
  | cons _ _ _ =>
    grind [add_eq]

end ScopedObserver

namespace TabGrid

variable {tabId : W → Id} {pages : W → VisiblePage} {list after : WebStateList W}
variable {grid : TabGrid W Id}

/-! ## The mediator -/

section Handlers

variable {webState oldWebState : W} {index : Int} {selectedItemID : Option Id}
variable {consumer : GridViewController Id} {removed observer : ScopedObserver W}

theorem didInsertWebState_eq (selected : getActiveTabId tabId list = some selectedItemID)
    (inserted : grid.consumer.insertItem (createItem tabId pages webState) index selectedItemID =
      some consumer)
    (added : grid.scopedWebStateObserver.add webState = some observer) :
    grid.didInsertWebState tabId pages list webState index = some ⟨consumer, observer⟩ := by
  simp [didInsertWebState, selected, inserted, added]

theorem didReplaceWebState_eq
    (replaced : grid.consumer.replaceItemID (tabId oldWebState)
      (createItem tabId pages webState) = some consumer)
    (dropped : grid.scopedWebStateObserver.remove oldWebState = some removed)
    (added : removed.add webState = some observer) :
    grid.didReplaceWebState tabId pages oldWebState webState = some ⟨consumer, observer⟩ := by
  simp [didReplaceWebState, replaced, dropped, added]

theorem didDetachWebState_eq (selected : getActiveTabId tabId list = some selectedItemID)
    (taken : grid.consumer.removeItemWithID (tabId webState) selectedItemID = some consumer)
    (dropped : grid.scopedWebStateObserver.remove webState = some observer) :
    grid.didDetachWebState tabId list webState = some ⟨consumer, observer⟩ := by
  simp [didDetachWebState, selected, taken, dropped]

end Handlers

structure ShowsItems (tabId : W → Id) (list : WebStateList W) (grid : TabGrid W Id) : Prop where
  identifiers : grid.consumer.identifiers = list.webStates.map tabId
  observed : grid.scopedWebStateObserver.sources.Perm list.webStates

structure Shows (tabId : W → Id) (list : WebStateList W) (grid : TabGrid W Id) : Prop
    extends ShowsItems tabId list grid where
  selected : grid.consumer.selectedItemID = list.activeWebState.map tabId

omit [DecidableEq W] [DecidableEq Id] in
theorem getActiveTabId_eq (tabId : W → Id) (inRange : list.ActiveInRange) :
    getActiveTabId tabId list = some (list.activeWebState.map tabId) := by
  unfold getActiveTabId
  rw [getActiveWebState_eq inRange]
  rfl

namespace ShowsItems

variable (shows : ShowsItems tabId list grid)

include shows

omit [DecidableEq W] [DecidableEq Id] in
theorem length_items : (grid.consumer.items.length : Int) = list.count := by
  have same := congrArg List.length shows.identifiers
  rw [GridViewController.length_identifiers, List.length_map] at same
  rw [same, length_webStates]

omit [DecidableEq W] [DecidableEq Id] in
theorem nodup (distinct : Function.Injective tabId) (wf : list.WellFormed) :
    grid.consumer.identifiers.Nodup := by
  rw [shows.identifiers]
  exact wf.nodup.map distinct

omit [DecidableEq W] [DecidableEq Id] in
theorem at?_identifiers {index : Int} {webState : W}
    (taken : at? list.webStates index = some webState) :
    at? grid.consumer.identifiers index = some (tabId webState) := by
  simp [taken, shows.identifiers]

omit [DecidableEq W] [DecidableEq Id] in
theorem not_mem_identifiers (distinct : Function.Injective tabId) {webState : W}
    (fresh : webState ∉ list.webStates) : tabId webState ∉ grid.consumer.identifiers := by
  simp [shows.identifiers, distinct, fresh]

theorem didInsertWebState (pages : W → VisiblePage) (distinct : Function.Injective tabId)
    (wf : list.WellFormed) {index : Int} {webState : W} (opener : WebStateOpener W)
    (nonneg : 0 ≤ index)
    (inside : index ≤ list.count) (room : list.count < intMax)
    (fresh : webState ∉ list.webStates) :
    ∃ shown, grid.didInsertWebState tabId pages (list.withInserted index webState) webState index =
        some shown ∧ Shows tabId (list.withNew index webState opener) shown := by
  have new : (list.withNew index webState .null).WellFormed :=
    wf.insert nonneg inside room fresh (fun _ impossible => by cases impossible)
  have selected := getActiveTabId_eq tabId new.active
  rw [activeWebState_withNew nonneg inside] at selected
  have absent := shows.not_mem_identifiers distinct fresh
  have inserted := GridViewController.insertItem_eq (createItem tabId pages webState)
    absent nonneg (Int.le_trans inside (Int.le_of_eq shows.length_items.symm))
    (list.activeWebState.map tabId)
  have added := ScopedObserver.add_eq (fun mem => fresh (shows.observed.subset mem))
  refine ⟨_, didInsertWebState_eq selected inserted added, ⟨?_, ?_⟩, ?_⟩
  · rw [webStates_withNew, map_insertAt, ← shows.identifiers]
    exact map_insertAt ..
  · rw [webStates_withNew]
    refine (List.perm_append_singleton webState _).trans ?_
    refine (shows.observed.cons webState).trans ?_
    exact (insertAt_perm webState nonneg (by rw [length_webStates]; exact inside)).symm
  · rw [activeWebState_withNew nonneg inside]

variable {wrapper : WebStateWrapper W}

omit [DecidableEq W] [DecidableEq Id] in
/-- The items stand in the new order, and the WebState that is active is the same. -/
theorem moved {source target : Int} (taken : at? list.webStateWrappers source = some wrapper)
    (inside : list.ContainsIndex target) {consumer : GridViewController Id}
    (identifiers : consumer.identifiers =
      insertAt (eraseAt (list.webStates.map tabId) source) target (tabId wrapper.webState))
    (selected : consumer.selectedItemID = list.activeWebState.map tabId) :
    Shows tabId (list.withMoved source target wrapper) { grid with consumer } := by
  have takenState := at?_webStates_of_taken taken
  have insideStates : target < list.webStates.length := by
    simpa using inside.2
  refine ⟨⟨?_, ?_⟩, ?_⟩
  · rw [webStates_withMoved, map_insertAt, map_eraseAt]
    exact identifiers
  · rw [webStates_withMoved]
    exact shows.observed.trans (move_perm takenState inside.1 insideStates).symm
  · unfold activeWebState
    rw [webStates_withMoved]
    refine selected.trans (congrArg (Option.map tabId) ?_)
    exact (at?_move_moveShift takenState inside.1 insideStates list.activeIndex).symm

omit [DecidableEq W] in
theorem didMoveWebState (distinct : Function.Injective tabId) (wf : list.WellFormed)
    {source target : Int} (taken : at? list.webStateWrappers source = some wrapper)
    (inside : list.ContainsIndex target)
    (selected : grid.consumer.selectedItemID = list.activeWebState.map tabId) :
    ∃ shown, grid.didMoveWebState tabId wrapper.webState target = some shown ∧
      Shows tabId (list.withMoved source target wrapper) shown := by
  have found := shows.at?_identifiers (at?_webStates_of_taken taken)
  have nodup := shows.nodup distinct wf
  by_cases inPlace : source = target
  · cases inPlace
    have returned : grid.didMoveWebState tabId wrapper.webState source = some grid := by
      simp [TabGrid.didMoveWebState, GridViewController.moveItemWithID_in_place nodup found]
    refine ⟨grid, returned, shows.moved taken inside ?_ selected⟩
    rw [← shows.identifiers, insertAt_eraseAt_self found]
  · obtain ⟨item, takenItem, same⟩ : ∃ item, at? grid.consumer.items source = some item ∧
        item.identifier = tabId wrapper.webState := by
      simpa [GridViewController.identifiers] using found
    have moved := GridViewController.moveItemWithID_of_ne nodup takenItem inPlace inside.1
      (by rw [shows.length_items]; exact inside.2)
    have returned : grid.didMoveWebState tabId wrapper.webState target = some { grid with
        consumer := { grid.consumer with
          items := insertAt (eraseAt grid.consumer.items source) target item } } := by
      simp [TabGrid.didMoveWebState, ← same, moved]
    refine ⟨_, returned, shows.moved taken inside ?_ selected⟩
    simp [← shows.identifiers, ← same, GridViewController.identifiers, map_insertAt, map_eraseAt]

theorem didReplaceWebState (pages : W → VisiblePage) (distinct : Function.Injective tabId)
    (wf : list.WellFormed) {index : Int} {webState : W}
    (taken : at? list.webStateWrappers index = some wrapper) (fresh : webState ∉ list.webStates) :
    ∃ shown, grid.didReplaceWebState tabId pages wrapper.webState webState = some shown ∧
      ShowsItems tabId (list.withReplaced index wrapper.webState webState) shown := by
  have takenState := at?_webStates_of_taken taken
  have replaced := GridViewController.replaceItemID_eq
    (createItem tabId pages webState) (shows.nodup distinct wf)
    (shows.at?_identifiers takenState) (.inr (shows.not_mem_identifiers distinct fresh))
  have observed := shows.observed.mem_iff.mpr (webState_mem taken)
  have dropped := ScopedObserver.remove_eq observed
  have added : (ScopedObserver.mk (grid.scopedWebStateObserver.sources.erase
      wrapper.webState)).add webState = some _ :=
    ScopedObserver.add_eq fun mem => fresh (shows.observed.subset (List.mem_of_mem_erase mem))
  refine ⟨_, didReplaceWebState_eq replaced dropped added, ?_, ?_⟩
  · rw [webStates_withReplaced, map_setAt, ← shows.identifiers]
    exact map_setAt ..
  · rw [webStates_withReplaced]
    refine (List.perm_append_singleton webState _).trans ?_
    refine List.Perm.cons_inv (a := wrapper.webState) ?_
    refine (List.Perm.swap webState wrapper.webState _).trans ?_
    refine ((List.perm_cons_erase observed).symm.cons webState).trans ?_
    exact (shows.observed.cons webState).trans (cons_setAt_perm webState takenState).symm

theorem didDetachWebState (distinct : Function.Injective tabId) (wf : list.WellFormed) {index : Int}
    (taken : at? list.webStateWrappers index = some wrapper)
    (left : after.webStates = eraseAt list.webStates index) (inRange : after.ActiveInRange) :
    ∃ shown, grid.didDetachWebState tabId after wrapper.webState = some shown ∧
      Shows tabId after shown := by
  have takenState := at?_webStates_of_taken taken
  have removed := GridViewController.removeItemWithID_eq (shows.nodup distinct wf)
    (shows.at?_identifiers takenState) (after.activeWebState.map tabId)
  have observed := shows.observed.mem_iff.mpr (webState_mem taken)
  have dropped := ScopedObserver.remove_eq observed
  refine ⟨_, didDetachWebState_eq (getActiveTabId_eq tabId inRange) removed dropped, ⟨?_, ?_⟩, rfl⟩
  · rw [left, map_eraseAt, ← shows.identifiers]
    exact map_eraseAt ..
  · rw [left]
    refine List.Perm.cons_inv (a := wrapper.webState) ?_
    refine (List.perm_cons_erase observed).symm.trans ?_
    exact shows.observed.trans (cons_eraseAt_perm takenState).symm

omit [DecidableEq W] [DecidableEq Id] in
/-- The grid selects the item of the WebState that is reported as active. -/
theorem didChangeActiveWebState (inRange : list.ActiveInRange) :
    ∃ shown, grid.didChangeActiveWebState tabId list.activeWebState list.activeIndex =
      some shown ∧ Shows tabId list shown := by
  have returned : grid.didChangeActiveWebState tabId list.activeWebState list.activeIndex =
      some { grid with
        consumer := grid.consumer.selectItemWithID (list.activeWebState.map tabId) } := by
    unfold TabGrid.didChangeActiveWebState
    rcases inRange with invalid | valid
    · have invalid : list.activeIndex = -1 := invalid
      unfold activeWebState
      rw [invalid]
      rfl
    · obtain ⟨webState, found⟩ := (containsIndex_iff_webStates list _).mp valid
      have inside := valid.1
      rw [if_neg (by omega)]
      simp [activeWebState, found]
  exact ⟨_, returned, ⟨shows.identifiers, shows.observed⟩, rfl⟩

end ShowsItems

/-! ## Operations -/

section Effects

variable (distinct : Function.Injective tabId)
variable {OwnOpener : Prop} {emitted : List (Seen W)}

omit [DecidableEq W] [DecidableEq Id] in
theorem Shows.of_same (shows : Shows tabId list grid) (webStates : after.webStates = list.webStates)
    (active : after.activeWebState = list.activeWebState) : Shows tabId after grid := by
  refine ⟨⟨?_, ?_⟩, ?_⟩
  · rw [webStates]
    exact shows.identifiers
  · rw [webStates]
    exact shows.observed
  · rw [active]
    exact shows.selected

theorem observeAll_cons {first : Seen W} {rest : List (Seen W)} {told : TabGrid W Id}
    (returned : grid.observe tabId pages first = some told) :
    grid.observeAll tabId pages (first :: rest) = told.observeAll tabId pages rest := by
  simp [observeAll, returned]

include distinct

/-- The grid shows the list again after it has been told of an effect. -/
theorem Shows.effect (wf : list.WellFormed) (shows : Shows tabId list grid)
    (effect : SeenEffect OwnOpener list emitted after) :
    ∃ shown, grid.observeAll tabId pages emitted = some shown ∧ Shows tabId after shown := by
  obtain ⟨notifications, effect, rfl⟩ := effect
  have afterWf := effect.wellFormed wf
  cases effect with
  | insert activating nonneg inside room fresh known =>
    obtain ⟨shown, returned, shows⟩ :=
      shows.didInsertWebState pages distinct wf _ nonneg inside room fresh
    exact ⟨shown, observeAll_cons returned, shows⟩
  | move taken inside =>
    obtain ⟨shown, returned, shows⟩ :=
      shows.didMoveWebState distinct wf taken inside shows.selected
    exact ⟨shown, observeAll_cons returned, shows⟩
  | replace taken fresh =>
    rename_i index wrapper webState
    obtain ⟨replaced, returned, showsItems⟩ :=
      shows.didReplaceWebState pages distinct wf taken fresh
    obtain ⟨shown, selected, shows⟩ := showsItems.didChangeActiveWebState afterWf.active
    have told : grid.observe tabId pages
        (.replacedAt wrapper.webState webState index,
          list.withReplaced index wrapper.webState webState) = some replaced := returned
    exact ⟨shown, (observeAll_cons told).trans (observeAll_cons selected), shows⟩
  | detachInactive taken inactive =>
    obtain ⟨shown, returned, shows⟩ :=
      shows.didDetachWebState distinct wf taken (webStates_eraseAt ..) afterWf.active
    exact ⟨shown, (observeAll_cons rfl).trans (observeAll_cons returned), shows⟩
  | detachActive taken wrappers inRange =>
    rename_i wrapper
    obtain ⟨detached, returned, showsDetached⟩ :=
      shows.didDetachWebState distinct wf taken (webStates_erased wrappers) inRange
    obtain ⟨shown, selected, shows⟩ := showsDetached.didChangeActiveWebState inRange
    have told : grid.observe tabId pages
        (.detachedAt wrapper.webState list.activeIndex, after) = some detached := returned
    refine ⟨shown, ?_, shows⟩
    exact (observeAll_cons rfl).trans
      ((observeAll_cons told).trans (observeAll_cons selected))
  | close index userAction gone => exact ⟨grid, rfl, shows⟩
  | activate inside =>
    rename_i index
    by_cases same : list.activeWebState = at? list.webStates index
    · simpa [activation, if_pos same] using ⟨grid, rfl, shows.of_same rfl same.symm⟩
    · obtain ⟨shown, selected, shows⟩ := @ShowsItems.didChangeActiveWebState _ _ tabId
        { list with activeIndex := index } grid ⟨shows.identifiers, shows.observed⟩
        afterWf.active
      simpa [activation, if_neg same] using ⟨shown, observeAll_cons selected, shows⟩
  | setOpener taken known proper =>
    have webStates := webStates_withOpener taken
    refine ⟨grid, rfl, shows.of_same (webStates _) ?_⟩
    unfold activeWebState
    rw [webStates]
    rfl

theorem Shows.chain (wf : list.WellFormed) (shows : Shows tabId list grid)
    (chain : Chain (SeenEffect OwnOpener) list emitted after) :
    ∃ shown, grid.observeAll tabId pages emitted = some shown ∧ Shows tabId after shown := by
  induction chain generalizing grid with
  | refl => exact ⟨grid, rfl, shows⟩
  | head effect _ ih =>
    obtain ⟨_, returned, shows⟩ := shows.effect distinct wf effect
    obtain ⟨shown, remaining, shows⟩ := ih (SeenEffect.wellFormed wf effect) shows
    refine ⟨shown, ?_, shows⟩
    unfold observeAll at returned remaining ⊢
    rw [List.foldlM_append, returned]
    exact remaining

end Effects

/-! ## The user and the pages -/

section Events

variable (distinct : Function.Injective tabId)

include distinct

omit [DecidableEq W] in
theorem Shows.replaceItemID (wf : list.WellFormed) (shows : Shows tabId list grid)
    {itemID : Id} {item : GridItem Id} (same : item.identifier = itemID) :
    ∃ consumer, grid.consumer.replaceItemID itemID item = some consumer ∧
      Shows tabId list { grid with consumer } := by
  obtain ⟨consumer, replaced, identifiers, selected⟩ :=
    GridViewController.replaceItemID_same (shows.nodup distinct wf) same
  exact ⟨consumer, replaced, ⟨identifiers.trans shows.identifiers, shows.observed⟩,
    selected.trans shows.selected⟩

omit [DecidableEq W] in
theorem Shows.webStateDidChangeTitle (pages : W → VisiblePage) (wf : list.WellFormed)
    (shows : Shows tabId list grid) (webState : W) :
    ∃ shown, grid.webStateDidChangeTitle tabId pages webState = some shown ∧
      Shows tabId list shown := by
  have same : (createItem tabId pages webState).identifier = tabId webState := rfl
  obtain ⟨_, replaced, shows⟩ := shows.replaceItemID distinct wf same
  simp [TabGrid.webStateDidChangeTitle, replaced, shows]

omit [DecidableEq W] in
theorem Shows.didUpdateSnapshotForIdentifier (pages : W → VisiblePage) (wf : list.WellFormed)
    (shows : Shows tabId list grid) (identifier : Id) :
    ∃ shown, grid.didUpdateSnapshotForIdentifier tabId pages list identifier = some shown ∧
      Shows tabId list shown := by
  unfold TabGrid.didUpdateSnapshotForIdentifier
  cases found : getWebStateWithId tabId list identifier with
  | none => exact ⟨grid, rfl, shows⟩
  | some webState =>
    have matched := List.find?_some found
    have same : (createItem tabId pages webState).identifier = identifier :=
      of_decide_eq_true matched
    obtain ⟨consumer, replaced, shows⟩ := shows.replaceItemID distinct wf same
    grind

variable {source : Nat}

omit distinct in
theorem step_moveItem_eq {destination : Nat} {itemID : Id} {consumer : GridViewController Id}
    {notifications : List (Notification W)} {shown : TabGrid W Id}
    (dropped : grid.consumer.moveItemAtIndexPath source destination = some (consumer, itemID))
    (moved : TabGrid.moveItemWithID tabId list itemID destination = some (after, notifications))
    (told : { grid with consumer }.observeAll tabId pages (list.seen after notifications) =
      some shown) :
    step tabId (list, grid) ⟨pages, .moveItem source destination⟩ =
      some ((after, shown), notifications) := by
  have emitted := congrArg Prod.snd (list.unseen_withListsSeen (after, notifications))
  simp only [step, dropped, moved, Option.bind_eq_bind, Option.bind_some]
  unfold withListsSeen
  dsimp only
  rw [told]
  exact congrArg (fun emitted => some ((after, shown), emitted)) emitted

omit [DecidableEq W] in
/-- The list finds an item at the index at which the grid has it. -/
theorem ShowsItems.getIndexOfTabWithId (wf : list.WellFormed) (shows : ShowsItems tabId list grid)
    {item : GridItem Id} (taken : grid.consumer.items[source]? = some item) :
    TabGrid.getIndexOfTabWithId tabId list item.identifier = source := by
  have found : (list.webStates.map tabId)[source]? = some item.identifier := by
    simp [← shows.identifiers, GridViewController.identifiers, taken]
  unfold TabGrid.getIndexOfTabWithId
  rw [findIdx?_key tabId (wf.nodup.map distinct) found]

/-- The item that the user has moved already is where the list reports it to be. -/
theorem Shows.moveItem (pages : W → VisiblePage) (wf : list.WellFormed)
    (shows : Shows tabId list grid) {destination : Nat}
    (insideSource : source < grid.consumer.items.length)
    (insideDestination : destination < grid.consumer.items.length) :
    ∃ after emitted shown,
      step tabId (list, grid) ⟨pages, .moveItem source destination⟩ =
        some ((after, shown), emitted) ∧
      list.moveWebStateAt source destination = some (after, emitted) ∧
      list.ContainsIndex source ∧ list.ContainsIndex destination ∧
      Shows tabId after shown := by
  have count := shows.length_items
  have containsSource : list.ContainsIndex source := ⟨Int.natCast_nonneg _, by omega⟩
  have containsDestination : list.ContainsIndex destination := ⟨Int.natCast_nonneg _, by omega⟩
  obtain ⟨wrapper, takenWrapper⟩ := (containsIndex_iff list source).mp containsSource
  have takenState := at?_webStates_of_taken takenWrapper
  have taken := List.getElem?_eq_getElem insideSource
  generalize grid.consumer.items[source] = item at taken
  have identifier : item.identifier = tabId wrapper.webState := by
    have found := shows.at?_identifiers takenState
    simpa [GridViewController.identifiers, taken] using found
  have command : TabGrid.moveItemWithID tabId list item.identifier destination =
      list.moveWebStateAt source destination := by
    unfold TabGrid.moveItemWithID
    dsimp only
    rw [shows.getIndexOfTabWithId distinct wf taken, if_pos (Int.natCast_nonneg _)]
  obtain ⟨consumer, dropped, identifiers, same⟩ :=
    GridViewController.moveItemAtIndexPath_spec taken insideDestination
  rw [identifier, shows.identifiers] at identifiers
  have selected := same.trans shows.selected
  have moved := moveWebStateAt_eq takenWrapper containsDestination
  by_cases inPlace : (source : Int) = destination
  · rw [if_pos inPlace] at moved
    refine ⟨list, [], _, step_moveItem_eq dropped (command.trans moved) rfl, moved,
      containsSource, containsDestination, ⟨identifiers.trans ?_, shows.observed⟩, selected⟩
    grind [insertAt_eraseAt_self, at?_map]
  · rw [if_neg inPlace] at moved
    have shown := shows.moved takenWrapper containsDestination identifiers selected
    have found : at? (list.withMoved source destination wrapper).webStates destination =
        some wrapper.webState := by
      have insideStates : (destination : Int) < list.webStates.length := by
        rw [length_webStates]
        exact containsDestination.2
      have arrived := at?_move_moveShift takenState containsDestination.1 insideStates source
      simpa [moveShift, takenState, webStates_withMoved] using arrived
    -- The grid is told to move the item to where it already is.
    have wfMoved := wf.move takenWrapper containsDestination
    have echoed := GridViewController.moveItemWithID_in_place (shown.nodup distinct wfMoved)
      (shown.at?_identifiers found)
    have told : { grid with consumer }.didMoveWebState tabId wrapper.webState destination =
        some { grid with consumer } := by
      simp [TabGrid.didMoveWebState, echoed]
    exact ⟨_, _, _, step_moveItem_eq dropped (command.trans moved) (observeAll_cons told), moved,
      containsSource, containsDestination, shown⟩

end Events

/-! ## Whole runs -/

structure Sound (tabId : W → Id) (state : WebStateList W × TabGrid W Id) : Prop where
  wellFormed : state.1.WellFormed
  noOwnOpener : state.1.NoOwnOpener
  shows : Shows tabId state.1 state.2

section Runs

variable (distinct : Function.Injective tabId) {state : WebStateList W × TabGrid W Id}

include distinct

theorem Sound.step {input : Input W Id} (sound : Sound tabId state)
    (accepted : Accepts state input) :
    ∃ after emitted, TabGrid.step tabId state input = some (after, emitted) ∧
      Sound tabId after := by
  obtain ⟨list, _⟩ := state
  obtain ⟨pages, event⟩ := input
  obtain ⟨wf, proper, shows⟩ := sound
  cases event with
  | operate _ =>
    obtain ⟨admissible, proper'⟩ := accepted
    obtain ⟨after, emitted, stepped⟩ := stepSeen_isSome wf proper admissible
    obtain ⟨shown, told, showsAfter⟩ :=
      shows.chain distinct wf (stepSeen_chain wf admissible stepped)
    have notified := step_of_stepSeen stepped
    refine ⟨(after, shown), emitted.map Prod.fst, ?_,
      step_wellFormed wf admissible notified,
      step_noOwnOpener wf proper admissible proper' notified, showsAfter⟩
    simp only [TabGrid.step, stepped, Option.bind_eq_bind, Option.bind_some]
    rw [told]
    rfl
  | moveItem source destination =>
    obtain ⟨after, emitted, shown, stepped, moved, containsSource, containsDestination,
      showsAfter⟩ := shows.moveItem distinct pages wf accepted.1 accepted.2
    have performed : list.step ⟨fun _ => 0, .moveWebStateAt source destination⟩ =
        some (after, emitted) := moved
    have admissible : list.Admissible ⟨fun _ => 0, .moveWebStateAt source destination⟩ :=
      ⟨containsSource, containsDestination⟩
    exact ⟨(after, shown), emitted, stepped, step_wellFormed wf admissible performed,
      step_noOwnOpener wf proper admissible not_false performed, showsAfter⟩
  | changeTitle webState =>
    obtain ⟨shown, returned, showsAfter⟩ :=
      shows.webStateDidChangeTitle distinct pages wf webState
    refine ⟨(list, shown), [], ?_, wf, proper, showsAfter⟩
    simp [TabGrid.step, returned]
  | updateSnapshot identifier =>
    obtain ⟨shown, returned, showsAfter⟩ :=
      shows.didUpdateSnapshotForIdentifier distinct pages wf identifier
    refine ⟨(list, shown), [], ?_, wf, proper, showsAfter⟩
    simp [TabGrid.step, returned]

/-- A mediator that is given a list makes an item for each of its WebStates. -/
theorem setTabModel_shows (pages : W → VisiblePage) (wf : list.WellFormed) :
    ∃ grid, setTabModel tabId pages list = some grid ∧ Shows tabId list grid := by
  have observed := @ScopedObserver.foldlM_add _ _ ⟨[]⟩ list.webStates wf.nodup
  have identifiers : (createItems tabId pages list).map GridItem.identifier =
      list.webStates.map tabId := by
    unfold createItems
    rw [List.map_map]
    rfl
  unfold setTabModel
  rw [observed]
  dsimp only [Option.bind_eq_bind, Option.bind_some]
  split
  · have nodup : ((createItems tabId pages list).map GridItem.identifier).Nodup := by
      rw [identifiers]
      exact wf.nodup.map distinct
    rw [getActiveTabId_eq tabId wf.active]
    dsimp only [Option.bind_some]
    rw [GridViewController.populateItems_eq nodup]
    exact ⟨_, rfl, ⟨identifiers, List.Perm.refl _⟩, rfl⟩
  · next empty =>
      have none : list.webStates = [] := by
        refine List.eq_nil_of_length_eq_zero ?_
        have length := length_webStates list
        omega
      refine ⟨_, rfl, ⟨?_, List.Perm.refl _⟩, ?_⟩
      · rw [none]
        rfl
      · unfold activeWebState
        rw [none]
        cases list.activeIndex <;> rfl

/--
A grid whose mediator is given a list shows the WebStates of the list in their order and
selects the active one, after every operation, whatever the user moves and whatever else is
updated; and nothing that may happen next fails.
-/
theorem run_showsTabs {earlier : List (Notification W)} (reached : ProperRun earlier list)
    (pages : W → VisiblePage) :
    ∃ grid, setTabModel tabId pages list = some grid ∧
      ∀ notifications state, Runs (TabGrid.step tabId) Accepts (list, grid) notifications state →
        state.2.consumer.identifiers = state.1.webStates.map tabId ∧
        getActiveTabId tabId state.1 = some state.2.consumer.selectedItemID ∧
        ∀ input, Accepts state input →
          ∃ after emitted, TabGrid.step tabId state input = some (after, emitted) := by
  have wf := ProperRun.wellFormed reached
  obtain ⟨grid, returned, shows⟩ := setTabModel_shows distinct pages wf
  refine ⟨grid, returned, fun notifications state run => ?_⟩
  have sound : Sound tabId state := by
    refine Runs.invariant (Sound tabId) run ⟨wf, ProperRun.noOwnOpener reached, shows⟩ ?_
    intro state after input emitted sound accepted stepped
    obtain ⟨left, output, performed, sound⟩ := sound.step distinct accepted
    grind
  refine ⟨sound.shows.identifiers, ?_, fun input accepted => ?_⟩
  · rw [getActiveTabId_eq tabId sound.wellFormed.active, sound.shows.selected]
  · obtain ⟨after, emitted, performed, -⟩ := sound.step distinct accepted
    grind

end Runs

def blankPages (_ : Nat) : VisiblePage := ⟨"", false⟩

def tenMore (webState : Nat) : Nat := webState + 10

def movedByUser : List (Input Nat Nat) :=
  [⟨blankPages, .operate ⟨fun _ => 0, .insertWebState 0 3 insertForceIndex .null⟩⟩,
    ⟨blankPages, .moveItem 0 2⟩,
    ⟨fun _ => ⟨"News", false⟩, .changeTitle 2⟩,
    ⟨blankPages, .updateSnapshot 99⟩,
    ⟨blankPages, .operate ⟨fun _ => 0, .replaceWebStateAt 1 4⟩⟩,
    ⟨blankPages, .updateSnapshot 14⟩,
    ⟨blankPages, .operate ⟨fun _ => 0, .closeWebStateAt 1 closeUserAction⟩⟩]

theorem run_showsTabs_movedByUser :
    ∃ state : WebStateList Nat × TabGrid Nat Nat, state.1.webStates = [1, 3] ∧
      state.2.consumer.identifiers = [11, 13] ∧ state.2.consumer.selectedItemID = some 13 ∧
      state.2.consumer.identifiers = state.1.webStates.map tenMore := by
  have reached : ProperRun [.insertedAt 1 0 false, .insertedAt 2 1 true,
      .activatedAt none (some 2) 1 .userAction] ⟨[⟨1, .null⟩, ⟨2, .null⟩], 1⟩ :=
    Runs.replay [⟨fun _ => 0, .insertWebState 0 1 0 .null⟩,
      ⟨fun _ => 0, .insertWebState 0 2 insertActivate .null⟩] .start (by decide)
  have distinct : Function.Injective tenMore := fun _ _ => Nat.add_right_cancel
  obtain ⟨grid, given, shows⟩ := run_showsTabs distinct reached blankPages
  have initial : grid =
      ⟨⟨[⟨11, "", false⟩, ⟨12, "", false⟩], some 12, none, false⟩, ⟨[1, 2]⟩⟩ :=
    Option.some.inj (given.symm.trans (by decide))
  subst initial
  have run : Runs (TabGrid.step tenMore) Accepts (⟨[⟨1, .null⟩, ⟨2, .null⟩], 1⟩,
      ⟨⟨[⟨11, "", false⟩, ⟨12, "", false⟩], some 12, none, false⟩, ⟨[1, 2]⟩⟩) _ _ :=
    Runs.replay movedByUser .start (Option.eq_some_of_isSome (by decide))
  exact ⟨_, by decide, by decide, by decide, (shows _ _ run).1⟩

end TabGrid

end ChromiumIos
