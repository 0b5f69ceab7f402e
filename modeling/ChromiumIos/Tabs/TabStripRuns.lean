import ChromiumIos.Lib.IndexedList
import ChromiumIos.Tabs.TabStripController

/-!
# The views of the tab strip over whole runs

As long as a tab is moved only past views that are not closing, the open views are
those of the tabs of the model, in order.  A closing view before the place of the tab
lets it come to stand too far in front.
-/

namespace ChromiumIos

open Lib

variable {Tab : Type} {strip after : TabStripController Tab} {changes : List ViewChange}

namespace TabStripController

/-- What the open views show, in order, is what the model holds, and the indices of both are
translated into each other. -/
structure Matches (strip : TabStripController Tab) : Prop where
  entries : strip.openViews.map TabView.entry = strip.tabModel
  closing : strip.closingTabs ⊆ strip.tabArray.map TabView.address
  modelIndex : ∀ modelIndex < strip.tabModel.length,
    strip.modelIndexForIndex (strip.indexForModelIndex modelIndex) = some modelIndex
  index : ∀ index, ∀ view ∈ strip.tabArray[index]?, strip.isOpen view →
    ∃ modelIndex < strip.tabModel.length, strip.modelIndexForIndex index = some modelIndex ∧
      strip.indexForModelIndex modelIndex = index

/-- What the strip keeps: views are distinct, and a view that is made is new. -/
structure Consistent (strip : TabStripController Tab) : Prop where
  entries : strip.openViews.map TabView.entry = strip.tabModel
  closing : strip.closingTabs ⊆ strip.tabArray.map TabView.address
  distinct : (strip.tabArray.map TabView.address).Nodup
  made : ∀ view ∈ strip.tabArray.map TabView.address, view < strip.views
  tabs : (strip.tabModel.map ModelTab.tab).Nodup

variable {input : Input Tab} {newTab tab : Tab}

namespace Consistent

theorem length_openViews (consistent : Consistent strip) :
    strip.openViews.length = strip.tabModel.length := by
  simp [← consistent.entries]

variable {modelIndex index : Nat}

/-- The model has as many tabs as there are open views. -/
theorem inside (consistent : Consistent strip) (inside : modelIndex < strip.tabModel.length) :
    modelIndex < strip.openViews.length :=
  Nat.lt_of_lt_of_eq inside consistent.length_openViews.symm

variable (consistent : Consistent strip)
include consistent

theorem lookup (inside : modelIndex < strip.tabModel.length) :
    ∃ view, strip.tabArray[strip.indexForModelIndex modelIndex]? = some view := by
  simp [strip.getElem?_indexForModelIndex, consistent.inside, inside]

theorem indexForModelIndex_lt (inside : modelIndex < strip.tabModel.length) :
    strip.indexForModelIndex modelIndex < strip.tabArray.length := by
  grind [consistent.lookup]

theorem toMatches : strip.Matches where
  entries := consistent.entries
  closing := consistent.closing
  modelIndex modelIndex inside := by
    have insideOpen := consistent.inside inside
    have isOpen : strip.isOpen strip.openViews[modelIndex] = true :=
      (List.mem_filter.mp (List.getElem_mem insideOpen)).2
    rw [modelIndexForIndex_eq, strip.getElem?_indexForModelIndex insideOpen,
      List.getElem?_eq_getElem insideOpen, Option.filter_some, if_pos isOpen, Option.map_some,
      strip.indexForModelIndex_eq (Nat.le_of_lt insideOpen)]
    exact congrArg some (shownBefore_shownPosition strip.isOpen (Nat.le_of_lt insideOpen))
  index index view found isOpen := by
    obtain ⟨same, inside⟩ := shownPosition_shownBefore strip.isOpen found isOpen
    refine ⟨_, Nat.lt_of_lt_of_eq inside consistent.length_openViews, ?_, ?_⟩
    · rw [modelIndexForIndex_eq, Option.mem_def.mp found, Option.filter_some, if_pos isOpen]
      rfl
    · rw [strip.indexForModelIndex_eq (Nat.le_of_lt inside)]
      exact same

/-! ## One notification -/

theorem didInsertTab {fg : Bool} (inside : index ≤ strip.tabModel.length)
    (new : tab ∉ strip.tabModel.map ModelTab.tab)
    (returned : (strip.withModel (strip.tabModel.insertIdx index ⟨tab, strip.views⟩)).didInsertTab
      tab index fg = some (after, changes)) : Consistent after := by
  cases didInsertTab_eq returned
  have insideOpen := Nat.le_trans inside (Nat.le_of_eq consistent.length_openViews.symm)
  have position := shownPosition_le strip.isOpen strip.tabArray index
  have unknown : strip.views ∉ strip.tabArray.map TabView.address := fun mem =>
    Nat.lt_irrefl _ (consistent.made _ mem)
  have isOpen : strip.isOpen (⟨strip.views, tab, fg⟩ : TabView Tab) = true := by
    refine isOpen_of fun closing => unknown (consistent.closing ?_)
    exact List.contains_iff_mem.mp closing
  rw [strip.indexForModelIndex_eq insideOpen]
  have perm := List.perm_insertIdx strip.views (strip.tabArray.map TabView.address)
    (Nat.le_trans position (Nat.le_of_eq (List.length_map _).symm))
  have permTabs := List.perm_insertIdx tab (strip.tabModel.map ModelTab.tab)
    (Nat.le_trans inside (Nat.le_of_eq (List.length_map _).symm))
  constructor
  · change ((strip.tabArray.insertIdx _ _).filter strip.isOpen).map TabView.entry = _
    rw [filter_insertIdx strip.isOpen isOpen position,
      shownBefore_shownPosition strip.isOpen insideOpen, List.map_insertIdx]
    exact congrArg (List.insertIdx · index _) consistent.entries
  · grind [List.map_insertIdx, consistent.closing]
  · grind [List.map_insertIdx, consistent.distinct]
  · intro view mem
    rw [List.map_insertIdx] at mem
    rcases List.mem_cons.mp (perm.subset mem) with rfl | mem
    · exact Nat.lt_succ_self _
    · exact Nat.lt_succ_of_lt (consistent.made view mem)
  · grind [List.map_insertIdx, consistent.tabs]

theorem didRemoveTab (inside : index < strip.tabModel.length)
    (returned : (strip.withModel (strip.tabModel.eraseIdx index)).didRemoveTab index =
      some (after, changes)) : Consistent after := by
  obtain ⟨view, found, rfl⟩ := didRemoveTab_eq returned
  rw [strip.getElem?_indexForModelIndex (consistent.inside inside)] at found
  have mem : view ∈ strip.tabArray := (List.mem_filter.mp (List.mem_of_getElem? found)).1
  have distinct : (strip.openViews.map TabView.address).Nodup :=
    consistent.distinct.sublist (List.filter_sublist.map TabView.address)
  constructor
  · have fewer : ({ strip with
        tabModel := strip.tabModel.eraseIdx index
        closingTabs := strip.closingTabs.insert view.address } : TabStripController Tab).openViews =
        strip.openViews.filter fun other => other.address ≠ view.address := by
      grind [openViews, List.filter_filter, isOpen, isClosing, List.filter_congr]
    grind [filter_key_ne, List.eraseIdx_map, consistent.entries]
  · grind [consistent.closing]
  · exact consistent.distinct
  · exact consistent.made
  · simp [← List.eraseIdx_map, consistent.tabs.eraseIdx]

omit consistent

/-- A view is gone when its animation has ended. -/
theorem removeView (consistent : Consistent strip) {view : Nat}
    (isClosing : view ∈ strip.closingTabs) : Consistent (strip.removeView view).1 := by
  have mem_map : ∀ {other}, other ∈ (strip.tabArray.filter fun tab => tab.address ≠ view).map
      TabView.address ↔ other ∈ strip.tabArray.map TabView.address ∧ other ≠ view := by
    grind
  constructor
  · have same : (strip.removeView view).1.openViews = strip.openViews := by
      unfold openViews TabStripController.removeView
      rw [List.filter_filter]
      refine List.filter_congr fun other _ => ?_
      by_cases same : other.address = view
      · simp [isOpen, TabStripController.isClosing, same, isClosing]
      · simp [isOpen, TabStripController.isClosing, same]
    rw [same]
    exact consistent.entries
  · intro other mem
    obtain ⟨mem, different⟩ := List.mem_filter.mp mem
    exact mem_map.mpr ⟨consistent.closing mem, of_decide_eq_true different⟩
  · exact consistent.distinct.sublist (List.filter_sublist.map TabView.address)
  · exact fun other mem => consistent.made other (mem_map.mp mem).1
  · exact consistent.tabs

include consistent

/-- Changes of what the views look like leave the strip consistent. -/
theorem of_same {tabArray : List (TabView Tab)}
    (entries : tabArray.map TabView.entry = strip.tabArray.map TabView.entry) :
    Consistent { strip with tabArray } := by
  have addresses : tabArray.map TabView.address = strip.tabArray.map TabView.address := by
    have same := congrArg (List.map ModelTab.view) entries
    rw [List.map_map, List.map_map] at same
    exact same
  have openEntries : ∀ views : List (TabView Tab),
      (views.filter strip.isOpen).map TabView.entry =
        (views.map TabView.entry).filter fun entry => !strip.closingTabs.contains entry.view := by
    intro views
    rw [List.filter_map]
    rfl
  constructor
  · change (tabArray.filter strip.isOpen).map TabView.entry = strip.tabModel
    rw [openEntries, entries, ← openEntries]
    exact consistent.entries
  · simp [addresses, consistent.closing]
  · simp [addresses, consistent.distinct]
  · simpa [addresses] using consistent.made
  · exact consistent.tabs

theorem didChangeActiveTab (returned : strip.didChangeActiveTab index = some (after, changes)) :
    Consistent after := by
  obtain ⟨-, result⟩ := dcheck_then returned
  cases result
  refine consistent.of_same ?_
  have unmarked : ∀ view : TabView Tab, (view.setSelected true).entry = id view.entry :=
    fun _ => rfl
  rw [map_modify TabView.entry unmarked, List.modify_id, List.map_map]
  rfl

/-- The view of a tab of the model shows the tab anew. -/
theorem didChangeTab [DecidableEq Tab] (inside : modelIndex < strip.tabModel.length)
    (tabs : ((strip.tabModel.modify modelIndex (ModelTab.setTab tab)).map ModelTab.tab).Nodup) :
    Consistent { strip with
      tabModel := strip.tabModel.modify modelIndex (ModelTab.setTab tab)
      tabArray := strip.tabArray.modify (strip.indexForModelIndex modelIndex)
        (TabView.setTab tab) } := by
  have insideOpen := consistent.inside inside
  have addresses : (strip.tabArray.modify (strip.indexForModelIndex modelIndex)
      (TabView.setTab tab)).map TabView.address = strip.tabArray.map TabView.address := by
    have same : ∀ view : TabView Tab, (view.setTab tab).address = id view.address := fun _ => rfl
    simp [map_modify TabView.address same]
  constructor
  · change ((strip.tabArray.modify _ _).filter strip.isOpen).map TabView.entry = _
    have open_same : ∀ view, strip.isOpen (TabView.setTab tab view) = strip.isOpen view :=
      fun _ => rfl
    have entry_same : ∀ view : TabView Tab,
        (view.setTab tab).entry = view.entry.setTab tab := fun _ => rfl
    rw [strip.indexForModelIndex_eq (Nat.le_of_lt insideOpen),
      filter_modify strip.isOpen open_same insideOpen, map_modify TabView.entry entry_same]
    exact congrArg (List.modify · modelIndex _) consistent.entries
  · simp [addresses, consistent.closing]
  · simp [addresses, consistent.distinct]
  · simpa [addresses] using consistent.made
  · exact tabs

theorem otherViews_eq {view : TabView Tab} (found : strip.tabArray[index]? = some view) :
    strip.otherViews view = strip.tabArray.eraseIdx index :=
  filter_key_ne TabView.address consistent.distinct found

omit consistent

section Move

variable {fromIndex toIndex : Nat} {view : TabView Tab}
variable (insideFrom : fromIndex < strip.tabModel.length)
variable (insideTo : toIndex < strip.tabModel.length)
variable (found : strip.tabArray[strip.indexForModelIndex fromIndex]? = some view)

include insideFrom found

/-- The open views but the one that is moved. -/
theorem openViews_otherViews (consistent : Consistent strip) :
    (strip.otherViews view).filter strip.isOpen = strip.openViews.eraseIdx fromIndex := by
  rw [strip.getElem?_indexForModelIndex (consistent.inside insideFrom)] at found
  have distinct : (strip.openViews.map TabView.address).Nodup :=
    consistent.distinct.sublist (List.filter_sublist.map TabView.address)
  rw [← filter_key_ne TabView.address distinct found]
  simp [otherViews, openViews, Bool.and_comm]

theorem movedModel_eq (consistent : Consistent strip) :
    strip.movedModel fromIndex toIndex =
      (strip.tabModel.eraseIdx fromIndex).insertIdx toIndex view.entry := by
  rw [strip.getElem?_indexForModelIndex (consistent.inside insideFrom)] at found
  have entry : strip.tabModel[fromIndex]? = some view.entry := by
    simp [← consistent.entries, found]
  unfold movedModel
  rw [entry]

include insideTo

theorem length_otherViews (consistent : Consistent strip) :
    toIndex ≤ (strip.otherViews view).length := by
  grind [consistent.openViews_otherViews insideFrom found,
    List.length_eraseIdx_of_lt (consistent.inside insideFrom), consistent.length_openViews]

/-- After a move the open views are those of the model exactly if the tab was put behind open
views only. -/
theorem moved_entries_iff (consistent : Consistent strip) :
    (((strip.otherViews view).insertIdx toIndex view).filter strip.isOpen).map TabView.entry =
      strip.movedModel fromIndex toIndex ↔ strip.PlacedAmongOpen fromIndex toIndex := by
  have length := consistent.length_otherViews insideFrom insideTo found
  have others := consistent.openViews_otherViews insideFrom found
  have foundOpen := found
  rw [strip.getElem?_indexForModelIndex (consistent.inside insideFrom)] at foundOpen
  have isOpen : strip.isOpen view = true := (List.mem_filter.mp (List.mem_of_getElem? foundOpen)).2
  have shorter : (strip.tabModel.eraseIdx fromIndex).length = strip.tabModel.length - 1 :=
    List.length_eraseIdx_of_lt insideFrom
  have erased : ((strip.otherViews view).filter strip.isOpen).map TabView.entry =
      strip.tabModel.eraseIdx fromIndex := by
    rw [others, ← List.eraseIdx_map, consistent.entries]
  have count : shownBefore strip.isOpen (strip.otherViews view) toIndex ≤
      (strip.tabModel.eraseIdx fromIndex).length := by
    rw [← erased, List.length_map, ← List.countP_eq_length_filter]
    exact (List.take_sublist _ _).countP_le
  have absent : view.entry ∉ strip.tabModel.eraseIdx fromIndex := by
    grind [TabView.entry, otherViews]
  rw [consistent.movedModel_eq insideFrom found, filter_insertIdx strip.isOpen isOpen length,
    List.map_insertIdx, erased]
  have placed : strip.PlacedAmongOpen fromIndex toIndex ↔
      ∀ other ∈ (strip.otherViews view).take toIndex, strip.isOpen other := by
    simp [PlacedAmongOpen, found]
  rw [placed, ← shownBefore_eq_iff strip.isOpen length]
  constructor
  · intro same
    exact insertIdx_inj absent count (by omega) same
  · intro same
    rw [same]

end Move

include consistent

theorem didMoveTab {fromIndex toIndex : Nat} (insideFrom : fromIndex < strip.tabModel.length)
    (insideTo : toIndex < strip.tabModel.length)
    (placed : strip.PlacedAmongOpen fromIndex toIndex)
    (returned : (strip.withModel (strip.movedModel fromIndex toIndex)).didMoveTab fromIndex
      toIndex = some (after, changes)) : Consistent after := by
  obtain ⟨view, found, rfl⟩ := didMoveTab_eq returned
  have perm : ((strip.otherViews view).insertIdx toIndex view).Perm strip.tabArray := by
    have length := consistent.length_otherViews insideFrom insideTo found
    obtain ⟨bound, same⟩ := List.getElem?_eq_some_iff.mp found
    rw [consistent.otherViews_eq found] at length ⊢
    refine (List.perm_insertIdx view _ length).trans ?_
    rw [← same]
    exact List.getElem_cons_eraseIdx_perm bound
  have addresses := perm.map TabView.address
  constructor
  · exact (consistent.moved_entries_iff insideFrom insideTo found).mpr placed
  · grind [consistent.closing]
  · exact addresses.nodup_iff.mpr consistent.distinct
  · exact fun other mem => consistent.made other (addresses.subset mem)
  · grind [movedModel, List.perm_insertIdx, List.getElem_cons_eraseIdx_perm, consistent.tabs]

end Consistent

/-! ## Whole runs -/

theorem consistent_init {tabs : List Tab} (distinct : tabs.Nodup) (activeIndex : Int) :
    Consistent (init tabs activeIndex) := by
  have addresses : (init tabs activeIndex).tabArray.map TabView.address =
      List.range' 0 tabs.length := by
    unfold init
    rw [List.map_map]
    exact List.zipIdx_map_snd 0 tabs
  have allOpen : (init tabs activeIndex).openViews = (init tabs activeIndex).tabArray :=
    List.filter_eq_self.mpr fun _ _ => rfl
  constructor
  · rw [allOpen]
    simp [TabView.entry, init]
  · exact fun _ mem => by cases mem
  · rw [addresses]
    exact List.nodup_range'
  · intro view mem
    rw [addresses] at mem
    grind [init]
  · simpa [init] using (List.zipIdx_map_fst 0 tabs).symm ▸ distinct

variable [DecidableEq Tab]
variable {modelIndex index : Nat} {tabModel : List (ModelTab Tab)}

theorem indexOfTab_eq_some (found : strip.indexOfTab tab = some modelIndex) :
    ∃ entry, strip.tabModel[modelIndex]? = some entry ∧ entry.tab = tab := by
  obtain ⟨inside, same, -⟩ := List.findIdx?_eq_some_iff_getElem.mp found
  grind

theorem indexOfTab_isSome (mem : tab ∈ strip.tabModel.map ModelTab.tab) :
    ∃ modelIndex, strip.indexOfTab tab = some modelIndex := by
  refine Option.isSome_iff_exists.mp ?_
  grind [indexOfTab]

omit [DecidableEq Tab] in
theorem mem_replaced (inside : index < tabModel.length) (newTab : Tab) :
    newTab ∈ (tabModel.modify index (ModelTab.setTab newTab)).map ModelTab.tab := by
  refine List.mem_map.mpr ⟨tabModel[index].setTab newTab, ?_, rfl⟩
  grind [List.getElem?_modify_eq]

/-- The model finds the tab that has replaced another one. -/
theorem indexOfTab_replaced (new : newTab ∉ strip.tabModel.map ModelTab.tab)
    (found : (strip.withModel (strip.tabModel.modify index
      (ModelTab.setTab newTab))).indexOfTab newTab = some modelIndex) : modelIndex = index := by
  obtain ⟨entry, stored, same⟩ := indexOfTab_eq_some found
  change (strip.tabModel.modify index _)[modelIndex]? = some entry at stored
  grind

omit [DecidableEq Tab] in
theorem modify_setTab_self {entry : ModelTab Tab} (found : tabModel[modelIndex]? = some entry) :
    tabModel.modify modelIndex (ModelTab.setTab entry.tab) = tabModel := by
  obtain ⟨inside, rfl⟩ := List.getElem?_eq_some_iff.mp found
  rw [List.modify_eq_set_getElem?, found]
  exact List.set_getElem_self inside

omit [DecidableEq Tab] in
/-- A tab that is not in the model can replace one that is. -/
theorem nodup_replaced (inside : index < tabModel.length)
    (new : newTab ∉ tabModel.map ModelTab.tab) (distinct : (tabModel.map ModelTab.tab).Nodup) :
    ((tabModel.modify index (ModelTab.setTab newTab)).map ModelTab.tab).Nodup := by
  rw [List.modify_eq_set_getElem?, List.getElem?_eq_getElem inside]
  simp [ModelTab.setTab, distinct.set, new]

/-- Every notification keeps the strip consistent. -/
theorem step_consistent (consistent : Consistent strip) (accepted : strip.Accepts input)
    (inPlace : strip.InPlace input) (stepped : step strip input = some (after, changes)) :
    Consistent after := by
  cases input with
  | insertTab _ _ _ => exact consistent.didInsertTab accepted.1 accepted.2 stepped
  | removeTab _ => exact consistent.didRemoveTab accepted stepped
  | moveTab _ _ =>
    exact consistent.didMoveTab accepted.1 accepted.2.1 inPlace stepped
  | replaceTab _ _ =>
    obtain ⟨modelIndex, found, rfl⟩ := didChangeTab_eq stepped
    cases indexOfTab_replaced accepted.2 found
    exact consistent.didChangeTab accepted.1
      (nodup_replaced accepted.1 accepted.2 consistent.tabs)
  | changeActiveTab _ => exact consistent.didChangeActiveTab stepped
  | changeTab _ =>
    obtain ⟨modelIndex, found, rfl⟩ := didChangeTab_eq stepped
    obtain ⟨entry, stored, rfl⟩ := indexOfTab_eq_some found
    have same : strip.tabModel.modify modelIndex (ModelTab.setTab entry.tab) = strip.tabModel :=
      modify_setTab_self stored
    have changed := consistent.didChangeTab (List.getElem?_eq_some_iff.mp stored).1
      (same.symm ▸ consistent.tabs)
    rw [same] at changed
    exact changed
  | animationFinished _ =>
    cases stepped
    exact consistent.removeView accepted
  | beginDrag _ =>
    obtain ⟨-, result⟩ := dcheck_then stepped
    cases result
    exact ⟨consistent.entries, consistent.closing, consistent.distinct, consistent.made,
      consistent.tabs⟩
  | endDrag =>
    cases stepped
    exact ⟨consistent.entries, consistent.closing, consistent.distinct, consistent.made,
      consistent.tabs⟩

/-- Nothing that the model notifies of lets the strip look for a view that is not there. -/
theorem step_isSome (consistent : Consistent strip) (accepted : strip.Accepts input)
    (asserted : strip.Asserted input) : (step strip input).isSome := by
  refine Option.isSome_iff_exists.mpr ?_
  cases input with
  | insertTab _ index _ =>
    refine ⟨_, dcheck_bind_eq_some.mpr ⟨?_, rfl⟩⟩
    have insideOpen : index ≤ strip.openViews.length :=
      Nat.le_trans accepted.1 (Nat.le_of_eq consistent.length_openViews.symm)
    rw [indexForModelIndex_withModel, strip.indexForModelIndex_eq insideOpen]
    exact shownPosition_le strip.isOpen strip.tabArray index
  | removeTab index =>
    obtain ⟨view, found⟩ := consistent.lookup accepted
    rw [← strip.indexForModelIndex_withModel (strip.tabModel.eraseIdx index)] at found
    exact ⟨_, Option.bind_eq_some_iff.mpr ⟨view, found, rfl⟩⟩
  | moveTab fromIndex toIndex =>
    obtain ⟨view, found⟩ := consistent.lookup accepted.1
    have length := consistent.length_otherViews accepted.1 accepted.2.1 found
    rw [← strip.indexForModelIndex_withModel (strip.movedModel fromIndex toIndex)] at found
    exact ⟨_, dcheck_bind_eq_some.mpr ⟨asserted, Option.bind_eq_some_iff.mpr
      ⟨view, found, dcheck_bind_eq_some.mpr ⟨length, rfl⟩⟩⟩⟩
  | replaceTab index newTab =>
    have mem : newTab ∈ (strip.withModel (strip.tabModel.modify index
        (ModelTab.setTab newTab))).tabModel.map ModelTab.tab := mem_replaced accepted.1 newTab
    obtain ⟨modelIndex, found⟩ := indexOfTab_isSome mem
    have bound : strip.indexForModelIndex modelIndex < strip.tabArray.length := by
      cases indexOfTab_replaced accepted.2 found
      exact consistent.indexForModelIndex_lt accepted.1
    rw [← strip.indexForModelIndex_withModel (strip.tabModel.modify index _)] at bound
    exact ⟨_, Option.bind_eq_some_iff.mpr ⟨_, found, dcheck_bind_eq_some.mpr ⟨bound, rfl⟩⟩⟩
  | changeActiveTab _ =>
    have unselected : Consistent
        { strip with tabArray := strip.tabArray.map (TabView.setSelected false) } := by
      refine consistent.of_same ?_
      rw [List.map_map]
      rfl
    exact ⟨_, dcheck_bind_eq_some.mpr ⟨unselected.indexForModelIndex_lt accepted, rfl⟩⟩
  | changeTab _ =>
    obtain ⟨_, found⟩ := indexOfTab_isSome accepted
    obtain ⟨_, stored, -⟩ := indexOfTab_eq_some found
    have bound := consistent.indexForModelIndex_lt (List.getElem?_eq_some_iff.mp stored).1
    exact ⟨_, Option.bind_eq_some_iff.mpr ⟨_, found, dcheck_bind_eq_some.mpr ⟨bound, rfl⟩⟩⟩
  | animationFinished view | endDrag => exact ⟨_, rfl⟩
  | beginDrag _ => exact ⟨_, dcheck_bind_eq_some.mpr ⟨asserted, rfl⟩⟩

/-- In a run in which tabs are moved behind open views only, the open views are those of the
model. -/
theorem run_matches {tabs : List Tab} (distinct : tabs.Nodup) (activeIndex : Int)
    (run : Runs step (fun strip input => strip.Accepts input ∧ strip.InPlace input)
      (init tabs activeIndex) changes strip) :
    strip.Matches ∧
      ∀ input, strip.Accepts input → strip.Asserted input → (step strip input).isSome := by
  have consistent : Consistent strip :=
    run.invariant Consistent (consistent_init distinct activeIndex) (by grind [step_consistent])
  grind [step_isSome, consistent.toMatches]

def movedBeforeClosing : List (Input Nat) :=
  [.removeTab 2, .moveTab 0 1, .changeTab 1, .insertTab 5 3 true, .changeActiveTab 3,
    .replaceTab 2 6, .beginDrag 0, .endDrag, .animationFinished 2, .moveTab 3 0]

theorem run_matches_movedBeforeClosing :
    ∃ strip : TabStripController Nat,
      strip.tabModel = [⟨5, 4⟩, ⟨2, 1⟩, ⟨1, 0⟩, ⟨6, 3⟩] ∧ strip.Matches := by
  have run : Runs step (fun strip input => strip.Accepts input ∧ strip.InPlace input)
      (init [1, 2, 3, 4] 0) _ _ :=
    Runs.replay movedBeforeClosing .start (Option.eq_some_of_isSome (by decide))
  exact ⟨_, by decide, (run_matches (by decide) 0 run).1⟩

/-- A tab is moved behind another one while the view of the first tab is closing: it stays in
front of the other one. -/
theorem run_movedPastClosing :
    ∃ changes : List ViewChange, ∃ strip : TabStripController Nat,
      Runs step Accepts (init [1, 2, 3] 0) changes strip ∧
        strip.tabModel = [⟨3, 2⟩, ⟨2, 1⟩] ∧
        strip.openViews.map TabView.entry = [⟨2, 1⟩, ⟨3, 2⟩] ∧ ¬ strip.Matches := by
  have run : Runs step Accepts (init [1, 2, 3] 0) _ _ :=
    Runs.replay [Input.removeTab 0, .moveTab 0 1] .start (Option.eq_some_of_isSome (by decide))
  exact ⟨_, _, run, by decide, by decide, fun same => absurd same.entries (by decide)⟩

end TabStripController

end ChromiumIos
