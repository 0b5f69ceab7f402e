import ChromiumIos.Lib.Runs
import ChromiumIos.Lib.ShownPositions

/-!
# The tab strip

The strip keeps an array of views.  The view of a tab that is removed from the model
stays in the array while it is animated out of sight, so that an index of the model is
translated past the closing views into an index of the array.

A tab is moved to its index of the model, which is not translated.
-/

namespace ChromiumIos

open Lib

variable {Tab : Type}

/-- A view, known by its address, with the tab whose title and icon it shows. -/
structure TabView (Tab : Type) where
  address : Nat
  tab : Tab
  selected : Bool
deriving DecidableEq, Repr

structure ModelTab (Tab : Type) where
  tab : Tab
  view : Nat
deriving DecidableEq, Repr

def ModelTab.setTab (tab : Tab) (entry : ModelTab Tab) : ModelTab Tab := { entry with tab }

namespace TabView

def setSelected (selected : Bool) (view : TabView Tab) : TabView Tab := { view with selected }

/-- Title, icon and progress are taken from the tab. -/
def setTab (tab : Tab) (view : TabView Tab) : TabView Tab := { view with tab }

def entry (view : TabView Tab) : ModelTab Tab := ⟨view.tab, view.address⟩

end TabView

structure TabStripController (Tab : Type) where
  tabModel : List (ModelTab Tab)
  tabArray : List (TabView Tab)
  closingTabs : List Nat
  isReordering : Bool
  /-- How many views have been made. -/
  views : Nat
deriving DecidableEq, Repr

/-- What happens to the views on the screen. -/
inductive ViewChange where
  | addSubview (view : Nat)
  | animateOut (view : Nat)
  | removeFromSuperview (view : Nat)
deriving DecidableEq, Repr

namespace TabStripController

variable {view : TabView Tab} {modelIndex : Nat} (strip : TabStripController Tab)
  (tabModel : List (ModelTab Tab)) (views : List (TabView Tab))

def isClosing (view : TabView Tab) : Bool :=
  strip.closingTabs.contains view.address

def init (tabs : List Tab) (activeIndex : Int) : TabStripController Tab where
  tabModel := tabs.zipIdx.map fun (tab, index) => ⟨tab, index⟩
  tabArray := tabs.zipIdx.map fun (tab, index) => ⟨index, tab, (index : Int) = activeIndex⟩
  closingTabs := []
  isReordering := false
  views := tabs.length

def withModel (tabModel : List (ModelTab Tab)) : TabStripController Tab :=
  { strip with tabModel }

/-! ## Indices -/

def indexLoop (strip : TabStripController Tab) : List (TabView Tab) → Nat → Nat → Nat
  | [], _, index => index
  | tab :: rest, i, index =>
    let index := if strip.isClosing tab then index + 1 else index
    if i = index then index else indexLoop strip rest (i + 1) index

def indexForModelIndex (modelIndex : Nat) : Nat :=
  strip.indexLoop strip.tabArray 0 modelIndex

theorem indexLoop_withModel (i index : Nat) :
    (strip.withModel tabModel).indexLoop views i index = strip.indexLoop views i index := by
  induction views generalizing i index with
  | nil => rfl
  | cons _ _ ih =>
    unfold indexLoop
    dsimp only
    rw [ih]
    rfl

/-- The strip looks at its own views only. -/
@[simp]
theorem indexForModelIndex_withModel (modelIndex : Nat) :
    (strip.withModel tabModel).indexForModelIndex modelIndex =
      strip.indexForModelIndex modelIndex :=
  strip.indexLoop_withModel tabModel strip.tabArray 0 modelIndex

def modelIndexLoop (strip : TabStripController Tab) (index : Nat) :
    List (TabView Tab) → Nat → Nat → Option Nat
  | [], _, _ => none
  | tab :: rest, arrayIndex, modelIndex =>
    if arrayIndex = index then
      if strip.isClosing tab then none else some modelIndex
    else
      modelIndexLoop strip index rest (arrayIndex + 1)
        (if strip.isClosing tab then modelIndex else modelIndex + 1)

def modelIndexForIndex (index : Nat) : Option Nat :=
  strip.modelIndexLoop index strip.tabArray 0 0

def modelIndexForTabView (view : Nat) : Option Nat :=
  (strip.tabArray.findIdx? fun tab => tab.address = view).bind strip.modelIndexForIndex

def indexOfTab [DecidableEq Tab] (strip : TabStripController Tab) (tab : Tab) : Option Nat :=
  strip.tabModel.findIdx? fun entry => entry.tab = tab

def isOpen (view : TabView Tab) : Bool := !strip.isClosing view

theorem not_isOpen {strip : TabStripController Tab} (closing : strip.isClosing view = true) :
    ¬ strip.isOpen view = true := by
  simp [isOpen, closing]

theorem isOpen_of {strip : TabStripController Tab} (notClosing : ¬ strip.isClosing view = true) :
    strip.isOpen view = true := by
  simp [isOpen, notClosing]

def openViews : List (TabView Tab) :=
  strip.tabArray.filter strip.isOpen

theorem indexLoop_eq {views : List (TabView Tab)} {number : Nat}
    (inside : number ≤ (views.filter strip.isOpen).length) (i : Nat) :
    strip.indexLoop views i (i + number) = i + shownPosition strip.isOpen views number := by
  induction views generalizing number i with
  | nil =>
    cases Nat.le_zero.mp inside
    rfl
  | cons view _ ih =>
    unfold indexLoop
    by_cases closing : strip.isClosing view = true
    · rw [List.filter_cons_of_neg (not_isOpen closing)] at inside
      rw [if_pos closing, if_neg (by omega), shownPosition_hidden _ (not_isOpen closing)]
      have next := ih inside (i + 1)
      grind
    · rw [List.filter_cons_of_pos (isOpen_of closing)] at inside
      rw [if_neg closing]
      cases number with
      | zero => simp [shownPosition, isOpen, closing]
      | succ _ =>
        rw [if_neg (by omega), shownPosition_succ _ (isOpen_of closing)]
        have next := ih (Nat.le_of_succ_le_succ inside) (i + 1)
        grind

theorem modelIndexLoop_eq (position arrayIndex modelIndex : Nat) :
    strip.modelIndexLoop (arrayIndex + position) views arrayIndex modelIndex =
      ((views[position]?).filter strip.isOpen).map fun _ =>
        modelIndex + shownBefore strip.isOpen views position := by
  induction views generalizing position arrayIndex modelIndex with
  | nil => rfl
  | cons view _ ih =>
    unfold modelIndexLoop
    cases position with
    | zero =>
      by_cases closing : strip.isClosing view = true
      · simp [closing, isOpen]
      · simp [closing, isOpen, shownBefore]
    | succ position =>
      have next := ih position (arrayIndex + 1)
        (if strip.isClosing view then modelIndex else modelIndex + 1)
      rw [Nat.add_right_comm] at next
      rw [if_neg (by omega), ← Nat.add_assoc, next, List.getElem?_cons_succ]
      refine congrArg (Option.map · _) (funext fun _ => ?_)
      rw [shownBefore, shownBefore, List.take_succ_cons]
      by_cases closing : strip.isClosing view = true
      · rw [if_pos closing, List.countP_cons_of_neg (not_isOpen closing)]
      · rw [if_neg closing, List.countP_cons_of_pos (isOpen_of closing)]
        omega

/-- The index of a tab of the model is translated to where its view stands. -/
theorem indexForModelIndex_eq (inside : modelIndex ≤ strip.openViews.length) :
    strip.indexForModelIndex modelIndex =
      shownPosition strip.isOpen strip.tabArray modelIndex := by
  have whole := strip.indexLoop_eq inside 0
  rwa [Nat.zero_add, Nat.zero_add] at whole

/-- The view that is looked up for an index of the model. -/
theorem getElem?_indexForModelIndex (inside : modelIndex < strip.openViews.length) :
    strip.tabArray[strip.indexForModelIndex modelIndex]? = strip.openViews[modelIndex]? := by
  rw [strip.indexForModelIndex_eq (Nat.le_of_lt inside)]
  exact getElem?_shownPosition strip.isOpen inside

theorem modelIndexForIndex_eq (index : Nat) :
    strip.modelIndexForIndex index =
      ((strip.tabArray[index]?).filter strip.isOpen).map fun _ =>
        shownBefore strip.isOpen strip.tabArray index := by
  have whole := strip.modelIndexLoop_eq strip.tabArray index 0 0
  simp only [Nat.zero_add] at whole
  exact whole

/-! ## Notifications of the model -/

def didInsertTab (tab : Tab) (modelIndex : Nat) (fg : Bool) :
    Checked (TabStripController Tab × List ViewChange) := do
  let view : TabView Tab := ⟨strip.views, tab, fg⟩
  dcheck (strip.indexForModelIndex modelIndex ≤ strip.tabArray.length)
  return ({ strip with
    tabArray := strip.tabArray.insertIdx (strip.indexForModelIndex modelIndex) view
    views := strip.views + 1 }, [.addSubview view.address])

def didRemoveTab (modelIndex : Nat) : Checked (TabStripController Tab × List ViewChange) := do
  let view ← strip.tabArray[strip.indexForModelIndex modelIndex]?
  return ({ strip with closingTabs := strip.closingTabs.insert view.address },
    [.animateOut view.address])

def removeView (view : Nat) : TabStripController Tab × List ViewChange :=
  ({ strip with
    tabArray := strip.tabArray.filter fun tab => tab.address ≠ view
    closingTabs := strip.closingTabs.filter fun closing => closing ≠ view },
    [.removeFromSuperview view])

def otherViews (view : TabView Tab) : List (TabView Tab) :=
  strip.tabArray.filter fun tab => tab.address ≠ view.address

def didMoveTab (fromIndex toIndex : Nat) : Checked (TabStripController Tab × List ViewChange) := do
  dcheck (strip.isReordering = false)
  let view ← strip.tabArray[strip.indexForModelIndex fromIndex]?
  dcheck (toIndex ≤ (strip.otherViews view).length)
  return ({ strip with tabArray := (strip.otherViews view).insertIdx toIndex view }, [])

def didChangeActiveTab (modelIndex : Nat) : Checked (TabStripController Tab × List ViewChange) := do
  let unselected := { strip with tabArray := strip.tabArray.map (TabView.setSelected false) }
  let index := unselected.indexForModelIndex modelIndex
  dcheck (index < unselected.tabArray.length)
  return ({ unselected with
    tabArray := unselected.tabArray.modify index (TabView.setSelected true) }, [])

def didChangeTab [DecidableEq Tab] (strip : TabStripController Tab) (tab : Tab) :
    Checked (TabStripController Tab × List ViewChange) := do
  let modelIndex ← strip.indexOfTab tab
  let index := strip.indexForModelIndex modelIndex
  dcheck (index < strip.tabArray.length)
  return ({ strip with tabArray := strip.tabArray.modify index (TabView.setTab tab) }, [])

def didReplaceTab [DecidableEq Tab] (strip : TabStripController Tab) (newTab : Tab) :
    Checked (TabStripController Tab × List ViewChange) :=
  strip.didChangeTab newTab

def beginDrag (view : Nat) : Checked (TabStripController Tab × List ViewChange) := do
  dcheck (strip.modelIndexForTabView view).isSome
  return ({ strip with isReordering := true }, [])

def resetDragState : TabStripController Tab :=
  { strip with isReordering := false }

inductive Input (Tab : Type) where
  | insertTab (tab : Tab) (index : Nat) (inForeground : Bool)
  | removeTab (index : Nat)
  | moveTab (fromIndex toIndex : Nat)
  | replaceTab (index : Nat) (newTab : Tab)
  | changeActiveTab (index : Nat)
  | changeTab (tab : Tab)
  | animationFinished (view : Nat)
  | beginDrag (view : Nat)
  | endDrag
deriving DecidableEq, Repr

def movedModel (fromIndex toIndex : Nat) : List (ModelTab Tab) :=
  match strip.tabModel[fromIndex]? with
  | none => strip.tabModel
  | some entry => (strip.tabModel.eraseIdx fromIndex).insertIdx toIndex entry

/-- The model changes before it notifies the strip. -/
def step [DecidableEq Tab] (strip : TabStripController Tab) :
    Input Tab → Checked (TabStripController Tab × List ViewChange)
  | .insertTab tab index inForeground =>
    (strip.withModel (strip.tabModel.insertIdx index ⟨tab, strip.views⟩)).didInsertTab
      tab index inForeground
  | .removeTab index => (strip.withModel (strip.tabModel.eraseIdx index)).didRemoveTab index
  | .moveTab fromIndex toIndex =>
    (strip.withModel (strip.movedModel fromIndex toIndex)).didMoveTab fromIndex toIndex
  | .replaceTab index newTab =>
    (strip.withModel (strip.tabModel.modify index (ModelTab.setTab newTab))).didReplaceTab newTab
  | .changeActiveTab index => strip.didChangeActiveTab index
  | .changeTab tab => strip.didChangeTab tab
  | .animationFinished view => some (strip.removeView view)
  | .beginDrag view => strip.beginDrag view
  | .endDrag => some (strip.resetDragState, [])

def PlacedAmongOpen (fromIndex toIndex : Nat) : Prop :=
  ∀ view ∈ strip.tabArray[strip.indexForModelIndex fromIndex]?,
    ∀ other ∈ (strip.otherViews view).take toIndex, strip.isOpen other
deriving Decidable

def InPlace : Input Tab → Prop
  | .moveTab fromIndex toIndex => strip.PlacedAmongOpen fromIndex toIndex
  | _ => True

instance (input : Input Tab) : Decidable (strip.InPlace input) := by
  cases input <;> unfold InPlace <;> infer_instance

/-- What the strip asserts of an input: a dragged view belongs to a tab, and no tab is moved while
one is dragged. -/
def Asserted : Input Tab → Prop
  | .moveTab _ _ => strip.isReordering = false
  | .beginDrag view => (strip.modelIndexForTabView view).isSome
  | _ => True

/-! ## What the notifications do -/

section Notifications

variable {strip after : TabStripController Tab} {tabModel : List (ModelTab Tab)}
variable {changes : List ViewChange}

theorem didInsertTab_eq {tab : Tab} {fg : Bool}
    (returned : (strip.withModel tabModel).didInsertTab tab modelIndex fg =
      some (after, changes)) :
    after = { strip with
      tabModel
      tabArray := strip.tabArray.insertIdx (strip.indexForModelIndex modelIndex)
        ⟨strip.views, tab, fg⟩
      views := strip.views + 1 } := by
  obtain ⟨-, result⟩ := dcheck_then returned
  cases result
  rw [indexForModelIndex_withModel]
  rfl

theorem didRemoveTab_eq
    (returned : (strip.withModel tabModel).didRemoveTab modelIndex = some (after, changes)) :
    ∃ view, strip.tabArray[strip.indexForModelIndex modelIndex]? = some view ∧
      after = { strip with tabModel, closingTabs := strip.closingTabs.insert view.address } := by
  obtain ⟨view, found, result⟩ := bind_eq_some returned
  cases result
  rw [indexForModelIndex_withModel] at found
  exact ⟨view, found, rfl⟩

theorem didMoveTab_eq {fromIndex toIndex : Nat}
    (returned : (strip.withModel tabModel).didMoveTab fromIndex toIndex =
      some (after, changes)) :
    ∃ view, strip.tabArray[strip.indexForModelIndex fromIndex]? = some view ∧
      after = { strip with
        tabModel, tabArray := (strip.otherViews view).insertIdx toIndex view } := by
  obtain ⟨-, returned⟩ := dcheck_then returned
  obtain ⟨view, found, returned⟩ := bind_eq_some returned
  obtain ⟨-, result⟩ := dcheck_then returned
  cases result
  rw [indexForModelIndex_withModel] at found
  exact ⟨view, found, rfl⟩

theorem didChangeTab_eq [DecidableEq Tab] {tab : Tab}
    (returned : (strip.withModel tabModel).didChangeTab tab = some (after, changes)) :
    ∃ modelIndex, (strip.withModel tabModel).indexOfTab tab = some modelIndex ∧
      after = { strip with
        tabModel
        tabArray := strip.tabArray.modify (strip.indexForModelIndex modelIndex)
          (TabView.setTab tab) } := by
  obtain ⟨modelIndex, found, returned⟩ := bind_eq_some returned
  grind [withModel, indexForModelIndex_withModel, dcheck_then]

end Notifications

/-- What the model can notify of, and the animations that can end.  A gesture does not begin
while another one is under way. -/
def Accepts : Input Tab → Prop
  | .insertTab tab index _ =>
    index ≤ strip.tabModel.length ∧ tab ∉ strip.tabModel.map ModelTab.tab
  | .removeTab index => index < strip.tabModel.length
  | .moveTab fromIndex toIndex =>
    fromIndex < strip.tabModel.length ∧ toIndex < strip.tabModel.length ∧ fromIndex ≠ toIndex
  | .replaceTab index newTab =>
    index < strip.tabModel.length ∧ newTab ∉ strip.tabModel.map ModelTab.tab
  | .changeActiveTab index => index < strip.tabModel.length
  | .changeTab tab => tab ∈ strip.tabModel.map ModelTab.tab
  | .animationFinished view => view ∈ strip.closingTabs
  | .beginDrag _ => strip.isReordering = false
  | .endDrag => True

instance [DecidableEq Tab] (strip : TabStripController Tab) (input : Input Tab) :
    Decidable (strip.Accepts input) := by
  cases input <;> unfold Accepts <;> infer_instance

end TabStripController

end ChromiumIos
