import ChromiumIos.Lib.Runs

/-!
# The fullscreen model

The model turns the broadcast state of the scroll view into the progress of the toolbar.  It
notifies its observers synchronously, and they may call it again: a notification is a frame on
the stack of those that are being delivered, which says what the operation has left to do when
the observers have returned.  The arithmetic is that of a type of floating-point numbers.
-/

namespace ChromiumIos.FullscreenModel

open Lib

/-- Floating-point numbers. -/
class CGFloat (F : Type) extends Zero F, One F, Add F, Sub F, Mul F, Div F, Neg F where
  nan : F
  isNaN : F → Bool
  equal : F → F → Bool
  lt : F → F → Bool
  le : F → F → Bool
  abs : F → F
  epsilon : F

variable {F : Type} [CGFloat F]

def areCGFloatsEqual (a b : F) : Bool :=
  CGFloat.le (CGFloat.abs (a - b)) (CGFloat.epsilon : F)

def stdMin (a b : F) : F :=
  if CGFloat.lt b a then b else a

def stdMax (a b : F) : F :=
  if CGFloat.lt a b then b else a

structure UIEdgeInsets (F : Type) where
  top : F
  left : F
  bottom : F
  right : F

def UIEdgeInsets.equalTo (first second : UIEdgeInsets F) : Bool :=
  CGFloat.equal first.top second.top && CGFloat.equal first.left second.left &&
    CGFloat.equal first.bottom second.bottom && CGFloat.equal first.right second.right

/-- What the observers are told. -/
inductive Notification where
  | enabledStateChanged
  | wasReset
  | toolbarHeightsUpdated
  | progressUpdated
  | scrollEventEnded
  | scrollEventStarted
deriving DecidableEq, Repr

/-- A notification that is being delivered, by the operation that has sent it where that matters
for what is left to do. -/
inductive Callback where
  | enabled
  | disabled
  | reset
  | resetForHeights
  | heightsUpdated
  | progress
  | progressOfDisabled
  | scrollEnded
  | scrollStarted
deriving DecidableEq, Repr

def Callback.notification : Callback → Notification
  | .enabled => .enabledStateChanged
  | .disabled => .enabledStateChanged
  | .reset => .wasReset
  | .resetForHeights => .wasReset
  | .heightsUpdated => .toolbarHeightsUpdated
  | .progress => .progressUpdated
  | .progressOfDisabled => .progressUpdated
  | .scrollEnded => .scrollEventEnded
  | .scrollStarted => .scrollEventStarted

/-- The fields of the model, and the notifications that are being delivered, the last one
first. -/
structure State (F : Type) where
  progress : F
  baseOffset : F
  collapsedToolbarHeight : F
  expandedToolbarHeight : F
  bottomToolbarHeight : F
  yContentOffset : F
  scrollViewHeight : F
  contentHeight : F
  topInset : F
  disabledCounter : Nat
  disabledForShortContent : Bool
  scrolling : Bool
  zooming : Bool
  dragging : Bool
  ignoringCurrentScroll : Bool
  resizesScrollView : Bool
  safeAreaInsets : UIEdgeInsets F
  observerCallbackCount : Nat
  callbacks : List Callback

/-- The model as it is constructed. -/
def initial : State F where
  progress := 0
  baseOffset := CGFloat.nan
  collapsedToolbarHeight := 0
  expandedToolbarHeight := 0
  bottomToolbarHeight := 0
  yContentOffset := 0
  scrollViewHeight := 0
  contentHeight := 0
  topInset := 0
  disabledCounter := 0
  disabledForShortContent := false
  scrolling := false
  zooming := false
  dragging := false
  ignoringCurrentScroll := false
  resizesScrollView := false
  safeAreaInsets := ⟨0, 0, 0, 0⟩
  observerCallbackCount := 0
  callbacks := []

/-! ## What is read -/

variable (height : F) (state : State F)

namespace State

def enabled : Bool :=
  state.disabledCounter = 0

def hasBaseOffset : Bool :=
  !CGFloat.isNaN state.baseOffset

def toolbarHeightDelta : F :=
  state.expandedToolbarHeight - state.collapsedToolbarHeight

end State

inductive ScrollAction where
  | ignore
  | updateBaseOffset
  | updateProgress
  | updateBaseOffsetAndProgress
deriving DecidableEq, Repr

/-- A scroll that is to be ignored for where it is: a bounce at the top, or content that is
scrolled up though it fits. -/
def ignoredByPosition (fromOffset : F) (state : State F) : Bool :=
  let scrollingContentDown := CGFloat.lt (state.yContentOffset - fromOffset) 0
  let scrollingPastTop := CGFloat.le state.yContentOffset (-state.topInset)
  let contentFits := CGFloat.le state.contentHeight (state.scrollViewHeight - state.topInset)
  (scrollingPastTop && !scrollingContentDown) || (contentFits && !scrollingContentDown)

def actionForScrollFromOffset (fromOffset : F) (state : State F) : ScrollAction :=
  if !state.enabled || !state.scrolling || state.zooming || state.observerCallbackCount ≠ 0 ||
      areCGFloatsEqual state.toolbarHeightDelta 0 ||
      areCGFloatsEqual state.yContentOffset fromOffset then
    .updateBaseOffset
  else if state.ignoringCurrentScroll || ignoredByPosition fromOffset state then .ignore
  else if state.hasBaseOffset then .updateProgress
  else .updateBaseOffsetAndProgress

/-! ## Notifying the observers -/

abbrev Outcome (F : Type) := State F × List Notification

/-- The observers are being called. -/
def notify (callback : Callback) (state : State F) : Outcome F :=
  ({ state with
      observerCallbackCount := state.observerCallbackCount + 1
      callbacks := callback :: state.callbacks },
    [callback.notification])

def updateBaseOffset : State F :=
  { state with
    baseOffset := state.yContentOffset - (1 - state.progress) * state.toolbarHeightDelta }

def setProgress (callback : Callback) (progress : F) (state : State F) : Option (Outcome F) :=
  if areCGFloatsEqual state.progress (stdMax 0 (stdMin 1 progress)) then none
  else some (notify callback { state with progress := stdMax 0 (stdMin 1 progress) })

def updateProgress : Outcome F :=
  let delta := state.baseOffset - state.yContentOffset
  (setProgress .progress (1 + delta / state.toolbarHeightDelta) state).getD (state, [])

/-- A counter of callbacks goes out of scope. -/
def leave (callbacks : List Callback) (state : State F) : State F :=
  { state with
    observerCallbackCount := state.observerCallbackCount - 1
    callbacks := callbacks }

/-- What the operation does when the observers have returned. -/
def resume (callbacks : List Callback) (state : State F) : Callback → Outcome F
  | .disabled =>
    -- the counter of this notification is still there while the progress is set
    let shown := { state with callbacks := callbacks }
    (setProgress .progressOfDisabled 1 shown).getD (leave callbacks (updateBaseOffset shown), [])
  | .progressOfDisabled =>
    (leave callbacks (updateBaseOffset (leave callbacks state)), [])
  | .resetForHeights => notify .heightsUpdated (leave callbacks state)
  | .scrollStarted => (leave callbacks (updateBaseOffset state), [])
  | .enabled => (leave callbacks state, [])
  | .reset => (leave callbacks state, [])
  | .heightsUpdated => (leave callbacks state, [])
  | .progress => (leave callbacks state, [])
  | .scrollEnded => (leave callbacks state, [])

/-! ## The operations -/

def incrementDisabledCounter : Outcome F :=
  let counted := { state with disabledCounter := state.disabledCounter + 1 }
  if counted.disabledCounter = 1 then notify .disabled counted else (counted, [])

def decrementDisabledCounter : Checked (Outcome F) := do
  dcheck (0 < state.disabledCounter)
  let counted := { state with disabledCounter := state.disabledCounter - 1 }
  if counted.disabledCounter = 0 then some (notify .enabled counted) else some (counted, [])

/-- The operation with the notification that it sends on behalf of its caller. -/
def reset (callback : Callback) (state : State F) : Outcome F :=
  notify callback
    { state with
      progress := 1
      scrolling := false
      baseOffset := CGFloat.nan }

def resetForNavigation : Outcome F :=
  reset .reset state

def ignoreRemainderOfCurrentScroll : State F :=
  if state.scrolling then { state with ignoringCurrentScroll := true } else state

def animationEndedWithProgress (progress : F) (state : State F) : Checked (State F) := do
  dcheck (CGFloat.le 0 progress = true)
  dcheck (CGFloat.le progress 1 = true)
  some { state with progress := progress }

def setToolbarHeight (old height : F) (changed state : State F) : Checked (Outcome F) :=
  if areCGFloatsEqual old height then some (state, [])
  else do
    dcheck (CGFloat.le 0 height = true)
    some (reset .resetForHeights changed)

def setCollapsedToolbarHeight : Checked (Outcome F) :=
  setToolbarHeight state.collapsedToolbarHeight height
    { state with collapsedToolbarHeight := height } state

def setExpandedToolbarHeight : Checked (Outcome F) :=
  setToolbarHeight state.expandedToolbarHeight height
    { state with expandedToolbarHeight := height } state

def setBottomToolbarHeight : Checked (Outcome F) :=
  setToolbarHeight state.bottomToolbarHeight height
    { state with bottomToolbarHeight := height } state

def disablingThreshold : F :=
  if state.resizesScrollView then
    state.scrollViewHeight + (state.expandedToolbarHeight + state.bottomToolbarHeight)
  else state.scrollViewHeight + (state.safeAreaInsets.top + state.safeAreaInsets.bottom)

def disablesForContentHeight : Bool :=
  !areCGFloatsEqual state.contentHeight 0 && !areCGFloatsEqual state.scrollViewHeight 0 &&
    CGFloat.le state.contentHeight (disablingThreshold state)

def updateDisabledCounterForContentHeight : Checked (Outcome F) :=
  let disable := disablesForContentHeight state
  if state.disabledForShortContent = disable then some (state, [])
  else
    let changed := { state with disabledForShortContent := disable }
    if disable then some (incrementDisabledCounter changed) else decrementDisabledCounter changed

def setScrollViewHeight : Checked (Outcome F) :=
  updateDisabledCounterForContentHeight { state with scrollViewHeight := height }

def setContentHeight : Checked (Outcome F) :=
  updateDisabledCounterForContentHeight { state with contentHeight := height }

def setTopContentInset (inset : F) (state : State F) : State F :=
  { state with topInset := inset }

def setYContentOffset (offset : F) (state : State F) : Outcome F :=
  let scrolled := { state with yContentOffset := offset }
  match actionForScrollFromOffset state.yContentOffset scrolled with
  | .updateBaseOffset => (updateBaseOffset scrolled, [])
  | .updateProgress => updateProgress scrolled
  | .updateBaseOffsetAndProgress => updateProgress (updateBaseOffset scrolled)
  | .ignore => (scrolled, [])

def setScrollViewIsScrolling (scrolling : Bool) (state : State F) : Outcome F :=
  if state.scrolling = scrolling then (state, [])
  else if scrolling then ({ state with scrolling := true }, [])
  else
    notify .scrollEnded { state with scrolling := false, ignoringCurrentScroll := false }

def setScrollViewIsZooming (zooming : Bool) (state : State F) : State F :=
  { state with zooming := zooming }

def setScrollViewIsDragging (dragging : Bool) (state : State F) : Outcome F :=
  if state.dragging = dragging then (state, [])
  else
    let changed := { state with dragging := dragging }
    if dragging then notify .scrollStarted changed else (changed, [])

def setResizesScrollView (resizes : Bool) (state : State F) : State F :=
  { state with resizesScrollView := resizes }

def setWebViewSafeAreaInsets (insets : UIEdgeInsets F) (state : State F) :
    Checked (Outcome F) :=
  if state.safeAreaInsets.equalTo insets then some (state, [])
  else updateDisabledCounterForContentHeight { state with safeAreaInsets := insets }

/-! ## Steps -/

/-- A call of the model, from outside or by an observer. -/
inductive Call (F : Type) where
  | incrementDisabledCounter
  | decrementDisabledCounter
  | resetForNavigation
  | ignoreRemainderOfCurrentScroll
  | animationEndedWithProgress (progress : F)
  | setCollapsedToolbarHeight (height : F)
  | setExpandedToolbarHeight (height : F)
  | setBottomToolbarHeight (height : F)
  | setScrollViewHeight (height : F)
  | setContentHeight (height : F)
  | setTopContentInset (inset : F)
  | setYContentOffset (offset : F)
  | setScrollViewIsScrolling (scrolling : Bool)
  | setScrollViewIsZooming (zooming : Bool)
  | setScrollViewIsDragging (dragging : Bool)
  | setResizesScrollView (resizes : Bool)
  | setWebViewSafeAreaInsets (insets : UIEdgeInsets F)

def perform : Call F → Checked (Outcome F)
  | .incrementDisabledCounter => some (incrementDisabledCounter state)
  | .decrementDisabledCounter => decrementDisabledCounter state
  | .resetForNavigation => some (resetForNavigation state)
  | .ignoreRemainderOfCurrentScroll => some (ignoreRemainderOfCurrentScroll state, [])
  | .animationEndedWithProgress progress =>
    (animationEndedWithProgress progress state).map fun ended => (ended, [])
  | .setCollapsedToolbarHeight height => setCollapsedToolbarHeight height state
  | .setExpandedToolbarHeight height => setExpandedToolbarHeight height state
  | .setBottomToolbarHeight height => setBottomToolbarHeight height state
  | .setScrollViewHeight height => setScrollViewHeight height state
  | .setContentHeight height => setContentHeight height state
  | .setTopContentInset inset => some (setTopContentInset inset state, [])
  | .setYContentOffset offset => some (setYContentOffset offset state)
  | .setScrollViewIsScrolling scrolling => some (setScrollViewIsScrolling scrolling state)
  | .setScrollViewIsZooming zooming => some (setScrollViewIsZooming zooming state, [])
  | .setScrollViewIsDragging dragging => some (setScrollViewIsDragging dragging state)
  | .setResizesScrollView resizes => some (setResizesScrollView resizes state, [])
  | .setWebViewSafeAreaInsets insets => setWebViewSafeAreaInsets insets state

/-- A call, or the observers of the last notification have all returned. -/
inductive Input (F : Type) where
  | call (call : Call F)
  | returned

def step : Input F → Checked (Outcome F)
  | .call call => perform state call
  | .returned =>
    match state.callbacks with
    | [] => none
    | callback :: callbacks => some (resume callbacks state callback)

/-- The state after some inputs, if no assertion has failed. -/
def run (inputs : List (Input F)) : Checked (State F) :=
  inputs.foldlM (fun state input => (step state input).map Prod.fst) initial

theorem run_append (inputs more : List (Input F)) :
    run (inputs ++ more) =
      (run inputs).bind (more.foldlM fun state input => (step state input).map Prod.fst) :=
  List.foldlM_append

theorem run_concat_eq_some {inputs : List (Input F)} {input : Input F} {last : State F} :
    run (inputs ++ [input]) = some last ↔
      ∃ state told, run inputs = some state ∧ step state input = some (last, told) := by
  rw [run_append, Option.bind_eq_some_iff]
  simp

end ChromiumIos.FullscreenModel
