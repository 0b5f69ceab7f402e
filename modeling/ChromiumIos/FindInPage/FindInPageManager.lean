import ChromiumIos.Lib.Counts
import ChromiumIos.Lib.Runs

/-!
# Finding in all frames of a page

A search is started in every frame of the page, and each frame answers with a
count when it is done, or with a pending value when its time is over before it is
done; it is then called again to go on.  The delegate is told the total when no
answer is outstanding any more.

Each call of a frame is answered once: by the frame, or with null when the call
times out or the frame goes away.  In which order the answers arrive is left to
the environment.
-/

namespace ChromiumIos

open Lib

inductive FindInPageOptions where
  | findInPageSearch
  | findInPageNext
  | findInPagePrevious
deriving DecidableEq, Repr

/-- What a JavaScript function of a frame returned; a number is truncated. -/
inductive FrameResult where
  | null
  | notANumber
  | number (value : Int)
deriving DecidableEq, Repr

inductive FindFunction where
  | findInPageSearch
  | findInPagePump
deriving DecidableEq, Repr

structure FrameCall (FrameId : Type) where
  function : FindFunction
  query : String
  frameId : FrameId
  uniqueId : Nat
deriving DecidableEq, Repr

structure FindInPageManager (FrameId : Type) where
  webStateExists : Bool
  frames : List FrameId
  calls : List (FrameCall FrameId)
  uniqueId : Nat
  pendingFrameCallCount : Int
  frameMatchCount : Counts FrameId
  frameOrder : List FrameId

namespace FindInPageManager

variable {FrameId : Type}

/-- The result of a frame that has not finished. -/
def findInPagePending : Int := -1

def initial : FindInPageManager FrameId where
  webStateExists := true
  frames := []
  calls := []
  uniqueId := 0
  pendingFrameCallCount := 0
  frameMatchCount := .empty
  frameOrder := []

variable [DecidableEq FrameId]
variable (canCall : FrameId → Bool) (manager : FindInPageManager FrameId)

/-- A call that cannot be made leaves no completion behind. -/
def callJavaScriptFunction (call : FrameCall FrameId) : FindInPageManager FrameId :=
  if canCall call.frameId then { manager with calls := manager.calls ++ [call] } else manager

def webFrameDidBecomeAvailable (frameId : FrameId) (isMainFrame : Bool) :
    FindInPageManager FrameId :=
  { manager with
    frames := manager.frames ++ [frameId]
    frameMatchCount := manager.frameMatchCount.set frameId 0
    frameOrder :=
      if isMainFrame then frameId :: manager.frameOrder else manager.frameOrder ++ [frameId] }

def webFrameWillBecomeUnavailable (frameId : FrameId) : FindInPageManager FrameId :=
  { manager with
    frames := manager.frames.filter (· ≠ frameId)
    frameMatchCount := manager.frameMatchCount.erase frameId
    frameOrder := manager.frameOrder.filter (· ≠ frameId) }

def searchCall (query : String) (uniqueId : Nat) (frameId : FrameId) : FrameCall FrameId :=
  ⟨.findInPageSearch, query, frameId, uniqueId⟩

def find (query : String) : FindInPageOptions → FindInPageManager FrameId
  | .findInPageSearch =>
    let started := { manager with
      pendingFrameCallCount := manager.frames.length
      uniqueId := manager.uniqueId + 1 }
    manager.frames.foldl
      (fun called frameId =>
        called.callJavaScriptFunction canCall (searchCall query started.uniqueId frameId))
      started
  | .findInPageNext | .findInPagePrevious => manager

/-- The count in a result; anything but a number counts nothing. -/
def matchCount : FrameResult → Int
  | .number value => value
  | .null | .notANumber => 0

/-! ## Events -/

inductive Input (FrameId : Type) where
  | find (query : String) (options : FindInPageOptions)
  | frameAvailable (frameId : FrameId) (isMainFrame : Bool)
  | frameUnavailable (frameId : FrameId)
  | answered (call : FrameCall FrameId) (result : FrameResult)
  | webStateDestroyed
deriving DecidableEq, Repr

/-- The events of a run, and the reports to the delegate. -/
inductive Output (FrameId : Type) where
  | received (input : Input FrameId)
  | didCountMatches (matchCount : Int) (query : String)
deriving DecidableEq, Repr

def reportIfDone (query : String) : List (Output FrameId) :=
  if manager.pendingFrameCallCount = 0 then
    [.didCountMatches manager.frameMatchCount.total query]
  else []

def processFindInPageResult (call : FrameCall FrameId) (result : FrameResult) :
    FindInPageManager FrameId × List (Output FrameId) :=
  if call.uniqueId ≠ manager.uniqueId then (manager, [])
  else if !manager.webStateExists then (manager, [])
  else
    let counted := { manager with
      pendingFrameCallCount := manager.pendingFrameCallCount - 1 }
    if result = .null ∨ call.frameId ∉ manager.frames then
      let zeroed := { counted with
        frameMatchCount := counted.frameMatchCount.set call.frameId 0 }
      (zeroed, zeroed.reportIfDone call.query)
    else if matchCount result = findInPagePending then
      (counted.callJavaScriptFunction canCall { call with function := .findInPagePump }, [])
    else
      let finished := { counted with
        frameMatchCount := counted.frameMatchCount.set call.frameId (matchCount result) }
      (finished, finished.reportIfDone call.query)

def handle : Input FrameId → FindInPageManager FrameId × List (Output FrameId)
  | .find query options => (manager.find canCall query options, [])
  | .frameAvailable frameId isMainFrame =>
    (manager.webFrameDidBecomeAvailable frameId isMainFrame, [])
  | .frameUnavailable frameId => (manager.webFrameWillBecomeUnavailable frameId, [])
  | .answered call result =>
    { manager with calls := manager.calls.erase call }.processFindInPageResult canCall call result
  | .webStateDestroyed => ({ manager with webStateExists := false }, [])

def step (input : Input FrameId) : Checked (FindInPageManager FrameId × List (Output FrameId)) :=
  let (after, reports) := manager.handle canCall input
  some (after, .received input :: reports)

/-- Frames come and go one at a time, and only calls that were made are answered, with null
when the frame is gone. -/
def Accepts : Input FrameId → Prop
  | .find _ _ => manager.webStateExists = true
  | .frameAvailable frameId _ => frameId ∉ manager.frames
  | .frameUnavailable frameId => frameId ∈ manager.frames
  | .answered call result =>
    call ∈ manager.calls ∧ (call.frameId ∉ manager.frames → result = .null)
  | .webStateDestroyed => True

instance (input : Input FrameId) : Decidable (Accepts manager input) :=
  match input with
  | .find _ _ => inferInstanceAs (Decidable (_ = true))
  | .frameAvailable _ _ => inferInstanceAs (Decidable (_ ∉ manager.frames))
  | .frameUnavailable _ => inferInstanceAs (Decidable (_ ∈ manager.frames))
  | .answered _ _ => inferInstanceAs (Decidable (_ ∈ manager.calls ∧ (_ → _)))
  | .webStateDestroyed => isTrue trivial

end FindInPageManager

end ChromiumIos
