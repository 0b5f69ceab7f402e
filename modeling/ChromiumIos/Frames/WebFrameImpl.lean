import ChromiumIos.Frames.WebFrame
import ChromiumIos.Lib.Runs

/-!
# Calls of JavaScript functions and their callbacks

A call may be given a callback that waits in a map of pending requests, under
the id of the message, until a reply comes, the time for it is over or the frame
goes.  A message is sealed with the key of the frame, or, when the main frame has
no key, evaluated directly, in which case the reply is the end of the evaluation.

A callback may call functions of the frame itself.  It is run while the request
it belongs to is still in the map, without its callbacks, or, when the frame goes,
from inside the loop over the map.

Callbacks are numbered in the order in which they are handed in.  The keys of the
map are unsigned, the ids are not.  `NOTREACHED` is taken as in a build without
assertions.
-/

namespace ChromiumIos

open Lib

variable {Key Origin Value : Type}

/-- What a callback does when it is run: calls with and without a callback.  `seals` says
whether the message of a call can be sealed. -/
inductive Callback where
  | done
  | call (seals : Bool) (callback next : Callback)
  | send (seals : Bool) (next : Callback)
deriving DecidableEq, Repr

structure RequestCallbacks where
  number : Nat
  completion : Callback
deriving DecidableEq, Repr

/-- A request whose callbacks have been moved out has none. -/
structure PendingRequest where
  messageId : Int
  callbacks : Option RequestCallbacks
deriving DecidableEq, Repr

inductive FrameEvent (Value : Type) where
  | called (callback : Nat) (messageId : Int) (returned : Bool)
  | sent (messageId : Int) (replyWithResult : Bool)
  | evaluated (messageId : Int)
  | replied (messageId : Int) (result : Option Value)
  | timedOut (callback : Nat)
  | completed (callback : Nat) (result : Option Value)
  | destroyed
deriving DecidableEq, Repr

structure WebFrameImpl (Key Origin : Type) where
  frame : WebFrame Key Origin
  webState : Bool
  alive : Bool
  pendingRequests : List PendingRequest
  delayedTasks : List (Nat × Int)
  callbackCount : Nat
deriving DecidableEq, Repr

/-- The command with which a page replies; the id is there if it is a number. -/
structure ReplyCommand (Value : Type) where
  command : Option String
  messageId : Option Int
  result : Option Value

def requestKey (messageId : Int) : Nat := (messageId % 4294967296).toNat

def messageIdMin : Int := -2147483648
def messageIdMax : Int := 2147483647

/-- Assignment under a key of the map, which is ordered by the keys. -/
def assignRequest (request : PendingRequest) : List PendingRequest → List PendingRequest
  | [] => [request]
  | first :: rest =>
    if requestKey request.messageId < requestKey first.messageId then request :: first :: rest
    else if requestKey request.messageId = requestKey first.messageId then request :: rest
    else first :: assignRequest request rest

variable (impl : WebFrameImpl Key Origin) (messageId : Int)

namespace WebFrameImpl

/-- A frame before the first call. -/
def init (frame : WebFrame Key Origin) : WebFrameImpl Key Origin where
  frame := frame
  webState := true
  alive := true
  pendingRequests := []
  delayedTasks := []
  callbackCount := 0

abbrev Outcome (Key Origin Value : Type) :=
  WebFrameImpl Key Origin × List (FrameEvent Value)

def findRequest : Option PendingRequest :=
  impl.pendingRequests.find? fun request => requestKey request.messageId = requestKey messageId

def eraseRequest : WebFrameImpl Key Origin :=
  { impl with
    pendingRequests := impl.pendingRequests.filter fun request =>
      requestKey request.messageId ≠ requestKey messageId }

def moveCallbacks : WebFrameImpl Key Origin :=
  { impl with
    pendingRequests := impl.pendingRequests.map fun request =>
      if requestKey request.messageId = requestKey messageId then
        { request with callbacks := none }
      else request }

/-- The id of the next message; the one after it must be an `int`. -/
def takeMessageId : Checked (Int × WebFrameImpl Key Origin) :=
  (dcheck (impl.frame.nextMessageId < messageIdMax)).map fun _ =>
    (impl.frame.nextMessageId,
      { impl with frame := impl.frame.setNextMessageId (impl.frame.nextMessageId + 1) })

def executeJavaScriptFunction : Checked (Bool × List (FrameEvent Value)) :=
  if impl.frame.isMainFrame then
    (dcheck (impl.webState = true)).map fun _ => (true, [.evaluated messageId])
  else some (false, [])

def callJavaScriptFunction (seals replyWithResult : Bool) :
    Checked (Bool × Outcome Key Origin Value) :=
  if impl.frame.canCallJavaScriptFunction = false then some (false, impl, [])
  else
    impl.takeMessageId.bind fun (messageId, taken) =>
      if taken.frame.frameKey.isNone then
        (taken.executeJavaScriptFunction messageId).map fun (called, emitted) =>
          (called, taken, emitted)
      else if seals = false then some (false, taken, [])
      else (dcheck (taken.webState = true)).map fun _ =>
        (true, taken, [.sent messageId replyWithResult])

def callWithCallback (seals : Bool) (callback : Callback) : Checked (Outcome Key Origin Value) :=
  let messageId := impl.frame.nextMessageId
  let number := impl.callbackCount
  let waiting := { impl with
    pendingRequests := assignRequest ⟨messageId, some ⟨number, callback⟩⟩ impl.pendingRequests
    delayedTasks := impl.delayedTasks ++ [(number, messageId)]
    callbackCount := number + 1 }
  (waiting.callJavaScriptFunction seals true).map fun (called, after, emitted) =>
    (if called then after else after.eraseRequest messageId,
      .called number messageId called :: emitted)

def runCallback : Callback → WebFrameImpl Key Origin → Checked (Outcome Key Origin Value)
  | .done, impl => some (impl, [])
  | .call seals callback next, impl =>
    (impl.callWithCallback seals callback).bind fun (after, emitted) =>
      (runCallback next after).map fun (last, more) => (last, emitted ++ more)
  | .send seals next, impl =>
    (impl.callJavaScriptFunction seals false).bind fun (_, after, emitted) =>
      (runCallback next after).map fun (last, more) => (last, emitted ++ more)

/-- Complete the request with an id: its callback is run while the request is in the map. -/
def completeRequest (result : Option Value) : Checked (Outcome Key Origin Value) :=
  match impl.findRequest messageId with
  | none => some (impl, [])
  | some ⟨_, none⟩ => none
  | some ⟨_, some callbacks⟩ =>
    (runCallback callbacks.completion (impl.moveCallbacks messageId)).map
      fun (after, emitted) =>
        (after.eraseRequest messageId, .completed callbacks.number result :: emitted)

def nextRequest (visited : Option Nat) : Option PendingRequest :=
  impl.pendingRequests.find? fun request =>
    visited.all fun key => key < requestKey request.messageId

/-- The loop over the pending requests, with a bound on its turns. -/
def cancelLoop : Nat → Option Nat → WebFrameImpl Key Origin → Checked (Outcome Key Origin Value)
  | 0, _, _ => none
  | bound + 1, visited, impl =>
    match impl.nextRequest visited with
    | none => some (impl, [])
    | some ⟨_, none⟩ => none
    | some ⟨messageId, some callbacks⟩ =>
      (runCallback callbacks.completion (impl.moveCallbacks messageId)).bind
        fun (after, emitted) =>
          (cancelLoop bound (some (requestKey messageId)) after).map fun (last, more) =>
            (last, .completed callbacks.number none :: emitted ++ more)

end WebFrameImpl

def Callback.size : Callback → Nat
  | done => 1
  | call _ callback next => callback.size + next.size + 1
  | send _ next => next.size + 1

def PendingRequest.size (request : PendingRequest) : Nat :=
  request.callbacks.elim 0 fun callbacks => callbacks.completion.size

namespace WebFrameImpl

def pendingSize : Nat :=
  (impl.pendingRequests.map PendingRequest.size).sum

def cancelPendingRequests : Checked (Outcome Key Origin Value) :=
  (cancelLoop (impl.pendingSize + 1) none impl).map fun (after, emitted) =>
    ({ after with pendingRequests := [] }, emitted)

def replyCommand : String :=
  "frameMessaging_" ++ impl.frame.frameId ++ ".reply"

def onJavaScriptReply (command : ReplyCommand Value) : Checked (Outcome Key Origin Value) :=
  if command.command ≠ some impl.replyCommand then some (impl, [])
  else
    match command.messageId with
    | none => some (impl, [])
    | some messageId =>
      match impl.findRequest messageId with
      | none => some (impl, [])
      | some ⟨_, none⟩ => none
      | some ⟨_, some callbacks⟩ =>
        (runCallback callbacks.completion (impl.eraseRequest messageId)).map
          fun (after, emitted) =>
            (after, .completed callbacks.number command.result :: emitted)

/-- The end of an evaluation; the frame is referred to weakly. -/
def onEvaluated (result : Option Value) : Checked (Outcome Key Origin Value) :=
  if impl.alive then impl.completeRequest messageId result else some (impl, [])

/-- A task that cancels a request does nothing once the callbacks of the request are gone. -/
def isScheduled (number : Nat) : Bool :=
  impl.pendingRequests.any fun request =>
    request.callbacks.any fun callbacks => callbacks.number = number

def runDelayedTask (number : Nat) (messageId : Int) : Checked (Outcome Key Origin Value) :=
  let taken := { impl with delayedTasks := impl.delayedTasks.erase (number, messageId) }
  if taken.isScheduled number then taken.completeRequest messageId none else some (taken, [])

def detachFromWebState : WebFrameImpl Key Origin :=
  { impl with webState := false }

def webStateDestroyed : Checked (Outcome Key Origin Value) :=
  impl.cancelPendingRequests.map fun (after, emitted) => (after.detachFromWebState, emitted)

/-- The destructor. -/
def destroy : Checked (Outcome Key Origin Value) :=
  impl.cancelPendingRequests.map fun (after, emitted) =>
    ({ after.detachFromWebState with alive := false }, emitted)

inductive Input (Value : Type) where
  | call (seals : Bool) (callback : Callback)
  | send (seals : Bool)
  | reply (command : ReplyCommand Value)
  | evaluated (messageId : Int) (result : Option Value)
  | delayedTask (number : Nat) (messageId : Int)
  | webStateDestroyed
  | destroy

def toldBy (command : ReplyCommand Value) : List (FrameEvent Value) :=
  if command.command = some impl.replyCommand then
    command.messageId.toList.map fun messageId => .replied messageId command.result
  else []

/-- An input is handled, and told before or, at the end of the frame, behind what it leads to. -/
def step : Input Value → Checked (Outcome Key Origin Value)
  | .call seals callback => impl.callWithCallback seals callback
  | .send seals => (impl.callJavaScriptFunction seals false).map Prod.snd
  | .reply command =>
    (impl.onJavaScriptReply command).map fun (after, emitted) =>
      (after, impl.toldBy command ++ emitted)
  | .evaluated messageId result =>
    (impl.onEvaluated messageId result).map fun (after, emitted) =>
      (after, .replied messageId result :: emitted)
  | .delayedTask number messageId =>
    (impl.runDelayedTask number messageId).map fun (after, emitted) =>
      (after, .timedOut number :: emitted)
  | .webStateDestroyed =>
    impl.webStateDestroyed.map fun (after, emitted) => (after, emitted ++ [.destroyed])
  | .destroy => impl.destroy.map fun (after, emitted) => (after, emitted ++ [.destroyed])

def IsInt : Prop := messageIdMin ≤ messageId ∧ messageId ≤ messageIdMax
deriving Decidable

/-- A frame is called while it is there; without its WebState only a frame that refuses
every call can be called.  Replies come through the WebState. -/
def Accepts : Input Value → Prop
  | .call _ _ | .send _ =>
    impl.alive = true ∧ (impl.webState = true ∨ impl.frame.canCallJavaScriptFunction = false)
  | .reply command => impl.webState = true ∧ ∀ messageId ∈ command.messageId, IsInt messageId
  | .evaluated messageId _ => IsInt messageId
  | .delayedTask number messageId => (number, messageId) ∈ impl.delayedTasks
  | .webStateDestroyed => impl.webState = true
  | .destroy => impl.alive = true

instance : (input : Input Value) → Decidable (impl.Accepts input)
  | .call .. => inferInstanceAs (Decidable (_ ∧ (_ ∨ _)))
  | .send _ => inferInstanceAs (Decidable (_ ∧ (_ ∨ _)))
  | .reply command => inferInstanceAs (Decidable (_ ∧ ∀ messageId ∈ command.messageId, _))
  | .evaluated .. => inferInstanceAs (Decidable (IsInt _))
  | .delayedTask .. => inferInstanceAs (Decidable (_ ∈ _))
  | .webStateDestroyed => inferInstanceAs (Decidable (_ = _))
  | .destroy => inferInstanceAs (Decidable (_ = _))

end WebFrameImpl

end ChromiumIos
