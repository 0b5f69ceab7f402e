import ChromiumIos.Lib.Runs

/-!
# The proxy that calls the client on its own thread

The network thread tells the proxy what happens to a request; the proxy posts a block
for each event to the thread of the client, where the client is called back.  The client
may pause the proxy, and then the blocks are queued until it resumes it.  It may do so, or
invalidate the proxy, in the middle of a callback, which then goes on when the call returns.

The comparison of the protocol with nil and the posting of the block are two steps of the
network thread, between which the client may do anything.  The run loop of the client does
not perform blocks while a callback is in progress.
-/

namespace ChromiumIos

open Lib

/-- The events of a request; what they carry is only handed on. -/
inductive ProxiedEvent (Payload : Type) where
  | didReceiveResponse (response : Payload)
  | didLoadData (data : Payload)
  | wasRedirectedToRequest (request : Payload)
  | didFinishLoading
  | didFailWithError (error : Payload)
deriving DecidableEq, Repr

def ProxiedEvent.completes {Payload : Type} : ProxiedEvent Payload → Bool
  | didFinishLoading | didFailWithError _ => true
  | _ => false

/-- A callback in progress: its block was performed when it came, or it was in the queue. -/
inductive CallbackInProgress where
  | performed
  | queued
deriving DecidableEq, Repr

structure HttpProtocolHandlerProxy (Payload : Type) where
  /-- Whether the protocol is not nil. -/
  protocol : Bool := true
  requestComplete : Bool := false
  paused : Bool := false
  /-- The blocks in the queue, or nothing when the queue is nil. -/
  queuedBlocks : Option (List (ProxiedEvent Payload)) := some []
  /-- The event for which the network thread has found the protocol not to be nil. -/
  posting : Option (ProxiedEvent Payload) := none
  /-- The blocks posted to the client thread and not performed yet. -/
  posted : List (ProxiedEvent Payload) := []
  /-- The callbacks in progress, the innermost first. -/
  callbacks : List CallbackInProgress := []
deriving DecidableEq

/-- What happens between the network thread and the client. -/
inductive ProxyEvent (Payload : Type) where
  | posted (event : ProxiedEvent Payload)
  | delivered (event : ProxiedEvent Payload)
  | paused
  | resumed
  | invalidated
deriving DecidableEq, Repr

inductive ProxyInput (Payload : Type) where
  /-- The network thread compares the protocol with nil. -/
  | notify (event : ProxiedEvent Payload)
  | postBlockToClientThread
  | performBlockOnClientThread
  | pause
  | resume
  | invalidate
  | callbackReturns

namespace HttpProtocolHandlerProxy

variable {Payload : Type}

/-- A proxy and what the client has seen of a step. -/
abbrev Performed (Payload : Type) :=
  HttpProtocolHandlerProxy Payload × List (ProxyEvent Payload)

variable (asserts : Bool) (proxy : HttpProtocolHandlerProxy Payload)

/-- `DCHECK(!_requestComplete || !_protocol)` in a build with assertions. -/
def checkNotComplete : Checked Unit :=
  dcheck (asserts = true → proxy.requestComplete = false ∨ proxy.protocol = false)

/-- A block calls the client of the protocol, and nobody when there is no protocol. -/
def runBlock (event : ProxiedEvent Payload) (callback : CallbackInProgress)
    (proxy : HttpProtocolHandlerProxy Payload) : Performed Payload :=
  let proxy := { proxy with requestComplete := proxy.requestComplete || event.completes }
  if proxy.protocol then
    ({ proxy with callbacks := callback :: proxy.callbacks }, [.delivered event])
  else
    (proxy, [])

/-- The loop over the queued blocks, up to the next callback.  The block of a callback stays
in the queue until the callback returns. -/
def runQueuedBlocksLoop (proxy : HttpProtocolHandlerProxy Payload) :
    List (ProxiedEvent Payload) → Performed Payload
  | [] => ({ proxy with queuedBlocks := some [] }, [])
  | event :: rest =>
    if proxy.paused then
      ({ proxy with queuedBlocks := some (event :: rest) }, [])
    else if proxy.protocol then
      runBlock event .queued { proxy with queuedBlocks := some (event :: rest) }
    else
      runQueuedBlocksLoop (runBlock event .queued proxy).1 rest

def continueQueuedBlocks : Performed Payload :=
  match proxy.queuedBlocks with
  | none => (proxy, [])
  | some queue => proxy.runQueuedBlocksLoop queue

def runQueuedBlocksOnClientThread : Checked (Performed Payload) := do
  proxy.checkNotComplete asserts
  return proxy.continueQueuedBlocks

def performBlockOnClientThread (event : ProxiedEvent Payload)
    (proxy : HttpProtocolHandlerProxy Payload) : Checked (Performed Payload) := do
  proxy.checkNotComplete asserts
  if proxy.paused then
    return ({ proxy with queuedBlocks := proxy.queuedBlocks.map (· ++ [event]) }, [])
  else
    return proxy.runBlock event .performed

def pause : Performed Payload :=
  ({ proxy with paused := true }, [.paused])

def resume : Checked (Performed Payload) := do
  proxy.checkNotComplete asserts
  let (after, events) ← runQueuedBlocksOnClientThread asserts { proxy with paused := false }
  return (after, .resumed :: events)

def invalidate : Performed Payload :=
  ({ proxy with protocol := false, requestComplete := true, queuedBlocks := none },
    [.invalidated])

/-- Removing the first block of an empty queue throws; nil has nothing to remove. -/
def removeFirstBlock : Option (List (ProxiedEvent Payload)) →
    Checked (Option (List (ProxiedEvent Payload)))
  | none => some none
  | some [] => none
  | some (_ :: rest) => some (some rest)

def callbackReturns : Checked (Performed Payload) :=
  match proxy.callbacks with
  | [] => none
  | .performed :: callbacks => some ({ proxy with callbacks }, [])
  | .queued :: callbacks => do
      let queuedBlocks ← removeFirstBlock proxy.queuedBlocks
      return continueQueuedBlocks { proxy with queuedBlocks, callbacks }

def step : ProxyInput Payload → Checked (Performed Payload)
  | .notify event =>
    some ({ proxy with posting := if proxy.protocol then some event else none }, [])
  | .postBlockToClientThread => do
      let event ← proxy.posting
      return ({ proxy with posting := none, posted := proxy.posted ++ [event] }, [.posted event])
  | .performBlockOnClientThread =>
    match proxy.posted with
    | [] => none
    | event :: posted => performBlockOnClientThread asserts event { proxy with posted }
  | .pause => some proxy.pause
  | .resume => proxy.resume asserts
  | .invalidate => some proxy.invalidate
  | .callbackReturns => proxy.callbackReturns

/-- What the two threads can do: the network thread posts one block after the other, and the
run loop of the client performs a block when no callback is in progress. -/
def CanHappen : ProxyInput Payload → Prop
  | .notify _ => proxy.posting = none
  | .postBlockToClientThread => proxy.posting ≠ none
  | .performBlockOnClientThread => proxy.posted ≠ [] ∧ proxy.callbacks = []
  | .callbackReturns => proxy.callbacks ≠ []
  | _ => True

end HttpProtocolHandlerProxy

end ChromiumIos
