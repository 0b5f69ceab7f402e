import ChromiumIos.Lib.Runs

/-!
# Mojo watches of a WebUI page

A page watches a Mojo handle through the facade: the script chooses an id for its callback, the
facade creates a watcher and returns the id of the watch, and every event of the watcher sends
a script to the page that calls the callback by its id.
-/

namespace ChromiumIos

open Lib

/-- The signals that a watch asks for; a property that is missing is false. -/
structure WatchSignals where
  readable : Bool
  writable : Bool
  peerClosed : Bool
deriving DecidableEq

def HANDLE_SIGNAL_NONE : Nat := 0
def HANDLE_SIGNAL_READABLE : Nat := 1
def HANDLE_SIGNAL_WRITABLE : Nat := 2
def HANDLE_SIGNAL_PEER_CLOSED : Nat := 4

/-- The set of the signals asked for, as Mojo writes sets of signals. -/
def WatchSignals.bits (signals : WatchSignals) : Nat :=
  (if signals.readable then HANDLE_SIGNAL_READABLE else HANDLE_SIGNAL_NONE) |||
    (if signals.writable then HANDLE_SIGNAL_WRITABLE else HANDLE_SIGNAL_NONE) |||
      (if signals.peerClosed then HANDLE_SIGNAL_PEER_CLOSED else HANDLE_SIGNAL_NONE)

/-- A property of a number: the ones that scripts ask for here do not exist. -/
def propertyOfNumber (_number : Nat) (_name : String) : Option Bool :=
  none

def signalsValue (signals : WatchSignals) : Nat :=
  let signalsValue := HANDLE_SIGNAL_NONE
  let signalsValue :=
    if signals.readable then signalsValue ||| HANDLE_SIGNAL_READABLE else signalsValue
  let signalsValue :=
    if signals.writable then signalsValue ||| HANDLE_SIGNAL_WRITABLE else signalsValue
  -- The property is read from the value, not from the signals.
  if (propertyOfNumber signalsValue "peerClosed").getD false then
    signalsValue ||| HANDLE_SIGNAL_PEER_CLOSED
  else
    signalsValue

/-! ## The page -/

structure WatchCallback (Callback : Type) where
  call : Nat
  callback : Callback

structure WatchCallbacksHolder (Callback : Type) where
  nextCallbackId : Nat
  callbacks : Nat → Option (WatchCallback Callback)
  callbackIds : BitVec 32 → Option Nat

namespace WatchCallbacksHolder

variable {Callback : Type}

def getNextCallbackId (holder : WatchCallbacksHolder Callback) : Nat :=
  holder.nextCallbackId

def addWatchCallback (holder : WatchCallbacksHolder Callback) (watchId : BitVec 32)
    (callback : WatchCallback Callback) : WatchCallbacksHolder Callback where
  callbackIds := Function.update holder.callbackIds watchId (some holder.nextCallbackId)
  callbacks := Function.update holder.callbacks holder.nextCallbackId (some callback)
  nextCallbackId := holder.nextCallbackId + 1

def removeWatchCallback (holder : WatchCallbacksHolder Callback) (watchId : BitVec 32) :
    WatchCallbacksHolder Callback :=
  { holder with
    callbacks :=
      match holder.callbackIds watchId with
      | none => holder.callbacks
      | some callbackId => Function.update holder.callbacks callbackId none
    callbackIds := Function.update holder.callbackIds watchId none }

end WatchCallbacksHolder

/-! ## The facade -/

/-- A `mojo::SimpleWatcher` with its callback, and the number of the call it was created by. -/
structure SimpleWatcher where
  handle : Int
  signals : Nat
  callbackId : Nat
  call : Nat

/-- `MojoFacade`; the id of the last watch is not initialized. -/
structure MojoFacade where
  lastWatchId : BitVec 32
  watchers : BitVec 32 → Option SimpleWatcher

namespace MojoFacade

/-- `HandleMojoHandleWatch`; a handle that was taken or closed is null in the message, and an
id of a callback that is not an `int` is not an integer of the message. -/
def handleMojoHandleWatch (facade : MojoFacade) (call : Nat) (handle : Option Int)
    (signals callbackId : Nat) : Checked (MojoFacade × BitVec 32) :=
  match handle with
  | none => none
  | some handle =>
    if callbackId < 2 ^ 31 then
      let watchId := facade.lastWatchId + 1
      let watcher : SimpleWatcher := ⟨handle, signals, callbackId, call⟩
      -- `insert` keeps an element that has the key already.
      let watchers :=
        if (facade.watchers watchId).isSome then facade.watchers
        else Function.update facade.watchers watchId (some watcher)
      some (⟨watchId, watchers⟩, watchId)
    else
      none

def handleMojoWatcherCancel (facade : MojoFacade) (watchId : BitVec 32) : MojoFacade :=
  { facade with watchers := Function.update facade.watchers watchId none }

end MojoFacade

/-! ## The page with the facade -/

structure WatchScript where
  callbackId : Nat
  mojoResult : Int
deriving DecidableEq

inductive WatchEvent (Callback : Type) where
  | watched (call : Nat) (callback : Callback) (signals : WatchSignals) (armed : Nat)
  | signalled (call : Nat) (mojoResult : Int)
  | called (call : Nat) (callback : Callback) (mojoResult : Int)
  | cancelled (call : Nat) (normally : Bool)

/-- The page's holder and the `MojoWatcher` objects that its calls of `watch` returned, the
facade, and the scripts on their way. -/
structure WatchingPage (Callback : Type) where
  watchCallbacksHolder : WatchCallbacksHolder Callback
  mojoWatchers : List (BitVec 32)
  facade : MojoFacade
  scripts : List WatchScript

/-- What `watchId` names in `MojoWatcher.prototype.cancel`: it is a local variable of another
function and of the constructor. -/
def watchIdInCancel : Option (BitVec 32) :=
  none

namespace WatchingPage

variable {Callback : Type}

def initial (lastWatchId : BitVec 32) : WatchingPage Callback where
  watchCallbacksHolder := ⟨0, fun _ => none, fun _ => none⟩
  mojoWatchers := []
  facade := ⟨lastWatchId, fun _ => none⟩
  scripts := []

variable (page : WatchingPage Callback)

def watch (nativeHandle : Option Int) (signals : WatchSignals) (callback : Callback) :
    Checked (WatchingPage Callback × List (WatchEvent Callback)) := do
  let call := page.mojoWatchers.length
  let (facade, watchId) ← page.facade.handleMojoHandleWatch call nativeHandle
    (signalsValue signals) page.watchCallbacksHolder.getNextCallbackId
  some ({ page with
      facade := facade
      watchCallbacksHolder := page.watchCallbacksHolder.addWatchCallback watchId ⟨call, callback⟩
      mojoWatchers := page.mojoWatchers ++ [watchId] },
    [.watched call callback signals (signalsValue signals)])

def cancel (call : Nat) (watchId_ : BitVec 32) :
    WatchingPage Callback × List (WatchEvent Callback) :=
  let sent := { page with facade := page.facade.handleMojoWatcherCancel watchId_ }
  match watchIdInCancel with
  | none => (sent, [.cancelled call false])
  | some watchId =>
    ({ sent with
        watchCallbacksHolder := sent.watchCallbacksHolder.removeWatchCallback watchId },
      [.cancelled call true])

def signal (watcher : SimpleWatcher) (mojoResult : Int) :
    WatchingPage Callback × List (WatchEvent Callback) :=
  ({ page with scripts := page.scripts ++ [⟨watcher.callbackId, mojoResult⟩] },
    [.signalled watcher.call mojoResult])

def callCallback (callbackId : Nat) (mojoResult : Int) : List (WatchEvent Callback) :=
  match page.watchCallbacksHolder.callbacks callbackId with
  | none => []
  | some entry => [.called entry.call entry.callback mojoResult]

inductive Input (Callback : Type) where
  | watch (nativeHandle : Option Int) (signals : WatchSignals) (callback : Callback)
  | cancel (call : Nat)
  | signal (watchId : BitVec 32) (mojoResult : Int)
  | runScript (index : Nat)

def step : Input Callback →
    Checked (WatchingPage Callback × List (WatchEvent Callback))
  | .watch nativeHandle signals callback => page.watch nativeHandle signals callback
  | .cancel call =>
    match page.mojoWatchers[call]? with
    | none => some (page, [])
    | some watchId_ => some (page.cancel call watchId_)
  | .signal watchId mojoResult =>
    match page.facade.watchers watchId with
    | none => some (page, [])
    | some watcher => some (page.signal watcher mojoResult)
  | .runScript index =>
    match page.scripts[index]? with
    | none => some (page, [])
    | some script =>
      some ({ page with scripts := page.scripts.eraseIdx index },
        page.callCallback script.callbackId script.mojoResult)

end WatchingPage

end ChromiumIos
