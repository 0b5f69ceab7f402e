import ChromiumIos.Lib.Runs

/-!
# The runner of deferred initialization blocks

Blocks are queued under a name and run one after the other by chained timers, or earlier
when somebody needs them.  The block objects are numbered in the order of their creation;
a block that has begun stays on the stack until its code returns, and the methods of the
runner may be called meanwhile.  What a block that returns does to the blocks enqueued
under its own name is in the completion of `run`.
-/

namespace ChromiumIos

open Lib

/-- A block object: `runBlock` says whether it still has its code. -/
structure DeferredInitializationBlock (Name : Type*) where
  name : Name
  runBlock : Bool
deriving DecidableEq

structure DispatchedTimer where
  nextBlock : Nat
  delay : Nat
deriving DecidableEq

structure RunningBlock where
  block : Nat
  byTimer : Bool
deriving DecidableEq

structure DeferredInitializationRunner (Name : Type*) where
  blocksNameQueue : List Name
  runBlocks : Name → Option Nat
  isBlockScheduled : Bool
  delayBetweenBlocks : Nat
  delayBeforeFirstBlock : Nat
  blocks : List (DeferredInitializationBlock Name)
  timers : List DispatchedTimer
  running : List RunningBlock

/-- What happens to the blocks: calls of the users of the runner, blocks that begin, and
timers that find their block cancelled. -/
inductive DeferredBlockEvent (Name : Type*) where
  | enqueued (name : Name) (block : Nat)
  | cancelled (name : Name)
  | began (block : Nat) (byTimer : Bool)
  | skipped (block : Nat)
deriving DecidableEq

namespace DeferredInitializationBlock

variable {Name : Type*}

def cancel (block : DeferredInitializationBlock Name) : DeferredInitializationBlock Name :=
  { block with runBlock := false }

end DeferredInitializationBlock

namespace DeferredInitializationRunner

variable {Name : Type*}

/-- `init`, with the default delays. -/
def initial : DeferredInitializationRunner Name where
  blocksNameQueue := []
  runBlocks := fun _ => none
  isBlockScheduled := false
  delayBetweenBlocks := 200
  delayBeforeFirstBlock := 3000
  blocks := []
  timers := []
  running := []

variable (runner : DeferredInitializationRunner Name)

def isRunnable (block : Nat) : Bool :=
  match runner.blocks[block]? with
  | some object => object.runBlock
  | none => false

def scheduleNextBlockWithDelay (delay : Nat) : Checked (DeferredInitializationRunner Name) :=
  match runner.blocksNameQueue with
  | [] => some { runner with isBlockScheduled := false }
  | nextBlockName :: rest =>
    (runner.runBlocks nextBlockName).map fun nextBlock =>
      { runner with
        isBlockScheduled := true
        timers := runner.timers ++ [⟨nextBlock, delay⟩]
        blocksNameQueue := rest }

def begin (block : Nat) (byTimer : Bool) : DeferredInitializationRunner Name :=
  { runner with running := ⟨block, byTimer⟩ :: runner.running }

def takeTimer (timer : DispatchedTimer) : DeferredInitializationRunner Name :=
  { runner with timers := runner.timers.erase timer }

section Named

variable [DecidableEq Name]
variable (runner : DeferredInitializationRunner Name) (name : Name)

def cancelBlockNamed : DeferredInitializationRunner Name :=
  { runner with
    blocksNameQueue := runner.blocksNameQueue.filter fun queued => queued ≠ name
    blocks := match runner.runBlocks name with
      | some block => runner.blocks.modify block DeferredInitializationBlock.cancel
      | none => runner.blocks
    runBlocks := Function.update runner.runBlocks name none }

/-- The part of `enqueueBlockNamed:block:` before a timer is scheduled. -/
def register : DeferredInitializationRunner Name :=
  let cancelled := runner.cancelBlockNamed name
  { cancelled with
    blocksNameQueue := cancelled.blocksNameQueue ++ [name]
    blocks := cancelled.blocks ++ [⟨name, true⟩]
    runBlocks := Function.update cancelled.runBlocks name (some cancelled.blocks.length) }

def enqueueBlockNamed : Checked (DeferredInitializationRunner Name) :=
  let registered := runner.register name
  if registered.isBlockScheduled then
    some registered
  else
    registered.scheduleNextBlockWithDelay registered.delayBeforeFirstBlock

/-- `runBlockIfNecessary:`; what the block does comes with the next inputs. -/
def runBlockIfNecessary : DeferredInitializationRunner Name × List (DeferredBlockEvent Name) :=
  match runner.runBlocks name with
  | none => (runner, [])
  | some block =>
    if runner.isRunnable block then
      (runner.begin block false, [.began block false])
    else
      (runner, [])

def fire (timer : DispatchedTimer) :
    Checked (DeferredInitializationRunner Name × List (DeferredBlockEvent Name)) :=
  let fired := runner.takeTimer timer
  if fired.isRunnable timer.nextBlock then
    some (fired.begin timer.nextBlock true, [.began timer.nextBlock true])
  else
    (fired.scheduleNextBlockWithDelay fired.delayBetweenBlocks).map fun scheduled =>
      (scheduled, [.skipped timer.nextBlock])

/-- The completion of `run` of a block that has returned. -/
def complete (block : Nat) : DeferredInitializationRunner Name :=
  match runner.blocks[block]? with
  | none => runner
  | some object => runner.cancelBlockNamed object.name

/-- The innermost block that is running returns; the timer that ran it schedules the next. -/
def finish : Checked (DeferredInitializationRunner Name) :=
  match runner.running with
  | [] => some runner
  | finished :: rest =>
    let completed := { runner with running := rest }.complete finished.block
    if finished.byTimer then
      completed.scheduleNextBlockWithDelay completed.delayBetweenBlocks
    else
      some completed

end Named

inductive Input (Name : Type*) where
  | enqueueBlockNamed (name : Name)
  | runBlockIfNecessary (name : Name)
  | cancelBlockNamed (name : Name)
  | fire (timer : DispatchedTimer)
  | finish

def step [DecidableEq Name] (runner : DeferredInitializationRunner Name) : Input Name →
    Checked (DeferredInitializationRunner Name × List (DeferredBlockEvent Name))
  | .enqueueBlockNamed name =>
    (runner.enqueueBlockNamed name).map fun enqueued =>
      (enqueued, [.enqueued name runner.blocks.length])
  | .runBlockIfNecessary name => some (runner.runBlockIfNecessary name)
  | .cancelBlockNamed name => some (runner.cancelBlockNamed name, [.cancelled name])
  | .fire timer => runner.fire timer
  | .finish => runner.finish.map fun finished => (finished, [])

/-- The methods may be called at any time; a timer fires when no block is running, and only
a block that is running returns. -/
def Offered : Input Name → Prop
  | .fire timer => timer ∈ runner.timers ∧ runner.running = []
  | .finish => runner.running ≠ []
  | _ => True

end DeferredInitializationRunner

end ChromiumIos
