import ChromiumIos.App.DeferredBlockQueue
import ChromiumIos.Lib.EventOrder

/-!
# What has become of the deferred blocks

A log of the calls and of the blocks that began is compared with the state of the runner:
which blocks have run or were given up, which are still placed in the queue or a timer, and
in which order the timers run them.
-/

namespace ChromiumIos

open Lib

namespace DeferredBlockEvent

variable {Name : Type*}

def GivesUp (name : Name) : DeferredBlockEvent Name → Prop
  | .enqueued other _ => other = name
  | .cancelled other => other = name
  | _ => False

def enqueuedBlock? : DeferredBlockEvent Name → Option Nat
  | .enqueued _ block => some block
  | _ => none

def timerRun? : DeferredBlockEvent Name → Option Nat
  | .began block true => some block
  | _ => none

def isRunOf (block : Nat) : DeferredBlockEvent Name → Bool
  | .began other _ => other = block
  | _ => false

def isFiring : DeferredBlockEvent Name → Bool
  | .began _ byTimer => byTimer
  | .skipped _ => true
  | _ => false

end DeferredBlockEvent

namespace DeferredInitializationRunner

open DeferredBlockEvent

variable {Name : Type*} {runner after : DeferredInitializationRunner Name}
variable {log events : List (DeferredBlockEvent Name)} {name other : Name} {block : Nat}

/-- What the log and the state know of each other. -/
structure Remembered (log : List (DeferredBlockEvent Name))
    (runner : DeferredInitializationRunner Name) : Prop where
  numbered : log.filterMap enqueuedBlock? = List.range runner.blocks.length
  named : ∀ name block, .enqueued name block ∈ log →
    ∃ runBlock, runner.blocks[block]? = some ⟨name, runBlock⟩
  placed : ∀ name block, runner.Runnable name block →
    (∃ byTimer, .began block byTimer ∈ log) ∨ name ∈ runner.blocksNameQueue ∨
      ∃ timer ∈ runner.timers, timer.nextBlock = block
  executing : ∀ name block byTimer, runner.Runnable name block → .began block byTimer ∈ log →
    ∃ execution ∈ runner.running, execution.block = block
  begun : ∀ block byTimer, .began block byTimer ∈ log → block < runner.blocks.length
  stack : ∀ execution ∈ runner.running, ∃ byTimer, .began execution.block byTimer ∈ log
  once : ∀ block, log.countP (isRunOf block) ≤ 1

/-- The block has run, or it was given up after it was enqueued. -/
def Accounted (log : List (DeferredBlockEvent Name)) (name : Name) (block : Nat) : Prop :=
  (∃ byTimer, .began block byTimer ∈ log) ∨
    ∃ event, [.enqueued name block, event].Sublist log ∧ event.GivesUp name

theorem Accounted.append (accounted : Accounted log name block)
    (more : List (DeferredBlockEvent Name)) : Accounted (log ++ more) name block := by
  grind [Accounted]

variable {event : DeferredBlockEvent Name}

theorem Accounted.givenUp (enqueued : .enqueued name block ∈ log) (givesUp : event.GivesUp name) :
    Accounted (log ++ [event]) name block :=
  Or.inr ⟨event, pair_sublist_concat.mpr (Or.inr ⟨enqueued, rfl⟩), givesUp⟩

/-- A block that has its code was not given up, one that was run had not been, and one that
has lost its code without running was. -/
structure Fates (log : List (DeferredBlockEvent Name)) (runnable : Name → Nat → Prop) :
    Prop where
  kept : ∀ name block event, [.enqueued name block, event].Sublist log → event.GivesUp name →
    ¬ runnable name block
  respected : ∀ name block event byTimer,
    [.enqueued name block, event, .began block byTimer].Sublist log → ¬ event.GivesUp name
  fate : ∀ name block, .enqueued name block ∈ log →
    runnable name block ∨ Accounted log name block

/-- The blocks that timers have run come before those they will run, and every firing uses
up one block. -/
structure InOrder (log : List (DeferredBlockEvent Name))
    (runner : DeferredInitializationRunner Name) : Prop where
  ordered : (log.filterMap timerRun?).Pairwise (· < ·)
  earlier : ∀ done ∈ log.filterMap timerRun?, ∀ block ∈ runner.pending, done < block
  firings : log.countP isFiring + runner.pending.length ≤ runner.blocks.length

/-! ## The fates of the blocks -/

section Fates

variable {runnable remaining : Name → Nat → Prop}

variable (fates : Fates log runnable)
include fates

/-- An event that gives no block up leaves those that were not given up as they are. -/
theorem Fates.kept_append (harmless : ∀ name, ¬ event.GivesUp name) (name : Name) (block : Nat)
    (later : DeferredBlockEvent Name)
    (sublist : [.enqueued name block, later].Sublist (log ++ [event]))
    (givesUp : later.GivesUp name) : ¬ runnable name block := by
  rcases pair_sublist_concat.mp sublist with before | ⟨-, rfl⟩
  · exact fates.kept name block later before givesUp
  · exact absurd givesUp (harmless name)

/-- Only a block that begins can begin after it was given up. -/
theorem Fates.respected_append (noRun : ∀ block byTimer, event ≠ .began block byTimer)
    (name : Name) (block : Nat) (between : DeferredBlockEvent Name) (byTimer : Bool)
    (sublist : [.enqueued name block, between, .began block byTimer].Sublist (log ++ [event])) :
    ¬ between.GivesUp name := by
  rcases triple_sublist_concat.mp sublist with before | ⟨-, same⟩
  · exact fates.respected name block between byTimer before
  · exact absurd same.symm (noRun block byTimer)

/-- An event that enqueues no block leaves no block unaccounted for. -/
theorem Fates.fate_append (notEnqueued : ∀ name block, event ≠ .enqueued name block) (name : Name)
    (block : Nat) (mem : .enqueued name block ∈ log ++ [event]) :
    runnable name block ∨ Accounted (log ++ [event]) name block := by
  rcases List.mem_append.mp mem with enqueued | latest
  · grind [Accounted, fates.fate]
  · grind

theorem Fates.skipped (block : Nat) : Fates (log ++ [.skipped block]) runnable where
  kept := fates.kept_append fun _ givesUp => givesUp
  respected := fates.respected_append nofun
  fate := fates.fate_append nofun

/-- The caller cancels the blocks under a name. -/
theorem Fates.cancelled
    (removed : ∀ other block, remaining other block ↔ runnable other block ∧ other ≠ name) :
    Fates (log ++ [.cancelled name]) remaining where
  kept := by
    intro other block event sublist givesUp alive
    obtain ⟨runnable, differs⟩ := (removed other block).mp alive
    rcases pair_sublist_concat.mp sublist with before | ⟨-, rfl⟩
    · exact fates.kept other block event before givesUp runnable
    · exact differs givesUp.symm
  respected := fates.respected_append nofun
  fate := by
    intro other block mem
    have enqueued : .enqueued other block ∈ log := by simpa using mem
    rcases fates.fate other block enqueued with alive | accounted
    · by_cases same : other = name
      · exact Or.inr (Accounted.givenUp enqueued same.symm)
      · exact Or.inl ((removed other block).mpr ⟨alive, same⟩)
    · exact Or.inr (accounted.append _)

/-- A block that has run takes its code out of the table. -/
theorem Fates.completed
    (removed : ∀ other block, remaining other block ↔ runnable other block ∧ other ≠ name)
    (begun : ∀ block, runnable name block → ∃ byTimer, .began block byTimer ∈ log) :
    Fates log remaining where
  kept := by
    grind [fates.kept]
  respected := fates.respected
  fate := by
    grind [Accounted, fates.fate]

omit fates

theorem Fates.enqueued (fates : Fates log runnable)
    (replaced : ∀ other number, remaining other number ↔
      runnable other number ∧ other ≠ name ∨ other = name ∧ number = block)
    (fresh : ∀ other, .enqueued other block ∉ log) :
    Fates (log ++ [.enqueued name block]) remaining where
  kept := by
    intro other number event sublist givesUp alive
    have mem : .enqueued other number ∈ log := by
      rcases pair_sublist_concat.mp sublist with before | ⟨mem, -⟩
      · exact before.subset List.mem_cons_self
      · exact mem
    rcases (replaced other number).mp alive with ⟨runnable, differs⟩ | ⟨-, rfl⟩
    · rcases pair_sublist_concat.mp sublist with before | ⟨-, rfl⟩
      · exact fates.kept other number event before givesUp runnable
      · exact differs givesUp.symm
    · exact fresh other mem
  respected := fates.respected_append nofun
  fate := by
    intro other number mem
    rcases List.mem_append.mp mem with enqueued | latest
    · rcases fates.fate other number enqueued with alive | accounted
      · by_cases same : other = name
        · exact Or.inr (Accounted.givenUp enqueued same.symm)
        · simp [replaced, alive, same]
      · exact Or.inr (accounted.append _)
    · grind

include fates

/-- A block that has its code may begin. -/
theorem Fates.began (byTimer : Bool)
    (alive : ∀ name, .enqueued name block ∈ log → runnable name block) :
    Fates (log ++ [.began block byTimer]) runnable where
  kept := fates.kept_append fun _ givesUp => givesUp
  respected := by
    intro name other event started sublist givesUp
    rcases triple_sublist_concat.mp sublist with before | ⟨before, same⟩
    · exact fates.respected name other event started before givesUp
    · grind [fates.kept]
  fate := fates.fate_append nofun

end Fates

/-! ## What the log remembers -/

/-- An event that neither enqueues a block nor begins one changes nothing. -/
theorem Remembered.extend (remembered : Remembered log runner)
    (unnumbered : event.enqueuedBlock? = none) (noRun : ∀ block, event.isRunOf block = false) :
    Remembered (log ++ [event]) runner := by
  have enqueued : ∀ {name block}, .enqueued name block ∈ log ++ [event] →
      .enqueued name block ∈ log := by
    intro name block mem
    rcases List.mem_append.mp mem with before | latest
    · exact before
    · rw [← List.mem_singleton.mp latest] at unnumbered
      cases unnumbered
  have began : ∀ {block byTimer}, .began block byTimer ∈ log ++ [event] →
      .began block byTimer ∈ log := by
    intro block byTimer mem
    rcases List.mem_append.mp mem with before | latest
    · exact before
    · simp [← List.mem_singleton.mp latest, isRunOf] at noRun
  constructor
  case numbered =>
    simp [remembered.numbered, unnumbered]
  case named => grind [remembered.named]
  case placed =>
    grind [remembered.placed]
  case executing =>
    grind [remembered.executing]
  case begun => exact fun block byTimer mem => remembered.begun block byTimer (began mem)
  case stack =>
    grind [remembered.stack]
  case once =>
    simp [noRun, remembered.once]

theorem Remembered.rescheduled (remembered : Remembered log runner)
    (rescheduled : Rescheduled runner after) (registered : runner.Registered) :
    Remembered log after := by
  have same : ∀ name block, after.Runnable name block ↔ runner.Runnable name block := by
    simp [Runnable, rescheduled.blocks]
  constructor
  case numbered => rw [rescheduled.blocks]; exact remembered.numbered
  case named => rw [rescheduled.blocks]; exact remembered.named
  case placed =>
    intro name block alive
    rw [same] at alive
    rcases remembered.placed name block alive with began | queued | ⟨timer, mem, captured⟩
    · exact Or.inl began
    · rcases rescheduled.captured name queued with still | ⟨timer, mem, found⟩
      · exact Or.inr (Or.inl still)
      · grind [(registered name block).mpr alive]
    · exact Or.inr (Or.inr ⟨timer, rescheduled.timers.subset mem, captured⟩)
  case executing =>
    grind [rescheduled.running, remembered.executing]
  case begun => rw [rescheduled.blocks]; exact remembered.begun
  case stack => rw [rescheduled.running]; exact remembered.stack
  case once => exact remembered.once

/-- The name of a block that has its code is the one it was enqueued under. -/
theorem Remembered.alive (remembered : Remembered log runner)
    (alive : runner.Runnable name block) (other : Name) (mem : .enqueued other block ∈ log) :
    runner.Runnable other block := by
  grind [Runnable, remembered.named]

/-- A block begins that had not begun before; the timer that runs it is spent. -/
theorem Remembered.began (remembered : Remembered log runner) {byTimer : Bool}
    (inside : block < runner.blocks.length)
    (first : ∀ byTimer, .began block byTimer ∉ log) (timers : List DispatchedTimer)
    (spent : ∀ timer ∈ runner.timers, timer.nextBlock = block ∨ timer ∈ timers) :
    Remembered (log ++ [.began block byTimer])
      ({ runner with timers := timers }.begin block byTimer) := by
  have latest : ∀ {number started}, .began number started ∈ log ++ [.began block byTimer] →
      .began number started ∈ log ∨ number = block := by
    grind
  constructor
  case numbered =>
    simp [enqueuedBlock?, begin, remembered.numbered]
  case named =>
    simpa [begin] using remembered.named
  case placed =>
    intro name number alive
    rcases remembered.placed name number alive with ⟨started, before⟩ | queued | ⟨timer, mem, rfl⟩
    · exact Or.inl ⟨started, List.mem_append_left _ before⟩
    · exact Or.inr (Or.inl queued)
    · grind [begin]
  case executing =>
    intro name number started alive mem
    rcases latest mem with before | rfl
    · obtain ⟨execution, inside, same⟩ := remembered.executing name number started alive before
      exact ⟨execution, List.mem_cons_of_mem _ inside, same⟩
    · exact ⟨_, List.mem_cons_self, rfl⟩
  case begun =>
    intro number started mem
    rcases latest mem with before | rfl
    · exact remembered.begun number started before
    · exact inside
  case stack =>
    grind [begin, remembered.stack]
  case once =>
    intro number
    rw [List.countP_append, List.countP_singleton]
    by_cases same : block = number
    · subst same
      have none : log.countP (isRunOf block) = 0 := by
        refine List.countP_eq_zero.mpr fun event mem run => ?_
        cases event with
        | began _ started =>
          rw [of_decide_eq_true run] at mem
          exact first started mem
        | enqueued | cancelled | skipped => cases run
      simp [isRunOf, none]
    · simp [isRunOf, same, remembered.once]

/-- A block that has lost its code leaves the stack. -/
theorem Remembered.pop (remembered : Remembered log runner) {finished : RunningBlock}
    {rest : List RunningBlock} (running : runner.running = finished :: rest)
    (dead : ∀ name, ¬ runner.Runnable name finished.block) :
    Remembered log { runner with running := rest } where
  numbered := remembered.numbered
  named := remembered.named
  placed := remembered.placed
  executing := by
    intro name block byTimer alive mem
    obtain ⟨execution, inside, rfl⟩ := remembered.executing name block byTimer alive mem
    rw [running] at inside
    rcases List.mem_cons.mp inside with rfl | inside
    · exact absurd alive (dead name)
    · exact ⟨execution, inside, rfl⟩
  begun := remembered.begun
  stack := by
    grind [remembered.stack]
  once := remembered.once

section Named

variable [DecidableEq Name]

theorem Remembered.cancel (remembered : Remembered log runner) (registered : runner.Registered)
    (name : Name) : Remembered log (runner.cancelBlockNamed name) := by
  constructor
  case numbered => rw [cancelBlockNamed_length]; exact remembered.numbered
  case named =>
    intro other block mem
    obtain ⟨runBlock, found⟩ := remembered.named other block mem
    exact cancelBlockNamed_named found name
  case placed =>
    grind [cancelBlockNamed, cancelBlockNamed_runnable, remembered.placed]
  case executing =>
    grind [cancelBlockNamed, cancelBlockNamed_runnable, remembered.executing]
  case begun => rw [cancelBlockNamed_length]; exact remembered.begun
  case stack => exact remembered.stack
  case once => exact remembered.once

theorem Remembered.enqueued (remembered : Remembered log runner)
    (registered : runner.Registered) (name : Name) :
    Remembered (log ++ [.enqueued name runner.blocks.length]) (runner.register name) := by
  have began : ∀ {block byTimer},
      .began block byTimer ∈ log ++ [.enqueued name runner.blocks.length] →
      .began block byTimer ∈ log := fun mem => by simpa using mem
  constructor
  case numbered =>
    rw [List.filterMap_append, remembered.numbered, register_length, List.range_succ]
    rfl
  case named =>
    intro other block mem
    have length := cancelBlockNamed_length runner name
    change ∃ runBlock, ((runner.cancelBlockNamed name).blocks ++ [_])[block]? = _
    rcases List.mem_append.mp mem with before | latest
    · obtain ⟨runBlock, found⟩ := remembered.named other block before
      obtain ⟨runBlock, kept⟩ := cancelBlockNamed_named found name
      grind
    · cases List.mem_singleton.mp latest
      simp [length]
  case placed =>
    intro other block alive
    change _ ∨ other ∈ (runner.cancelBlockNamed name).blocksNameQueue ++ [name] ∨ _
    grind [cancelBlockNamed, register, register_runnable, remembered.placed]
  case executing =>
    intro other block byTimer alive mem
    rcases (register_runnable registered name).mp alive with ⟨alive, -⟩ | ⟨-, rfl⟩
    · exact remembered.executing other block byTimer alive (began mem)
    · exact absurd (remembered.begun _ byTimer (began mem)) (Nat.lt_irrefl _)
  case begun =>
    intro block byTimer mem
    rw [register_length]
    exact Nat.lt_succ_of_lt (remembered.begun block byTimer (began mem))
  case stack =>
    intro execution mem
    obtain ⟨byTimer, before⟩ := remembered.stack execution mem
    exact ⟨byTimer, List.mem_append_left _ before⟩
  case once =>
    simp [isRunOf, remembered.once]

end Named

/-! ## The order of the timers -/

variable (inOrder : InOrder log runner)
include inOrder

/-- An event that is no firing leaves the order alone when no block becomes pending. -/
theorem InOrder.keep (pending : after.pending.Sublist runner.pending)
    (blocks : after.blocks.length = runner.blocks.length) (noRun : event.timerRun? = none)
    (noFiring : event.isFiring = false) : InOrder (log ++ [event]) after where
  ordered := by
    simp [noRun, inOrder.ordered]
  earlier := by
    intro done mem block later
    rw [List.filterMap_append, List.filterMap_cons, noRun] at mem
    exact inOrder.earlier done (by simpa using mem) block (pending.subset later)
  firings := by
    rw [List.countP_append, List.countP_singleton, noFiring, blocks]
    have bound := inOrder.firings
    grind

theorem InOrder.shrink (pending : after.pending.Sublist runner.pending)
    (blocks : after.blocks.length = runner.blocks.length) : InOrder log after where
  ordered := inOrder.ordered
  earlier := fun done mem block later => inOrder.earlier done mem block (pending.subset later)
  firings := by
    grind [inOrder.firings]

theorem InOrder.enqueued [DecidableEq Name]
    (bound : ∀ done ∈ log.filterMap timerRun?, done < runner.blocks.length) (name : Name) :
    InOrder (log ++ [.enqueued name runner.blocks.length]) (runner.register name) where
  ordered := by simpa [timerRun?, List.filterMap_cons] using inOrder.ordered
  earlier := by
    intro done mem block later
    have before : done ∈ log.filterMap timerRun? := by
      simpa [timerRun?, List.filterMap_cons] using mem
    rw [register_pending] at later
    rcases List.mem_append.mp later with kept | latest
    · exact inOrder.earlier done before block ((cancelBlockNamed_pending runner name).subset kept)
    · grind
  firings := by
    have firings := inOrder.firings
    have fewer := (cancelBlockNamed_pending runner name).length_le
    rw [List.countP_append, register_pending, register_length, List.length_append,
      List.length_singleton]
    simp only [List.countP_singleton, isFiring, Bool.false_eq_true, if_false]
    omega

/-- The first pending block is run by its timer. -/
theorem InOrder.fired (queued : runner.Queued) (pending : runner.pending = block :: after.pending)
    (blocks : after.blocks = runner.blocks) : InOrder (log ++ [.began block true]) after where
  ordered := by
    rw [List.filterMap_append]
    refine List.pairwise_append.mpr ⟨inOrder.ordered, List.pairwise_singleton _ _, ?_⟩
    intro done mem latest same
    simp [List.mem_singleton.mp same, inOrder.earlier, mem, pending]
  earlier := by
    intro done mem later inside
    rw [List.filterMap_append] at mem
    rcases List.mem_append.mp mem with before | latest
    · simp [inOrder.earlier, before, pending, inside]
    · grind [List.mem_singleton.mp latest, List.rel_of_pairwise_cons, queued.increasing]
  firings := by
    have firings := inOrder.firings
    grind

/-- The first pending block was cancelled when its timer fires. -/
theorem InOrder.skipped (pending : runner.pending = block :: after.pending)
    (blocks : after.blocks = runner.blocks) : InOrder (log ++ [.skipped block]) after where
  ordered := by simpa [timerRun?, List.filterMap_cons] using inOrder.ordered
  earlier := by
    intro done mem later inside
    have before : done ∈ log.filterMap timerRun? := by
      simpa [timerRun?, List.filterMap_cons] using mem
    simp [inOrder.earlier, before, pending, inside]
  firings := by
    have firings := inOrder.firings
    grind

end DeferredInitializationRunner

end ChromiumIos
