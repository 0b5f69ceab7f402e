import ChromiumIos.App.DeferredBlockFates

/-!
# Every deferred block runs once

A block that was enqueued is run exactly once, by a timer or earlier, unless its name is
cancelled or enqueued again first.  A block that meets its own name while it runs breaks
this: it is run again, or what it enqueued is cancelled when it returns.
-/

namespace ChromiumIos

open Lib

namespace DeferredInitializationRunner

open DeferredBlockEvent

variable {Name : Type*} {runner after : DeferredInitializationRunner Name}
variable {log events : List (DeferredBlockEvent Name)} {name other : Name} {block : Nat}

/-- What every state of a run satisfies together with its log. -/
structure Orderly (log : List (DeferredBlockEvent Name))
    (runner : DeferredInitializationRunner Name) : Prop where
  registered : runner.Registered
  queued : runner.Queued
  scheduled : runner.Scheduled
  remembered : Remembered log runner
  fates : Fates log runner.Runnable
  inOrder : InOrder log runner

theorem orderly_initial : Orderly ([] : List (DeferredBlockEvent Name)) initial where
  registered := fun _ _ => ⟨fun found => (nomatch found), fun found => (nomatch found)⟩
  queued :=
    ⟨List.nodup_nil, fun _ mem => (nomatch mem), List.Pairwise.nil, fun _ mem => (nomatch mem)⟩
  scheduled := ⟨rfl, fun _ => rfl⟩
  remembered :=
    { numbered := rfl
      named := fun _ _ mem => nomatch mem
      placed := fun _ _ alive => nomatch alive
      executing := fun _ _ _ alive => nomatch alive
      begun := fun _ _ mem => nomatch mem
      stack := fun _ mem => nomatch mem
      once := fun _ => Nat.zero_le 1 }
  fates :=
    { kept := fun _ _ _ sublist => nomatch sublist
      respected := fun _ _ _ _ sublist => nomatch sublist
      fate := fun _ _ mem => nomatch mem }
  inOrder := ⟨List.Pairwise.nil, fun _ mem => (nomatch mem), Nat.le_refl 0⟩

/-- Scheduling after nothing is outstanding any more. -/
theorem Orderly.reschedule {delay : Nat} (registered : runner.Registered)
    (queued : runner.Queued) (remembered : Remembered log runner)
    (fates : Fates log runner.Runnable) (inOrder : InOrder log runner)
    (idle : runner.timers.length + runner.timerRuns = 0)
    (scheduled : runner.scheduleNextBlockWithDelay delay = some after) : Orderly log after := by
  have rescheduled := scheduleNextBlockWithDelay_rescheduled scheduled
  have same : after.Runnable = runner.Runnable := by
    unfold Runnable
    rw [rescheduled.blocks]
  refine ⟨rescheduled.registered registered, rescheduled.queued queued,
    scheduleNextBlockWithDelay_scheduled idle scheduled,
    remembered.rescheduled rescheduled registered, same ▸ fates, inOrder.shrink ?_ ?_⟩
  · rw [rescheduled.pending]
  · rw [rescheduled.blocks]

/-- A block that is called for before its time begins unless it has begun already. -/
theorem runBlockIfNecessary_orderly (orderly : Orderly log runner)
    (spared : ∀ block, runner.runBlocks name = some block →
      ∀ execution ∈ runner.running, execution.block ≠ block)
    (ran : runner.runBlockIfNecessary name = (after, events)) : Orderly (log ++ events) after := by
  unfold runBlockIfNecessary at ran
  cases found : runner.runBlocks name with
  | none =>
    grind
  | some block =>
    have alive := (orderly.registered name block).mp found
    rw [found] at ran
    dsimp only at ran
    rw [if_pos (isRunnable_eq_true.mpr ⟨name, alive⟩)] at ran
    cases ran
    have first : ∀ byTimer, .began block byTimer ∉ log := by
      grind [orderly.remembered.executing]
    have queued := orderly.queued
    refine ⟨orderly.registered,
      ⟨queued.distinct, queued.registered, queued.increasing, queued.created⟩,
      ⟨?_, orderly.scheduled.waiting⟩, ?_, ?_, ?_⟩
    · have outstanding := orderly.scheduled.outstanding
      exact outstanding
    · exact orderly.remembered.began (List.getElem?_eq_some_iff.mp alive).1 first runner.timers
        fun timer mem => Or.inr mem
    · exact orderly.fates.began false (orderly.remembered.alive alive)
    · exact orderly.inOrder.keep (List.Sublist.refl _) rfl rfl rfl

/-- The only timer that is outstanding runs its block or finds it cancelled. -/
theorem fire_orderly (orderly : Orderly log runner) {timer : DispatchedTimer}
    (offered : timer ∈ runner.timers ∧ runner.running = [])
    (fired : runner.fire timer = some (after, events)) : Orderly (log ++ events) after := by
  obtain ⟨mem, idle⟩ := offered
  have outstanding := orderly.scheduled.outstanding
  have single : runner.timers = [timer] := by
    cases timers : runner.timers with
    | nil => rw [timers] at mem; cases mem
    | cons _ rest =>
      rw [timers, List.length_cons] at outstanding
      have none : rest = [] := List.length_eq_zero_iff.mp (by split at outstanding <;> omega)
      grind
  let taken := runner.takeTimer timer
  have timers : taken.timers = [] := by
    change runner.timers.erase timer = []
    rw [single, List.erase_cons_head]
  have pending : runner.pending = timer.nextBlock :: taken.pending := by
    unfold DeferredInitializationRunner.pending
    rw [timers, single]
    rfl
  have queued : taken.Queued := by
    have all := orderly.queued
    refine ⟨all.distinct, all.registered, ?_, fun block later => ?_⟩
    · grind [all.increasing]
    · exact all.created block (pending ▸ List.mem_cons_of_mem _ later)
  have spent : ∀ other ∈ runner.timers, other.nextBlock = timer.nextBlock ∨
      other ∈ taken.timers := by
    simp [single]
  change (if taken.isRunnable timer.nextBlock then
    some (taken.begin timer.nextBlock true, [DeferredBlockEvent.began timer.nextBlock true])
    else (taken.scheduleNextBlockWithDelay taken.delayBetweenBlocks).map _) = _ at fired
  split at fired
  · next runnable =>
    cases fired
    obtain ⟨name, alive⟩ := isRunnable_eq_true.mp runnable
    change runner.Runnable name timer.nextBlock at alive
    have first : ∀ byTimer, .began timer.nextBlock byTimer ∉ log := by
      grind [orderly.remembered.executing]
    refine ⟨orderly.registered,
      ⟨queued.distinct, queued.registered, queued.increasing, queued.created⟩,
      ⟨?_, orderly.scheduled.waiting⟩, ?_, ?_, ?_⟩
    · change taken.timers.length + (⟨timer.nextBlock, true⟩ :: runner.running).countP _ =
        if runner.isBlockScheduled then 1 else 0
      grind
    · exact orderly.remembered.began (List.getElem?_eq_some_iff.mp alive).1 first _ spent
    · exact orderly.fates.began true (orderly.remembered.alive alive)
    · exact orderly.inOrder.fired orderly.queued pending rfl
  · next cancelled =>
    obtain ⟨_, performed, result⟩ := Option.map_eq_some_iff.mp fired
    cases result
    have remembered : Remembered log taken :=
      { orderly.remembered with
        placed := by
          intro name block alive
          rcases orderly.remembered.placed name block alive with began | queued | captured
          · exact Or.inl began
          · exact Or.inr (Or.inl queued)
          · obtain ⟨other, inside, rfl⟩ := captured
            rcases spent other inside with same | still
            · rw [same] at alive
              exact absurd (isRunnable_eq_true.mpr ⟨name, alive⟩) cancelled
            · exact Or.inr (Or.inr ⟨other, still, rfl⟩) }
    have registered : taken.Registered := orderly.registered
    have fates : Fates (log ++ [.skipped timer.nextBlock]) taken.Runnable :=
      orderly.fates.skipped timer.nextBlock
    have inOrder : InOrder (log ++ [.skipped timer.nextBlock]) taken :=
      orderly.inOrder.skipped pending rfl
    refine Orderly.reschedule registered queued (remembered.extend rfl fun _ => rfl) fates
      inOrder ?_ performed
    change taken.timers.length + runner.running.countP _ = 0
    rw [timers, idle]
    rfl

variable [DecidableEq Name]

theorem cancelBlockNamed_orderly (orderly : Orderly log runner) (name : Name) :
    Orderly (log ++ [.cancelled name]) (runner.cancelBlockNamed name) where
  registered := cancelBlockNamed_registered orderly.registered name
  queued := cancelBlockNamed_queued orderly.queued name
  scheduled := by
    refine ⟨orderly.scheduled.outstanding, fun off => ?_⟩
    simp [cancelBlockNamed, orderly.scheduled.waiting off]
  remembered := (orderly.remembered.cancel orderly.registered name).extend rfl fun _ => rfl
  fates := orderly.fates.cancelled fun _ _ => cancelBlockNamed_runnable orderly.registered name
  inOrder :=
    orderly.inOrder.keep (cancelBlockNamed_pending runner name)
      (cancelBlockNamed_length runner name) rfl rfl

theorem enqueueBlockNamed_orderly (orderly : Orderly log runner)
    (enqueued : runner.enqueueBlockNamed name = some after) :
    Orderly (log ++ [.enqueued name runner.blocks.length]) after := by
  have registered := register_registered orderly.registered name
  have queued := register_queued orderly.queued name
  have remembered := orderly.remembered.enqueued orderly.registered name
  have fates : Fates (log ++ [.enqueued name runner.blocks.length])
      (runner.register name).Runnable := by
    refine orderly.fates.enqueued (fun _ _ => register_runnable orderly.registered name) ?_
    intro other mem
    obtain ⟨_, found⟩ := orderly.remembered.named other _ mem
    simp at found
  have inOrder : InOrder (log ++ [.enqueued name runner.blocks.length])
      (runner.register name) := by
    refine orderly.inOrder.enqueued (fun done mem => ?_) name
    obtain ⟨event, began, run⟩ := List.mem_filterMap.mp mem
    cases event with
    | began _ byTimer =>
      cases byTimer with
      | true =>
        cases run
        exact orderly.remembered.begun done true began
      | false => cases run
    | enqueued | cancelled | skipped => cases run
  unfold enqueueBlockNamed at enqueued
  dsimp only at enqueued
  have outstanding := orderly.scheduled.outstanding
  split at enqueued
  · next scheduled =>
    cases enqueued
    exact ⟨registered, queued, ⟨outstanding, fun off => absurd scheduled (by simp [off])⟩,
      remembered, fates, inOrder⟩
  · next unscheduled =>
    change runner.isBlockScheduled ≠ true at unscheduled
    rw [if_neg unscheduled] at outstanding
    exact Orderly.reschedule registered queued remembered fates inOrder outstanding enqueued

/-- A block that returns takes itself out of the table, and nothing else. -/
theorem finish_orderly (orderly : Orderly log runner)
    (spared : ∀ finished ∈ runner.running.head?, ∀ object ∈ runner.blocks[finished.block]?,
      ∀ block, runner.runBlocks object.name = some block → block = finished.block)
    (finished : runner.finish = some after) : Orderly log after := by
  unfold finish at finished
  cases running : runner.running with
  | nil =>
    grind
  | cons done rest =>
    obtain ⟨byTimer, began⟩ :=
      orderly.remembered.stack done (running ▸ List.mem_cons_self)
    have inside := orderly.remembered.begun _ byTimer began
    obtain ⟨object, found⟩ : ∃ object, runner.blocks[done.block]? = some object :=
      ⟨_, List.getElem?_eq_getElem inside⟩
    let cancelled := runner.cancelBlockNamed object.name
    let completed : DeferredInitializationRunner Name := { cancelled with running := rest }
    have shape : ({ runner with running := rest } : DeferredInitializationRunner Name).complete
        done.block = completed := by
      unfold complete
      dsimp only
      rw [found]
      rfl
    have removed : ∀ other block, completed.Runnable other block ↔
        runner.Runnable other block ∧ other ≠ object.name := fun _ _ =>
      cancelBlockNamed_runnable orderly.registered object.name
    have registered : completed.Registered :=
      cancelBlockNamed_registered orderly.registered object.name
    have queued : completed.Queued := by
      obtain ⟨distinct, registered, increasing, created⟩ :=
        cancelBlockNamed_queued orderly.queued object.name
      exact ⟨distinct, registered, increasing, created⟩
    have remembered : Remembered log completed := by
      refine (orderly.remembered.cancel orderly.registered object.name).pop running ?_
      intro name alive
      obtain ⟨alive, differs⟩ := (removed name done.block).mp alive
      rw [show runner.blocks[done.block]? = some _ from alive] at found
      grind
    have fates : Fates log completed.Runnable := by
      refine orderly.fates.completed removed fun block alive => ⟨byTimer, ?_⟩
      have same := spared done (by rw [running]; rfl) object found block
        ((orderly.registered object.name block).mpr alive)
      rw [same]
      exact began
    have inOrder : InOrder log completed :=
      orderly.inOrder.shrink (cancelBlockNamed_pending runner object.name)
        (cancelBlockNamed_length runner object.name)
    have outstanding := orderly.scheduled.outstanding
    rw [timerRuns, running] at outstanding
    rw [running] at finished
    dsimp only at finished
    rw [shape] at finished
    cases timed : done.byTimer with
    | true =>
      rw [List.countP_cons_of_pos timed] at outstanding
      rw [if_pos timed] at finished
      refine Orderly.reschedule registered queued remembered fates inOrder ?_ finished
      change runner.timers.length + rest.countP _ = 0
      split at outstanding
      · omega
      · omega
    | false =>
      rw [List.countP_cons_of_neg (by simp [timed])] at outstanding
      rw [if_neg (by simp [timed])] at finished
      rw [← Option.some.inj finished]
      refine ⟨registered, queued, ⟨outstanding, fun off => ?_⟩, remembered, fates, inOrder⟩
      change runner.blocksNameQueue.filter _ = []
      rw [orderly.scheduled.waiting off]
      rfl

/-- No block meets its own name while it runs: it is not asked to run again, and what it
enqueued under its own name is gone when it returns. -/
def SparesOwnName (runner : DeferredInitializationRunner Name) : Input Name → Prop
  | .runBlockIfNecessary name => ∀ block, runner.runBlocks name = some block →
      ∀ execution ∈ runner.running, execution.block ≠ block
  | .finish => ∀ finished ∈ runner.running.head?, ∀ object ∈ runner.blocks[finished.block]?,
      ∀ block, runner.runBlocks object.name = some block → block = finished.block
  | _ => True

/-- A registered queue passes every assertion, whatever is done. -/
theorem step_isSome (queued : runner.Queued) (input : Input Name) :
    (runner.step input).isSome := by
  cases input with
  | enqueueBlockNamed name =>
    unfold step enqueueBlockNamed
    rw [Option.isSome_map]
    dsimp only
    split
    · rfl
    · exact scheduleNextBlockWithDelay_isSome (register_queued queued name).registered _
  | runBlockIfNecessary name | cancelBlockNamed name => rfl
  | fire timer =>
    unfold step fire
    dsimp only
    split
    · rfl
    · have registered : ∀ name ∈ (runner.takeTimer timer).blocksNameQueue, ∃ block,
          (runner.takeTimer timer).runBlocks name = some block := queued.registered
      simpa using scheduleNextBlockWithDelay_isSome registered _
  | finish =>
    unfold step finish
    rw [Option.isSome_map]
    split
    · rfl
    · next finished rest running =>
      have completed : ∀ name ∈ (complete { runner with running := rest }
          finished.block).blocksNameQueue, ∃ block,
          (complete { runner with running := rest } finished.block).runBlocks name =
            some block := by
        unfold complete
        split
        · exact queued.registered
        · next object _ => exact (cancelBlockNamed_queued queued object.name).registered
      grind [scheduleNextBlockWithDelay_isSome]

theorem step_orderly {input : Input Name} (orderly : Orderly log runner)
    (offered : runner.Offered input) (spared : runner.SparesOwnName input)
    (stepped : runner.step input = some (after, events)) : Orderly (log ++ events) after := by
  cases input with
  | enqueueBlockNamed _ =>
    obtain ⟨next, enqueued, result⟩ := Option.map_eq_some_iff.mp stepped
    cases result
    exact enqueueBlockNamed_orderly orderly enqueued
  | runBlockIfNecessary _ =>
    exact runBlockIfNecessary_orderly orderly spared (Option.some.inj stepped)
  | cancelBlockNamed name =>
    cases stepped
    exact cancelBlockNamed_orderly orderly name
  | fire _ => exact fire_orderly orderly offered stepped
  | finish =>
    obtain ⟨_, finished, result⟩ := Option.map_eq_some_iff.mp stepped
    cases result
    simpa using finish_orderly orderly spared finished

theorem run_orderly
    (run : Runs step (fun runner input => runner.Offered input ∧ runner.SparesOwnName input)
      initial log runner) : Orderly log runner := by
  refine run.invariant_outputs Orderly orderly_initial ?_
  grind [step_orderly]

/-- The queue and the timers are in order, and every block is run exactly once, unless it
was given up before; nothing stays undone once no timer is outstanding and no block running,
which is after at most as many firings as blocks. -/
structure RunsOnce (log : List (DeferredBlockEvent Name))
    (runner : DeferredInitializationRunner Name) : Prop where
  distinct : runner.blocksNameQueue.Nodup
  registered : ∀ name ∈ runner.blocksNameQueue, ∃ block, runner.runBlocks name = some block
  single : runner.timers.length + runner.timerRuns ≤ 1
  outstanding : runner.blocksNameQueue ≠ [] → runner.timers.length + runner.timerRuns = 1
  numbered : log.filterMap enqueuedBlock? = List.range runner.blocks.length
  enqueued : ∀ block byTimer, .began block byTimer ∈ log → block < runner.blocks.length
  ordered : (log.filterMap timerRun?).Pairwise (· < ·)
  once : ∀ block, log.countP (isRunOf block) ≤ 1
  respected : ∀ name block event byTimer,
    [.enqueued name block, event, .began block byTimer].Sublist log → ¬ event.GivesUp name
  served : runner.timers = [] → runner.running = [] →
    ∀ name block, .enqueued name block ∈ log → Accounted log name block
  firings : log.countP isFiring + runner.timers.length ≤ runner.blocks.length

omit [DecidableEq Name] in
/-- When nothing is outstanding, a block that has its code is one that ran. -/
theorem Orderly.served (orderly : Orderly log runner) (timers : runner.timers = [])
    (running : runner.running = []) (enqueued : .enqueued name block ∈ log) :
    Accounted log name block := by
  rcases orderly.fates.fate name block enqueued with alive | accounted
  · rcases orderly.remembered.placed name block alive with began | queued | ⟨timer, mem, -⟩
    · exact Or.inl began
    · have outstanding := orderly.scheduled.outstanding
      rw [timers, timerRuns, running] at outstanding
      grind [orderly.scheduled.waiting]
    · rw [timers] at mem
      cases mem
  · exact accounted

omit [DecidableEq Name] in
theorem Orderly.runsOnce (orderly : Orderly log runner) : RunsOnce log runner where
  distinct := orderly.queued.distinct
  registered := orderly.queued.registered
  single := by
    grind [orderly.scheduled.outstanding]
  outstanding := by
    intro waiting
    have scheduled : runner.isBlockScheduled = true :=
      Bool.of_not_eq_false fun off => waiting (orderly.scheduled.waiting off)
    rw [orderly.scheduled.outstanding, if_pos scheduled]
  numbered := orderly.remembered.numbered
  enqueued := orderly.remembered.begun
  ordered := orderly.inOrder.ordered
  once := orderly.remembered.once
  respected := orderly.fates.respected
  served := fun timers running _ _ enqueued => orderly.served timers running enqueued
  firings := by
    grind [pending, orderly.inOrder.firings]

/-- When no block meets its own name while it runs, the assertion of the queue never fails
and every block that is not given up runs exactly once. -/
theorem run_runsOnce
    (run : Runs step (fun runner input => runner.Offered input ∧ runner.SparesOwnName input)
      initial log runner) :
    RunsOnce log runner ∧ ∀ input, (runner.step input).isSome :=
  ⟨(run_orderly run).runsOnce, step_isSome (run_orderly run).queued⟩

instance (runner : DeferredInitializationRunner Name) :
    (input : Input Name) → Decidable (runner.Offered input)
  | .fire timer => inferInstanceAs (Decidable (timer ∈ runner.timers ∧ runner.running = []))
  | .finish => inferInstanceAs (Decidable (runner.running ≠ []))
  | .enqueueBlockNamed _ | .runBlockIfNecessary _ | .cancelBlockNamed _ => isTrue trivial

instance (runner : DeferredInitializationRunner Name) :
    (input : Input Name) → Decidable (runner.SparesOwnName input)
  | .runBlockIfNecessary name =>
    inferInstanceAs (Decidable (∀ block ∈ runner.runBlocks name,
      ∀ execution ∈ runner.running, execution.block ≠ block))
  | .finish =>
    inferInstanceAs (Decidable (∀ finished ∈ runner.running.head?,
      ∀ object ∈ runner.blocks[finished.block]?,
        ∀ block ∈ runner.runBlocks object.name, block = finished.block))
  | .enqueueBlockNamed _ | .cancelBlockNamed _ | .fire _ => isTrue trivial

/-- A block that a timer has captured is replaced; the timer finds it cancelled, and the new
one runs before its time. -/
theorem run_runsOnce_replaced : ∃ (log : List (DeferredBlockEvent String))
    (runner : DeferredInitializationRunner String), RunsOnce log runner ∧
      .began 2 false ∈ log ∧ log.countP isFiring = 2 := by
  have result := run_runsOnce (Runs.replay
    [.enqueueBlockNamed "cleanup", .enqueueBlockNamed "metrics", .fire ⟨0, 3000⟩, .finish,
      .enqueueBlockNamed "metrics", .fire ⟨1, 200⟩, .runBlockIfNecessary "metrics", .finish]
    .start (Option.eq_some_of_isSome (by decide +kernel)))
  exact ⟨_, _, result.1, by decide +kernel, by decide +kernel⟩

/-- A block that enqueues itself again takes its successor with it when it returns. -/
theorem run_successorLost : ¬ ∀ (log : List (DeferredBlockEvent String))
    (runner : DeferredInitializationRunner String), Runs step Offered initial log runner →
      RunsOnce log runner ∧ ∀ input, (runner.step input).isSome := by
  intro keeps
  obtain ⟨log, runner, run, told, timers, running⟩ : ∃ log runner,
      Runs step Offered (initial : DeferredInitializationRunner String) log runner ∧
      log = [.enqueued "cleanup" 0, .began 0 true, .enqueued "cleanup" 1] ∧
      runner.timers = [] ∧ runner.running = [] :=
    ⟨_, _, Runs.replay
      [.enqueueBlockNamed "cleanup", .fire ⟨0, 3000⟩, .enqueueBlockNamed "cleanup", .finish]
      .start (Option.eq_some_of_isSome (by decide +kernel)), by decide +kernel,
      by decide +kernel, by decide +kernel⟩
  subst told
  have lost := (keeps _ _ run).1.served timers running "cleanup" 1 (by decide +kernel)
  rcases lost with ⟨byTimer, began⟩ | ⟨event, behind, -⟩
  · simp at began
  · have mem := behind.subset (List.mem_cons_of_mem _ List.mem_cons_self)
    simp only [List.mem_cons, List.not_mem_nil, or_false] at mem
    rcases mem with rfl | rfl | rfl
    · exact absurd behind (by decide +kernel)
    · exact absurd behind (by decide +kernel)
    · exact absurd behind (by decide +kernel)

end DeferredInitializationRunner

end ChromiumIos
