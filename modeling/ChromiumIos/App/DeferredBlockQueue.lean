import ChromiumIos.App.DeferredInitializationRunner

/-!
# The queue of deferred blocks

The table of names and the objects that still have their code are one and the same
relation.  The blocks that timers have captured and those whose names are queued are the
pending ones; they stay in the order in which they were enqueued.
-/

namespace ChromiumIos

open Lib

namespace DeferredInitializationRunner

variable {Name : Type*} {runner after : DeferredInitializationRunner Name}
variable {name other : Name} {block delay : Nat}

/-- The block has its code and goes by this name. -/
def Runnable (runner : DeferredInitializationRunner Name) (name : Name) (block : Nat) : Prop :=
  runner.blocks[block]? = some ⟨name, true⟩

def timerRuns (runner : DeferredInitializationRunner Name) : Nat :=
  runner.running.countP RunningBlock.byTimer

def pending (runner : DeferredInitializationRunner Name) : List Nat :=
  runner.timers.map DispatchedTimer.nextBlock ++
    runner.blocksNameQueue.filterMap runner.runBlocks

theorem isRunnable_eq_true :
    runner.isRunnable block = true ↔ ∃ name, runner.Runnable name block := by
  unfold isRunnable Runnable
  cases found : runner.blocks[block]? with
  | none => simp
  | some object =>
    obtain ⟨_, _⟩ := object
    simp

/-- The table of names holds the objects that still have their code, and no others. -/
def Registered (runner : DeferredInitializationRunner Name) : Prop :=
  ∀ name block, runner.runBlocks name = some block ↔ runner.Runnable name block

/-- The queue and the timers, apart from how many timers there are. -/
structure Queued (runner : DeferredInitializationRunner Name) : Prop where
  distinct : runner.blocksNameQueue.Nodup
  registered : ∀ name ∈ runner.blocksNameQueue, ∃ block, runner.runBlocks name = some block
  increasing : runner.pending.Pairwise (· < ·)
  created : ∀ block ∈ runner.pending, block < runner.blocks.length

/-- A timer is outstanding, or its block running, exactly while a block is scheduled. -/
structure Scheduled (runner : DeferredInitializationRunner Name) : Prop where
  outstanding : runner.timers.length + runner.timerRuns =
    if runner.isBlockScheduled then 1 else 0
  waiting : runner.isBlockScheduled = false → runner.blocksNameQueue = []

/-! ## Scheduling -/

/-- A registered queue has a block for the next timer. -/
theorem scheduleNextBlockWithDelay_isSome
    (registered : ∀ name ∈ runner.blocksNameQueue, ∃ block, runner.runBlocks name = some block)
    (delay : Nat) : (runner.scheduleNextBlockWithDelay delay).isSome := by
  unfold scheduleNextBlockWithDelay
  grind [List.mem_cons_self]

/-- Scheduling moves at most one name from the queue to a timer. -/
structure Rescheduled (runner after : DeferredInitializationRunner Name) : Prop where
  blocks : after.blocks = runner.blocks
  runBlocks : after.runBlocks = runner.runBlocks
  running : after.running = runner.running
  pending : after.pending = runner.pending
  names : after.blocksNameQueue.Sublist runner.blocksNameQueue
  timers : runner.timers.Sublist after.timers
  captured : ∀ name ∈ runner.blocksNameQueue, name ∈ after.blocksNameQueue ∨
    ∃ timer ∈ after.timers, runner.runBlocks name = some timer.nextBlock

theorem scheduleNextBlockWithDelay_rescheduled
    (scheduled : runner.scheduleNextBlockWithDelay delay = some after) :
    Rescheduled runner after := by
  unfold scheduleNextBlockWithDelay at scheduled
  cases names : runner.blocksNameQueue with
  | nil =>
    rw [names] at scheduled
    cases scheduled
    refine ⟨rfl, rfl, rfl, ?_, List.nil_sublist _, List.Sublist.refl _, ?_⟩
    · unfold pending
      rw [names]
    · simp [names]
  | cons _ _ =>
    simp only [names] at scheduled
    obtain ⟨_, found, result⟩ := Option.map_eq_some_iff.mp scheduled
    cases result
    refine ⟨rfl, rfl, rfl, ?_, ?_, List.sublist_append_left _ _, ?_⟩
    · simp [pending, names, found]
    · simp [names]
    · intro name mem
      rw [names] at mem
      rcases List.mem_cons.mp mem with rfl | mem
      · simp [found]
      · exact Or.inl mem

theorem Rescheduled.queued (rescheduled : Rescheduled runner after) (queued : runner.Queued) :
    after.Queued where
  distinct := queued.distinct.sublist rescheduled.names
  registered := by
    intro name mem
    rw [rescheduled.runBlocks]
    exact queued.registered name (rescheduled.names.subset mem)
  increasing := by
    rw [rescheduled.pending]
    exact queued.increasing
  created := by
    rw [rescheduled.pending, rescheduled.blocks]
    exact queued.created

theorem Rescheduled.registered (rescheduled : Rescheduled runner after)
    (registered : runner.Registered) : after.Registered := by
  simpa [Registered, Runnable, rescheduled.runBlocks, rescheduled.blocks] using registered

/-- When nothing is outstanding, a timer is scheduled exactly if a name is queued. -/
theorem scheduleNextBlockWithDelay_scheduled
    (idle : runner.timers.length + runner.timerRuns = 0)
    (scheduled : runner.scheduleNextBlockWithDelay delay = some after) : after.Scheduled := by
  unfold scheduleNextBlockWithDelay at scheduled
  cases names : runner.blocksNameQueue with
  | nil =>
    rw [names] at scheduled
    cases scheduled
    exact ⟨idle, fun _ => rfl⟩
  | cons _ _ =>
    simp only [names] at scheduled
    obtain ⟨block, -, result⟩ := Option.map_eq_some_iff.mp scheduled
    cases result
    refine ⟨?_, fun off => nomatch off⟩
    change (runner.timers ++ [_]).length + runner.timerRuns = 1
    grind

variable [DecidableEq Name]

/-! ## Cancelling -/

theorem cancelBlockNamed_runnable (registered : runner.Registered) (name : Name) :
    (runner.cancelBlockNamed name).Runnable other block ↔
      runner.Runnable other block ∧ other ≠ name := by
  unfold Runnable cancelBlockNamed
  cases found : runner.runBlocks name with
  | none =>
    refine ⟨fun runnable => ⟨runnable, ?_⟩, And.left⟩
    rintro rfl
    rw [(registered other block).mpr runnable] at found
    cases found
  | some cancelled =>
    by_cases same : cancelled = block
    · subst same
      have current : runner.blocks[cancelled]? = some ⟨name, true⟩ :=
        (registered name cancelled).mp found
      simp [current, DeferredInitializationBlock.cancel, eq_comm]
    · rw [List.getElem?_modify_ne _ _ same]
      refine ⟨fun runnable => ⟨runnable, ?_⟩, And.left⟩
      grind [(registered other block).mpr runnable]

theorem cancelBlockNamed_length (runner : DeferredInitializationRunner Name) (name : Name) :
    (runner.cancelBlockNamed name).blocks.length = runner.blocks.length := by
  grind [cancelBlockNamed]

/-- The objects keep their names. -/
theorem cancelBlockNamed_named {runBlock : Bool}
    (found : runner.blocks[block]? = some ⟨other, runBlock⟩) (name : Name) :
    ∃ runBlock, (runner.cancelBlockNamed name).blocks[block]? = some ⟨other, runBlock⟩ := by
  unfold cancelBlockNamed
  cases runner.runBlocks name with
  | none => exact ⟨runBlock, found⟩
  | some cancelled =>
    by_cases same : cancelled = block
    · simp [DeferredInitializationBlock.cancel, same, found]
    · simp [same, found]

theorem cancelBlockNamed_registered (registered : runner.Registered) (name : Name) :
    (runner.cancelBlockNamed name).Registered := by
  intro other block
  rw [cancelBlockNamed_runnable registered, ← registered other block]
  change Function.update runner.runBlocks name none other = some block ↔ _
  grind

/-- The blocks that are pending lose at most the cancelled one. -/
theorem cancelBlockNamed_pending (runner : DeferredInitializationRunner Name) (name : Name) :
    (runner.cancelBlockNamed name).pending.Sublist runner.pending := by
  refine (List.Sublist.refl _).append ?_
  have others : ∀ queued ∈ runner.blocksNameQueue.filter fun queued => queued ≠ name,
      Function.update runner.runBlocks name none queued = runner.runBlocks queued := by
    grind
  change (List.filterMap (Function.update runner.runBlocks name none)
    (runner.blocksNameQueue.filter fun queued => queued ≠ name)).Sublist _
  rw [List.filterMap_congr others]
  exact List.filter_sublist.filterMap _

theorem cancelBlockNamed_mem :
    other ∈ (runner.cancelBlockNamed name).blocksNameQueue ↔
      other ∈ runner.blocksNameQueue ∧ other ≠ name := by
  simp [cancelBlockNamed]

theorem cancelBlockNamed_queued (queued : runner.Queued) (name : Name) :
    (runner.cancelBlockNamed name).Queued where
  distinct := queued.distinct.filter _
  registered := by
    intro other mem
    obtain ⟨mem, differs⟩ := cancelBlockNamed_mem.mp mem
    simp [cancelBlockNamed, queued.registered, mem, differs]
  increasing := queued.increasing.sublist (cancelBlockNamed_pending runner name)
  created := by
    intro block mem
    rw [cancelBlockNamed_length]
    exact queued.created block ((cancelBlockNamed_pending runner name).subset mem)

/-! ## Enqueueing -/

theorem register_length (runner : DeferredInitializationRunner Name) (name : Name) :
    (runner.register name).blocks.length = runner.blocks.length + 1 := by
  simp [register, cancelBlockNamed_length]

theorem register_runnable (registered : runner.Registered) (name : Name) :
    (runner.register name).Runnable other block ↔
      runner.Runnable other block ∧ other ≠ name ∨
        other = name ∧ block = runner.blocks.length := by
  rw [← cancelBlockNamed_runnable registered]
  change ((runner.cancelBlockNamed name).blocks ++ [_])[block]? = _ ↔ _
  unfold Runnable
  rcases Nat.lt_trichotomy block runner.blocks.length with before | rfl | behind
  · grind [cancelBlockNamed_length]
  · simp [cancelBlockNamed_length, eq_comm]
  · grind [cancelBlockNamed_length]

theorem register_runBlocks (runner : DeferredInitializationRunner Name) (name other : Name) :
    (runner.register name).runBlocks other =
      if other = name then some runner.blocks.length else runner.runBlocks other := by
  change Function.update (Function.update runner.runBlocks name none) name
    (some (runner.cancelBlockNamed name).blocks.length) other = _
  rw [cancelBlockNamed_length]
  grind

theorem register_registered (registered : runner.Registered) (name : Name) :
    (runner.register name).Registered := by
  intro other block
  rw [register_runnable registered, register_runBlocks, ← registered other block]
  grind

/-- The new block is pending behind all others. -/
theorem register_pending (runner : DeferredInitializationRunner Name) (name : Name) :
    (runner.register name).pending =
      (runner.cancelBlockNamed name).pending ++ [runner.blocks.length] := by
  have others : ∀ queued ∈ (runner.cancelBlockNamed name).blocksNameQueue,
      (runner.register name).runBlocks queued =
        (runner.cancelBlockNamed name).runBlocks queued := by
    intro queued mem
    have differs : queued ≠ name := (cancelBlockNamed_mem.mp mem).2
    simp [register, differs]
  have latest : (runner.register name).runBlocks name = some runner.blocks.length := by
    rw [register_runBlocks, if_pos rfl]
  unfold pending
  rw [List.append_assoc]
  change _ ++ ((runner.cancelBlockNamed name).blocksNameQueue ++ [name]).filterMap _ = _
  rw [List.filterMap_append, List.filterMap_congr others, List.filterMap_cons, latest]
  rfl

theorem register_queued (queued : runner.Queued) (name : Name) :
    (runner.register name).Queued where
  distinct := by
    refine List.nodup_append.mpr ⟨(cancelBlockNamed_queued queued name).distinct,
      List.nodup_singleton _, ?_⟩
    simp [cancelBlockNamed]
  registered := by
    intro other mem
    rw [register_runBlocks]
    by_cases same : other = name
    · exact ⟨_, if_pos same⟩
    · rw [if_neg same]
      refine queued.registered other ?_
      rcases List.mem_append.mp mem with kept | latest
      · exact (cancelBlockNamed_mem.mp kept).1
      · exact absurd (List.mem_singleton.mp latest) same
  increasing := by
    rw [register_pending]
    have cancelled := cancelBlockNamed_queued queued name
    grind [cancelBlockNamed_length, cancelled.increasing, cancelled.created]
  created := by
    intro block mem
    rw [register_length]
    rw [register_pending] at mem
    rcases List.mem_append.mp mem with kept | latest
    · have bound := (cancelBlockNamed_queued queued name).created block kept
      rw [cancelBlockNamed_length] at bound
      exact Nat.lt_succ_of_lt bound
    · grind

end DeferredInitializationRunner

end ChromiumIos
