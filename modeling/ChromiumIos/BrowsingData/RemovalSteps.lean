import ChromiumIos.BrowsingData.BrowsingDataRemover
import ChromiumIos.Lib.EventOrder

/-!
# The steps of the remover of browsing data

The closures that are counted all belong to the removal at the head of the queue.  Starting
a sub-task, running a closure, completing a removal, queueing a request and shutting down are
each shown to keep this, and to pass their assertions.
-/

namespace ChromiumIos

open Lib

namespace RemoverEvent

/-- The beginning or the end of a removal. -/
def isTurn : RemoverEvent → Bool
  | .removing _ | .notified _ => true
  | _ => false

def requested? : RemoverEvent → Option Nat
  | .requested removal _ => some removal
  | _ => none

def requestedCallback? : RemoverEvent → Option Nat
  | .requested removal true => some removal
  | _ => none

def posted? : RemoverEvent → Option Nat
  | .posted removal => some removal
  | _ => none

end RemoverEvent

namespace BrowsingDataRemoverImpl

open RemoverEvent

variable {remover after : BrowsingDataRemoverImpl} {log events : List RemoverEvent}
variable {closure : RemovalClosure} {finished removal : Nat} {running : Bool}

/-- So many removals, each begun and completed before the next one. -/
def turns (removals : Nat) : List RemoverEvent :=
  (List.range removals).flatMap fun removal => [.removing removal, .notified removal]

def queuedCallbacks (queue : List RemovalTask) : List Nat :=
  (queue.filter RemovalTask.hasCallback).map RemovalTask.removal

def CompletedBefore (log : List RemoverEvent) : Prop :=
  ∀ closure deleteBegin deleteEnd, .started closure deleteBegin deleteEnd ∈ log →
    .notified closure.removal ∈ log →
      [.completed closure, .notified closure.removal].Sublist log

/-- The remover before its shutdown: so many removals are finished, and the next one is
running or waits for its turn. -/
structure Working (finished : Nat) (running : Bool) (log : List RemoverEvent)
    (remover : BrowsingDataRemoverImpl) : Prop where
  valid : remover.weakPtrsInvalidated = false
  alive : remover.hasBrowserState = true
  notShutDown : .shutdown ∉ log
  requested : log.filterMap requested? = List.range remover.nextRemoval
  total : finished + remover.removalQueue.length = remover.nextRemoval
  queued : remover.removalQueue.map RemovalTask.removal =
    List.range' finished remover.removalQueue.length
  turned : log.filter isTurn = turns finished ++ onlyIf running [.removing finished]
  conserved : log.filterMap posted? ++ queuedCallbacks remover.removalQueue =
    log.filterMap requestedCallback?
  postedDone : ∀ removal, .posted removal ∈ log → removal < finished
  count : remover.pendingTasksCount = remover.closures.length
  owned : ∀ closure ∈ remover.closures, closure.removal = finished
  idle : running = false → remover.closures = []
  busy : running = true → remover.removalQueue ≠ []
  removing : remover.isRemoving = !remover.removalQueue.isEmpty
  scheduled : remover.postedTasks.count .runNextTask =
    if running || remover.removalQueue.isEmpty then 0 else 1
  startedNow : ∀ closure deleteBegin deleteEnd, .started closure deleteBegin deleteEnd ∈ log →
    closure.removal < finished ∨ closure.removal = finished ∧
      (closure ∈ remover.closures ∨ .completed closure ∈ log)
  completedBefore : CompletedBefore log

structure ShutDown (log : List RemoverEvent) (remover : BrowsingDataRemoverImpl) : Prop where
  invalid : remover.weakPtrsInvalidated = true
  gone : remover.hasBrowserState = false
  closed : .shutdown ∈ log
  requested : log.filterMap requested? = List.range remover.nextRemoval
  queue : remover.removalQueue = []
  removing : remover.isRemoving = false
  turned : ∃ finished running, log.filter isTurn = turns finished ++
    onlyIf running [.removing finished]
  posted : log.filterMap posted? = log.filterMap requestedCallback?
  completedBefore : CompletedBefore log

theorem mem_turns : .notified removal ∈ turns finished ↔ removal < finished := by
  simp [turns]

/-- The removals that are finished are those that were notified. -/
theorem Working.notified (working : Working finished running log remover) :
    .notified removal ∈ log ↔ removal < finished := by
  have turn : (RemoverEvent.notified removal).isTurn = true := rfl
  rw [← mem_turns, ← and_iff_left (a := .notified removal ∈ log) turn, ← List.mem_filter,
    working.turned, List.mem_append, or_iff_left]
  simp [onlyIf]

variable {more : List RemoverEvent} {event : RemoverEvent} {task : RemovalTask}
variable {tasks : List RemoverTask}

/-- Events that neither start a sub-task nor complete a removal. -/
theorem CompletedBefore.append (completedBefore : CompletedBefore log)
    (noStart : ∀ closure deleteBegin deleteEnd, .started closure deleteBegin deleteEnd ∉ more)
    (noNotice : ∀ removal, .notified removal ∉ more) : CompletedBefore (log ++ more) := by
  grind [CompletedBefore]

theorem CompletedBefore.extend (completedBefore : CompletedBefore log)
    (noStart : ∀ closure deleteBegin deleteEnd, event ≠ .started closure deleteBegin deleteEnd)
    (noTurn : event.isTurn = false) : CompletedBefore (log ++ [event]) := by
  refine completedBefore.append (fun closure deleteBegin deleteEnd mem => ?_) fun removal mem => ?_
  · grind
  · rw [← List.mem_singleton.mp mem] at noTurn
    cases noTurn

/-- A closure of the removal that is running has been run or is still to be run. -/
theorem Working.startedNow_append (working : Working finished running log remover)
    (noStart : ∀ closure deleteBegin deleteEnd, .started closure deleteBegin deleteEnd ∉ more) :
    ∀ closure deleteBegin deleteEnd, .started closure deleteBegin deleteEnd ∈ log ++ more →
      closure.removal < finished ∨ closure.removal = finished ∧
        (closure ∈ remover.closures ∨ .completed closure ∈ log ++ more) := by
  intro closure deleteBegin deleteEnd started
  have before := (List.mem_append.mp started).resolve_right (noStart _ _ _)
  refine (working.startedNow closure deleteBegin deleteEnd before).imp_right ?_
  grind

/-! ## Steps of a removal -/

/-- An event that is only recorded. -/
structure Silent (event : RemoverEvent) : Prop where
  noRequest : event.requested? = none
  noCallback : event.requestedCallback? = none
  noPost : event.posted? = none
  noTurn : event.isTurn = false
  noShutdown : event ≠ .shutdown

variable {Value : Type}

theorem filterMap_concat_none {read : RemoverEvent → Option Value} (none : read event = none) :
    (log ++ [event]).filterMap read = log.filterMap read := by
  simp [none]

theorem not_mem_concat {other : RemoverEvent} (absent : other ∉ log) (differs : event ≠ other) :
    other ∉ log ++ [event] := by
  grind

/-- A sub-task is started. -/
theorem Working.start (working : Working finished true log remover) (subTask : RemovalSubTask)
    (deleteBegin deleteEnd : Nat) :
    Working finished true (log ++ [.started ⟨finished, subTask⟩ deleteBegin deleteEnd])
      (remover.createPendingTaskCompletionClosure ⟨finished, subTask⟩) := by
  constructor
  case valid => exact working.valid
  case alive => exact working.alive
  case notShutDown => simp [working.notShutDown]
  case requested => exact (filterMap_concat_none rfl).trans working.requested
  case total => exact working.total
  case queued => exact working.queued
  case turned =>
    simp [isTurn, working.turned]
  case conserved =>
    rw [filterMap_concat_none rfl, filterMap_concat_none rfl]
    exact working.conserved
  case postedDone =>
    simpa using working.postedDone
  case count =>
    simp [createPendingTaskCompletionClosure, working.count]
  case owned =>
    intro closure mem
    rcases List.mem_append.mp mem with inside | latest <;> grind [working.owned]
  case idle => exact fun off => nomatch off
  case busy => exact working.busy
  case removing => exact working.removing
  case scheduled => exact working.scheduled
  case startedNow =>
    intro closure begins ends mem
    rcases List.mem_append.mp mem with inside | latest
    · refine (working.startedNow closure begins ends inside).imp_right ?_
      grind [createPendingTaskCompletionClosure]
    · grind [createPendingTaskCompletionClosure]
  case completedBefore =>
    intro closure begins ends started notified
    have before : .notified closure.removal ∈ log := by simpa using notified
    rcases List.mem_append.mp started with inside | latest
    · exact (working.completedBefore closure begins ends inside before).trans
        (List.sublist_append_left _ _)
    · cases List.mem_singleton.mp latest
      exact absurd (working.notified.mp before) (Nat.lt_irrefl _)

/-- A service is called that reports nothing, or a posted task runs that changes nothing. -/
theorem Working.record (working : Working finished running log remover) (silent : Silent event)
    (noStart : ∀ closure deleteBegin deleteEnd, event ≠ .started closure deleteBegin deleteEnd) :
    Working finished running (log ++ [event]) remover where
  valid := working.valid
  alive := working.alive
  notShutDown := not_mem_concat working.notShutDown silent.noShutdown
  requested := (filterMap_concat_none silent.noRequest).trans working.requested
  total := working.total
  queued := working.queued
  turned := by
    grind [working.turned, silent.noTurn]
  conserved := by
    simp [silent.noPost, silent.noCallback, working.conserved]
  postedDone := by
    intro removal mem
    rcases List.mem_append.mp mem with inside | latest
    · exact working.postedDone removal inside
    · have noPost := silent.noPost
      rw [← List.mem_singleton.mp latest] at noPost
      cases noPost
  count := working.count
  owned := working.owned
  idle := working.idle
  busy := working.busy
  removing := working.removing
  scheduled := working.scheduled
  startedNow := working.startedNow_append (by grind)
  completedBefore := working.completedBefore.extend noStart silent.noTurn

/-- The remover after a closure was run, before it is seen whether it was the last one. -/
def countDown (remover : BrowsingDataRemoverImpl) (closure : RemovalClosure) :
    BrowsingDataRemoverImpl :=
  { remover with
    closures := remover.closures.erase closure
    pendingTasksCount := remover.pendingTasksCount - 1 }

theorem Working.completed (working : Working finished running log remover)
    (mem : closure ∈ remover.closures) :
    Working finished true (log ++ [.completed closure]) (remover.countDown closure) := by
  have active : running = true :=
    Bool.of_not_eq_false fun off => absurd mem (working.idle off ▸ List.not_mem_nil)
  subst active
  have recorded : Working finished true (log ++ [.completed closure]) remover :=
    working.record ⟨rfl, rfl, rfl, rfl, by simp⟩ (by simp)
  constructor
  case valid => exact recorded.valid
  case alive => exact recorded.alive
  case notShutDown => exact recorded.notShutDown
  case requested => exact recorded.requested
  case total => exact recorded.total
  case queued => exact recorded.queued
  case turned => exact recorded.turned
  case conserved => exact recorded.conserved
  case postedDone => exact recorded.postedDone
  case count =>
    grind [countDown, working.count]
  case owned => exact fun other inside => recorded.owned other (List.mem_of_mem_erase inside)
  case idle => exact fun off => nomatch off
  case busy => exact recorded.busy
  case removing => exact recorded.removing
  case scheduled => exact recorded.scheduled
  case startedNow =>
    intro other begins ends started
    refine (recorded.startedNow other begins ends started).imp_right ?_
    rintro ⟨same, outstanding | completed⟩
    · refine ⟨same, ?_⟩
      by_cases latest : other = closure
      · simp [latest]
      · simp [countDown, latest, outstanding]
    · exact ⟨same, Or.inr completed⟩
  case completedBefore => exact recorded.completedBefore

theorem turns_succ (removals : Nat) :
    turns (removals + 1) = turns removals ++ [.removing removals, .notified removals] := by
  simp [turns, List.range_succ]

theorem queuedCallbacks_cons (task : RemovalTask) (queue : List RemovalTask) :
    queuedCallbacks (task :: queue) =
      onlyIf task.hasCallback [task.removal] ++ queuedCallbacks queue := by
  unfold queuedCallbacks onlyIf
  grind

/-- The events of a completion, one after the other. -/
theorem postedEvent_reads (task : RemovalTask) :
    task.postedEvent.filterMap posted? = onlyIf task.hasCallback [task.removal] ∧
      task.postedEvent.filterMap requested? = [] ∧
      task.postedEvent.filterMap requestedCallback? = [] ∧
      task.postedEvent.filter isTurn = [] ∧
      ∀ event ∈ task.postedEvent, event = .posted task.removal := by
  grind [posted?, RemovalTask.postedEvent, onlyIf, requested?, requestedCallback?, isTurn]

theorem callbackTask_count (task : RemovalTask) :
    task.callbackTask.count .runNextTask = 0 := by
  grind [RemovalTask.callbackTask, onlyIf]

/-- The log of a completed removal has its notification and its posted callback more. -/
theorem mem_of_mem_notified (inside : event ∈ log ++ .notified task.removal :: task.postedEvent) :
    event ∈ log ∨ event = .notified task.removal ∨ event = .posted task.removal := by
  grind [postedEvent_reads]

theorem started_of_mem_notified {deleteBegin deleteEnd : Nat}
    (inside : .started closure deleteBegin deleteEnd ∈
      log ++ .notified task.removal :: task.postedEvent) :
    .started closure deleteBegin deleteEnd ∈ log := by
  grind [mem_of_mem_notified]

/-- A removal without outstanding closures had all its sub-tasks completed. -/
theorem Working.completedBefore_notified (working : Working finished true log remover)
    (none : remover.closures = []) (current : task.removal = finished) :
    CompletedBefore (log ++ .notified task.removal :: task.postedEvent) := by
  intro closure begins ends started notified
  have before := started_of_mem_notified started
  rcases mem_of_mem_notified notified with earlier | same | same
  · exact (working.completedBefore closure begins ends before earlier).trans
      (List.sublist_append_left _ _)
  · have number : closure.removal = task.removal := RemoverEvent.notified.inj same
    have completed : .completed closure ∈ log := by
      rcases working.startedNow closure begins ends before with
        earlier | ⟨-, outstanding | completed⟩
      · omega
      · simp [none] at outstanding
      · exact completed
    grind
  · cases same

/-- A removal is completed: the remover works on the rest of the queue. -/
theorem Working.next (working : Working finished true log remover) (none : remover.closures = [])
    {rest : List RemovalTask} (queue : remover.removalQueue = task :: rest)
    (valid : after.weakPtrsInvalidated = false) (alive : after.hasBrowserState = true)
    (next : after.nextRemoval = remover.nextRemoval) (afterQueue : after.removalQueue = rest)
    (closures : after.closures = []) (count : after.pendingTasksCount = 0)
    (removing : after.isRemoving = !rest.isEmpty)
    (tasks : after.postedTasks.count .runNextTask = if rest.isEmpty then 0 else 1) :
    Working (finished + 1) false (log ++ .notified task.removal :: task.postedEvent) after := by
  have queued := working.queued
  rw [queue, List.map_cons, List.length_cons, List.range'_succ] at queued
  obtain ⟨current, others⟩ := List.cons.inj queued
  obtain ⟨posts, noRequest, noCallback, noTurn, -⟩ := postedEvent_reads task
  constructor
  case valid => exact valid
  case alive => exact alive
  case notShutDown =>
    grind [mem_of_mem_notified, working.notShutDown]
  case requested =>
    rw [List.filterMap_append, List.filterMap_cons, noRequest, next]
    exact (List.append_nil _).trans working.requested
  case total =>
    grind [working.total]
  case queued =>
    rw [afterQueue]
    exact others
  case turned =>
    rw [List.filter_append, working.turned, List.filter_cons_of_pos rfl, noTurn, turns_succ,
      current]
    simp [onlyIf]
  case conserved =>
    have conserved := working.conserved
    rw [queue, queuedCallbacks_cons, ← List.append_assoc] at conserved
    rw [List.filterMap_append, List.filterMap_append, List.filterMap_cons,
      List.filterMap_cons, afterQueue]
    simp only [posted?, requestedCallback?, posts, noCallback, List.append_nil]
    exact conserved
  case postedDone =>
    intro removal inside
    rcases mem_of_mem_notified inside with before | same | same
    · exact Nat.lt_succ_of_lt (working.postedDone removal before)
    · cases same
    · grind
  case count =>
    rw [count, closures]
    rfl
  case owned =>
    simp [closures]
  case idle => exact fun _ => closures
  case busy => exact fun off => nomatch off
  case removing =>
    rw [afterQueue]
    exact removing
  case scheduled =>
    rw [afterQueue]
    exact tasks
  case startedNow =>
    intro closure begins ends inside
    rcases working.startedNow closure begins ends (started_of_mem_notified inside) with
      earlier | ⟨same, -⟩
    · omega
    · omega
  case completedBefore => exact working.completedBefore_notified none current

/-- When all closures of a removal have been run, it is notified and the next one posted. -/
theorem Working.notify (working : Working finished true log remover)
    (none : remover.closures = []) :
    ∃ after events, remover.notifyRemovalComplete = some (after, events) ∧
      Working (finished + 1) false (log ++ events) after := by
  cases queue : remover.removalQueue with
  | nil => exact absurd queue (working.busy rfl)
  | cons task rest =>
    have removing : remover.isRemoving = true := by
      rw [working.removing, queue]
      rfl
    have scheduled := working.scheduled
    simp only [Bool.true_or, if_true] at scheduled
    have zero : remover.pendingTasksCount = 0 := by
      rw [working.count, none]
      rfl
    have posted : ∀ more : List RemoverTask, (remover.postedTasks ++ (task.callbackTask ++
        [RemoverTask.notifyBrowsingDataRemoved task.mask]) ++ more).count
          RemoverTask.runNextTask = more.count .runNextTask := by
      simp [scheduled, callbackTask_count]
    unfold notifyRemovalComplete
    rw [queue]
    dsimp only
    cases rest with
    | nil =>
      let last : BrowsingDataRemoverImpl :=
        { remover with
          removalQueue := []
          postedTasks := remover.postedTasks ++ (task.callbackTask ++
            [.notifyBrowsingDataRemoved task.mask])
          isRemoving := false }
      refine ⟨last, _, ?_,
        working.next none queue working.valid working.alive rfl rfl none zero rfl ?_⟩
      · grind [setRemoving, postTasks, dcheck_of]
      · grind
    | cons next more =>
      let last : BrowsingDataRemoverImpl :=
        { remover with
          removalQueue := next :: more
          postedTasks := remover.postedTasks ++ (task.callbackTask ++
            [.notifyBrowsingDataRemoved task.mask]) ++ [.runNextTask] }
      exact ⟨last, _, rfl, working.next none queue working.valid working.alive rfl rfl none
        zero removing (posted [.runNextTask])⟩

/-- A closure is run: it is counted down, and the last one completes the removal. -/
theorem Working.runClosure (working : Working finished running log remover)
    (mem : closure ∈ remover.closures) :
    ∃ after events, remover.runClosure closure = some (after, .completed closure :: events) ∧
      (1 < remover.closures.length ∧ events = [] ∧ after = remover.countDown closure ∨
        remover.closures.length = 1 ∧
          Working (finished + 1) false (log ++ .completed closure :: events) after) := by
  have completed := working.completed mem
  have positive := List.length_pos_of_mem mem
  have counted : (remover.countDown closure).pendingTasksCount =
      ((remover.closures.length - 1 : Nat) : Int) := by
    rw [completed.count]
    simp [countDown, mem]
  have told : ∀ after events, (if 0 < (remover.countDown closure).pendingTasksCount then
      some (remover.countDown closure, []) else
        (remover.countDown closure).notifyRemovalComplete) = some (after, events) →
      remover.runClosure closure = some (after, .completed closure :: events) := by
    intro after events told
    have valid : remover.weakPtrsInvalidated = false := working.valid
    unfold BrowsingDataRemoverImpl.runClosure onTaskComplete
    rw [if_neg (by rw [valid]; simp)]
    refine Option.map_eq_some_iff.mpr ⟨(after, events), ?_, rfl⟩
    refine dcheck_bind_eq_some.mpr ⟨?_, told⟩
    simp [working.count, positive]
  by_cases last : 1 < remover.closures.length
  · refine ⟨_, _, told _ _ (if_pos ?_), Or.inl ⟨last, rfl, rfl⟩⟩
    rw [counted]
    omega
  · have none : (remover.countDown closure).closures = [] := by
      refine List.length_eq_zero_iff.mp ?_
      refine (List.length_erase_of_mem mem).trans ?_
      omega
    obtain ⟨after, events, notified, next⟩ := completed.notify none
    grind

/-! ## Whole removals -/

theorem one_lt_length {values : List Value} {first second : Value} (differs : first ≠ second)
    (mem : first ∈ values) (other : second ∈ values) : 1 < values.length := by
  match values, mem, other with
  | [single], mem, other =>
    grind
  | _ :: _ :: rest, _, _ => simp

/-- A removal whose closure for the synchronous operations has not been run. -/
structure Starting (finished : Nat) (log : List RemoverEvent)
    (remover : BrowsingDataRemoverImpl) : Prop where
  working : Working finished true log remover
  pending : ⟨finished, .synchronousClearOperations⟩ ∈ remover.closures

theorem Starting.completeAtOnce (starting : Starting finished log remover)
    (subTask : RemovalSubTask) :
    ∃ after events, completeAtOnce finished remover subTask = some (after, events) ∧
      Starting finished (log ++ events) after := by
  unfold BrowsingDataRemoverImpl.completeAtOnce
  split
  · next outstanding =>
    obtain ⟨mem, differs⟩ := outstanding
    have other : (⟨finished, subTask⟩ : RemovalClosure) ≠
        ⟨finished, .synchronousClearOperations⟩ :=
      fun same => differs (RemovalClosure.mk.inj same).2
    have several := one_lt_length other mem starting.pending
    obtain ⟨after, events, ran, ⟨-, rfl, rfl⟩ | ⟨single, -⟩⟩ := starting.working.runClosure mem
    · refine ⟨_, _, ran, starting.working.completed mem, ?_⟩
      simp [countDown, other.symm, starting.pending]
    · omega
  · grind

theorem Starting.runAction (starting : Starting finished log remover)
    (number : task.removal = finished) (atOnce : RemovalSubTask → List RemovalSubTask)
    (action : RemovalAction) :
    ∃ after events, runAction task atOnce remover action = some (after, events) ∧
      Starting finished (log ++ events) after := by
  cases action with
  | call call =>
    have silent : Silent (.called task.removal call) := ⟨rfl, rfl, rfl, rfl, by simp⟩
    exact ⟨_, _, rfl, starting.working.record silent (by simp), starting.pending⟩
  | start subTask =>
    have started : Starting finished
        (log ++ [.started ⟨finished, subTask⟩ task.deleteBegin task.deleteEnd])
        (remover.createPendingTaskCompletionClosure ⟨finished, subTask⟩) :=
      ⟨starting.working.start subTask task.deleteBegin task.deleteEnd,
        List.mem_append_left _ starting.pending⟩
    obtain ⟨last, more, replayed, holds⟩ := exists_replay? (atOnce subTask) started
      fun other starting => starting.completeAtOnce other
    refine ⟨last, .started ⟨finished, subTask⟩ task.deleteBegin task.deleteEnd :: more, ?_, ?_⟩
    · simp [BrowsingDataRemoverImpl.runAction, number, replayed]
    · rw [List.append_cons]
      exact holds

/-- What a run has reached: the removal at the head of the queue has a closure that has not
been run, or it waits to be run. -/
inductive Sound (log : List RemoverEvent) (remover : BrowsingDataRemoverImpl) : Prop where
  | working {finished : Nat} {running : Bool} (working : Working finished running log remover)
      (unfinished : running = true → remover.closures ≠ [])
  | shutDown (shutDown : ShutDown log remover)

/-- A closure may be run at any time. -/
theorem Working.runClosure_sound (working : Working finished running log remover)
    (mem : closure ∈ remover.closures) :
    ∃ after events, remover.runClosure closure = some (after, events) ∧
      Sound (log ++ events) after := by
  obtain ⟨after, events, ran, ⟨several, rfl, rfl⟩ | ⟨-, completed⟩⟩ := working.runClosure mem
  · refine ⟨_, _, ran, .working (working.completed mem) fun _ none => ?_⟩
    have fewer := List.length_erase_of_mem mem
    rw [show remover.closures.erase closure = [] from none, List.length_nil] at fewer
    omega
  · exact ⟨after, _, ran, .working completed fun off => nomatch off⟩

/-- `RemoveImpl` starts all its sub-tasks, and completes at once if all of them did. -/
theorem Working.removeImpl (working : Working finished true log remover)
    (number : task.removal = finished) (services : RemovalServices)
    (atOnce : RemovalSubTask → List RemovalSubTask) :
    ∃ after events, remover.removeImpl services atOnce task = some (after, events) ∧
      Sound (log ++ events) after := by
  let synchronous : RemovalClosure := ⟨finished, .synchronousClearOperations⟩
  have created : Starting finished
      (log ++ [.started synchronous task.deleteBegin task.deleteEnd])
      (remover.createPendingTaskCompletionClosure synchronous) :=
    ⟨working.start _ task.deleteBegin task.deleteEnd,
      List.mem_append_right _ (List.mem_singleton.mpr rfl)⟩
  obtain ⟨started, events, replayed, holds⟩ := exists_replay?
    (removalActions remover.isOffTheRecord remover.hasSessionService services task.mask) created
    fun action starting => starting.runAction number atOnce action
  grind [BrowsingDataRemoverImpl.removeImpl, holds.working.runClosure_sound, holds.pending]

/-- The next removal begins. -/
theorem Working.removing_turn (working : Working finished false log remover)
    (waiting : remover.removalQueue ≠ []) (taken : tasks.count .runNextTask = 0) :
    Working finished true (log ++ [.removing finished])
      ({ remover with postedTasks := tasks } : BrowsingDataRemoverImpl) where
  valid := working.valid
  alive := working.alive
  notShutDown := not_mem_concat working.notShutDown (by simp)
  requested := (filterMap_concat_none rfl).trans working.requested
  total := working.total
  queued := working.queued
  turned := by
    simp [working.turned, onlyIf, isTurn]
  conserved := by
    rw [filterMap_concat_none rfl, filterMap_concat_none rfl]
    exact working.conserved
  postedDone := fun removal mem => working.postedDone removal (by simpa using mem)
  count := working.count
  owned := working.owned
  idle := fun off => nomatch off
  busy := fun _ => waiting
  removing := working.removing
  scheduled := taken
  startedNow := working.startedNow_append (by simp)
  completedBefore := working.completedBefore.append (by simp) (by simp)

theorem runNextTask_eq {rest : List RemovalTask} (queue : remover.removalQueue = task :: rest)
    (services : RemovalServices) (atOnce : RemovalSubTask → List RemovalSubTask) :
    remover.runNextTask services atOnce =
      (remover.removeImpl services atOnce task).map fun (after, events) =>
        (after, .removing task.removal :: events) := by
  unfold BrowsingDataRemoverImpl.runNextTask
  rw [queue]

/-- `RunNextTask`, when its posted task was taken. -/
theorem Working.runNextTask (working : Working finished false log remover)
    (waiting : remover.removalQueue ≠ []) (taken : tasks.count .runNextTask = 0)
    (services : RemovalServices) (atOnce : RemovalSubTask → List RemovalSubTask) :
    ∃ after events, ({ remover with postedTasks := tasks } :
        BrowsingDataRemoverImpl).runNextTask services atOnce = some (after, events) ∧
      Sound (log ++ events) after := by
  have begun := working.removing_turn waiting taken
  obtain ⟨task, rest, queue⟩ := List.exists_cons_of_ne_nil waiting
  have queued := working.queued
  rw [queue, List.map_cons, List.length_cons, List.range'_succ] at queued
  have number : task.removal = finished := (List.cons.inj queued).1
  obtain ⟨after, events, removed, sound⟩ := begun.removeImpl number services atOnce
  grind [runNextTask_eq]

/-! ## Requests -/

/-- A request is queued; with nothing else in the queue it begins. -/
theorem Working.enqueue (working : Working finished running log remover) (task : RemovalTask)
    (number : task.removal = remover.nextRemoval) {now : Bool}
    (begun : now = running ∧ more = [] ∧ remover.removalQueue ≠ [] ∨
      now = true ∧ running = false ∧ more = [.removing finished] ∧
        remover.removalQueue = []) :
    Working finished now (log ++ .requested task.removal task.hasCallback :: more)
      { remover with
        removalQueue := remover.removalQueue ++ [task]
        nextRemoval := remover.nextRemoval + 1
        isRemoving := true } := by
  have added : ∀ event ∈ .requested task.removal task.hasCallback :: more,
      event = .requested task.removal task.hasCallback ∨ event = .removing finished := by
    grind
  have mem : ∀ event ∈ log ++ .requested task.removal task.hasCallback :: more,
      event ∈ log ∨ event = .requested task.removal task.hasCallback ∨
        event = .removing finished :=
    fun event inside => (List.mem_append.mp inside).imp id (added event)
  have noStart : ∀ closure deleteBegin deleteEnd, .started closure deleteBegin deleteEnd ∉
      RemoverEvent.requested task.removal task.hasCallback :: more := by
    grind
  have read : ∀ {Value : Type} {read : RemoverEvent → Option Value},
      read (.removing finished) = none → more.filterMap read = [] := by
    grind
  have noRequest : more.filterMap requested? = [] := read rfl
  have noCallback : more.filterMap requestedCallback? = [] := read rfl
  have noPost : more.filterMap posted? = [] := read rfl
  constructor
  case valid => exact working.valid
  case alive => exact working.alive
  case notShutDown =>
    grind [working.notShutDown]
  case requested =>
    simpa [requested?, working.requested, noRequest, number] using List.range_succ.symm
  case total =>
    simp [← Nat.add_assoc, working.total]
  case queued =>
    rw [List.map_append, working.queued, List.length_append, List.length_singleton,
      List.range'_1_concat, working.total, ← number]
    rfl
  case turned =>
    rw [List.filter_append, working.turned, List.filter_cons_of_neg (by simp [isTurn])]
    grind [onlyIf, isTurn]
  case conserved =>
    have conserved := working.conserved
    have callbacks : queuedCallbacks (remover.removalQueue ++ [task]) =
        queuedCallbacks remover.removalQueue ++ onlyIf task.hasCallback [task.removal] := by
      grind [queuedCallbacks, onlyIf]
    rw [callbacks, List.filterMap_append, List.filterMap_append, ← conserved]
    cases callback : task.hasCallback with
    | true | false =>
      simp [List.filterMap_cons, posted?, requestedCallback?, noPost, noCallback, onlyIf]
  case postedDone =>
    intro removal inside
    rcases mem _ inside with before | same | same
    · exact working.postedDone removal before
    · cases same
    · cases same
  case count => exact working.count
  case owned => exact working.owned
  case idle =>
    grind [working.idle]
  case busy => simp
  case removing =>
    simp
  case scheduled =>
    have scheduled := working.scheduled
    rcases begun with ⟨rfl, -, waiting⟩ | ⟨rfl, rfl, -, empty⟩
    · rw [scheduled]
      simp [waiting]
    · rw [scheduled, empty]
      rfl
  case startedNow => exact working.startedNow_append noStart
  case completedBefore =>
    grind [working.completedBefore.append]

/-- A request is queued behind others, or begins at once. -/
theorem Working.remove (working : Working finished running log remover)
    (unfinished : running = true → remover.closures ≠ []) {timePeriod : TimePeriod}
    {mask : BrowsingDataRemoveMask} (may : remover.MayRemove timePeriod mask)
    (deleteBegin deleteEnd : Nat) (hasCallback : Bool) (services : RemovalServices)
    (atOnce : RemovalSubTask → List RemovalSubTask) :
    ∃ after events, remover.step (.remove timePeriod deleteBegin deleteEnd mask hasCallback
        services atOnce) = some (after, events) ∧ Sound (log ++ events) after := by
  let task : RemovalTask := ⟨remover.nextRemoval, deleteBegin, deleteEnd, mask, hasCallback⟩
  simp only [BrowsingDataRemoverImpl.step, BrowsingDataRemoverImpl.remove, dcheck_of may,
    Option.bind_some]
  by_cases empty : remover.removalQueue = []
  · have idle : running = false :=
      Bool.eq_false_iff.mpr fun active => working.busy active empty
    have begun := working.enqueue task rfl (Or.inr ⟨rfl, idle, rfl, empty⟩)
    have number : task.removal = finished := by
      grind [working.total]
    obtain ⟨after, events, removed, sound⟩ := begun.removeImpl number services atOnce
    have single : (remover.removalQueue ++ [task]).length = 1 := by
      rw [empty]
      rfl
    have still : remover.isRemoving ≠ true := by
      rw [working.removing, empty]
      simp
    let queued : BrowsingDataRemoverImpl :=
      { remover with
        removalQueue := remover.removalQueue ++ [task]
        nextRemoval := remover.nextRemoval + 1
        isRemoving := true }
    refine ⟨after, .requested task.removal hasCallback :: .removing task.removal :: events,
      ?_, ?_⟩
    · rw [if_pos single, setRemoving, dcheck_of still]
      grind [runNextTask_eq]
    · grind
  · have waiting := working.enqueue task rfl (Or.inl ⟨rfl, rfl, empty⟩)
    have several : (remover.removalQueue ++ [task]).length ≠ 1 := by
      simp [empty]
    have removing : remover.isRemoving = true := by
      rw [working.removing]
      simp [empty]
    let queued : BrowsingDataRemoverImpl :=
      { remover with
        removalQueue := remover.removalQueue ++ [task]
        nextRemoval := remover.nextRemoval + 1 }
    have same : { queued with isRemoving := true } = queued := by
      rw [← removing]
    refine ⟨queued, [.requested task.removal hasCallback], ?_,
      .working (same ▸ waiting) unfinished⟩
    rw [if_neg several]
    rfl

/-- The events of a shutdown. -/
theorem postedEvents_reads (queue : List RemovalTask) :
    (queue.flatMap RemovalTask.postedEvent).filterMap posted? = queuedCallbacks queue ∧
      (queue.flatMap RemovalTask.postedEvent).filterMap requested? = [] ∧
      (queue.flatMap RemovalTask.postedEvent).filterMap requestedCallback? = [] ∧
      (queue.flatMap RemovalTask.postedEvent).filter isTurn = [] ∧
      ∀ event ∈ queue.flatMap RemovalTask.postedEvent, ∃ removal, event = .posted removal := by
  induction queue with
  | nil => simp [queuedCallbacks]
  | cons _ _ _ =>
    grind [RemovalTask.postedEvent, queuedCallbacks_cons, postedEvent_reads]

theorem Working.shutdown (working : Working finished running log remover) :
    ∃ after events, remover.shutdown = some (after, events) ∧ ShutDown (log ++ events) after := by
  obtain ⟨posts, noRequest, noCallback, noTurn, onlyPosts⟩ :=
    postedEvents_reads remover.removalQueue
  have added : ∀ event ∈ .shutdown :: remover.removalQueue.flatMap RemovalTask.postedEvent,
      event = .shutdown ∨ ∃ removal, event = .posted removal := by
    grind
  let last : BrowsingDataRemoverImpl :=
    { remover with
      weakPtrsInvalidated := true
      hasBrowserState := false
      isRemoving := false
      removalQueue := []
      postedTasks := remover.postedTasks ++
        remover.removalQueue.flatMap RemovalTask.callbackTask }
  refine ⟨last, .shutdown :: remover.removalQueue.flatMap RemovalTask.postedEvent, ?_, ?_⟩
  · unfold BrowsingDataRemoverImpl.shutdown
    cases removing : remover.isRemoving with
    | true | false => rfl
  · constructor
    case invalid => rfl
    case gone => rfl
    case closed => simp
    case requested =>
      grind [requested?, working.requested]
    case queue => rfl
    case removing => rfl
    case turned =>
      refine ⟨finished, running, ?_⟩
      simp [isTurn, working.turned, noTurn]
    case posted =>
      rw [List.filterMap_append, List.filterMap_append, List.filterMap_cons,
        List.filterMap_cons, ← working.conserved]
      simp [posted?, requestedCallback?, posts, noCallback]
    case completedBefore =>
      grind [working.completedBefore.append]

theorem ShutDown.record (shutDown : ShutDown log remover) (silent : Silent event)
    (noStart : ∀ closure deleteBegin deleteEnd, event ≠ .started closure deleteBegin deleteEnd)
    {closures : List RemovalClosure} :
    ShutDown (log ++ [event])
      ({ remover with closures := closures, postedTasks := tasks } : BrowsingDataRemoverImpl) where
  invalid := shutDown.invalid
  gone := shutDown.gone
  closed := List.mem_append_left _ shutDown.closed
  requested := (filterMap_concat_none silent.noRequest).trans shutDown.requested
  queue := shutDown.queue
  removing := shutDown.removing
  turned := by
    grind [shutDown.turned, silent.noTurn]
  posted := by
    simp [silent.noPost, silent.noCallback, shutDown.posted]
  completedBefore := shutDown.completedBefore.extend noStart silent.noTurn

end BrowsingDataRemoverImpl

end ChromiumIos
