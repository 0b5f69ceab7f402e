import ChromiumIos.BrowsingData.RemovalSteps

/-!
# Removals run one at a time

The count of the closures falls to zero once for each removal, after its last sub-task, so
removals are notified one after the other and each callback is posted once.
-/

namespace ChromiumIos

open Lib

namespace BrowsingDataRemoverImpl

open RemoverEvent

variable {remover after : BrowsingDataRemoverImpl} {log events : List RemoverEvent}
variable {finished removal : Nat} {running : Bool}

/-- Another posted task is taken than the one for the next removal. -/
theorem Working.takeTask (working : Working finished running log remover)
    {tasks : List RemoverTask}
    (others : tasks.count .runNextTask = remover.postedTasks.count .runNextTask) :
    Working finished running log
      ({ remover with postedTasks := tasks } : BrowsingDataRemoverImpl) :=
  { working with scheduled := others.trans working.scheduled }

theorem Working.runPostedTask (working : Working finished running log remover)
    (unfinished : running = true → remover.closures ≠ []) (services : RemovalServices)
    (atOnce : RemovalSubTask → List RemovalSubTask) :
    ∃ after events, remover.runPostedTask services atOnce = some (after, events) ∧
      Sound (log ++ events) after := by
  unfold BrowsingDataRemoverImpl.runPostedTask
  have scheduled := working.scheduled
  cases tasks : remover.postedTasks with
  | nil => exact ⟨remover, [], rfl, by simpa using .working working unfinished⟩
  | cons posted rest =>
    rw [tasks] at scheduled
    have kept : posted ≠ .runNextTask →
        rest.count .runNextTask = remover.postedTasks.count .runNextTask := by
      grind
    cases posted with
    | callback removal =>
      have taken := working.takeTask (kept (by simp))
      have silent : Silent (.ranCallback removal) := ⟨rfl, rfl, rfl, rfl, by simp⟩
      exact ⟨_, _, rfl, .working (taken.record silent (by simp)) unfinished⟩
    | notifyBrowsingDataRemoved mask =>
      have taken := working.takeTask (kept (by simp))
      have silent : Silent (.browsingDataRemoved mask) := ⟨rfl, rfl, rfl, rfl, by simp⟩
      have told : onlyIf (!remover.weakPtrsInvalidated)
          [RemoverEvent.browsingDataRemoved mask] = [.browsingDataRemoved mask] := by
        rw [working.valid]
        rfl
      exact ⟨_, _, congrArg (fun events => some (_, events)) told,
        .working (taken.record silent (by simp)) unfinished⟩
    | runNextTask =>
      have none : rest.count .runNextTask = 0 := by
        grind
      have turn : ¬ (running || remover.removalQueue.isEmpty) = true := by
        grind
      have idle : running = false := by
        grind
      subst idle
      have waiting : remover.removalQueue ≠ [] := fun empty => turn (by rw [empty]; rfl)
      obtain ⟨after, events, ran, sound⟩ :=
        working.runNextTask waiting none services atOnce
      refine ⟨after, events, (if_neg ?_).trans ran, sound⟩
      simp [working.valid]

theorem ShutDown.runPostedTask (shutDown : ShutDown log remover) (services : RemovalServices)
    (atOnce : RemovalSubTask → List RemovalSubTask) :
    ∃ after events, remover.runPostedTask services atOnce = some (after, events) ∧
      ShutDown (log ++ events) after := by
  unfold BrowsingDataRemoverImpl.runPostedTask
  have unchanged : ∀ tasks : List RemoverTask,
      ShutDown (log ++ []) ({ remover with postedTasks := tasks } : BrowsingDataRemoverImpl) := by
    intro tasks
    simpa using { shutDown with }
  cases tasks : remover.postedTasks with
  | nil => grind
  | cons posted rest =>
    cases posted with
    | callback removal =>
      have silent : Silent (.ranCallback removal) := ⟨rfl, rfl, rfl, rfl, by simp⟩
      simp [shutDown.record, silent]
    | notifyBrowsingDataRemoved mask =>
      have told : onlyIf (!remover.weakPtrsInvalidated)
          [RemoverEvent.browsingDataRemoved mask] = [] := by
        rw [shutDown.invalid]
        rfl
      grind
    | runNextTask =>
      exact ⟨_, [], if_pos shutDown.invalid, unchanged rest⟩

theorem ShutDown.runClosure (shutDown : ShutDown log remover) (closure : RemovalClosure) :
    ∃ after events, remover.runClosure closure = some (after, events) ∧
      ShutDown (log ++ events) after := by
  have silent : Silent (.completed closure) := ⟨rfl, rfl, rfl, rfl, by simp⟩
  exact ⟨_, _, if_pos shutDown.invalid, shutDown.record silent (by simp)⟩

/-- Whatever is done, no assertion fails and the removals stay in order. -/
theorem Sound.step (sound : Sound log remover) {input : Input} (accepted : remover.Accepts input) :
    ∃ after events, remover.step input = some (after, events) ∧ Sound (log ++ events) after := by
  cases sound with
  | working working unfinished =>
    cases input with
    | remove _ deleteBegin deleteEnd _ hasCallback services atOnce =>
      exact working.remove unfinished accepted deleteBegin deleteEnd hasCallback services
        atOnce
    | complete _ => exact working.runClosure_sound accepted
    | runPostedTask services atOnce => exact working.runPostedTask unfinished services atOnce
    | shutdown =>
      obtain ⟨after, events, ran, shutDown⟩ := working.shutdown
      exact ⟨after, events, ran, .shutDown shutDown⟩
  | shutDown shutDown =>
    cases input with
    | remove _ _ _ _ _ _ _ =>
      have alive : remover.hasBrowserState = true := accepted.1
      rw [shutDown.gone] at alive
      cases alive
    | complete closure =>
      obtain ⟨after, events, ran, shutDown⟩ := shutDown.runClosure closure
      exact ⟨after, events, ran, .shutDown shutDown⟩
    | runPostedTask services atOnce =>
      obtain ⟨after, events, ran, shutDown⟩ := shutDown.runPostedTask services atOnce
      exact ⟨after, events, ran, .shutDown shutDown⟩
    | shutdown =>
      have alive : remover.hasBrowserState = true := accepted
      rw [shutDown.gone] at alive
      cases alive

theorem sound_initial (isOffTheRecord hasSessionService : Bool) :
    Sound [] (initial isOffTheRecord hasSessionService) := by
  have working : Working 0 false [] (initial isOffTheRecord hasSessionService) := by
    constructor
    case valid => rfl
    case alive => rfl
    case notShutDown => exact List.not_mem_nil
    case requested => rfl
    case total => rfl
    case queued => rfl
    case turned => rfl
    case conserved => rfl
    case postedDone => exact fun _ mem => nomatch mem
    case count => rfl
    case owned => exact fun _ mem => nomatch mem
    case idle => exact fun _ => rfl
    case busy => exact fun off => nomatch off
    case removing => rfl
    case scheduled => rfl
    case startedNow => exact fun _ _ _ mem => nomatch mem
    case completedBefore => exact fun _ _ _ mem => nomatch mem
  exact .working working fun off => nomatch off

theorem run_sound {isOffTheRecord hasSessionService : Bool}
    (run : Runs step Accepts (initial isOffTheRecord hasSessionService) log remover) :
    Sound log remover := by
  refine run.invariant_outputs Sound (sound_initial isOffTheRecord hasSessionService) ?_
  intro log remover after input events _ sound accepted stepped
  grind [sound.step]

/-- Removals run one at a time in the order requested; the count is that of the closures of
the removal that is running, each removal is notified after its sub-tasks, and each callback
is posted once, when its removal completes or at the shutdown. -/
structure OneAtATime (log : List RemoverEvent) (remover : BrowsingDataRemoverImpl) : Prop where
  requested : log.filterMap requested? = List.range remover.nextRemoval
  inTurn : ∃ finished running, log.filter isTurn =
    turns finished ++ onlyIf running [.removing finished]
  counted : remover.weakPtrsInvalidated = false →
    remover.pendingTasksCount = remover.closures.length
  ofCurrent : remover.weakPtrsInvalidated = false → ∀ closure ∈ remover.closures,
    .removing closure.removal ∈ log ∧ .notified closure.removal ∉ log ∧
      remover.removalQueue.head?.map RemovalTask.removal = some closure.removal
  proceeds : remover.weakPtrsInvalidated = false → remover.closures = [] →
    remover.removalQueue ≠ [] → remover.postedTasks.count .runNextTask = 1
  completedBefore : CompletedBefore log
  removing : remover.isRemoving = true ↔ remover.removalQueue ≠ [] ∧ .shutdown ∉ log
  callbacks : ∀ removal, log.count (.posted removal) =
    if .requested removal true ∈ log ∧ (.notified removal ∈ log ∨ .shutdown ∈ log) then 1 else 0

theorem count_posted (log : List RemoverEvent) (removal : Nat) :
    log.count (.posted removal) = (log.filterMap posted?).count removal := by
  induction log with
  | nil => rfl
  | cons event _ ih =>
    cases event with
    | posted _ =>
      simp [posted?, List.count_cons, ih]
    | requested | removing | started | called | completed | notified | ranCallback
      | browsingDataRemoved | shutdown =>
        rw [List.count_cons_of_ne (by simp), ih]
        rfl

theorem mem_requestedCallback : removal ∈ log.filterMap requestedCallback? ↔
    .requested removal true ∈ log := by
  rw [List.mem_filterMap]
  constructor
  · rintro ⟨event, mem, read⟩
    cases event with
    | requested _ hasCallback =>
      cases hasCallback with
      | true =>
        cases read
        exact mem
      | false => cases read
    | posted | removing | started | called | completed | notified | ranCallback
      | browsingDataRemoved | shutdown => cases read
  · exact fun mem => ⟨_, mem, rfl⟩

/-- Every request has its own number. -/
theorem requestedCallback_nodup {removals : Nat}
    (requested : log.filterMap requested? = List.range removals) :
    (log.filterMap requestedCallback?).Nodup := by
  have fewer : (log.filterMap requestedCallback?).Sublist (log.filterMap requested?) := by
    clear requested
    induction log with
    | nil => exact List.Sublist.refl _
    | cons event _ ih =>
      cases event with
      | requested _ hasCallback =>
        cases hasCallback <;> grind [requestedCallback?, requested?]
      | posted | removing | started | called | completed | notified | ranCallback
        | browsingDataRemoved | shutdown => exact ih
  grind

theorem Working.oneAtATime (working : Working finished running log remover)
    (unfinished : running = true → remover.closures ≠ []) : OneAtATime log remover := by
  have notShutDown := working.notShutDown
  constructor
  case requested => exact working.requested
  case inTurn => exact ⟨finished, running, working.turned⟩
  case counted => exact fun _ => working.count
  case ofCurrent =>
    intro _ closure mem
    have owned := working.owned closure mem
    have active : running = true :=
      Bool.of_not_eq_false fun off => absurd mem (working.idle off ▸ List.not_mem_nil)
    refine ⟨?_, fun notified => ?_, ?_⟩
    · have turn : RemoverEvent.removing closure.removal ∈ log.filter isTurn := by
        rw [working.turned, active, owned]
        simp [onlyIf]
      exact (List.mem_filter.mp turn).1
    · exact Nat.lt_irrefl _ (owned ▸ working.notified.mp notified)
    · obtain ⟨task, rest, queue⟩ := List.exists_cons_of_ne_nil (working.busy active)
      grind [List.range'_succ, working.queued]
  case proceeds =>
    grind [working.scheduled]
  case completedBefore => exact working.completedBefore
  case removing =>
    rw [working.removing]
    simp [notShutDown]
  case callbacks =>
    intro removal
    have distinct := requestedCallback_nodup working.requested
    have wanted : .requested removal true ∈ log ↔ removal ∈ log.filterMap posted? ∨
        removal ∈ queuedCallbacks remover.removalQueue := by
      simp [← mem_requestedCallback, ← working.conserved]
    rw [← working.conserved] at distinct
    rw [count_posted]
    have ahead : removal ∈ queuedCallbacks remover.removalQueue → ¬ removal < finished := by
      grind [queuedCallbacks, working.queued, List.mem_map_of_mem]
    by_cases done : removal ∈ log.filterMap posted?
    · have earlier : removal < finished := by
        obtain ⟨event, mem, read⟩ := List.mem_filterMap.mp done
        cases event with
        | posted _ =>
          cases read
          exact working.postedDone removal mem
        | requested | removing | started | called | completed | notified | ranCallback
          | browsingDataRemoved | shutdown => cases read
      grind [working.notified.mpr]
    · rw [if_neg ?_]
      · exact List.count_eq_zero.mpr done
      · rintro ⟨mem, earlier | closed⟩
        · exact (wanted.mp mem).elim done fun queued =>
            ahead queued (working.notified.mp earlier)
        · exact notShutDown closed

theorem ShutDown.oneAtATime (shutDown : ShutDown log remover) : OneAtATime log remover := by
  have invalid : ∀ {Result : Prop}, remover.weakPtrsInvalidated = false → Result := by
    simp [shutDown.invalid]
  constructor
  case requested => exact shutDown.requested
  case inTurn => exact shutDown.turned
  case counted => exact invalid
  case ofCurrent => exact invalid
  case proceeds => exact invalid
  case completedBefore => exact shutDown.completedBefore
  case removing =>
    rw [shutDown.removing]
    simp [shutDown.queue]
  case callbacks =>
    intro removal
    have distinct := requestedCallback_nodup shutDown.requested
    rw [count_posted, shutDown.posted]
    by_cases wanted : removal ∈ log.filterMap requestedCallback?
    · rw [if_pos ⟨mem_requestedCallback.mp wanted, Or.inr shutDown.closed⟩]
      simp [distinct, wanted]
    · rw [if_neg fun both => wanted (mem_requestedCallback.mpr both.1)]
      exact List.count_eq_zero.mpr wanted

instance (remover : BrowsingDataRemoverImpl) : (input : Input) → Decidable (remover.Accepts input)
  | .remove timePeriod _ _ mask _ _ _ =>
    inferInstanceAs (Decidable (remover.MayRemove timePeriod mask))
  | .complete closure => inferInstanceAs (Decidable (closure ∈ remover.closures))
  | .runPostedTask _ _ => isTrue trivial
  | .shutdown => inferInstanceAs (Decidable (remover.hasBrowserState = true))

end BrowsingDataRemoverImpl

end ChromiumIos
