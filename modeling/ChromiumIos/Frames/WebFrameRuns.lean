import ChromiumIos.Frames.WebFrameCalls

/-!
# Every callback is run with what it is due

The loop that cancels the pending requests comes to every request that is there,
also to those that the callbacks it runs add behind the one it is at.  With the
inputs that end one request this gives what holds in every run.
-/

namespace ChromiumIos

open Lib

variable {Key Origin Value : Type}

namespace WebFrameImpl

variable {impl after : WebFrameImpl Key Origin} {log emitted : List (FrameEvent Value)}
variable {request : PendingRequest} {callbacks : RequestCallbacks} {number : Nat}

/-! ## Cancelling the pending requests -/

/-- The requests up to a key have been visited and have no callbacks; the others have. -/
def Visited (visited : Option Nat) (impl : WebFrameImpl Key Origin) : Prop :=
  ∀ request ∈ impl.pendingRequests,
    if visited.all fun key => key < requestKey request.messageId then request.callbacks.isSome
    else request.callbacks = none

variable {visited : Option Nat} {messageId : Int}

/-- The next request of the loop is the first that has not been visited. -/
theorem nextRequest_eq_some (tracks : Tracks true log impl)
    (next : impl.nextRequest visited = some request) :
    request ∈ impl.pendingRequests ∧
      ∀ other ∈ impl.pendingRequests,
        (visited.all fun key => key < requestKey other.messageId) = true →
          other = request ∨ requestKey request.messageId < requestKey other.messageId := by
  obtain ⟨-, before, rest, split, visitedBefore⟩ := List.find?_eq_some_iff_append.mp next
  have mem : request ∈ impl.pendingRequests := List.mem_of_find?_eq_some next
  refine ⟨mem, fun other memOther notVisited => ?_⟩
  rw [split] at memOther
  rcases List.mem_append.mp memOther with memBefore | memRest
  · grind
  · rcases List.mem_cons.mp memRest with same | memRest
    · exact .inl same
    · have sorted := tracks.sorted
      rw [split] at sorted
      have larger := (List.pairwise_cons.mp (List.pairwise_append.mp sorted).2.1).1 other memRest
      obtain ⟨nonneg, -⟩ := tracks.issued request mem
      have within := (tracks.issued other
        (split ▸ List.mem_append_right _ (List.mem_cons_of_mem _ memRest))).2
      have bound := tracks.next.2
      exact .inr (requestKey_lt nonneg larger (by omega))

/-- While the frame is going a callback is run with null. -/
theorem Tracks.cancelled (tracks : Tracks true log impl) (mem : request ∈ impl.pendingRequests)
    (has : callbacks ∈ request.callbacks) :
    Tracks true (log ++ [.completed callbacks.number none])
      (impl.moveCallbacks request.messageId) := by
  have waiting := (tracks.pending request mem callbacks has).1
  have answered : (fate callbacks.number (log ++ [])).due true = .answered none := by
    rw [List.append_nil, waiting]
    rfl
  have unchanged : ∀ other, other ≠ callbacks.number →
      fate other (log ++ ([] : List (FrameEvent Value))) = fate other log ∧
        completions other ([] : List (FrameEvent Value)) = [] :=
    fun other _ => ⟨by rw [List.append_nil], rfl⟩
  exact tracks.complete (tracks.withdraws_move mem has) (isPending_of_mem mem has) answered rfl
    unchanged

/-- One turn of the loop. -/
theorem visited_turn (tracks : Tracks true log impl) (visiting : Visited visited impl)
    (next : impl.nextRequest visited = some request) (has : callbacks ∈ request.callbacks)
    (ran : runCallback callbacks.completion (impl.moveCallbacks request.messageId) =
      some (after, emitted)) :
    Tracks true (log ++ (.completed callbacks.number none :: emitted)) after ∧
      Visited (some (requestKey request.messageId)) after ∧
      after.webState = impl.webState ∧ after.alive = impl.alive := by
  obtain ⟨mem, later⟩ := nextRequest_eq_some tracks next
  have moved := tracks.cancelled mem has
  obtain ⟨kept, grows⟩ := runCallback_tracks moved ran
  rw [List.append_assoc] at kept
  obtain ⟨added, pending, new⟩ := grows.pending
  refine ⟨kept, fun other memOther => ?_, grows.webState, grows.alive⟩
  have original := memOther
  rw [pending] at memOther
  rcases List.mem_append.mp memOther with memMoved | memAdded
  · obtain ⟨source, memSource, rfl⟩ := List.mem_map.mp memMoved
    by_cases same : requestKey source.messageId = requestKey request.messageId
    · rw [if_pos same]
      simp [same]
    · rw [if_neg same]
      have sourceVisited := visiting source memSource
      by_cases notVisited : (visited.all fun key => key < requestKey source.messageId) = true
      · grind
      · rw [if_neg notVisited] at sourceVisited
        have notLarger : ¬ requestKey request.messageId < requestKey source.messageId := by
          intro larger
          have beyond := List.find?_some next
          apply notVisited
          cases visited <;> grind
        simpa [notLarger] using sourceVisited
  · obtain ⟨above, hasCallbacks⟩ := new other memAdded
    obtain ⟨nonneg, below⟩ := tracks.issued request mem
    have within := (kept.issued other original).2
    have bound := kept.next.2
    have larger : requestKey request.messageId < requestKey other.messageId :=
      requestKey_lt nonneg (Int.lt_of_lt_of_le below above) (by omega)
    simpa [larger] using hasCallbacks

variable {bound : Nat}

/-- The loop ends when the callbacks of all requests have been run. -/
theorem cancelLoop_tracks (tracks : Tracks true log impl) (visiting : Visited visited impl)
    (returned : cancelLoop bound visited impl = some (after, emitted)) :
    Tracks true (log ++ emitted) after ∧
      (∀ request ∈ after.pendingRequests, request.callbacks = none) ∧
      after.webState = impl.webState ∧ after.alive = impl.alive := by
  induction bound generalizing visited impl log emitted with
  | zero => cases returned
  | succ _ _ =>
    unfold cancelLoop at returned
    split at returned
    · next ended =>
        cases returned
        refine ⟨by rwa [List.append_nil], fun request mem => ?_, rfl, rfl⟩
        have requestVisited := visiting request mem
        have notAfter := List.find?_eq_none.mp ended request mem
        rwa [if_neg notAfter] at requestVisited
    · cases returned
    · next messageId callbacks next =>
        obtain ⟨⟨middle, first⟩, ran, returned⟩ := Option.bind_eq_some_iff.mp returned
        obtain ⟨⟨last, rest⟩, looped, result⟩ := Option.map_eq_some_iff.mp returned
        obtain ⟨kept, visitedMore, webState, alive⟩ :=
          visited_turn tracks visiting next rfl ran
        grind

theorem Settled.going (settled : Settled log impl) : Tracks true log impl where
  sorted := settled.tracks.sorted
  issued := settled.tracks.issued
  next := settled.tracks.next
  pending := settled.tracks.pending
  settled number idle := by
    obtain ⟨runs, notWaiting⟩ := settled.tracks.settled number idle
    have same : (fate number log).due true = (fate number log).due false := by
      cases found : fate number log with
      | waiting messageId => exact absurd found (notWaiting messageId)
      | uncalled | refused | answered result => rfl
    rw [same]
    exact ⟨runs, notWaiting⟩
  fresh := settled.tracks.fresh
  timed := settled.tracks.timed

/-- When all requests have been cancelled the frame may go. -/
theorem Tracks.destroyed (tracks : Tracks true log impl)
    (emptied : ∀ request ∈ impl.pendingRequests, request.callbacks = none)
    (sameFrame : after.frame = impl.frame) (sameCount : after.callbackCount = impl.callbackCount)
    (sameTasks : after.delayedTasks = impl.delayedTasks) (none : after.pendingRequests = []) :
    Tracks false (log ++ [.destroyed]) after := by
  have noneLeft : ∀ number, ¬ impl.IsPending number := by
    rintro number ⟨request, mem, callbacks, has, -⟩
    rw [emptied request mem] at has
    cases has
  have fates : ∀ number, fate number (log ++ [.destroyed]) = (fate number log).due true := by
    intro number
    rw [fate_append]
    cases fate number log <;> rfl
  have runs : ∀ number, completions number (log ++ [.destroyed]) = completions number log := by
    simp [completions]
  constructor
  · rw [none]
    exact .nil
  · simp [none]
  · rw [sameFrame]
    exact tracks.next
  · simp [none]
  · intro number _
    rw [fates, runs]
    exact tracks.settled number (noneLeft number)
  · intro number beyond
    rw [sameCount] at beyond
    rw [fates, tracks.fresh number beyond]
    rfl
  · intro task mem
    rw [sameTasks] at mem
    simp [sameCount, fates, tracks.timed, mem, tracks.settled, noneLeft]

theorem cancelPendingRequests_settled (settled : Settled log impl)
    (returned : impl.cancelPendingRequests = some (after, emitted)) (alive : Bool) :
    Settled (log ++ (emitted ++ [.destroyed]))
      { after.detachFromWebState with alive := alive } := by
  obtain ⟨⟨_, _⟩, loop, result⟩ := Option.map_eq_some_iff.mp returned
  cases result
  have unvisited : Visited none impl := fun request mem => settled.calm request mem
  obtain ⟨kept, emptied, -, -⟩ := cancelLoop_tracks settled.going unvisited loop
  rw [← List.append_assoc]
  refine ⟨kept.destroyed emptied rfl rfl rfl rfl, ?_, fun _ => rfl, fun _ => rfl⟩
  intro request mem
  cases mem

/-! ## The inputs -/

theorem findRequest_eq_some (tracks : Tracks false log impl) (isInt : IsInt messageId)
    (found : impl.findRequest messageId = some request) :
    request ∈ impl.pendingRequests ∧ request.messageId = messageId := by
  have mem : request ∈ impl.pendingRequests := List.mem_of_find?_eq_some found
  have same : requestKey request.messageId = requestKey messageId := by
    simpa using List.find?_some found
  exact ⟨mem, (tracks.requestKey_eq_iff mem isInt).mp same⟩

/-- An id under which nothing is pending is the id of no waiting callback. -/
theorem Settled.not_waiting (settled : Settled log impl)
    (missing : impl.findRequest messageId = none) : fate number log ≠ .waiting messageId := by
  intro waiting
  obtain ⟨request, mem, same, -⟩ := settled.waiting_iff.mp waiting
  refine List.find?_eq_none.mp missing request mem ?_
  rw [same]
  exact decide_eq_true rfl

/-- Events that no callback notices leave what is owed. -/
theorem Settled.unnoticed (settled : Settled log impl)
    (unnoticed : ∀ number, Unnoticed number (· = fate number log) emitted) :
    Settled (log ++ emitted) impl := by
  have sameFate : ∀ number, fate number (log ++ emitted) = fate number log :=
    fun number => (unnoticed number).fate_append rfl
  have sameRuns : ∀ number, completions number (log ++ emitted) = completions number log :=
    fun number => (unnoticed number).completions_append
  obtain ⟨tracks, calm, detached, gone⟩ := settled
  refine ⟨⟨tracks.sorted, tracks.issued, tracks.next, ?_, ?_, ?_, ?_⟩, calm, detached, gone⟩
  · simpa [sameFate, sameRuns] using tracks.pending
  · simpa [sameFate, sameRuns] using tracks.settled
  · simpa [sameFate] using tracks.fresh
  · simpa [sameFate] using tracks.timed

variable (settled : Settled log impl)
include settled

theorem Settled.replied_unnoticed (missing : ∀ number, fate number log ≠ .waiting messageId)
    (result : Option Value) : Settled (log ++ [.replied messageId result]) impl :=
  by grind [unnoticed_replied, settled.unnoticed]

theorem onJavaScriptReply_settled {command : ReplyCommand Value}
    (isInt : ∀ messageId ∈ command.messageId, IsInt messageId)
    (returned : impl.onJavaScriptReply command = some (after, emitted)) :
    Settled (log ++ (impl.toldBy command ++ emitted)) after := by
  unfold onJavaScriptReply at returned
  split at returned
  · next other =>
      cases returned
      simpa [toldBy, other] using settled
  next meant =>
  rw [Decidable.not_not] at meant
  split at returned
  · next nameless =>
      cases returned
      simpa [toldBy, nameless] using settled
  · next messageId replyId =>
      rw [toldBy, if_pos meant, replyId]
      split at returned
      · next missing =>
          cases returned
          exact settled.replied_unnoticed (fun _ => settled.not_waiting missing) _
      · cases returned
      · next requestId callbacks found =>
          obtain ⟨mem, rfl⟩ := findRequest_eq_some settled.tracks (isInt _ replyId) found
          obtain ⟨⟨_, _⟩, ran, result⟩ := Option.map_eq_some_iff.mp returned
          cases result
          exact settled.completeErased mem rfl (settled.ends_replied mem rfl _) ran

omit settled

variable {input : Input Value} {result : Option Value}

theorem onEvaluated_settled (settled : Settled log impl) (isInt : IsInt messageId)
    (returned : impl.onEvaluated messageId result = some (after, emitted)) :
    Settled (log ++ .replied messageId result :: emitted) after := by
  unfold onEvaluated at returned
  split at returned
  · unfold completeRequest at returned
    split at returned
    · next missing =>
        cases returned
        exact settled.replied_unnoticed (fun _ => settled.not_waiting missing) _
    · cases returned
    · next requestId callbacks found =>
        obtain ⟨mem, rfl⟩ := findRequest_eq_some settled.tracks isInt found
        obtain ⟨⟨_, _⟩, ran, outcome⟩ := Option.map_eq_some_iff.mp returned
        cases outcome
        exact settled.completeMoved mem rfl (settled.ends_replied mem rfl _)
          (settled.tracks.withdraws_move mem rfl) rfl rfl rfl ran
  · next gone =>
      cases returned
      refine settled.replied_unnoticed (fun number waiting => ?_) _
      obtain ⟨_, mem, -⟩ := settled.waiting_iff.mp waiting
      have detached := settled.gone (Bool.not_eq_true _ ▸ gone)
      cases (settled.webState_of_pending mem).symm.trans detached

theorem isScheduled_iff : impl.isScheduled number = true ↔ impl.IsPending number := by
  simp [isScheduled, IsPending, Option.any_eq_true]

/-- A delayed task is removed when it runs. -/
theorem Settled.taskTaken (settled : Settled log impl) (idle : ¬ impl.IsPending number) :
    Settled log { impl with delayedTasks := impl.delayedTasks.erase (number, messageId) } := by
  obtain ⟨tracks, calm, detached, gone⟩ := settled
  refine ⟨⟨tracks.sorted, tracks.issued, tracks.next, ?_, tracks.settled, tracks.fresh, ?_⟩, calm,
    detached, gone⟩
  · intro request mem callbacks has
    obtain ⟨waiting, unrun, scheduled⟩ := tracks.pending request mem callbacks has
    refine ⟨waiting, unrun, (List.mem_erase_of_ne ?_).mpr scheduled⟩
    intro same
    exact idle ⟨request, mem, callbacks, has, congrArg Prod.fst same⟩
  · exact fun task mem => tracks.timed task (List.mem_of_mem_erase mem)

/-- Moving callbacks out does not depend on the delayed tasks of the same number. -/
theorem withdraws_taskTaken (tracks : Tracks false log impl)
    (mem : request ∈ impl.pendingRequests) (has : callbacks ∈ request.callbacks) :
    Withdraws impl callbacks.number (({ impl with
      delayedTasks := impl.delayedTasks.erase (callbacks.number, request.messageId) } :
        WebFrameImpl Key Origin).moveCallbacks request.messageId) := by
  obtain ⟨frame, count, sorted, came, stays, -, -⟩ := tracks.withdraws_move mem has
  refine ⟨frame, count, sorted, came, stays, fun task memTask => List.mem_of_mem_erase memTask, ?_⟩
  grind [moveCallbacks]

include settled

/-- A task that is not void finds the request it is to cancel. -/
theorem Settled.scheduled_request (posted : (number, messageId) ∈ impl.delayedTasks)
    (scheduled : impl.isScheduled number = true) :
    ∃ callbacks, callbacks.number = number ∧ ⟨messageId, some callbacks⟩ ∈ impl.pendingRequests ∧
      impl.findRequest messageId = some ⟨messageId, some callbacks⟩ := by
  obtain ⟨⟨requestId, _⟩, mem, callbacks, rfl, rfl⟩ := isScheduled_iff.mp scheduled
  have waiting := (settled.tracks.pending _ mem callbacks rfl).1
  have same : messageId = requestId := (settled.tracks.timed _ posted).2 _ waiting
  subst same
  refine ⟨callbacks, rfl, mem, ?_⟩
  cases found : impl.findRequest messageId with
  | none => exact absurd waiting (settled.not_waiting found)
  | some _ =>
    have isInt : IsInt messageId := by
      obtain ⟨nonneg, below⟩ := settled.tracks.issued _ mem
      exact isInt_of_nonneg nonneg (Int.le_trans (Int.le_of_lt below) settled.tracks.next.2)
    obtain ⟨memFound, sameId⟩ := findRequest_eq_some settled.tracks isInt found
    rw [settled.tracks.eq_of_messageId memFound mem sameId]

theorem runDelayedTask_settled (posted : (number, messageId) ∈ impl.delayedTasks)
    (returned : impl.runDelayedTask number messageId = some (after, emitted)) :
    Settled (log ++ .timedOut number :: emitted) after := by
  unfold runDelayedTask at returned
  dsimp only at returned
  split at returned
  · next scheduled =>
      obtain ⟨callbacks, rfl, mem, found⟩ := settled.scheduled_request posted scheduled
      have foundTaken : WebFrameImpl.findRequest { impl with
          delayedTasks := impl.delayedTasks.erase (callbacks.number, messageId) } messageId =
            some ⟨messageId, some callbacks⟩ := found
      rw [completeRequest, foundTaken] at returned
      obtain ⟨⟨_, _⟩, ran, outcome⟩ := Option.map_eq_some_iff.mp returned
      cases outcome
      exact settled.completeMoved mem rfl (settled.ends_timedOut mem rfl)
        (withdraws_taskTaken settled.tracks mem rfl) rfl rfl rfl ran
  · next idle =>
      cases returned
      have notPending : ¬ impl.IsPending number := fun pending => idle (isScheduled_iff.mpr pending)
      have unnoticed : ∀ other, Unnoticed other (· = fate other log)
          [(.timedOut number : FrameEvent Value)] := by
        intro other
        by_cases same : number = other
        · subst same
          have notWaiting := (settled.tracks.settled number notPending).2
          refine ⟨fun found among => ?_, rfl⟩
          subst among
          cases waits : fate number log with
          | waiting messageId => exact absurd waits (notWaiting messageId)
          | uncalled | refused | answered result => rfl
        · exact unnoticed_timedOut same
      exact (settled.taskTaken notPending).unnoticed unnoticed

/-- Every input leaves what the log says. -/
theorem step_settled (accepted : impl.Accepts input)
    (stepped : impl.step input = some (after, emitted)) : Settled (log ++ emitted) after := by
  cases input with
  | call _ _ =>
    obtain ⟨kept, grows⟩ := callWithCallback_tracks settled.tracks stepped
    refine settled.of_grows kept grows ?_
    obtain ⟨messages, -, ⟨-, -, attached, -⟩ | ⟨nextMessageId, -, -, -, rfl, -⟩⟩ :=
      callWithCallback_cases settled.tracks stepped
    · exact .inl attached
    · exact .inr rfl
  | send _ =>
    obtain ⟨⟨called, last, told⟩, sent, result⟩ := Option.map_eq_some_iff.mp stepped
    grind [send_tracks, callJavaScriptFunction_cases, settled.tracks, settled.of_grows]
  | reply _ =>
    obtain ⟨⟨_, _⟩, handled, result⟩ := Option.map_eq_some_iff.mp stepped
    cases result
    exact onJavaScriptReply_settled settled accepted.2 handled
  | evaluated _ _ =>
    obtain ⟨⟨_, _⟩, handled, result⟩ := Option.map_eq_some_iff.mp stepped
    cases result
    exact onEvaluated_settled settled accepted handled
  | delayedTask _ _ =>
    obtain ⟨⟨_, _⟩, handled, result⟩ := Option.map_eq_some_iff.mp stepped
    cases result
    exact runDelayedTask_settled settled accepted handled
  | webStateDestroyed =>
    obtain ⟨⟨_, _⟩, handled, result⟩ := Option.map_eq_some_iff.mp stepped
    cases result
    obtain ⟨⟨last, told⟩, cancelled, result⟩ := Option.map_eq_some_iff.mp handled
    cases result
    exact cancelPendingRequests_settled settled cancelled last.alive
  | destroy =>
    obtain ⟨⟨_, _⟩, handled, result⟩ := Option.map_eq_some_iff.mp stepped
    cases result
    obtain ⟨⟨last, told⟩, cancelled, result⟩ := Option.map_eq_some_iff.mp handled
    cases result
    exact cancelPendingRequests_settled settled cancelled false

omit settled

/-! ## Nothing stops a frame -/

/-- The ids that are taken and those that the pending callbacks may take. -/
def reach (impl : WebFrameImpl Key Origin) : Int := impl.frame.nextMessageId + impl.pendingSize

def Callable (impl : WebFrameImpl Key Origin) : Prop :=
  impl.webState = true ∨ impl.frame.canCallJavaScriptFunction = false

theorem Grows.callable (grows : Grows impl after) (callable : impl.Callable) : after.Callable := by
  unfold Callable
  rw [grows.webState, grows.canCall]
  exact callable

theorem callJavaScriptFunction_isSome {seals replyWithResult : Bool} (callable : impl.Callable)
    (room : impl.frame.nextMessageId < messageIdMax) :
    ((impl.callJavaScriptFunction seals replyWithResult :
      Checked (Bool × Outcome Key Origin Value))).isSome := by
  unfold callJavaScriptFunction
  split
  · rfl
  · next canCall =>
      have attached : impl.webState = true := callable.resolve_right canCall
      rw [takeMessageId, dcheck_of room, Option.map_some, Option.bind_some]
      grind [executeJavaScriptFunction, dcheck_of attached]

theorem pendingSize_entered (callback : Callback) (nextMessageId : Int) :
    (impl.entered callback nextMessageId).pendingSize = impl.pendingSize + callback.size := by
  unfold pendingSize entered
  simp [PendingRequest.size]

/-- A call with a callback goes through, and reaches as far as its callback may. -/
theorem callWithCallback_returns {going : Bool} (seals : Bool) (callback : Callback)
    (tracks : Tracks going log impl) (callable : impl.Callable)
    (room : impl.frame.nextMessageId < messageIdMax) :
    ∃ after, ∃ emitted : List (FrameEvent Value),
      impl.callWithCallback seals callback = some (after, emitted) ∧
        after.reach ≤ impl.reach + callback.size + 1 ∧
        after.frame.nextMessageId ≤ impl.frame.nextMessageId + 1 := by
  obtain ⟨⟨after, emitted⟩, returned⟩ : ∃ outcome : Outcome Key Origin Value,
      impl.callWithCallback seals callback = some outcome := by
    rw [← Option.isSome_iff_exists, callWithCallback, Option.isSome_map]
    exact callJavaScriptFunction_isSome callable room
  refine ⟨after, emitted, returned, ?_⟩
  obtain ⟨messages, -, ⟨rfl, -, -, -⟩ | ⟨nextMessageId, -, above, -, rfl, -⟩⟩ :=
    callWithCallback_cases tracks returned
  · refine ⟨?_, Int.le_refl _⟩
    unfold reach
    rw [pendingSize_entered]
    change impl.frame.nextMessageId + 1 + _ ≤ _
    omega
  · refine ⟨?_, above⟩
    change nextMessageId + (impl.pendingSize : Int) ≤ impl.reach + callback.size + 1
    unfold reach
    omega

theorem runCallback_returns {going : Bool} {callback : Callback} (tracks : Tracks going log impl)
    (callable : impl.Callable) (room : impl.frame.nextMessageId + callback.size ≤ messageIdMax) :
    ∃ after, ∃ emitted : List (FrameEvent Value),
      runCallback callback impl = some (after, emitted) ∧
        after.reach + 1 ≤ impl.reach + callback.size := by
  induction callback generalizing impl log with
  | done => exact ⟨impl, [], rfl, Int.le_refl _⟩
  | call seals callback _ _ _ =>
    simp only [Callback.size] at room ⊢
    obtain ⟨middle, first, called, reached, nextId⟩ :=
      callWithCallback_returns seals callback tracks callable (by omega)
    obtain ⟨kept, grows⟩ := callWithCallback_tracks tracks called
    grind [runCallback, grows.callable]
  | send seals _ ih =>
    simp only [Callback.size] at room ⊢
    have sends : (impl.callJavaScriptFunction seals false :
        Checked (Bool × Outcome Key Origin Value)).isSome :=
      callJavaScriptFunction_isSome callable (by omega)
    obtain ⟨⟨called, middle, first⟩, sent⟩ := Option.isSome_iff_exists.mp sends
    obtain ⟨kept, grows⟩ := send_tracks tracks sent
    obtain ⟨nextMessageId, rfl, taken, -⟩ := callJavaScriptFunction_cases sent
    obtain ⟨last, rest, ran, reachedLast⟩ := ih kept (grows.callable callable) (by
      change nextMessageId + _ ≤ _
      omega)
    refine ⟨last, first ++ rest, ?_, ?_⟩
    · simp [runCallback, sent, ran]
    · change last.reach + 1 ≤ nextMessageId + (impl.pendingSize : Int) + _ at reachedLast
      unfold reach at reachedLast ⊢
      omega

/-- Callbacks that have been moved out or erased do not count any more. -/
theorem pendingSize_withdrawn {going : Bool} (tracks : Tracks going log impl)
    (mem : request ∈ impl.pendingRequests) (has : callbacks ∈ request.callbacks) :
    (impl.moveCallbacks request.messageId).pendingSize + callbacks.completion.size =
        impl.pendingSize ∧
      (impl.eraseRequest request.messageId).pendingSize + callbacks.completion.size =
        impl.pendingSize := by
  obtain ⟨before, rest, split⟩ := List.append_of_mem mem
  have differs : ∀ other ∈ before ++ rest,
      requestKey other.messageId ≠ requestKey request.messageId := by
    have sorted := tracks.sorted
    rw [split] at sorted
    obtain ⟨-, sortedRest, beforeRest⟩ := List.pairwise_append.mp sorted
    intro other memOther same
    have memAll : other ∈ impl.pendingRequests := by
      grind
    rw [tracks.requestKey_eq_iff_eq mem memAll] at same
    subst same
    rcases List.mem_append.mp memOther with memOther | memOther
    · grind
    · exact absurd ((List.pairwise_cons.mp sortedRest).1 other memOther) (Int.lt_irrefl _)
  have size : request.size = callbacks.completion.size := by
    simp [PendingRequest.size, Option.mem_def.mp has]
  have beforeDiffers : ∀ other ∈ before,
      requestKey other.messageId ≠ requestKey request.messageId :=
    fun other memOther => differs other (List.mem_append_left _ memOther)
  have restDiffers : ∀ other ∈ rest, requestKey other.messageId ≠ requestKey request.messageId :=
    by grind
  unfold pendingSize moveCallbacks eraseRequest
  rw [split]
  constructor
  · have unmoved : ∀ others : List PendingRequest,
        (∀ other ∈ others, requestKey other.messageId ≠ requestKey request.messageId) →
        others.map (fun other =>
          if requestKey other.messageId = requestKey request.messageId then
            { other with callbacks := none } else other) = others := by
      intro others differ
      simp [List.map_congr_left fun other memOther => if_neg (differ other memOther)]
    rw [List.map_append, List.map_cons, unmoved before beforeDiffers, unmoved rest restDiffers,
      if_pos rfl]
    simp only [List.map_append, List.map_cons, List.sum_append, List.sum_cons]
    change _ + (0 + _) + _ = _
    omega
  · have kept : ∀ others : List PendingRequest,
        (∀ other ∈ others, requestKey other.messageId ≠ requestKey request.messageId) →
        others.filter (fun other => requestKey other.messageId ≠ requestKey request.messageId) =
          others :=
      by simp
    grind

/-- The loop comes to its end within as many turns as there are calls left. -/
theorem cancelLoop_returns (tracks : Tracks true log impl) (visiting : Visited visited impl)
    (callable : impl.Callable) (room : impl.reach ≤ messageIdMax)
    (enough : impl.pendingSize < bound) :
    (cancelLoop bound visited impl : Checked (Outcome Key Origin Value)).isSome := by
  induction bound generalizing visited impl log with
  | zero => exact absurd enough (Nat.not_lt_zero _)
  | succ _ ih =>
    unfold cancelLoop
    split
    · rfl
    · next messageId next =>
        have mem : ⟨messageId, none⟩ ∈ impl.pendingRequests := List.mem_of_find?_eq_some next
        have hasCallbacks := visiting _ mem
        rw [if_pos (List.find?_some next)] at hasCallbacks
        cases hasCallbacks
    · next messageId callbacks next =>
        have mem : ⟨messageId, some callbacks⟩ ∈ impl.pendingRequests :=
          List.mem_of_find?_eq_some next
        have moved := tracks.cancelled mem rfl
        have size : (impl.moveCallbacks messageId).pendingSize + callbacks.completion.size =
            impl.pendingSize := (pendingSize_withdrawn tracks mem rfl).1
        unfold reach at room
        have within : (impl.moveCallbacks messageId).frame.nextMessageId +
            callbacks.completion.size ≤ messageIdMax := by
          change impl.frame.nextMessageId + _ ≤ _
          omega
        obtain ⟨middle, first, ran, reached⟩ := runCallback_returns moved callable within
        obtain ⟨kept, grows⟩ := runCallback_tracks moved ran
        have turned := (visited_turn tracks visiting next rfl ran).2.1
        have later : impl.frame.nextMessageId ≤ middle.frame.nextMessageId := grows.next
        change middle.reach + 1 ≤ impl.frame.nextMessageId +
          ((impl.moveCallbacks messageId).pendingSize : Int) + _ at reached
        unfold reach at reached
        have left : middle.reach ≤ messageIdMax := by
          unfold reach
          omega
        have looped := ih kept turned (grows.callable callable) left (by omega)
        simp [looped, ran]

theorem cancelPendingRequests_isSome (settled : Settled log impl)
    (room : impl.reach ≤ messageIdMax) :
    (impl.cancelPendingRequests : Checked (Outcome Key Origin Value)).isSome := by
  have unvisited : Visited none impl := fun request mem => settled.calm request mem
  unfold cancelPendingRequests
  rw [Option.isSome_map]
  by_cases attached : impl.webState = true
  · exact cancelLoop_returns settled.going unvisited (.inl attached) room (Nat.lt_succ_self _)
  · have empty := settled.detached (Bool.not_eq_true _ ▸ attached)
    have ended : impl.nextRequest none = none := by
      rw [nextRequest, empty]
      rfl
    rw [cancelLoop, ended]
    rfl

def Input.size : Input Value → Nat
  | .call _ callback => callback.size + 1
  | .send _ => 1
  | .reply _ | .evaluated _ _ | .delayedTask _ _ | .webStateDestroyed | .destroy => 0

/-- The ids of all calls that an input can lead to are an `int`. -/
def HasRoom (impl : WebFrameImpl Key Origin) (input : Input Value) : Prop :=
  impl.reach + input.size ≤ messageIdMax

include settled

theorem Settled.found_callbacks (found : impl.findRequest messageId = some request) :
    request ∈ impl.pendingRequests ∧ ∃ callbacks, request.callbacks = some callbacks := by
  have mem : request ∈ impl.pendingRequests := List.mem_of_find?_eq_some found
  exact ⟨mem, Option.isSome_iff_exists.mp (settled.calm request mem)⟩

/-- The callback of a request returns, wherever the request has gone in the meantime. -/
theorem Settled.runs (mem : request ∈ impl.pendingRequests) (has : callbacks ∈ request.callbacks)
    (room : impl.reach ≤ messageIdMax) {cause : FrameEvent Value}
    (ends : Ends log callbacks.number cause result) {moved : WebFrameImpl Key Origin}
    (withdraws : Withdraws impl callbacks.number moved)
    (webState : moved.webState = impl.webState)
    (size : moved.pendingSize + callbacks.completion.size = impl.pendingSize) :
    (runCallback callbacks.completion moved : Checked (Outcome Key Origin Value)).isSome := by
  have ended := settled.tracks.ends ends (isPending_of_mem mem has) withdraws
  have callable : moved.Callable := .inl (webState.trans (settled.webState_of_pending mem))
  unfold reach at room
  have within : moved.frame.nextMessageId + callbacks.completion.size ≤ messageIdMax := by
    rw [withdraws.frame]
    omega
  obtain ⟨_, _, ran, -⟩ := runCallback_returns ended callable within
  rw [ran]
  rfl

theorem Settled.onJavaScriptReply_isSome {command : ReplyCommand Value}
    (isInt : ∀ messageId ∈ command.messageId, IsInt messageId)
    (room : impl.reach ≤ messageIdMax) : (impl.onJavaScriptReply command).isSome := by
  unfold onJavaScriptReply
  split
  · rfl
  split
  · rfl
  · next messageId replyId =>
      split
      · rfl
      · next found =>
          obtain ⟨-, callbacks, none⟩ := settled.found_callbacks found
          cases none
      · next requestId callbacks found =>
          obtain ⟨mem, rfl⟩ := findRequest_eq_some settled.tracks (isInt _ replyId) found
          rw [Option.isSome_map]
          exact settled.runs mem rfl room (settled.ends_replied mem rfl command.result)
            (settled.tracks.withdraws_erase mem rfl) rfl
            (pendingSize_withdrawn settled.tracks mem rfl).2

theorem Settled.onEvaluated_isSome (isInt : IsInt messageId)
    (room : impl.reach ≤ messageIdMax) : (impl.onEvaluated messageId result).isSome := by
  unfold onEvaluated
  split
  · unfold completeRequest
    split
    · rfl
    · next found =>
        obtain ⟨-, callbacks, none⟩ := settled.found_callbacks found
        cases none
    · next requestId callbacks found =>
        obtain ⟨mem, rfl⟩ := findRequest_eq_some settled.tracks isInt found
        rw [Option.isSome_map]
        exact settled.runs mem rfl room (settled.ends_replied mem rfl result)
          (settled.tracks.withdraws_move mem rfl) rfl
          (pendingSize_withdrawn settled.tracks mem rfl).1
  · rfl

theorem Settled.runDelayedTask_isSome {number : Nat}
    (posted : (number, messageId) ∈ impl.delayedTasks) (room : impl.reach ≤ messageIdMax) :
    (impl.runDelayedTask number messageId : Checked (Outcome Key Origin Value)).isSome := by
  unfold runDelayedTask
  dsimp only
  split
  · next scheduled =>
      obtain ⟨callbacks, rfl, mem, found⟩ := settled.scheduled_request posted scheduled
      have foundTaken : WebFrameImpl.findRequest { impl with
          delayedTasks := impl.delayedTasks.erase (callbacks.number, messageId) } messageId =
            some ⟨messageId, some callbacks⟩ := found
      rw [completeRequest, foundTaken, Option.isSome_map]
      exact settled.runs mem rfl room (settled.ends_timedOut mem rfl)
        (withdraws_taskTaken settled.tracks mem rfl) rfl
        (pendingSize_withdrawn settled.tracks mem rfl).1
  · rfl

theorem step_isSome (accepted : impl.Accepts input) (room : impl.HasRoom input) :
    (impl.step input).isSome := by
  unfold HasRoom at room
  have noMore : impl.reach ≤ messageIdMax := by omega
  cases input with
  | call seals callback =>
    simp only [reach, Input.size] at room
    obtain ⟨after, emitted, called, -⟩ :=
      callWithCallback_returns seals callback settled.tracks accepted.2 (by omega)
    rw [step, called]
    rfl
  | send _ =>
    simp only [reach, Input.size] at room
    simpa [step] using callJavaScriptFunction_isSome accepted.2 (by omega)
  | reply command =>
    simpa [step] using settled.onJavaScriptReply_isSome accepted.2 noMore
  | evaluated messageId result =>
    simpa [step] using settled.onEvaluated_isSome accepted noMore
  | delayedTask number messageId =>
    simpa [step] using settled.runDelayedTask_isSome accepted noMore
  | webStateDestroyed =>
    simpa [step, webStateDestroyed] using cancelPendingRequests_isSome settled noMore
  | destroy =>
    simpa [step, destroy] using cancelPendingRequests_isSome settled noMore

/-! ## Runs -/

theorem Settled.completions_eq : completions number log = (fate number log).results := by
  by_cases pending : impl.IsPending number
  · obtain ⟨request, mem, callbacks, has, rfl⟩ := pending
    obtain ⟨waiting, unrun, -⟩ := settled.tracks.pending request mem callbacks has
    rw [waiting, unrun]
    rfl
  · exact (settled.tracks.settled number pending).1

omit settled

theorem settled_init {frame : WebFrame Key Origin} (nonneg : 0 ≤ frame.nextMessageId)
    (bound : frame.nextMessageId ≤ messageIdMax) :
    Settled ([] : List (FrameEvent Value)) (init frame) := by
  refine ⟨⟨.nil, ?_, ⟨nonneg, bound⟩, ?_, ?_, fun _ _ => rfl, ?_⟩, ?_, fun _ => rfl, nofun⟩
  · exact fun _ mem => by cases mem
  · exact fun _ mem => by cases mem
  · exact fun number _ => ⟨rfl, fun _ => nofun⟩
  · exact fun _ mem => by cases mem
  · exact fun _ mem => by cases mem

/-- In every run a callback has been run with exactly what it is due.  A callback that still
waits is the only one that waits for its id, and the task that will cancel it is
posted; no input is stopped by an assertion as long as there are ids. -/
theorem run_answered (frame : WebFrame Key Origin) (nonneg : 0 ≤ frame.nextMessageId)
    (bound : frame.nextMessageId ≤ messageIdMax) (log : List (FrameEvent Value))
    (impl : WebFrameImpl Key Origin) (run : Runs step Accepts (init frame) log impl) :
    (∀ number, completions number log = (fate number log).results) ∧
      (∀ number messageId, fate number log = .waiting messageId →
        impl.alive = true ∧ impl.webState = true ∧ (number, messageId) ∈ impl.delayedTasks) ∧
      (∀ first second messageId, fate first log = .waiting messageId →
        fate second log = .waiting messageId → first = second) ∧
      (impl.pendingRequests.map PendingRequest.messageId).Nodup ∧
      ∀ input : Input Value, impl.Accepts input → impl.HasRoom input →
        (impl.step input).isSome := by
  have settled : Settled log impl :=
    run.invariant_outputs Settled (settled_init nonneg bound)
      (by grind [step_settled])
  have distinct : (impl.pendingRequests.map PendingRequest.messageId).Nodup :=
    by grind [settled.tracks.sorted.imp]
  refine ⟨fun number => settled.completions_eq, fun number messageId waiting => ?_, ?_, distinct,
    fun input accepted room => step_isSome settled accepted room⟩
  · obtain ⟨request, mem, rfl, callbacks, has, rfl⟩ := settled.waiting_iff.mp waiting
    have attached := settled.webState_of_pending mem
    refine ⟨?_, attached, (settled.tracks.pending request mem callbacks has).2.2⟩
    by_contra gone
    cases attached.symm.trans (settled.gone (Bool.not_eq_true _ ▸ gone))
  · intro first second messageId waitingFirst waitingSecond
    obtain ⟨_, mem, rfl, _, has, rfl⟩ := settled.waiting_iff.mp waitingFirst
    obtain ⟨_, memOther, same, _, hasOther, rfl⟩ :=
      settled.waiting_iff.mp waitingSecond
    cases settled.tracks.eq_of_messageId memOther mem same
    cases hasOther.symm.trans has
    rfl

def innerFrame : WebFrame String Nat :=
  ((WebFrame.init "inner" false 0).setEncryptionKey "key").setNextMessageId 5

/-- The first call is replied to, the second is timed out and replied to too late, and the
third calls again while the frame goes. -/
def repliedTimedOutCancelled : List (Input Nat) :=
  [.call true .done, .call true (.send true .done), .call true (.call true .done .done),
    .call false .done,
    .reply ⟨some "frameMessaging_inner.reply", some 5, some 42⟩,
    .delayedTask 1 6,
    .reply ⟨some "frameMessaging_inner.reply", some 6, some 43⟩,
    .reply ⟨some "frameMessaging_inner.reply", some 99, none⟩,
    .webStateDestroyed, .destroy]

theorem run_answered_repliedTimedOutCancelled :
    ∃ log, ∃ impl : WebFrameImpl String Nat,
      ((completions 0 log = [some 42] ∧ completions 1 log = [(none : Option Nat)]) ∧
        completions 3 log = [] ∧ completions 4 log = [none]) ∧
      (∀ number, completions number log = (fate number log).results) ∧
      ∀ number messageId, fate number log = .waiting messageId →
        (number, messageId) ∈ impl.delayedTasks := by
  have run : Runs step Accepts (init innerFrame) _ _ :=
    Runs.replay repliedTimedOutCancelled .start (Option.eq_some_of_isSome (by decide))
  obtain ⟨completed, waiting, -⟩ := run_answered innerFrame (by decide) (by decide) _ _ run
  exact ⟨_, _, by decide, completed, fun number messageId waits =>
    (waiting number messageId waits).2.2⟩

end WebFrameImpl

end ChromiumIos
