import ChromiumIos.Frames.CallbackFates

/-!
# Callbacks are run once

Between the calls of the code every pending request has a callback whose fate is to
wait, and every other callback has been run with what it was due.  While the
pending requests are cancelled the callbacks that have been run are due what the end of
the frame gives them.
-/

namespace ChromiumIos

open Lib

variable {Key Origin Value : Type}

namespace WebFrameImpl

variable {impl after : WebFrameImpl Key Origin} {log emitted : List (FrameEvent Value)}
variable {request : PendingRequest} {callbacks : RequestCallbacks} {number : Nat}
variable {going : Bool}

def IsPending (impl : WebFrameImpl Key Origin) (number : Nat) : Prop :=
  ∃ request ∈ impl.pendingRequests, ∃ callbacks ∈ request.callbacks, callbacks.number = number

/-- What the frame still owes after a log, or when it is `going`, inside of the loop that
cancels the pending requests. -/
structure Tracks (going : Bool) (log : List (FrameEvent Value))
    (impl : WebFrameImpl Key Origin) : Prop where
  sorted : impl.pendingRequests.Pairwise fun first second => first.messageId < second.messageId
  issued : ∀ request ∈ impl.pendingRequests,
    0 ≤ request.messageId ∧ request.messageId < impl.frame.nextMessageId
  next : 0 ≤ impl.frame.nextMessageId ∧ impl.frame.nextMessageId ≤ messageIdMax
  pending : ∀ request ∈ impl.pendingRequests, ∀ callbacks ∈ request.callbacks,
    fate callbacks.number log = .waiting request.messageId ∧
      completions callbacks.number log = [] ∧
      (callbacks.number, request.messageId) ∈ impl.delayedTasks
  settled : ∀ number, ¬ impl.IsPending number →
    completions number log = ((fate number log).due going).results ∧
      ∀ messageId, (fate number log).due going ≠ .waiting messageId
  fresh : ∀ number, impl.callbackCount ≤ number → fate number log = .uncalled
  timed : ∀ task ∈ impl.delayedTasks, task.1 < impl.callbackCount ∧
    ∀ messageId, fate task.1 log = .waiting messageId → task.2 = messageId

/-! ## Keys -/

theorem requestKey_inj {first second : Int} (nonneg : 0 ≤ first) (bound : first ≤ messageIdMax)
    (isInt : IsInt second) (same : requestKey first = requestKey second) : first = second := by
  unfold requestKey at same
  unfold IsInt messageIdMin messageIdMax at *
  omega

theorem requestKey_lt {first second : Int} (nonneg : 0 ≤ first) (less : first < second)
    (bound : second ≤ messageIdMax) : requestKey first < requestKey second := by
  unfold requestKey
  unfold messageIdMax at bound
  omega

variable {messageId nextMessageId : Int} {seals : Bool} {callback : Callback}
variable {result : Option Value} {cause : FrameEvent Value}

theorem isInt_of_nonneg (nonneg : 0 ≤ messageId) (bound : messageId ≤ messageIdMax) :
    IsInt messageId := by
  unfold IsInt messageIdMin messageIdMax at *
  omega

variable {replyWithResult : Bool} {requests : List PendingRequest} {other : PendingRequest}

namespace Tracks

variable (tracks : Tracks going log impl)

include tracks

theorem requestKey_eq_iff (mem : request ∈ impl.pendingRequests) (isInt : IsInt messageId) :
    requestKey request.messageId = requestKey messageId ↔ request.messageId = messageId := by
  obtain ⟨nonneg, below⟩ := tracks.issued request mem
  have bound := tracks.next.2
  exact ⟨requestKey_inj nonneg (by omega) isInt, congrArg requestKey⟩

/-- Requests with the same id are the same. -/
theorem eq_of_messageId (mem : request ∈ impl.pendingRequests)
    (memOther : other ∈ impl.pendingRequests) (same : request.messageId = other.messageId) :
    request = other := by
  have nodup : (impl.pendingRequests.map PendingRequest.messageId).Nodup :=
    by grind [tracks.sorted.imp]
  exact List.inj_on_of_nodup_map nodup mem memOther same

/-- A callback waits in one request. -/
theorem eq_of_number {callbacksOther : RequestCallbacks} (mem : request ∈ impl.pendingRequests)
    (memOther : other ∈ impl.pendingRequests) (has : callbacks ∈ request.callbacks)
    (hasOther : callbacksOther ∈ other.callbacks)
    (same : callbacks.number = callbacksOther.number) : request = other := by
  have waiting := (tracks.pending request mem callbacks has).1
  have waitingOther := (tracks.pending other memOther callbacksOther hasOther).1
  rw [same, waitingOther] at waiting
  exact tracks.eq_of_messageId mem memOther (Fate.waiting.inj waiting).symm

theorem number_lt (mem : request ∈ impl.pendingRequests) (has : callbacks ∈ request.callbacks) :
    callbacks.number < impl.callbackCount := by
  have waiting := (tracks.pending request mem callbacks has).1
  grind [tracks.fresh]

end Tracks

/-! ## Calls -/

/-- A call without a callback takes at most one id, and no message goes without a WebState. -/
theorem callJavaScriptFunction_cases {called : Bool}
    (returned : impl.callJavaScriptFunction seals replyWithResult = some (called, after, emitted)) :
    ∃ nextMessageId, after = { impl with frame := impl.frame.setNextMessageId nextMessageId } ∧
      (nextMessageId = impl.frame.nextMessageId ∧ called = false ∨
        nextMessageId = impl.frame.nextMessageId + 1 ∧ nextMessageId ≤ messageIdMax) ∧
      (called = true → impl.webState = true) ∧ ∀ event ∈ emitted, IsMessage event := by
  unfold callJavaScriptFunction at returned
  split at returned
  · cases returned
    exact ⟨impl.frame.nextMessageId, rfl, .inl ⟨rfl, rfl⟩, (fun called => by cases called),
      fun _ mem => by cases mem⟩
  · obtain ⟨⟨messageId, taken⟩, took, returned⟩ := Option.bind_eq_some_iff.mp returned
    obtain ⟨checked, below, result⟩ := Option.map_eq_some_iff.mp took
    cases result
    have room := dcheck_eq_some.mp below
    refine ⟨impl.frame.nextMessageId + 1, ?_⟩
    have bound : impl.frame.nextMessageId + 1 ≤ messageIdMax := room
    dsimp only at returned
    split at returned
    · obtain ⟨⟨evaluated, told⟩, executed, result⟩ := Option.map_eq_some_iff.mp returned
      cases result
      refine ⟨rfl, .inr ⟨rfl, bound⟩, ?_⟩
      unfold executeJavaScriptFunction at executed
      split at executed
      · obtain ⟨present, attached, result⟩ := Option.map_eq_some_iff.mp executed
        cases result
        refine ⟨fun _ => dcheck_eq_some.mp attached, fun event mem => ?_⟩
        cases List.mem_singleton.mp mem
        trivial
      · grind
    · split at returned
      · grind
      · obtain ⟨_, attached, result⟩ := Option.map_eq_some_iff.mp returned
        cases result
        refine ⟨rfl, .inr ⟨rfl, bound⟩, fun _ => dcheck_eq_some.mp attached, fun event mem => ?_⟩
        cases List.mem_singleton.mp mem
        trivial

/-- A request with a larger id than all others is put behind them. -/
theorem assignRequest_eq
    (larger : ∀ other ∈ requests, requestKey other.messageId < requestKey request.messageId) :
    assignRequest request requests = requests ++ [request] := by
  induction requests with
  | nil => rfl
  | cons first _ ih =>
    have below := larger first List.mem_cons_self
    rw [assignRequest, if_neg (Nat.not_lt_of_le (Nat.le_of_lt below)),
      if_neg (Nat.ne_of_gt below), ih fun other mem => larger other (List.mem_cons_of_mem _ mem)]
    rfl

/-- Ids that are not used and events of messages change nothing. -/
theorem Tracks.skip (tracks : Tracks going log impl)
    (above : impl.frame.nextMessageId ≤ nextMessageId) (bound : nextMessageId ≤ messageIdMax)
    (messages : ∀ event ∈ emitted, IsMessage event) :
    Tracks going (log ++ emitted)
      { impl with frame := impl.frame.setNextMessageId nextMessageId } := by
  have unnoticed : ∀ number, Unnoticed number (fun _ => True) emitted :=
    fun number => unnoticed_of_messages messages
  have sameFate : ∀ number, fate number (log ++ emitted) = fate number log :=
    fun number => (unnoticed number).fate_append trivial
  have sameRuns : ∀ number, completions number (log ++ emitted) = completions number log :=
    fun number => (unnoticed number).completions_append
  constructor
  · exact tracks.sorted
  · intro request mem
    obtain ⟨nonneg, below⟩ := tracks.issued request mem
    grind [WebFrame.setNextMessageId]
  · exact ⟨Int.le_trans tracks.next.1 above, bound⟩
  · simpa [sameFate, sameRuns] using tracks.pending
  · intro number idle
    rw [sameFate, sameRuns]
    exact tracks.settled number idle
  · simpa [sameFate] using tracks.fresh
  · simpa [sameFate] using tracks.timed

/-- The state right after a request has been entered for a call. -/
def entered (impl : WebFrameImpl Key Origin) (callback : Callback) (nextMessageId : Int) :
    WebFrameImpl Key Origin where
  frame := impl.frame.setNextMessageId nextMessageId
  webState := impl.webState
  alive := impl.alive
  pendingRequests :=
    impl.pendingRequests ++ [⟨impl.frame.nextMessageId, some ⟨impl.callbackCount, callback⟩⟩]
  delayedTasks := impl.delayedTasks ++ [(impl.callbackCount, impl.frame.nextMessageId)]
  callbackCount := impl.callbackCount + 1

def refused (impl : WebFrameImpl Key Origin) (nextMessageId : Int) :
    WebFrameImpl Key Origin :=
  { impl with
    frame := impl.frame.setNextMessageId nextMessageId
    delayedTasks := impl.delayedTasks ++ [(impl.callbackCount, impl.frame.nextMessageId)]
    callbackCount := impl.callbackCount + 1 }

theorem Tracks.completions_fresh (tracks : Tracks going log impl)
    (beyond : impl.callbackCount ≤ number) : completions number log = [] := by
  have idle : ¬ impl.IsPending number := by
    rintro ⟨request, mem, callbacks, has, rfl⟩
    exact absurd (tracks.number_lt mem has) (Nat.not_lt_of_le beyond)
  have settled := (tracks.settled number idle).1
  rw [tracks.fresh number beyond] at settled
  rw [settled]
  cases going <;> rfl

theorem Tracks.called (tracks : Tracks going log impl) (callback : Callback)
    (bound : impl.frame.nextMessageId + 1 ≤ messageIdMax) :
    Tracks going (log ++ [.called impl.callbackCount impl.frame.nextMessageId true])
      (impl.entered callback (impl.frame.nextMessageId + 1)) := by
  have unnoticed : ∀ number, number ≠ impl.callbackCount → Unnoticed number (fun _ => True)
      [(.called impl.callbackCount impl.frame.nextMessageId true : FrameEvent Value)] :=
    fun number differs => unnoticed_called differs.symm _ _
  have fateOwn : fate impl.callbackCount
      (log ++ [.called impl.callbackCount impl.frame.nextMessageId true]) =
        .waiting impl.frame.nextMessageId := by
    rw [fate_append, tracks.fresh _ (Nat.le_refl _)]
    simp [Fate.observe]
  constructor
  · refine List.pairwise_append.mpr ⟨tracks.sorted, List.pairwise_singleton _ _, ?_⟩
    intro first mem second memNew
    cases List.mem_singleton.mp memNew
    exact (tracks.issued first mem).2
  · intro request mem
    rcases List.mem_append.mp mem with mem | mem
    · obtain ⟨nonneg, below⟩ := tracks.issued request mem
      exact ⟨nonneg, Int.lt_trans below (Int.lt_succ _)⟩
    · cases List.mem_singleton.mp mem
      exact ⟨tracks.next.1, Int.lt_succ _⟩
  · exact ⟨Int.le_trans tracks.next.1 (Int.le_of_lt (Int.lt_succ _)), bound⟩
  · intro request mem callbacks has
    rcases List.mem_append.mp mem with mem | mem
    · have old := unnoticed callbacks.number (Nat.ne_of_lt (tracks.number_lt mem has))
      obtain ⟨waiting, unrun, scheduled⟩ := tracks.pending request mem callbacks has
      grind [entered, old.fate_append trivial, old.completions_append]
    · grind [completions, entered, tracks.completions_fresh (Nat.le_refl _)]
  · intro number idle
    have differs : number ≠ impl.callbackCount := by
      rintro rfl
      exact idle (by simp [IsPending, entered])
    have idleBefore : ¬ impl.IsPending number := by
      rintro ⟨request, mem, waiting⟩
      exact idle ⟨request, List.mem_append_left _ mem, waiting⟩
    simp [(unnoticed number differs).fate_append trivial,
      (unnoticed number differs).completions_append, tracks.settled, idleBefore]
  · intro number beyond
    have differs : number ≠ impl.callbackCount := Nat.ne_of_gt beyond
    rw [(unnoticed number differs).fate_append trivial]
    exact tracks.fresh number (Nat.le_of_lt beyond)
  · intro task mem
    rcases List.mem_append.mp mem with mem | mem
    · obtain ⟨below, timed⟩ := tracks.timed task mem
      grind [entered, fate, (unnoticed task.1 (Nat.ne_of_lt below)).fate_append trivial]
    · grind [entered]

theorem Tracks.refused (tracks : Tracks going log impl)
    (above : impl.frame.nextMessageId ≤ nextMessageId) (bound : nextMessageId ≤ messageIdMax) :
    Tracks going (log ++ [.called impl.callbackCount impl.frame.nextMessageId false])
      (impl.refused nextMessageId) := by
  have unnoticed : ∀ number, number ≠ impl.callbackCount → Unnoticed number (fun _ => True)
      [(.called impl.callbackCount impl.frame.nextMessageId false : FrameEvent Value)] :=
    fun number differs => unnoticed_called differs.symm _ _
  have fateOwn : fate impl.callbackCount
      (log ++ [.called impl.callbackCount impl.frame.nextMessageId false]) = .refused := by
    rw [fate_append, tracks.fresh _ (Nat.le_refl _)]
    simp [Fate.observe]
  constructor
  · exact tracks.sorted
  · intro request mem
    obtain ⟨nonneg, below⟩ := tracks.issued request mem
    exact ⟨nonneg, Int.lt_of_lt_of_le below above⟩
  · exact ⟨Int.le_trans tracks.next.1 above, bound⟩
  · intro request mem callbacks has
    have old := unnoticed callbacks.number (Nat.ne_of_lt (tracks.number_lt mem has))
    obtain ⟨waiting, unrun, scheduled⟩ := tracks.pending request mem callbacks has
    grind [fate, completions, WebFrameImpl.refused, old.fate_append trivial, old.completions_append]
  · intro number idle
    by_cases same : number = impl.callbackCount
    · subst same
      rw [fateOwn, completions_append, tracks.completions_fresh (Nat.le_refl _)]
      cases going <;> exact ⟨rfl, fun _ refused => by cases refused⟩
    · rw [(unnoticed number same).fate_append trivial, (unnoticed number same).completions_append]
      exact tracks.settled number idle
  · intro number beyond
    rw [(unnoticed number (Nat.ne_of_gt beyond)).fate_append trivial]
    exact tracks.fresh number (Nat.le_of_lt beyond)
  · intro task mem
    rcases List.mem_append.mp mem with mem | mem
    · obtain ⟨below, timed⟩ := tracks.timed task mem
      grind [WebFrameImpl.refused, fate, (unnoticed task.1 (Nat.ne_of_lt below)).fate_append
        trivial]
    · grind [WebFrameImpl.refused]

/-! ## Running a callback -/

/-- What calls leave: requests are added behind the ones that were there. -/
structure Grows (impl after : WebFrameImpl Key Origin) : Prop where
  webState : after.webState = impl.webState
  alive : after.alive = impl.alive
  canCall : after.frame.canCallJavaScriptFunction = impl.frame.canCallJavaScriptFunction
  next : impl.frame.nextMessageId ≤ after.frame.nextMessageId
  pending : ∃ added, after.pendingRequests = impl.pendingRequests ++ added ∧
    ∀ request ∈ added, impl.frame.nextMessageId ≤ request.messageId ∧ request.callbacks.isSome

theorem Grows.refl (impl : WebFrameImpl Key Origin) : Grows impl impl where
  webState := rfl
  alive := rfl
  canCall := rfl
  next := Int.le_refl _
  pending := ⟨[], (List.append_nil _).symm, fun _ mem => by cases mem⟩

theorem Grows.trans {middle : WebFrameImpl Key Origin} (first : Grows impl middle)
    (rest : Grows middle after) : Grows impl after where
  webState := rest.webState.trans first.webState
  alive := rest.alive.trans first.alive
  canCall := rest.canCall.trans first.canCall
  next := Int.le_trans first.next rest.next
  pending := by
    grind [first.pending, rest.pending, first.next]

theorem grows_skip (above : impl.frame.nextMessageId ≤ nextMessageId) :
    Grows impl { impl with frame := impl.frame.setNextMessageId nextMessageId } where
  webState := rfl
  alive := rfl
  canCall := rfl
  next := above
  pending := ⟨[], (List.append_nil _).symm, fun _ mem => by cases mem⟩

/-- The request of a refused call is taken out again. -/
theorem filter_append_own (request : PendingRequest)
    (smaller : ∀ other ∈ requests, requestKey other.messageId < requestKey request.messageId) :
    (requests ++ [request]).filter
      (fun other => requestKey other.messageId ≠ requestKey request.messageId) = requests := by
  have kept : requests.filter
      (fun other => requestKey other.messageId ≠ requestKey request.messageId) = requests :=
    List.filter_eq_self.mpr fun other mem => decide_eq_true (Nat.ne_of_lt (smaller other mem))
  rw [List.filter_append, kept]
  simp

/-- A call with a callback enters a request, or it is refused. -/
theorem callWithCallback_cases (tracks : Tracks going log impl)
    (returned : impl.callWithCallback seals callback = some (after, emitted)) :
    ∃ messages, (∀ event ∈ messages, IsMessage event) ∧
      ((after = impl.entered callback (impl.frame.nextMessageId + 1) ∧
          impl.frame.nextMessageId + 1 ≤ messageIdMax ∧ impl.webState = true ∧
          emitted = .called impl.callbackCount impl.frame.nextMessageId true :: messages) ∨
        ∃ nextMessageId, impl.frame.nextMessageId ≤ nextMessageId ∧
          nextMessageId ≤ impl.frame.nextMessageId + 1 ∧ nextMessageId ≤ messageIdMax ∧
          after = impl.refused nextMessageId ∧
          emitted = .called impl.callbackCount impl.frame.nextMessageId false :: messages) := by
  have smaller : ∀ other ∈ impl.pendingRequests,
      requestKey other.messageId < requestKey impl.frame.nextMessageId := by
    intro other mem
    obtain ⟨nonneg, below⟩ := tracks.issued other mem
    exact requestKey_lt nonneg below tracks.next.2
  unfold callWithCallback at returned
  dsimp only at returned
  rw [assignRequest_eq smaller] at returned
  obtain ⟨⟨called, next, messages⟩, called?, result⟩ := Option.map_eq_some_iff.mp returned
  obtain ⟨nextMessageId, rfl, taken, attached, silent⟩ := callJavaScriptFunction_cases called?
  cases result
  refine ⟨messages, silent, ?_⟩
  cases called with
  | true =>
    grind [entered]
  | false =>
    have bound := tracks.next.2
    refine .inr ⟨nextMessageId, ?_, ?_, ?_, ?_, rfl⟩
    · grind
    · grind
    · grind
    · rw [if_neg Bool.false_ne_true]
      unfold eraseRequest refused
      congr 1
      exact filter_append_own ⟨_, _⟩ smaller

theorem callWithCallback_tracks (tracks : Tracks going log impl)
    (returned : impl.callWithCallback seals callback = some (after, emitted)) :
    Tracks going (log ++ emitted) after ∧ Grows impl after := by
  obtain ⟨_, silent, ⟨rfl, bound, -, rfl⟩ | ⟨_, above, -, bound, rfl, rfl⟩⟩ :=
    callWithCallback_cases tracks returned
  · constructor
    · have entered := tracks.called callback bound
      have kept := entered.skip (Int.le_refl _) entered.next.2 silent
      rwa [List.append_assoc] at kept
    · refine ⟨rfl, rfl, rfl, Int.le_of_lt (Int.lt_succ _), _, rfl, ?_⟩
      simp
  · constructor
    · have dropped := tracks.refused above bound
      have kept := dropped.skip (Int.le_refl _) dropped.next.2 silent
      rwa [List.append_assoc] at kept
    · exact ⟨rfl, rfl, rfl, above, [], (List.append_nil _).symm, fun _ mem => by cases mem⟩

theorem send_tracks {called : Bool} (tracks : Tracks going log impl)
    (returned : impl.callJavaScriptFunction seals replyWithResult = some (called, after, emitted)) :
    Tracks going (log ++ emitted) after ∧ Grows impl after := by
  grind [callJavaScriptFunction_cases, grows_skip, tracks.next, tracks.skip]

/-- Whatever a callback calls, the frame keeps track. -/
theorem runCallback_tracks (tracks : Tracks going log impl)
    (returned : runCallback callback impl = some (after, emitted)) :
    Tracks going (log ++ emitted) after ∧ Grows impl after := by
  induction callback generalizing impl log emitted with
  | done =>
    cases returned
    simpa using ⟨tracks, .refl _⟩
  | call _ _ _ _ _ =>
    obtain ⟨⟨middle, first⟩, called, returned⟩ := Option.bind_eq_some_iff.mp returned
    obtain ⟨⟨last, rest⟩, ran, result⟩ := Option.map_eq_some_iff.mp returned
    obtain ⟨kept, grown⟩ := callWithCallback_tracks tracks called
    grind [grown.trans]
  | send _ _ _ =>
    obtain ⟨⟨called, middle, first⟩, sent, returned⟩ := Option.bind_eq_some_iff.mp returned
    obtain ⟨⟨last, rest⟩, ran, result⟩ := Option.map_eq_some_iff.mp returned
    obtain ⟨kept, grown⟩ := send_tracks tracks sent
    grind [grown.trans]

/-! ## Ending a request -/

/-- The callbacks with a number leave the map, and everything else stays. -/
structure Withdraws (impl : WebFrameImpl Key Origin) (number : Nat)
    (after : WebFrameImpl Key Origin) : Prop where
  frame : after.frame = impl.frame
  callbackCount : after.callbackCount = impl.callbackCount
  sorted : after.pendingRequests.Pairwise fun first second => first.messageId < second.messageId
  came : ∀ request ∈ after.pendingRequests, ∃ original ∈ impl.pendingRequests,
    original.messageId = request.messageId ∧
      ∀ callbacks ∈ request.callbacks, callbacks ∈ original.callbacks ∧ callbacks.number ≠ number
  stays : ∀ other, other ≠ number → impl.IsPending other → after.IsPending other
  tasks : ∀ task ∈ after.delayedTasks, task ∈ impl.delayedTasks
  stayingTasks : ∀ task ∈ impl.delayedTasks, task.1 ≠ number → task ∈ after.delayedTasks

/-- A request is ended by events that mean nothing for the other callbacks. -/
theorem Tracks.complete (tracks : Tracks going log impl) {cause : List (FrameEvent Value)}
    (withdraws : Withdraws impl number after) (waited : impl.IsPending number)
    (answered : (fate number (log ++ cause)).due going = .answered result)
    (own : completions number cause = [])
    (others : ∀ other, other ≠ number → fate other (log ++ cause) = fate other log ∧
      completions other cause = []) :
    Tracks going (log ++ (cause ++ [.completed number result])) after := by
  have sameFate : ∀ other, fate other (log ++ (cause ++ [.completed number result])) =
      fate other (log ++ cause) := by
    intro other
    rw [← List.append_assoc, fate_append]
    cases fate other (log ++ cause) <;> rfl
  have fateOther : ∀ other, other ≠ number →
      fate other (log ++ (cause ++ [.completed number result])) = fate other log :=
    fun other differs => (sameFate other).trans (others other differs).1
  have runsOther : ∀ other, other ≠ number →
      completions other (log ++ (cause ++ [.completed number result])) = completions other log := by
    intro other differs
    have unnoticed : Unnoticed other (fun _ => True) [.completed number result] :=
      unnoticed_completed differs.symm result
    simp [completions_append, (others other differs).2, unnoticed.completions_eq]
  constructor
  · exact withdraws.sorted
  · intro request mem
    obtain ⟨original, memOriginal, same, -⟩ := withdraws.came request mem
    rw [← same, withdraws.frame]
    exact tracks.issued original memOriginal
  · rw [withdraws.frame]
    exact tracks.next
  · grind [withdraws.came, tracks.pending, withdraws.stayingTasks]
  · intro other idle
    by_cases same : other = number
    · subst same
      obtain ⟨request, mem, callbacks, has, numbered⟩ := waited
      have unrun := (tracks.pending request mem callbacks has).2.1
      rw [numbered] at unrun
      rw [sameFate, answered, completions_append, completions_append, unrun, own]
      simp [completions, Fate.results]
    · grind [tracks.settled, withdraws.stays]
  · intro other beyond
    rw [withdraws.callbackCount] at beyond
    have differs : other ≠ number := by
      rintro rfl
      obtain ⟨request, mem, callbacks, has, numbered⟩ := waited
      exact absurd (numbered ▸ tracks.number_lt mem has) (Nat.not_lt_of_le beyond)
    rw [fateOther _ differs]
    exact tracks.fresh other beyond
  · intro task mem
    obtain ⟨below, timed⟩ := tracks.timed task (withdraws.tasks task mem)
    rw [withdraws.callbackCount]
    refine ⟨below, fun messageId waiting => ?_⟩
    by_cases same : task.1 = number
    · obtain ⟨request, memRequest, callbacks, has, numbered⟩ := waited
      have before := (tracks.pending request memRequest callbacks has).1
      grind [waiting_of_waiting_append]
    · grind

/-- Requests without callbacks may be erased. -/
theorem Tracks.forget (tracks : Tracks going log impl)
    (moved : ∀ request ∈ impl.pendingRequests,
      requestKey request.messageId = requestKey messageId → request.callbacks = none) :
    Tracks going log (impl.eraseRequest messageId) := by
  constructor
  · exact tracks.sorted.sublist List.filter_sublist
  · exact fun request mem => tracks.issued request (List.mem_filter.mp mem).1
  · exact tracks.next
  · exact fun request mem => tracks.pending request (List.mem_filter.mp mem).1
  · intro number idle
    refine tracks.settled number ?_
    rintro ⟨request, mem, callbacks, has, numbered⟩
    refine idle ⟨request, List.mem_filter.mpr ⟨mem, decide_eq_true fun same => ?_⟩, callbacks, has,
      numbered⟩
    rw [moved request mem same] at has
    cases has
  · exact tracks.fresh
  · exact tracks.timed

theorem isPending_of_mem (mem : request ∈ impl.pendingRequests)
    (has : callbacks ∈ request.callbacks) : impl.IsPending callbacks.number :=
  ⟨request, mem, callbacks, has, rfl⟩

theorem Tracks.requestKey_eq_iff_eq (tracks : Tracks going log impl)
    (mem : request ∈ impl.pendingRequests) (memOther : other ∈ impl.pendingRequests) :
    requestKey other.messageId = requestKey request.messageId ↔ other = request := by
  have isInt : IsInt request.messageId := by
    grind [isInt_of_nonneg, tracks.issued, tracks.next]
  rw [tracks.requestKey_eq_iff memOther isInt]
  exact ⟨tracks.eq_of_messageId memOther mem, congrArg _⟩

section Found

variable (tracks : Tracks going log impl) (mem : request ∈ impl.pendingRequests)
variable (has : callbacks ∈ request.callbacks)

include tracks mem has

theorem Tracks.withdraws_move :
    Withdraws impl callbacks.number (impl.moveCallbacks request.messageId) := by
  constructor
  · rfl
  · rfl
  · grind [moveCallbacks, tracks.sorted.imp]
  · intro moved memMoved
    obtain ⟨original, memOriginal, rfl⟩ := List.mem_map.mp memMoved
    refine ⟨original, memOriginal, ?_, ?_⟩
    · split <;> rfl
    · intro callbacksMoved hasMoved
      by_cases same : requestKey original.messageId = requestKey request.messageId
      · grind
      · grind [tracks.eq_of_number]
  · rintro other differs ⟨original, memOriginal, waiting, hasWaiting, numbered⟩
    have notSame : ¬ requestKey original.messageId = requestKey request.messageId := by
      rw [tracks.requestKey_eq_iff_eq mem memOriginal]
      rintro rfl
      cases hasWaiting.symm.trans has
      grind
    grind [IsPending, moveCallbacks]
  · exact fun task memTask => memTask
  · exact fun task memTask _ => memTask

theorem Tracks.withdraws_erase :
    Withdraws impl callbacks.number (impl.eraseRequest request.messageId) := by
  constructor
  · rfl
  · rfl
  · exact tracks.sorted.sublist List.filter_sublist
  · intro kept memKept
    obtain ⟨memOriginal, differs⟩ := List.mem_filter.mp memKept
    grind [tracks.eq_of_number]
  · rintro other differs ⟨original, memOriginal, waiting, hasWaiting, numbered⟩
    refine ⟨original, List.mem_filter.mpr ⟨memOriginal, decide_eq_true ?_⟩, waiting, hasWaiting,
      numbered⟩
    intro same
    cases (tracks.requestKey_eq_iff_eq mem memOriginal).mp same
    cases hasWaiting.symm.trans has
    grind
  · exact fun task memTask => memTask
  · exact fun task memTask _ => memTask

end Found

/-! ## Between the calls of the code -/

/-- A log and the frame it leaves when no callback is being run. -/
structure Settled (log : List (FrameEvent Value)) (impl : WebFrameImpl Key Origin) : Prop where
  tracks : Tracks false log impl
  calm : ∀ request ∈ impl.pendingRequests, request.callbacks.isSome
  detached : impl.webState = false → impl.pendingRequests = []
  gone : impl.alive = false → impl.webState = false

variable (settled : Settled log impl)
include settled

theorem Settled.of_grows {more : List (FrameEvent Value)} (tracks : Tracks false more after)
    (grows : Grows impl after)
    (attached : impl.webState = true ∨ after.pendingRequests = impl.pendingRequests) :
    Settled more after := by
  obtain ⟨added, pending, new⟩ := grows.pending
  refine ⟨tracks, ?_, ?_, ?_⟩
  · grind [settled.calm]
  · grind [grows.webState, settled.detached]
  · rw [grows.alive, grows.webState]
    exact settled.gone

theorem Settled.webState_of_pending (mem : request ∈ impl.pendingRequests) :
    impl.webState = true := by
  by_contra detached
  rw [settled.detached (Bool.not_eq_true _ ▸ detached)] at mem
  cases mem

/-- Only the request with an id waits for it. -/
theorem Settled.waiting_iff :
    fate number log = .waiting messageId ↔ ∃ request ∈ impl.pendingRequests,
      request.messageId = messageId ∧ ∃ callbacks ∈ request.callbacks,
        callbacks.number = number := by
  constructor
  · intro waiting
    by_cases pending : impl.IsPending number
    · obtain ⟨request, mem, callbacks, has, rfl⟩ := pending
      have own := (settled.tracks.pending request mem callbacks has).1
      grind
    · exact absurd waiting ((settled.tracks.settled number pending).2 messageId)
  · grind [settled.tracks.pending]

omit settled

/-- An event that ends one request and means nothing for the other callbacks. -/
structure Ends (log : List (FrameEvent Value)) (number : Nat) (cause : FrameEvent Value)
    (result : Option Value) : Prop where
  answered : fate number (log ++ [cause]) = .answered result
  own : completions number [cause] = []
  others : ∀ other, other ≠ number → fate other (log ++ [cause]) = fate other log ∧
    completions other [cause] = []

include settled

theorem Settled.ends_replied (mem : request ∈ impl.pendingRequests)
    (has : callbacks ∈ request.callbacks) (result : Option Value) :
    Ends log callbacks.number (.replied request.messageId result) result := by
  refine ⟨?_, rfl, fun other differs => ⟨?_, rfl⟩⟩
  · rw [fate_append, (settled.tracks.pending request mem callbacks has).1]
    exact if_pos rfl
  · have notAwaited : fate other log ≠ .waiting request.messageId := by
      intro waiting
      obtain ⟨found, memFound, same, waits, hasFound, rfl⟩ := settled.waiting_iff.mp waiting
      cases settled.tracks.eq_of_messageId memFound mem same
      cases hasFound.symm.trans has
      grind
    have unnoticed : Unnoticed other (· = fate other log)
        [.replied request.messageId result] :=
      unnoticed_replied (fun _ among => among ▸ notAwaited) result
    exact unnoticed.fate_append rfl

theorem Settled.ends_timedOut (mem : request ∈ impl.pendingRequests)
    (has : callbacks ∈ request.callbacks) :
    Ends log callbacks.number (.timedOut callbacks.number) none := by
  refine ⟨?_, rfl, fun other differs => ⟨?_, rfl⟩⟩
  · rw [fate_append, (settled.tracks.pending request mem callbacks has).1]
    exact if_pos rfl
  · have unnoticed : Unnoticed other (fun _ => True)
        [(.timedOut callbacks.number : FrameEvent Value)] := unnoticed_timedOut differs.symm
    exact unnoticed.fate_append trivial

omit settled

theorem Tracks.ends (tracks : Tracks false log impl) (ends : Ends log number cause result)
    (waited : impl.IsPending number) (withdraws : Withdraws impl number after) :
    Tracks false (log ++ [cause, .completed number result]) after :=
  tracks.complete withdraws waited ends.answered ends.own ends.others

include settled

/-- The callback of a request is run while the request is in the map. -/
theorem Settled.completeMoved (mem : request ∈ impl.pendingRequests)
    (has : callbacks ∈ request.callbacks) (ends : Ends log callbacks.number cause result)
    {moved : WebFrameImpl Key Origin} (withdraws : Withdraws impl callbacks.number moved)
    (requests : moved.pendingRequests = (impl.moveCallbacks request.messageId).pendingRequests)
    (webState : moved.webState = impl.webState) (alive : moved.alive = impl.alive)
    (ran : runCallback callbacks.completion moved = some (after, emitted)) :
    Settled (log ++ (cause :: .completed callbacks.number result :: emitted))
      (after.eraseRequest request.messageId) := by
  have ended := settled.tracks.ends ends (isPending_of_mem mem has) withdraws
  obtain ⟨kept, grows⟩ := runCallback_tracks ended ran
  rw [List.append_assoc] at kept
  obtain ⟨added, pending, new⟩ := grows.pending
  have fromMoved : ∀ other ∈ after.pendingRequests,
      requestKey other.messageId = requestKey request.messageId ∧ other.callbacks = none ∨
        requestKey other.messageId ≠ requestKey request.messageId ∧ other.callbacks.isSome := by
    intro other memOther
    rw [pending] at memOther
    rcases List.mem_append.mp memOther with memMoved | memAdded
    · rw [requests] at memMoved
      obtain ⟨original, memOriginal, rfl⟩ := List.mem_map.mp memMoved
      by_cases same : requestKey original.messageId = requestKey request.messageId
      · simp [same]
      · simp [same, settled.calm, memOriginal]
    · obtain ⟨later, hasCallbacks⟩ := new other memAdded
      obtain ⟨nonneg, below⟩ := settled.tracks.issued request mem
      rw [withdraws.frame] at later
      have bound := (kept.issued other (pending ▸ List.mem_append_right _ memAdded)).2
      have within := kept.next.2
      have less : requestKey request.messageId < requestKey other.messageId :=
        requestKey_lt nonneg (Int.lt_of_lt_of_le below later) (by omega)
      exact .inr ⟨Nat.ne_of_gt less, hasCallbacks⟩
  have attached : after.webState = true :=
    (grows.webState.trans webState).trans (settled.webState_of_pending mem)
  refine ⟨kept.forget ?_, ?_, fun detached => ?_, fun gone => ?_⟩
  · grind
  · grind [eraseRequest]
  · cases attached.symm.trans detached
  · have aliveSame : after.alive = impl.alive := grows.alive.trans alive
    have detached := settled.gone (aliveSame.symm.trans gone)
    cases (settled.webState_of_pending mem).symm.trans detached

/-- The callback of a request is run after the request has left the map. -/
theorem Settled.completeErased (mem : request ∈ impl.pendingRequests)
    (has : callbacks ∈ request.callbacks) (ends : Ends log callbacks.number cause result)
    (ran : runCallback callbacks.completion (impl.eraseRequest request.messageId) =
      some (after, emitted)) :
    Settled (log ++ (cause :: .completed callbacks.number result :: emitted)) after := by
  have erased := settled.tracks.ends ends (isPending_of_mem mem has)
    (settled.tracks.withdraws_erase mem has)
  obtain ⟨kept, grows⟩ := runCallback_tracks erased ran
  rw [List.append_assoc] at kept
  have attached := settled.webState_of_pending mem
  have settledErased : Settled (log ++ [cause, .completed callbacks.number result])
      (impl.eraseRequest request.messageId) := by
    refine ⟨erased, fun other memOther => settled.calm other (List.mem_filter.mp memOther).1,
      fun detached => ?_, settled.gone⟩
    cases attached.symm.trans detached
  exact settledErased.of_grows kept grows (.inl attached)

end WebFrameImpl

end ChromiumIos
