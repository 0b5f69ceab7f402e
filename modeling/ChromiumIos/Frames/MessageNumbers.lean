import ChromiumIos.Frames.WebFrameRuns

/-!
# The numbers of the messages of a frame

Whatever a frame does, the messages it sends have increasing ids from the one it has
for its next message on, and so have its calls.  A frame that has a key seals all its
messages, and it hears of a reply only when it is told of it.
-/

namespace ChromiumIos

open Lib

variable {Key Origin Value : Type}

def sentIds (log : List (FrameEvent Value)) : List Int :=
  log.filterMap fun event =>
    match event with
    | .sent messageId _ => some messageId
    | _ => none

namespace WebFrameImpl

variable {impl middle after : WebFrameImpl Key Origin} {emitted more : List (FrameEvent Value)}
variable {reply : Option (Int × Option Value)}

/-- What a frame emits on the way from one state to another, in which it is told of at most one
reply. -/
structure Issues (reply : Option (Int × Option Value)) (impl : WebFrameImpl Key Origin)
    (emitted : List (FrameEvent Value)) (after : WebFrameImpl Key Origin) : Prop where
  next : impl.frame.nextMessageId ≤ after.frame.nextMessageId
  alive : after.alive = true → impl.alive = true ∧ after.webState = impl.webState
  sealing : impl.frame.frameKey.isSome → after.frame.frameKey.isSome ∧
    ∀ messageId, .evaluated messageId ∉ emitted
  increasing : (sentIds emitted).Pairwise (· < ·)
  sent : ∀ messageId ∈ sentIds emitted,
    impl.frame.nextMessageId ≤ messageId ∧ messageId < after.frame.nextMessageId
  called : ∀ callback messageId returned,
    .called callback messageId returned ∈ emitted → impl.frame.nextMessageId ≤ messageId
  replied : ∀ messageId result,
    .replied messageId result ∈ emitted → reply = some (messageId, result)

theorem Issues.refl (impl : WebFrameImpl Key Origin) : Issues reply impl [] impl where
  next := Int.le_refl _
  alive still := ⟨still, rfl⟩
  sealing keyed := ⟨keyed, fun _ mem => by cases mem⟩
  increasing := .nil
  sent _ mem := by cases mem
  called _ _ _ mem := by cases mem
  replied _ _ mem := by cases mem

theorem Issues.trans (first : Issues reply impl emitted middle)
    (rest : Issues reply middle more after) : Issues reply impl (emitted ++ more) after where
  next := Int.le_trans first.next rest.next
  alive still := by
    simp [rest.alive, still, first.alive]
  sealing keyed := by
    simp [first.sealing, keyed, rest.sealing]
  increasing := by
    rw [sentIds, List.filterMap_append]
    refine List.pairwise_append.mpr ⟨first.increasing, rest.increasing, ?_⟩
    intro earlier memEarlier later memLater
    exact Int.lt_of_lt_of_le (first.sent earlier memEarlier).2 (rest.sent later memLater).1
  sent messageId mem := by
    rw [sentIds, List.filterMap_append] at mem
    rcases List.mem_append.mp mem with mem | mem
    · obtain ⟨above, below⟩ := first.sent messageId mem
      exact ⟨above, Int.lt_of_lt_of_le below rest.next⟩
    · obtain ⟨above, below⟩ := rest.sent messageId mem
      exact ⟨Int.le_trans first.next above, below⟩
  called callback messageId returned mem := by
    rcases List.mem_append.mp mem with mem | mem
    · exact first.called callback messageId returned mem
    · exact Int.le_trans first.next (rest.called callback messageId returned mem)
  replied messageId result mem := by
    grind [first.replied, rest.replied]

/-- Changes of the map of pending requests and of the posted tasks issue nothing. -/
theorem Issues.of_same (frame : after.frame = impl.frame)
    (webState : after.webState = impl.webState) (alive : after.alive = impl.alive) :
    Issues reply impl [] after := by
  have same : Issues reply impl [] impl := .refl impl
  constructor
  · simp [frame.symm]
  · intro still
    exact ⟨alive ▸ still, webState⟩
  · rw [frame]
    exact same.sealing
  · exact same.increasing
  · rw [frame]
    exact same.sent
  · exact same.called
  · exact same.replied

theorem Issues.of_same_trans (issues : Issues reply middle more after)
    (frame : middle.frame = impl.frame) (webState : middle.webState = impl.webState)
    (alive : middle.alive = impl.alive) : Issues reply impl more after :=
  (Issues.of_same frame webState alive).trans issues

/-- An event other than a message leaves the frame. -/
theorem Issues.event {event : FrameEvent Value} (notMessage : ¬ IsMessage event)
    (called : ∀ callback messageId returned,
      event = .called callback messageId returned → impl.frame.nextMessageId ≤ messageId)
    (replied : ∀ messageId result,
      event = .replied messageId result → reply = some (messageId, result)) :
    Issues reply impl [event] impl := by
  have unsent : sentIds [event] = [] := by
    cases event with
    | sent _ _ => exact absurd trivial notMessage
    | called callback messageId returned | evaluated messageId | replied messageId result
    | timedOut callback | completed callback result | destroyed => rfl
  refine ⟨Int.le_refl _, fun still => ⟨still, rfl⟩, fun keyed => ⟨keyed, ?_⟩, ?_, ?_, ?_, ?_⟩
  · intro messageId mem
    cases List.mem_singleton.mp mem
    exact notMessage trivial
  · rw [unsent]
    exact .nil
  · rw [unsent]
    exact fun _ mem => by cases mem
  · grind
  · grind

/-! ## Calls -/

/-- A call takes an id and sends or evaluates a message with this id, or does nothing. -/
theorem callJavaScriptFunction_issues {seals replyWithResult called : Bool}
    (returned : impl.callJavaScriptFunction seals replyWithResult =
      some (called, after, emitted)) :
    Issues reply impl emitted after ∧
      (called = true → impl.frame.nextMessageId < after.frame.nextMessageId) := by
  unfold callJavaScriptFunction at returned
  split at returned
  · cases returned
    exact ⟨.refl _, fun called => by cases called⟩
  obtain ⟨⟨messageId, _⟩, took, returned⟩ := Option.bind_eq_some_iff.mp returned
  obtain ⟨_, -, result⟩ := Option.map_eq_some_iff.mp took
  cases result
  have more : impl.frame.nextMessageId <
      (impl.frame.setNextMessageId (impl.frame.nextMessageId + 1)).nextMessageId := Int.lt_succ _
  have silent : Issues reply impl ([] : List (FrameEvent Value))
      { impl with frame := impl.frame.setNextMessageId (impl.frame.nextMessageId + 1) } :=
    ⟨Int.le_of_lt more, fun still => ⟨still, rfl⟩,
      fun keyed => ⟨keyed, fun _ mem => by cases mem⟩, .nil, fun _ mem => (by cases mem),
      fun _ _ _ mem => (by cases mem), fun _ _ mem => by cases mem⟩
  dsimp only at returned
  split at returned
  · next keyless =>
      obtain ⟨⟨_, _⟩, executed, result⟩ := Option.map_eq_some_iff.mp returned
      cases result
      have notKeyed : ¬ impl.frame.frameKey.isSome = true := by
        have missing : impl.frame.frameKey = none := Option.isNone_iff_eq_none.mp keyless
        rw [missing]
        exact Bool.false_ne_true
      unfold executeJavaScriptFunction at executed
      split at executed
      · obtain ⟨present, -, result⟩ := Option.map_eq_some_iff.mp executed
        cases result
        refine ⟨⟨Int.le_of_lt more, fun still => ⟨still, rfl⟩, fun keyed => absurd keyed notKeyed,
          .nil, fun _ mem => (by cases mem), ?_, ?_⟩, fun _ => more⟩
        · simp
        · simp
      · cases executed
        exact ⟨silent, fun called => by cases called⟩
  split at returned
  · cases returned
    exact ⟨silent, fun called => by cases called⟩
  · obtain ⟨_, -, result⟩ := Option.map_eq_some_iff.mp returned
    cases result
    refine ⟨⟨Int.le_of_lt more, fun still => ⟨still, rfl⟩, fun keyed => ⟨keyed, ?_⟩,
      List.pairwise_singleton _ _, ?_, ?_, ?_⟩, fun _ => more⟩
    · intro messageId mem
      cases List.mem_singleton.mp mem
    · simpa [sentIds] using more
    · simp
    · simp

variable {callback : Callback}

theorem callWithCallback_issues {seals : Bool}
    (returned : impl.callWithCallback seals callback = some (after, emitted)) :
    Issues reply impl emitted after := by
  obtain ⟨⟨called, middle, told⟩, calling, result⟩ := Option.map_eq_some_iff.mp returned
  cases result
  have own : Issues reply impl
      [(.called impl.callbackCount impl.frame.nextMessageId called : FrameEvent Value)] impl := by
    refine .event id (fun callback messageId returned same => ?_) fun _ _ same => by cases same
    cases same
    exact Int.le_refl _
  have sent : Issues reply impl told middle := by
    obtain ⟨issues, -⟩ := callJavaScriptFunction_issues calling
    exact issues.of_same_trans rfl rfl rfl
  cases called with
  | true => exact own.trans sent
  | false =>
    have erased : Issues reply middle ([] : List (FrameEvent Value))
        (middle.eraseRequest impl.frame.nextMessageId) := .of_same rfl rfl rfl
    have both := (own.trans sent).trans erased
    rwa [List.append_nil] at both

/-! ## What an operation consists of -/

/-- What no call and no message changes. -/
def Resembles (impl after : WebFrameImpl Key Origin) : Prop :=
  after.frame = impl.frame ∧ after.webState = impl.webState ∧ after.alive = impl.alive ∧
    after.callbackCount = impl.callbackCount

theorem Resembles.of_rfl {pendingRequests : List PendingRequest}
    {delayedTasks : List (Nat × Int)} :
    Resembles impl { impl with pendingRequests, delayedTasks } :=
  ⟨rfl, rfl, rfl, rfl⟩

/-- What an operation does that is told of at most one reply: it calls, it completes callbacks,
and it changes the map of pending requests and the posted tasks. -/
inductive Walk (reply : Option (Int × Option Value)) :
    WebFrameImpl Key Origin → List (FrameEvent Value) → WebFrameImpl Key Origin → Prop
  | refl {impl : WebFrameImpl Key Origin} : Walk reply impl [] impl
  | trans {impl middle after : WebFrameImpl Key Origin} {emitted more : List (FrameEvent Value)}
      (first : Walk reply impl emitted middle) (rest : Walk reply middle more after) :
      Walk reply impl (emitted ++ more) after
  | before {impl middle after : WebFrameImpl Key Origin} {emitted : List (FrameEvent Value)}
      (resembles : Resembles impl middle) (rest : Walk reply middle emitted after) :
      Walk reply impl emitted after
  | behind {impl middle after : WebFrameImpl Key Origin} {emitted : List (FrameEvent Value)}
      (first : Walk reply impl emitted middle) (resembles : Resembles middle after) :
      Walk reply impl emitted after
  | called {impl after : WebFrameImpl Key Origin} {emitted : List (FrameEvent Value)}
      {seals : Bool} {callback : Callback}
      (returned : impl.callWithCallback seals callback = some (after, emitted)) :
      Walk reply impl emitted after
  | sent {impl after : WebFrameImpl Key Origin} {emitted : List (FrameEvent Value)}
      {seals called : Bool}
      (returned : impl.callJavaScriptFunction seals false = some (called, after, emitted)) :
      Walk reply impl emitted after
  | completed {impl : WebFrameImpl Key Origin} (number : Nat) (result : Option Value) :
      Walk reply impl [.completed number result] impl
  | timedOut {impl : WebFrameImpl Key Origin} (number : Nat) :
      Walk reply impl [.timedOut number] impl
  | replied {impl : WebFrameImpl Key Origin} {messageId : Int} {result : Option Value}
      (told : reply = some (messageId, result)) : Walk reply impl [.replied messageId result] impl

theorem Walk.issues (walk : Walk reply impl emitted after) : Issues reply impl emitted after := by
  induction walk with
  | refl => exact .refl _
  | trans _ _ first rest => exact first.trans rest
  | before resembles _ rest =>
    exact rest.of_same_trans resembles.1 resembles.2.1 resembles.2.2.1
  | behind _ resembles first =>
    have both := first.trans (.of_same resembles.1 resembles.2.1 resembles.2.2.1)
    rwa [List.append_nil] at both
  | called returned => exact callWithCallback_issues returned
  | sent returned => exact (callJavaScriptFunction_issues returned).1
  | completed number result | timedOut number =>
    exact .event id (fun _ _ _ same => by cases same) fun _ _ same => by cases same
  | replied told =>
    refine .event id (fun _ _ _ same => by cases same) fun otherId other same => ?_
    cases same
    exact told

theorem runCallback_walk (ran : runCallback callback impl = some (after, emitted)) :
    Walk reply impl emitted after := by
  induction callback generalizing impl emitted with
  | done =>
    cases ran
    exact .refl
  | call _ _ _ _ ihNext =>
    obtain ⟨⟨middle, first⟩, called, ran⟩ := Option.bind_eq_some_iff.mp ran
    obtain ⟨⟨last, rest⟩, continued, result⟩ := Option.map_eq_some_iff.mp ran
    cases result
    exact (Walk.called called).trans (ihNext continued)
  | send _ _ ihNext =>
    obtain ⟨⟨_, _, _⟩, called, ran⟩ := Option.bind_eq_some_iff.mp ran
    obtain ⟨⟨_, _⟩, continued, result⟩ := Option.map_eq_some_iff.mp ran
    cases result
    exact (Walk.sent called).trans (ihNext continued)

variable {input : Input Value} {result : Option Value} {messageId : Int}

theorem completeRequest_walk
    (completed : impl.completeRequest messageId result = some (after, emitted)) :
    Walk reply impl emitted after := by
  unfold completeRequest at completed
  split at completed
  · cases completed
    exact .refl
  · cases completed
  · obtain ⟨⟨_, _⟩, ran, outcome⟩ := Option.map_eq_some_iff.mp completed
    cases outcome
    exact (Walk.completed _ _).trans ((Walk.before .of_rfl (runCallback_walk ran)).behind .of_rfl)

theorem cancelLoop_walk {bound : Nat} {visited : Option Nat}
    (returned : cancelLoop bound visited impl = some (after, emitted)) :
    Walk reply impl emitted after := by
  induction bound generalizing visited impl emitted with
  | zero => cases returned
  | succ _ ih =>
    unfold cancelLoop at returned
    split at returned
    · cases returned
      exact .refl
    · cases returned
    · next messageId callbacks next =>
        obtain ⟨⟨_, _⟩, ran, returned⟩ := Option.bind_eq_some_iff.mp returned
        obtain ⟨⟨_, _⟩, looped, result⟩ := Option.map_eq_some_iff.mp returned
        cases result
        exact (Walk.completed _ _).trans
          ((Walk.before .of_rfl (runCallback_walk ran)).trans (ih looped))

theorem cancelPendingRequests_walk
    (cancelled : impl.cancelPendingRequests = some (after, emitted)) :
    Walk reply impl emitted after := by
  obtain ⟨⟨_, _⟩, loop, result⟩ := Option.map_eq_some_iff.mp cancelled
  cases result
  exact (cancelLoop_walk loop).behind .of_rfl

theorem onJavaScriptReply_walk {command : ReplyCommand Value}
    (returned : impl.onJavaScriptReply command = some (after, emitted)) :
    Walk (command.messageId.map fun messageId => (messageId, command.result)) impl
      (impl.toldBy command ++ emitted) after := by
  unfold onJavaScriptReply at returned
  split at returned
  · next other =>
    cases returned
    rw [toldBy, if_neg other]
    exact .refl
  next meant =>
  rw [Decidable.not_not] at meant
  rw [toldBy, if_pos meant]
  split at returned
  · next nameless =>
    cases returned
    rw [nameless]
    exact .refl
  next messageId replyId =>
  have named : (command.messageId.map fun messageId => (messageId, command.result)) =
      some (messageId, command.result) := by
    rw [replyId]
    rfl
  rw [named, replyId]
  split at returned
  · cases returned
    exact .replied rfl
  · cases returned
  · obtain ⟨⟨_, _⟩, ran, result⟩ := Option.map_eq_some_iff.mp returned
    cases result
    exact (Walk.replied rfl).trans
      ((Walk.completed _ _).trans (.before .of_rfl (runCallback_walk ran)))

theorem runDelayedTask_walk {number : Nat}
    (returned : impl.runDelayedTask number messageId = some (after, emitted)) :
    Walk reply impl (.timedOut number :: emitted) after := by
  unfold runDelayedTask at returned
  dsimp only at returned
  split at returned
  · exact (Walk.timedOut _).trans (.before .of_rfl (completeRequest_walk returned))
  · cases returned
    exact (Walk.timedOut _).behind .of_rfl

def Input.reply? : Input Value → Option (Int × Option Value)
  | .reply command => command.messageId.map fun messageId => (messageId, command.result)
  | .evaluated messageId result => some (messageId, result)
  | _ => none

theorem onEvaluated_walk (returned : impl.onEvaluated messageId result = some (after, emitted)) :
    Walk (some (messageId, result)) impl (.replied messageId result :: emitted) after := by
  unfold onEvaluated at returned
  split at returned
  · exact (Walk.replied rfl).trans (completeRequest_walk returned)
  · cases returned
    exact .replied rfl

/-- A step walks, and when it ends the frame or its WebState, the end is told last. -/
theorem step_walk (stepped : impl.step input = some (after, emitted)) :
    Walk input.reply? impl emitted after ∨
      ∃ middle told, Walk input.reply? impl told middle ∧ emitted = told ++ [.destroyed] ∧
        after.frame = middle.frame ∧ after.callbackCount = middle.callbackCount ∧
        (input = .webStateDestroyed ∨ after.alive = false) := by
  cases input with
  | call _ _ => exact .inl (.called stepped)
  | send _ =>
    obtain ⟨⟨_, _, told⟩, calling, result⟩ := Option.map_eq_some_iff.mp stepped
    cases result
    exact .inl (.sent calling)
  | reply _ =>
    obtain ⟨⟨_, _⟩, handled, result⟩ := Option.map_eq_some_iff.mp stepped
    cases result
    exact .inl (onJavaScriptReply_walk handled)
  | evaluated _ _ =>
    obtain ⟨⟨_, _⟩, handled, result⟩ := Option.map_eq_some_iff.mp stepped
    cases result
    exact .inl (onEvaluated_walk handled)
  | delayedTask _ _ =>
    obtain ⟨⟨_, _⟩, handled, result⟩ := Option.map_eq_some_iff.mp stepped
    cases result
    exact .inl (runDelayedTask_walk handled)
  | webStateDestroyed | destroy =>
    obtain ⟨⟨_, told⟩, handled, result⟩ := Option.map_eq_some_iff.mp stepped
    cases result
    obtain ⟨⟨emptied, _⟩, cancelled, result⟩ := Option.map_eq_some_iff.mp handled
    cases result
    exact .inr ⟨emptied, told, cancelPendingRequests_walk cancelled, rfl, rfl, rfl, by simp⟩

/-- A frame stays with its WebState until it goes. -/
theorem step_issues (staying : input ≠ .webStateDestroyed)
    (stepped : impl.step input = some (after, emitted)) :
    Issues input.reply? impl emitted after := by
  rcases step_walk stepped with walk | ⟨middle, told, walk, rfl, frame, -, ends⟩
  · exact walk.issues
  have gone : Issues input.reply? middle [(.destroyed : FrameEvent Value)] after := by
    refine ⟨Int.le_of_eq (by rw [frame]), fun still => ?_, fun keyed => ⟨by rwa [frame], by simp⟩,
      .nil, by simp [sentIds], by simp, by simp⟩
    rw [ends.resolve_left staying] at still
    cases still
  exact walk.issues.trans gone

end WebFrameImpl

end ChromiumIos
