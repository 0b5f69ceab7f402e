import ChromiumIos.Frames.FrameMessaging
import ChromiumIos.Frames.MessageNumbers

/-!
# Results come from the call they are given to

A frame that is made when the page has finished with the messages of the frames before
numbers its messages from the first id on that none of those had.  What comes back
under such an id is then what its own message has led to.
-/

namespace ChromiumIos

open Lib

variable {Key Origin Value : Type}

namespace FrameMessaging

variable {importKey : String → Option Key} {page : PageFrame importKey Origin}
variable {state after : FrameMessaging Key Origin Value}
variable {log emitted : List (MessagingEvent Value)}

/-! ## Logs -/

theorem frameLog_append (generation : Nat) (log emitted : List (MessagingEvent Value)) :
    frameLog generation (log ++ emitted) = frameLog generation log ++ frameLog generation emitted :=
  List.filterMap_append

theorem executions_append (log emitted : List (MessagingEvent Value)) :
    executions (log ++ emitted) = executions log ++ executions emitted :=
  List.filterMap_append

variable {generation : Nat} {message : SealedMessage}
variable {messageId : Int} {result : Execution Value} {posted : List (PageMessage Value)}
  {event : FrameEvent (Execution Value)}

theorem mem_frameLog : event ∈ frameLog generation log ↔ .native generation event ∈ log := by
  unfold frameLog
  grind

theorem frameLog_native (generation : Nat) (events : List (FrameEvent (Execution Value))) :
    frameLog generation (events.map (MessagingEvent.native generation)) = events := by
  simp [frameLog]

theorem executions_native (generation : Nat) (events : List (FrameEvent (Execution Value))) :
    executions (events.map (MessagingEvent.native generation)) = [] := by
  simp [executions]

/-- An event that is not one of a native frame. -/
theorem mem_of_notNative {event : MessagingEvent Value} {own : FrameEvent (Execution Value)}
    (notNative : ∀ generation own, event ≠ .native generation own)
    (mem : .native generation own ∈ log ++ [event]) : .native generation own ∈ log := by
  grind

theorem Own.append (own : Own log) {event : MessagingEvent Value}
    (notNative : ∀ generation own, event ≠ .native generation own) : Own (log ++ [event]) := by
  grind [Own]

/-! ## What holds between the events -/

def WasReturned (log : List (MessagingEvent Value)) (messageId : Int)
    (result : Execution Value) : Prop :=
  result.messageId = messageId ∧
    .executed ⟨result.generation, messageId, true⟩ (.returned (some result.value)) ∈ log

theorem WasReturned.append (returned : WasReturned log messageId result)
    (emitted : List (MessagingEvent Value)) : WasReturned (log ++ emitted) messageId result :=
  ⟨returned.1, List.mem_append_left _ returned.2⟩

/-- The last registered frame, whose messages have ids from `first` on. -/
structure Current (first : Int) (log : List (MessagingEvent Value))
    (state : FrameMessaging Key Origin Value) (frame : RegisteredFrame Key Origin) : Prop where
  generation : frame.generation < state.generations
  settled : WebFrameImpl.Settled (frameLog frame.generation log) frame.impl
  keyed : frame.impl.frame.frameKey.isSome
  first_le : first ≤ state.lastReceivedMessageId + 1
  received : state.lastReceivedMessageId < frame.impl.frame.nextMessageId
  heard : ∀ message, .ignored message ∈ log → message.generation ≠ frame.generation
  new : ∀ message ∈ state.inFlight, message.generation = frame.generation →
    state.lastReceivedMessageId < message.messageId ∧
      message.messageId < frame.impl.frame.nextMessageId
  increasing : state.inFlight.Pairwise fun earlier later =>
    earlier.generation = frame.generation → later.generation = frame.generation →
      earlier.messageId < later.messageId
  old : ∀ message ∈ state.inFlight, message.generation ≠ frame.generation →
    message.messageId < first
  called : ∀ callback messageId returned,
    .native frame.generation (.called callback messageId returned) ∈ log → first ≤ messageId
  posted : ∀ messageId result, .reply messageId (some result) ∈ state.posted →
    result.generation = frame.generation ∨ messageId < first
  replied : ∀ messageId result,
    .native frame.generation (.replied messageId (some result)) ∈ log →
      WasReturned log messageId result ∧
        (result.generation = frame.generation ∨ messageId < first)

structure Consistent (log : List (MessagingEvent Value))
    (state : FrameMessaging Key Origin Value) : Prop where
  own : Own log
  executed : ((executions log).map SealedMessage.messageId).Pairwise (· < ·)
  received : ∀ message ∈ executions log, message.messageId ≤ state.lastReceivedMessageId
  range : -1 ≤ state.lastReceivedMessageId ∧ state.lastReceivedMessageId < messageIdMax
  inFlight : ∀ message ∈ state.inFlight,
    message.messageId < messageIdMax ∧ message.generation < state.generations
  replies : ∀ messageId result, .reply messageId result ∈ state.posted →
    0 ≤ messageId ∧ messageId ≤ state.lastReceivedMessageId
  returned : ∀ messageId result, .reply messageId (some result) ∈ state.posted →
    WasReturned log messageId result
  native : ∀ generation event, .native generation event ∈ log → generation < state.generations
  ignored : ∀ message, .ignored message ∈ log → message.generation < state.generations
  sealing : ∀ generation messageId, .native generation (.evaluated messageId) ∉ log
  attached : ∀ frame ∈ state.frame, frame.impl.alive = true ∧ frame.impl.webState = true
  frame : ∀ frame ∈ state.frame, ∃ first, Current first log state frame

theorem consistent_init :
    Consistent ([] : List (MessagingEvent Value)) (init : FrameMessaging Key Origin Value) where
  own _ _ _ mem := by cases mem
  executed := .nil
  received _ mem := by cases mem
  range := by
    simp [init, messageIdMax]
  inFlight _ mem := by cases mem
  replies _ _ mem := by cases mem
  returned _ _ mem := by cases mem
  native _ _ mem := by cases mem
  ignored _ mem := by cases mem
  sealing _ _ mem := by cases mem
  attached _ mem := by cases mem
  frame _ mem := by cases mem

variable (consistent : Consistent log state)
include consistent

/-- Messages may be lost, whether they come from the page or go to it. -/
theorem Consistent.lose {scripts decrypting : List SealedMessage}
    (fewer : (decrypting ++ scripts).Sublist state.inFlight) (subset : posted ⊆ state.posted) :
    Consistent log { state with scripts, decrypting, posted } where
  own := consistent.own
  executed := consistent.executed
  received := consistent.received
  range := consistent.range
  inFlight message mem := consistent.inFlight message (fewer.subset mem)
  replies messageId result mem := consistent.replies messageId result (subset mem)
  returned messageId result mem := consistent.returned messageId result (subset mem)
  native := consistent.native
  ignored := consistent.ignored
  sealing := consistent.sealing
  attached := consistent.attached
  frame frame mem := by
    obtain ⟨first, current⟩ := consistent.frame frame mem
    exact ⟨first, current.generation, current.settled, current.keyed, current.first_le,
      current.received, current.heard, fun message mem => current.new message (fewer.subset mem),
      current.increasing.sublist fewer, fun message mem => current.old message (fewer.subset mem),
      current.called, fun messageId result mem => current.posted messageId result (subset mem),
      current.replied⟩

/-- A registration is posted. -/
theorem Consistent.post {lastReceivedMessageId : Int} :
    Consistent log
      { state with
        posted := state.posted ++ [.frameBecameAvailable lastReceivedMessageId] } := by
  have inPosted : ∀ {messageId result},
      .reply messageId result ∈
        state.posted ++ [PageMessage.frameBecameAvailable lastReceivedMessageId] →
        .reply messageId result ∈ state.posted := by
    simp
  refine ⟨consistent.own, consistent.executed, consistent.received, consistent.range,
    consistent.inFlight, fun messageId result mem => consistent.replies messageId result
      (inPosted mem), by grind [consistent.returned], consistent.native, consistent.ignored,
    consistent.sealing, consistent.attached, fun frame mem => ?_⟩
  obtain ⟨first, current⟩ := consistent.frame frame mem
  exact ⟨first, current.generation, current.settled, current.keyed, current.first_le,
    current.received, current.heard, current.new, current.increasing, current.old,
    current.called, fun messageId result mem => current.posted messageId result (inPosted mem),
    current.replied⟩

omit consistent

/-! ## Steps of the frame -/

theorem map_messageId_sealedMessage (generation : Nat)
    (events : List (FrameEvent (Execution Value))) :
    (events.filterMap (sealedMessage generation)).map SealedMessage.messageId = sentIds events := by
  grind [sealedMessage, sentIds]

variable {evaluation : Evaluation Value} {events : List (FrameEvent (Execution Value))}

theorem generation_of_mem_sealed (mem : message ∈ events.filterMap (sealedMessage generation)) :
    message.generation = generation := by
  obtain ⟨event, -, message⟩ := List.mem_filterMap.mp mem
  cases event with
  | sent _ _ =>
    cases message
    rfl
  | called callback messageId returned | evaluated messageId | replied messageId result
  | timedOut callback | completed callback result | destroyed => cases message

theorem mem_native {other : Nat} :
    .native other event ∈ events.map (MessagingEvent.native generation) ↔
      other = generation ∧ event ∈ events := by
  grind

theorem inFlight_updateFrame (state : FrameMessaging Key Origin Value) (generation : Nat)
    (impl : WebFrameImpl Key Origin) (events : List (FrameEvent (Execution Value))) :
    (state.updateFrame generation impl events).inFlight =
      state.inFlight ++ events.filterMap (sealedMessage generation) :=
  (List.append_assoc _ _ _).symm

theorem mem_frame_updateFrame {impl : WebFrameImpl Key Origin} {last : RegisteredFrame Key Origin}
    (mem : last ∈ (state.updateFrame generation impl events).frame) :
    impl.alive = true ∧ last = ⟨generation, impl⟩ := by
  change last ∈ (if impl.alive then some ⟨generation, impl⟩ else none) at mem
  grind

section Step

variable {frame : RegisteredFrame Key Origin} {impl : WebFrameImpl Key Origin}
variable {input : WebFrameImpl.Input (Execution Value)} {first : Int}
variable {events : List (FrameEvent (Execution Value))}

/-- The completions of a settled frame are those of the calls the results belong to. -/
theorem Current.own_native (current : Current first log state frame) {callback : Nat}
    (mem : .native frame.generation (.completed callback (some result)) ∈ log) :
    result.generation = frame.generation ∧
      .native frame.generation (.called callback result.messageId true) ∈ log ∧
      .executed ⟨frame.generation, result.messageId, true⟩ (.returned (some result.value)) ∈
        log := by
  have ran : some result ∈ completions callback (frameLog frame.generation log) :=
    List.mem_filterMap.mpr ⟨_, mem_frameLog.mpr mem, if_pos rfl⟩
  rw [current.settled.completions_eq] at ran
  have answered : fate callback (frameLog frame.generation log) = .answered (some result) := by
    cases found : fate callback (frameLog frame.generation log) with
    | answered _ =>
      rw [found] at ran
      rw [List.mem_singleton.mp ran]
    | uncalled | refused | waiting messageId =>
      rw [found] at ran
      cases ran
  obtain ⟨messageId, called, replied⟩ := exists_of_fate_answered answered
  have calledOwn := mem_frameLog.mp called
  obtain ⟨⟨rfl, executed⟩, owner⟩ := current.replied messageId result (mem_frameLog.mp replied)
  have above := current.called callback _ true calledOwn
  grind

/-- A step of the registered frame, which may be its last. -/
theorem Current.next (current : Current first log state frame)
    (returned : ∀ messageId result, .reply messageId (some result) ∈ state.posted →
      WasReturned log messageId result)
    (accepted : frame.impl.Accepts input) (staying : input ≠ .webStateDestroyed)
    (told : ∀ messageId result, input.reply? = some (messageId, result) →
      .reply messageId result ∈ state.posted)
    (stepped : frame.impl.step input = some (impl, events)) :
    Current first (log ++ events.map (.native frame.generation))
      (state.updateFrame frame.generation impl events) ⟨frame.generation, impl⟩ := by
  have issues := WebFrameImpl.step_issues staying stepped
  have settled := WebFrameImpl.step_settled current.settled accepted stepped
  have queue := inFlight_updateFrame state frame.generation impl events
  have sentAbove : ∀ message ∈ events.filterMap (sealedMessage frame.generation),
      frame.impl.frame.nextMessageId ≤ message.messageId ∧
        message.messageId < impl.frame.nextMessageId := by
    intro message mem
    refine issues.sent message.messageId ?_
    grind [map_messageId_sealedMessage]
  constructor
  · exact current.generation
  · rwa [frameLog_append, frameLog_native]
  · exact (issues.sealing current.keyed).1
  · exact current.first_le
  · exact Int.lt_of_lt_of_le current.received issues.next
  · simpa using current.heard
  · intro message mem own
    rw [queue] at mem
    rcases List.mem_append.mp mem with mem | mem
    · obtain ⟨above, below⟩ := current.new message mem own
      exact ⟨above, Int.lt_of_lt_of_le below issues.next⟩
    · grind [updateFrame, current.received]
  · rw [queue]
    have sorted : (events.filterMap (sealedMessage frame.generation)).Pairwise
        fun earlier later => earlier.messageId < later.messageId := by
      grind [map_messageId_sealedMessage, issues.increasing]
    refine List.pairwise_append.mpr
      ⟨current.increasing, sorted.imp fun less _ _ => less, ?_⟩
    intro earlier memEarlier later memLater own _
    exact Int.lt_of_lt_of_le (current.new earlier memEarlier own).2 (sentAbove later memLater).1
  · intro message mem other
    rw [queue] at mem
    rcases List.mem_append.mp mem with mem | mem
    · exact current.old message mem other
    · exact absurd (generation_of_mem_sealed mem) other
  · intro callback messageId returned mem
    rcases List.mem_append.mp mem with mem | mem
    · exact current.called callback messageId returned mem
    · have above := issues.called callback messageId returned (mem_native.mp mem).2
      exact Int.le_trans (Int.le_trans current.first_le current.received) above
  · exact current.posted
  · intro messageId result mem
    rcases List.mem_append.mp mem with mem | mem
    · obtain ⟨wasReturned, owner⟩ := current.replied messageId result mem
      grind [WasReturned]
    · have replied := told messageId _ (issues.replied messageId _ (mem_native.mp mem).2)
      exact ⟨(returned messageId result replied).append _,
        current.posted messageId result replied⟩

/-- A step of the registered frame, after which it may be gone. -/
theorem Consistent.updateFrame (consistent : Consistent log state)
    (registered : frame ∈ state.frame) (accepted : frame.impl.Accepts input)
    (staying : input ≠ .webStateDestroyed)
    (told : ∀ messageId result, input.reply? = some (messageId, result) →
      .reply messageId result ∈ state.posted)
    (stepped : frame.impl.step input = some (impl, events)) :
    Consistent (log ++ events.map (.native frame.generation))
      (state.updateFrame frame.generation impl events) := by
  obtain ⟨first, current⟩ := consistent.frame frame registered
  have issues := WebFrameImpl.step_issues staying stepped
  have next := current.next consistent.returned accepted staying told stepped
  have queue := inFlight_updateFrame state frame.generation impl events
  have sameExecutions : executions (log ++ events.map (.native frame.generation)) =
      executions log := by
    simp [executions_append, executions_native]
  constructor
  · intro generation callback result mem
    by_cases same : generation = frame.generation
    · subst same
      exact next.own_native mem
    · rcases List.mem_append.mp mem with mem | mem
      · obtain ⟨own, called, executed⟩ := consistent.own generation callback result mem
        simp [own, called, executed]
      · exact absurd (mem_native.mp mem).1 same
  · rw [sameExecutions]
    exact consistent.executed
  · rw [sameExecutions]
    exact consistent.received
  · exact consistent.range
  · intro message mem
    rw [queue] at mem
    rcases List.mem_append.mp mem with mem | mem
    · exact consistent.inFlight message mem
    · have own := generation_of_mem_sealed mem
      have below := (next.new message (queue ▸ List.mem_append_right _ mem) own).2
      have bound := next.settled.tracks.next.2
      exact ⟨Int.lt_of_lt_of_le below bound, own ▸ current.generation⟩
  · exact consistent.replies
  · exact fun messageId result mem => (consistent.returned messageId result mem).append _
  · intro generation event mem
    rcases List.mem_append.mp mem with mem | mem
    · exact consistent.native generation event mem
    · exact (mem_native.mp mem).1 ▸ current.generation
  · simpa [FrameMessaging.updateFrame] using consistent.ignored
  · simp [consistent.sealing, issues.sealing, current.keyed]
  · intro last mem
    obtain ⟨alive, rfl⟩ := mem_frame_updateFrame mem
    simp [alive, issues.alive, consistent.attached, registered]
  · grind [FrameMessaging.updateFrame]

end Step

/-! ## Registrations -/

/-- A frame is made when the page has finished with the messages of the frames before. -/
theorem Consistent.register (consistent : Consistent log state)
    (finished : ∀ message ∈ state.inFlight, message.messageId ≤ state.lastReceivedMessageId) :
    let newFrame :=
      (page.registration state.lastReceivedMessageId).newFrame importKey page.frameId
    Consistent (log ++ [.registered state.generations])
      { state with
        frame := some ⟨state.generations, WebFrameImpl.init newFrame⟩
        generations := state.generations + 1 } := by
  intro newFrame
  have nextId : newFrame.nextMessageId = max 0 (state.lastReceivedMessageId + 1) :=
    (page.newFrame_registration state.lastReceivedMessageId).2
  obtain ⟨lower, upper⟩ := consistent.range
  have next : newFrame.nextMessageId = state.lastReceivedMessageId + 1 := by omega
  have notNative : ∀ generation event,
      (.registered state.generations : MessagingEvent Value) ≠ .native generation event :=
    fun _ _ same => by cases same
  have earlier : ∀ {generation event},
      MessagingEvent.native generation event ∈ log ++ [.registered state.generations] →
        generation ≠ state.generations :=
    fun mem => Nat.ne_of_lt (consistent.native _ _ (mem_of_notNative notNative mem))
  have sameExecutions : executions (log ++ [.registered state.generations]) = executions log := by
    simp [executions]
  have noEvents : frameLog state.generations (log ++ [.registered state.generations]) = [] :=
    List.eq_nil_iff_forall_not_mem.mpr fun event mem => earlier (mem_frameLog.mp mem) rfl
  constructor
  · exact consistent.own.append notNative
  · rw [sameExecutions]
    exact consistent.executed
  · rw [sameExecutions]
    exact consistent.received
  · exact consistent.range
  · intro message mem
    obtain ⟨bound, below⟩ := consistent.inFlight message mem
    grind
  · exact consistent.replies
  · simpa [WasReturned] using consistent.returned
  · exact fun generation event mem =>
      Nat.lt_succ_of_lt
        (consistent.native generation event (mem_of_notNative notNative mem))
  · intro message mem
    have mem : .ignored message ∈ log := by simpa using mem
    exact Nat.lt_succ_of_lt (consistent.ignored message mem)
  · simp [consistent.sealing]
  · simp [WebFrameImpl.init]
  · intro frame mem
    cases mem
    refine ⟨state.lastReceivedMessageId + 1, ?_⟩
    have old : ∀ message ∈ state.inFlight, message.generation ≠ state.generations :=
      fun message mem => Nat.ne_of_lt (consistent.inFlight message mem).2
    constructor
    · exact Nat.lt_succ_self _
    · rw [noEvents]
      exact WebFrameImpl.settled_init (by omega) (by omega)
    · exact (page.newFrame_registration state.lastReceivedMessageId).1
    · exact Int.le_refl _
    · grind [WebFrameImpl.init]
    · intro message mem
      have mem : .ignored message ∈ log := by simpa using mem
      exact Nat.ne_of_lt (consistent.ignored message mem)
    · exact fun message mem own => absurd own (old message mem)
    · exact List.pairwise_of_forall_mem_list fun message mem _ _ own =>
        absurd own (old message mem)
    · exact fun message mem _ => Int.lt_add_one_of_le (finished message mem)
    · grind
    · exact fun messageId result mem =>
        .inr (Int.lt_add_one_of_le (consistent.replies messageId _ mem).2)
    · grind

/-! ## Decryptions -/

theorem mem_replies {result : Option (Execution Value)}
    (mem : .reply messageId result ∈ message.replies evaluation) :
    messageId = message.messageId ∧ ∀ execution ∈ result,
      execution.generation = message.generation ∧ execution.messageId = message.messageId ∧
        message.replyWithResult = true ∧ evaluation = .returned (some execution.value) := by
  unfold SealedMessage.replies at mem
  split at mem
  · next value =>
      split at mem
      · next replies =>
          cases List.mem_singleton.mp mem
          simp [replies]
      · cases mem
  · cases mem

include consistent

/-- A message of an earlier frame object is ignored. -/
theorem Consistent.ignore (known : message.generation < state.generations)
    (other : ∀ frame ∈ state.frame, message.generation ≠ frame.generation) :
    Consistent (log ++ [.ignored message]) state := by
  have notNative : ∀ generation event,
      (.ignored message : MessagingEvent Value) ≠ .native generation event :=
    fun _ _ same => by cases same
  have sameExecutions : executions (log ++ [.ignored message]) = executions log := by
    simp [executions]
  constructor
  · exact consistent.own.append notNative
  · rw [sameExecutions]
    exact consistent.executed
  · rw [sameExecutions]
    exact consistent.received
  · exact consistent.range
  · exact consistent.inFlight
  · exact consistent.replies
  · simpa [WasReturned] using consistent.returned
  · simpa using consistent.native
  · intro ignored mem
    rcases List.mem_append.mp mem with mem | mem
    · exact consistent.ignored ignored mem
    · cases List.mem_singleton.mp mem
      exact known
  · simp [consistent.sealing]
  · exact consistent.attached
  · intro frame mem
    obtain ⟨first, current⟩ := consistent.frame frame mem
    refine ⟨first, current.generation, ?_, current.keyed, current.first_le, current.received, ?_,
      current.new, current.increasing, current.old, ?_, current.posted, ?_⟩
    · simpa [frameLog] using current.settled
    · grind [current.heard]
    · simpa using current.called
    · simpa [WasReturned] using current.replied

/-- A message with an id above all that the page has received is executed; while a frame is
registered it is one of its own. -/
theorem Consistent.execute {rest : List SealedMessage}
    (decrypting : state.decrypting = message :: rest)
    (fresh : state.lastReceivedMessageId < message.messageId) (evaluation : Evaluation Value) :
    Consistent (log ++ [.executed message evaluation])
      { state with
        decrypting := rest
        posted := state.posted ++ message.replies evaluation
        lastReceivedMessageId := message.messageId } := by
  have queue : state.inFlight = message :: (rest ++ state.scripts) := by
    simp [FrameMessaging.inFlight, decrypting]
  have memQueue : message ∈ state.inFlight := queue ▸ List.mem_cons_self
  have later : ∀ other ∈ rest ++ state.scripts, other ∈ state.inFlight :=
    fun other mem => queue ▸ List.mem_cons_of_mem _ mem
  obtain ⟨lower, upper⟩ := consistent.range
  have notNative : ∀ generation event,
      .executed message evaluation ≠ MessagingEvent.native generation event :=
    fun _ _ same => by cases same
  have moreExecutions : executions (log ++ [.executed message evaluation]) =
      executions log ++ [message] := executions_append _ _
  constructor
  · exact consistent.own.append notNative
  · rw [moreExecutions, List.map_append]
    refine List.pairwise_append.mpr ⟨consistent.executed, List.pairwise_singleton _ _, ?_⟩
    intro earlier memEarlier own memOwn
    obtain ⟨executed, memExecuted, rfl⟩ := List.mem_map.mp memEarlier
    cases List.mem_singleton.mp memOwn
    exact Int.lt_of_le_of_lt (consistent.received executed memExecuted) fresh
  · intro executed mem
    rw [moreExecutions] at mem
    rcases List.mem_append.mp mem with mem | mem
    · exact Int.le_trans (consistent.received executed mem) (Int.le_of_lt fresh)
    · grind
  · exact ⟨Int.le_trans lower (Int.le_of_lt fresh), (consistent.inFlight message memQueue).1⟩
  · exact fun other mem => consistent.inFlight other (later other mem)
  · intro messageId result mem
    rcases List.mem_append.mp mem with mem | mem
    · obtain ⟨nonneg, below⟩ := consistent.replies messageId result mem
      grind
    · obtain ⟨rfl, -⟩ := mem_replies mem
      grind
  · intro messageId result mem
    rcases List.mem_append.mp mem with mem | mem
    · exact (consistent.returned messageId result mem).append _
    · obtain ⟨rfl, own⟩ := mem_replies mem
      obtain ⟨generation, sameId, replies, rfl⟩ := own result rfl
      simpa [WasReturned, generation, ← replies] using sameId
  · simpa using consistent.native
  · simpa using consistent.ignored
  · simp [consistent.sealing]
  · exact consistent.attached
  · intro frame mem
    obtain ⟨first, current⟩ := consistent.frame frame mem
    have own : message.generation = frame.generation := by
      by_contra other
      have below := current.old message memQueue other
      have bound := current.first_le
      omega
    have increasing := current.increasing
    rw [queue] at increasing
    obtain ⟨behind, increasing⟩ := List.pairwise_cons.mp increasing
    refine ⟨first, current.generation, ?_, current.keyed, ?_, (current.new message memQueue own).2,
      ?_, ?_, increasing, fun other mem => current.old other (later other mem), ?_, ?_, ?_⟩
    · simpa [frameLog] using current.settled
    · exact Int.le_trans current.first_le (Int.add_le_add_right (Int.le_of_lt fresh) 1)
    · simpa using current.heard
    · exact fun other memOther same =>
        ⟨behind other memOther own same, (current.new other (later other memOther) same).2⟩
    · simpa using current.called
    · intro messageId result memPosted
      rcases List.mem_append.mp memPosted with memPosted | memPosted
      · simp [current.posted, memPosted]
      · grind [mem_replies]
    · intro messageId result mem
      obtain ⟨returned, owner⟩ :=
        current.replied messageId result (mem_of_notNative notNative mem)
      exact ⟨returned.append _, owner⟩

/-! ## Runs -/

theorem frameStep_consistent {input : WebFrameImpl.Input (Execution Value)}
    (accepted : state.FrameAccepts input) (staying : input ≠ .webStateDestroyed)
    (told : ∀ messageId result, input.reply? = some (messageId, result) →
      .reply messageId result ∈ state.posted) (subset : posted ⊆ state.posted)
    (stepped : frameStep { state with posted } input = some (after, emitted)) :
    Consistent (log ++ emitted) after := by
  obtain ⟨⟨generation, impl⟩, registered, accepted⟩ := accepted
  have there : state.frame = some ⟨generation, impl⟩ := registered
  rw [there] at stepped
  obtain ⟨⟨_, _⟩, returned, result⟩ := Option.map_eq_some_iff.mp stepped
  cases result
  have updated := consistent.updateFrame registered accepted staying told returned
  exact updated.lose (List.Sublist.refl _) subset

theorem handleScriptMessage_consistent (upToDate : state.UpToDate .scriptMessage)
    (handled : state.handleScriptMessage page = some (after, emitted)) :
    Consistent (log ++ emitted) after := by
  unfold handleScriptMessage at handled
  split at handled
  · cases handled
    rwa [List.append_nil]
  · next lastReceivedMessageId rest posted =>
      have subset : rest ⊆ state.posted := posted ▸ List.subset_cons_self _ _
      have dropped := consistent.lose (List.Sublist.refl _) subset
      have result := Option.some.inj handled
      unfold frameBecameAvailable at result
      split at result
      · cases result
        grind
      · next unregistered =>
          cases result
          have registering : state.registering = some lastReceivedMessageId := by
            rw [FrameMessaging.registering, Option.not_isSome_iff_eq_none.mp unregistered, posted]
          obtain ⟨rfl, finished⟩ := upToDate lastReceivedMessageId registering
          exact dropped.register finished
  · next messageId result rest posted =>
      have subset : rest ⊆ state.posted := posted ▸ List.subset_cons_self _ _
      have mem : .reply messageId result ∈ state.posted := posted ▸ List.mem_cons_self
      split at handled
      · next registered =>
          obtain ⟨frame, there⟩ := Option.isSome_iff_exists.mp registered
          obtain ⟨nonneg, below⟩ := consistent.replies messageId result mem
          have bound := Int.le_of_lt consistent.range.2
          have isInt := WebFrameImpl.isInt_of_nonneg nonneg (Int.le_trans below bound)
          have accepted : state.FrameAccepts (.reply (page.reply messageId result)) := by
            refine ⟨frame, there, (consistent.attached frame there).2, fun replyId same => ?_⟩
            cases same
            exact isInt
          refine frameStep_consistent consistent accepted nofun ?_ subset handled
          intro replyId replied same
          cases same
          exact mem
      · cases handled
        simpa using consistent.lose (List.Sublist.refl _) subset

theorem executeMessage_consistent (executed : state.executeMessage evaluation = (after, emitted)) :
    Consistent (log ++ emitted) after := by
  unfold executeMessage at executed
  split at executed
  · cases executed
    grind
  · next message rest decrypting =>
      have queue : state.inFlight = message :: (rest ++ state.scripts) := by
        simp [FrameMessaging.inFlight, decrypting]
      have memQueue : message ∈ state.inFlight := queue ▸ List.mem_cons_self
      split at executed
      · next late =>
          cases executed
          have fewer : (rest ++ state.scripts).Sublist state.inFlight :=
            queue ▸ List.sublist_cons_self _ _
          have dropped := consistent.lose fewer (List.Subset.refl _)
          refine dropped.ignore (consistent.inFlight message memQueue).2 fun frame mem own => ?_
          obtain ⟨first, current⟩ := consistent.frame frame mem
          exact absurd late (Int.not_le_of_gt (current.new message memQueue own).1)
      · next fresh =>
          grind [consistent.execute]

theorem step_consistent {input : Input Value} (accepted : state.Accepts input)
    (upToDate : state.UpToDate input) (stepped : step page state input = some (after, emitted)) :
    Consistent (log ++ emitted) after := by
  cases input with
  | call seals callback | send seals | delayedTask number messageId | removeFrame =>
    exact frameStep_consistent consistent accepted nofun (fun _ _ told => by cases told)
      (List.Subset.refl _) stepped
  | registerFrame =>
    cases stepped
    simp [consistent.post]
  | scriptMessage => exact handleScriptMessage_consistent consistent upToDate stepped
  | scriptMessageLost =>
    cases stepped
    simpa using consistent.lose (List.Sublist.refl _) (List.tail_sublist _).subset
  | routeMessage =>
    cases stepped
    have same : state.decrypting ++ state.scripts.take 1 ++ state.scripts.tail =
        state.inFlight := by
      simp [inFlight, ← List.drop_one]
    simp [consistent.lose, same]
  | scriptLost =>
    cases stepped
    rw [List.append_nil]
    exact consistent.lose ((List.tail_sublist _).append_left _) (List.Subset.refl _)
  | decrypted _ =>
    exact executeMessage_consistent consistent (Option.some.inj stepped)

omit consistent

/-- In a run in which a frame is made only when the page has finished with the messages of the
frames before, the page executes messages with increasing ids and ignores none of the frame
that is registered, and every callback is run with null or with what its own call has
returned; all messages are sealed. -/
theorem run_ownResults (page : PageFrame importKey Origin) (log : List (MessagingEvent Value))
    (state : FrameMessaging Key Origin Value)
    (run : Runs (step page) (fun state input => state.Accepts input ∧ state.UpToDate input) init
      log state) :
    ((executions log).map SealedMessage.messageId).Pairwise (· < ·) ∧
      Heard log state ∧ Own log ∧
      ∀ generation messageId, .native generation (.evaluated messageId) ∉ log := by
  have consistent : Consistent log state :=
    run.invariant_outputs Consistent consistent_init (by grind [step_consistent])
  refine ⟨consistent.executed, fun frame mem message ignored => ?_, consistent.own,
    consistent.sealing⟩
  obtain ⟨_, current⟩ := consistent.frame frame mem
  exact current.heard message ignored

def innerPage : PageFrame some Nat where
  frameId := "inner"
  mainFrame := false
  securityOrigin := 0
  exportedKey := "a2V5"
  exported := by decide

/-- A page is left and comes back after it has executed what it was sent; the reply to its last
message comes too late. -/
def leftAndBack : List (Input Nat) :=
  [.registerFrame, .scriptMessage, .call true .done, .send true, .call true .done,
    .routeMessage, .routeMessage, .routeMessage,
    .decrypted (.returned (some 7)), .decrypted .threw, .scriptMessage,
    .decrypted (.returned (some 8)), .removeFrame, .registerFrame, .scriptMessage, .scriptMessage,
    .call true .done, .routeMessage, .decrypted (.returned (some 9)), .scriptMessage]

theorem run_ownResults_leftAndBack :
    ∃ log : List (MessagingEvent Nat), ∃ state : FrameMessaging String Nat Nat,
      (state.generations = 2 ∧
        .native 0 (.completed 0 (some ⟨0, 0, 7⟩)) ∈ log ∧
        .native 0 (.completed 1 none) ∈ log ∧
        .native 1 (.completed 0 (some ⟨1, 3, 9⟩)) ∈ log) ∧
      Heard log state ∧ Own log := by
  have run : Runs (step innerPage) (fun state input => state.Accepts input ∧ state.UpToDate input)
      (init : FrameMessaging String Nat Nat) _ _ :=
    Runs.replay leftAndBack .start (Option.eq_some_of_isSome (by decide))
  obtain ⟨-, heard, own, -⟩ := run_ownResults innerPage _ _ run
  exact ⟨_, _, by decide, heard, own⟩

def leftWhileDecrypting : List (Input Nat) :=
  [.registerFrame, .scriptMessage, .call true .done, .routeMessage,
    .removeFrame, .registerFrame, .scriptMessage, .call true .done, .routeMessage,
    .decrypted (.returned (some 7)), .decrypted (.returned (some 8)), .scriptMessage]

/-- The message of the new frame is ignored, and its callback is run with the result of the
call that was made before. -/
theorem run_leftWhileDecrypting :
    ∃ log : List (MessagingEvent Nat), ∃ state : FrameMessaging String Nat Nat,
      Runs (step innerPage) Accepts init log state ∧
        .native 1 (.completed 0 (some ⟨0, 0, 7⟩)) ∈ log ∧ ¬ Heard log state ∧ ¬ Own log := by
  have run : Runs (step innerPage) Accepts (init : FrameMessaging String Nat Nat) _ _ :=
    Runs.replay leftWhileDecrypting .start (Option.eq_some_of_isSome (by decide))
  refine ⟨_, _, run, by decide, fun heard => ?_, fun own => ?_⟩
  · exact heard ⟨1, _⟩ rfl ⟨1, 0, true⟩ (by decide) rfl
  · exact absurd (own 1 0 ⟨0, 0, 7⟩ (by decide)).1 (by decide)

end FrameMessaging

end ChromiumIos
