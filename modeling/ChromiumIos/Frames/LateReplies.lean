import ChromiumIos.Frames.MessageNumbers
import ChromiumIos.Lib.Climbs

/-!
# Replies that come too late

A frame numbers its callbacks and the messages of its calls in increasing order, so
that a reply to a message can only be meant for one callback.  A well-formed reply
to a call meets `NOTREACHED` as soon as something has ended the call before it: its
timeout, an earlier reply or the end of the frame.
-/

namespace ChromiumIos

open Lib

variable {Key Origin Value : Type}

/-- The callbacks that are handed in, in order. -/
def calledNumbers (log : List (FrameEvent Value)) : List Nat :=
  log.filterMap fun event =>
    match event with
    | .called callback _ _ => some callback
    | _ => none

/-- The ids of the calls that were made with a callback, in order. -/
def issuedIds (log : List (FrameEvent Value)) : List Int :=
  log.filterMap fun event =>
    match event with
    | .called _ messageId true => some messageId
    | _ => none

def EndsCall (number : Nat) (messageId : Int) : FrameEvent Value → Prop
  | .replied replyId _ => replyId = messageId
  | .timedOut callback => callback = number
  | .destroyed => True
  | _ => False

variable {number : Nat} {messageId : Int} {log before later : List (FrameEvent Value)}
variable {returned : Bool}

theorem mem_calledNumbers (mem : .called number messageId returned ∈ log) :
    number ∈ calledNumbers log :=
  List.mem_filterMap.mpr ⟨_, mem, rfl⟩

theorem mem_issuedIds (mem : .called number messageId true ∈ log) : messageId ∈ issuedIds log :=
  List.mem_filterMap.mpr ⟨_, mem, rfl⟩

/-- A callback waits until something ends its call. -/
theorem foldl_observe_eq_waiting_iff (events : List (FrameEvent Value)) :
    events.foldl (Fate.observe number) (.waiting messageId) = .waiting messageId ↔
      ∀ event ∈ events, ¬ EndsCall number messageId event := by
  induction events with
  | nil => simp
  | cons event _ ih =>
    rw [List.forall_mem_cons, List.foldl_cons]
    by_cases ends : EndsCall number messageId event
    · have answered : ∃ result,
          Fate.observe number (.waiting messageId) event = .answered result := by
        cases event with
        | called callback otherId returned | sent otherId reply | evaluated otherId
        | completed _ _ => cases ends
        | replied _ result => exact ⟨result, if_pos ends⟩
        | timedOut _ => exact ⟨none, if_pos ends⟩
        | destroyed => exact ⟨none, rfl⟩
      grind [foldl_observe_closed]
    · have waits : Fate.observe number (.waiting messageId) event = .waiting messageId := by
        cases event with
        | called callback otherId returned | sent otherId reply | evaluated otherId
        | completed _ _ => rfl
        | replied otherId result | timedOut callback => exact if_neg ends
        | destroyed => exact absurd trivial ends
      simp [waits, ih, ends]

/-- A callback that has not been handed in has no fate. -/
theorem fate_eq_uncalled (missing : number ∉ calledNumbers log) :
    fate number log = .uncalled := by
  unfold fate
  induction log with
  | nil => rfl
  | cons event rest _ =>
    have restMissing : number ∉ calledNumbers rest := by
      grind [calledNumbers]
    have unnoticed : Fate.observe number .uncalled event = .uncalled := by
      cases event with
      | sent otherId reply | evaluated otherId | replied otherId result | timedOut callback
      | completed callback result | destroyed => rfl
      | called callback _ _ =>
        have differs : callback ≠ number := by
          grind [mem_calledNumbers]
        exact if_neg differs
    grind

/-- A callback that waits has been handed in with the id it waits for. -/
theorem called_of_waiting (waiting : fate number log = .waiting messageId) :
    .called number messageId true ∈ log := by
  unfold fate at waiting
  induction log with
  | nil => cases waiting
  | cons event _ ih =>
    rw [List.foldl_cons] at waiting
    cases event with
    | sent otherId reply | evaluated otherId | replied otherId result | timedOut callback
    | completed callback result | destroyed => exact List.mem_cons_of_mem _ (ih waiting)
    | called callback _ returned =>
      by_cases same : callback = number
      · subst same
        rw [Fate.observe, if_pos rfl] at waiting
        cases returned with
        | false =>
          simp [foldl_observe_closed (.inl rfl)] at waiting
        | true =>
          grind [foldl_observe_waiting]
      · rw [Fate.observe, if_neg same] at waiting
        simp [ih, waiting]

namespace WebFrameImpl

variable {impl middle after : WebFrameImpl Key Origin} {emitted more : List (FrameEvent Value)}

def replyTo (impl : WebFrameImpl Key Origin) (messageId : Int) (result : Option Value) :
    ReplyCommand Value where
  command := some impl.replyCommand
  messageId := some messageId
  result := result

/-- Whether a reply meets one of the four `NOTREACHED` of `onJavaScriptReply`. -/
def meetsNotReached (impl : WebFrameImpl Key Origin) (command : ReplyCommand Value) : Bool :=
  command.command ≠ some impl.replyCommand ||
    command.messageId.all fun messageId => (impl.findRequest messageId).isNone

/-- Between two states the numbers of the callbacks and the ids of the calls increase. -/
structure Enters (impl : WebFrameImpl Key Origin) (emitted : List (FrameEvent Value))
    (after : WebFrameImpl Key Origin) : Prop where
  numbers : Climbs impl.callbackCount (calledNumbers emitted) after.callbackCount
  ids : Climbs impl.frame.nextMessageId (issuedIds emitted) after.frame.nextMessageId

theorem Enters.trans (first : Enters impl emitted middle) (rest : Enters middle more after) :
    Enters impl (emitted ++ more) after where
  numbers := by
    simpa [calledNumbers] using first.numbers.append rest.numbers
  ids := by
    simpa [issuedIds] using first.ids.append rest.ids

/-- Where no callback is handed in, only ids may be taken. -/
theorem Enters.of_uncalled (same : after.callbackCount = impl.callbackCount)
    (next : impl.frame.nextMessageId ≤ after.frame.nextMessageId)
    (uncalled : ∀ event ∈ emitted, ∀ callback messageId returned,
      event ≠ .called callback messageId returned) : Enters impl emitted after := by
  have noNumbers : calledNumbers emitted = [] := by
    refine List.filterMap_eq_nil_iff.mpr fun event mem => ?_
    simp [uncalled, mem]
  have noIds : issuedIds emitted = [] := by
    refine List.filterMap_eq_nil_iff.mpr fun event mem => ?_
    simp [uncalled, mem]
  constructor
  · rw [noNumbers]
    exact .nil (Nat.le_of_eq same.symm)
  · rw [noIds]
    exact .nil next

theorem Enters.refl (impl : WebFrameImpl Key Origin) :
    Enters impl ([] : List (FrameEvent Value)) impl :=
  .of_uncalled rfl (Int.le_refl _) fun _ mem => by cases mem

/-- An event that hands in no callback, in a state with the same counters. -/
theorem Enters.cons {event : FrameEvent Value} (enters : Enters middle more after)
    (uncalled : ∀ callback messageId returned, event ≠ .called callback messageId returned)
    (count : middle.callbackCount = impl.callbackCount)
    (next : middle.frame.nextMessageId = impl.frame.nextMessageId) :
    Enters impl (event :: more) after := by
  have own : Enters impl [event] middle := by
    grind [of_uncalled]
  exact own.trans enters

/-- What follows changes neither of the counters. -/
theorem Enters.same (enters : Enters impl emitted middle)
    (count : after.callbackCount = middle.callbackCount)
    (next : after.frame.nextMessageId = middle.frame.nextMessageId) :
    Enters impl emitted after := by
  obtain ⟨numbers, ids⟩ := enters
  constructor
  · rw [count]
    exact numbers
  · rw [next]
    exact ids

/-! ## The operations -/

theorem callJavaScriptFunction_enters {seals replyWithResult called : Bool}
    (returned : impl.callJavaScriptFunction seals replyWithResult =
      some (called, after, emitted)) :
    Enters impl emitted after ∧
      (called = true → impl.frame.nextMessageId < after.frame.nextMessageId) := by
  obtain ⟨nextMessageId, rfl, taken, -, messages⟩ := callJavaScriptFunction_cases returned
  have above : impl.frame.nextMessageId ≤ nextMessageId := by
    omega
  refine ⟨.of_uncalled rfl above fun event mem callback messageId returned same => ?_,
    fun wasCalled => ?_⟩
  · subst same
    exact messages _ mem
  · grind [WebFrame.setNextMessageId]

theorem callWithCallback_enters {seals : Bool} {callback : Callback}
    (returned : impl.callWithCallback seals callback = some (after, emitted)) :
    Enters impl emitted after := by
  obtain ⟨⟨called, sent, told⟩, calling, result⟩ := Option.map_eq_some_iff.mp returned
  cases result
  obtain ⟨enters, taken⟩ := callJavaScriptFunction_enters calling
  have counted : impl.callbackCount < sent.callbackCount :=
    Nat.lt_of_lt_of_le (Nat.lt_succ_self _) enters.numbers.le
  -- the id of a call that was made is below those that follow
  have own : Enters impl [(.called impl.callbackCount impl.frame.nextMessageId called :
      FrameEvent Value)] { sent with callbackCount := impl.callbackCount + 1 } := by
    constructor
    · exact .single (Nat.lt_succ_self _)
    · cases called with
      | true => exact .single (taken rfl)
      | false => exact .nil enters.ids.le
  have silent : Enters { sent with callbackCount := impl.callbackCount + 1 } told sent := by
    obtain ⟨_, rfl, -, -, messages⟩ := callJavaScriptFunction_cases calling
    refine .of_uncalled rfl (Int.le_refl _) fun event mem callback messageId returned same => ?_
    subst same
    exact messages _ mem
  refine (own.trans silent).same ?_ ?_ <;> cases called <;> rfl

theorem Walk.enters {reply : Option (Int × Option Value)} (walk : Walk reply impl emitted after) :
    Enters impl emitted after := by
  induction walk with
  | refl => exact .refl _
  | trans _ _ first rest => exact first.trans rest
  | before resembles _ rest =>
    obtain ⟨frame, -, -, count⟩ := resembles
    exact ⟨count ▸ rest.numbers, frame ▸ rest.ids⟩
  | behind _ resembles first =>
    obtain ⟨frame, -, -, count⟩ := resembles
    grind [first.same]
  | called returned => exact callWithCallback_enters returned
  | sent returned => exact (callJavaScriptFunction_enters returned).1
  | completed number result | timedOut number | replied told =>
    exact (Enters.refl _).cons nofun rfl rfl

theorem step_enters {input : Input Value} (stepped : impl.step input = some (after, emitted)) :
    Enters impl emitted after := by
  rcases step_walk stepped with walk | ⟨middle, told, walk, rfl, frame, count, -⟩
  · exact walk.enters
  · have last : Enters middle [(.destroyed : FrameEvent Value)] middle :=
      (Enters.refl middle).cons nofun rfl rfl
    exact (walk.enters.trans last).same count (by rw [frame])

/-! ## Runs -/

section Run

variable {frame : WebFrame Key Origin} (run : Runs step Accepts (init frame) log impl)

include run

theorem run_enters : Enters (init frame) log impl :=
  run.invariant_outputs (Enters (init frame)) (.refl _)
    fun _ entered _ stepped => entered.trans (step_enters stepped)

/-- A callback is handed in once. -/
theorem uncalled_before (split : log = before ++ .called number messageId returned :: later) :
    fate number before = .uncalled := by
  refine fate_eq_uncalled fun mem => ?_
  have increasing := (run_enters run).numbers.increasing
  rw [split, calledNumbers, List.filterMap_append] at increasing
  have called : number ∈ calledNumbers (.called number messageId returned :: later) :=
    mem_calledNumbers List.mem_cons_self
  have less := (List.pairwise_append.mp increasing).2.2 number mem number called
  exact Nat.lt_irrefl _ less

/-- Each id is issued to one callback. -/
theorem number_eq_of_issued {other : Nat} (mem : .called number messageId true ∈ log)
    (memOther : .called other messageId true ∈ log) : other = number := by
  have increasing := (run_enters run).ids.increasing
  obtain ⟨_, later, rfl⟩ := List.append_of_mem mem
  rw [issuedIds, List.filterMap_append, List.pairwise_append] at increasing
  obtain ⟨-, following, apart⟩ := increasing
  rcases List.mem_append.mp memOther with memBefore | memLater
  · have issued : messageId ∈ issuedIds (.called number messageId true :: later) :=
      mem_issuedIds List.mem_cons_self
    exact absurd (apart messageId (mem_issuedIds memBefore) messageId issued) (Int.lt_irrefl _)
  · cases List.mem_cons.mp memLater with
    | inl same =>
      cases same
      rfl
    | inr memRest =>
      exact absurd ((List.pairwise_cons.mp following).1 messageId (mem_issuedIds memRest))
        (Int.lt_irrefl _)

end Run

/-- A reply to a call finds its request exactly while the callback of the call waits. -/
theorem Settled.meetsNotReached_iff {frame : WebFrame Key Origin} (settled : Settled log impl)
    (run : Runs step Accepts (init frame) log impl) (nonneg : 0 ≤ frame.nextMessageId)
    (issued : .called number messageId true ∈ log) (result : Option Value) :
    impl.meetsNotReached (impl.replyTo messageId result) = false ↔
      fate number log = .waiting messageId := by
  have isInt : IsInt messageId := by
    obtain ⟨above, below⟩ := (run_enters run).ids.within messageId (mem_issuedIds issued)
    exact isInt_of_nonneg (Int.le_trans nonneg above)
      (Int.le_trans (Int.le_of_lt below) settled.tracks.next.2)
  have meets : impl.meetsNotReached (impl.replyTo messageId result) =
      (impl.findRequest messageId).isNone := by
    simp [meetsNotReached, replyTo]
  rw [meets]
  constructor
  · intro found
    obtain ⟨request, found⟩ := Option.isSome_iff_exists.mp (Option.isNone_eq_false_iff.mp found)
    obtain ⟨mem, callbacks, has⟩ := settled.found_callbacks found
    obtain ⟨-, rfl⟩ := findRequest_eq_some settled.tracks isInt found
    have waiting := (settled.tracks.pending request mem callbacks has).1
    rw [← number_eq_of_issued run issued (called_of_waiting waiting)]
    exact waiting
  · intro waiting
    by_contra missing
    rw [Bool.not_eq_false, Option.isNone_iff_eq_none] at missing
    exact settled.not_waiting missing waiting

/-- In every run a reply to a call that was made with a callback is met by `NOTREACHED` exactly
if something has ended the call; where that is passed over, the reply changes nothing. -/
theorem reply_reached_iff (frame : WebFrame Key Origin) (nonneg : 0 ≤ frame.nextMessageId)
    (bound : frame.nextMessageId ≤ messageIdMax) (before later : List (FrameEvent Value))
    (number : Nat) (messageId : Int) (impl : WebFrameImpl Key Origin)
    (run : Runs step Accepts (init frame) (before ++ .called number messageId true :: later) impl)
    (result : Option Value) :
    (impl.meetsNotReached (impl.replyTo messageId result) = false ↔
        ∀ event ∈ later, ¬ EndsCall number messageId event) ∧
      (impl.meetsNotReached (impl.replyTo messageId result) = true →
        impl.step (.reply (impl.replyTo messageId result)) =
          some (impl, [.replied messageId result])) := by
  have settled : Settled (before ++ .called number messageId true :: later) impl :=
    run.invariant_outputs Settled (settled_init nonneg bound)
      (by grind [step_settled])
  have issued : .called number messageId true ∈ before ++ .called number messageId true :: later :=
    List.mem_append_right _ List.mem_cons_self
  have called : fate number (before ++ .called number messageId true :: later) =
      later.foldl (Fate.observe number) (.waiting messageId) := by
    simp [fate_append, uncalled_before run rfl, Fate.observe]
  constructor
  · rw [settled.meetsNotReached_iff run nonneg issued, called]
    exact foldl_observe_eq_waiting_iff later
  · intro meets
    have missing : impl.findRequest messageId = none := by
      simpa [meetsNotReached, replyTo] using meets
    simp [step, replyTo, toldBy, onJavaScriptReply, missing]

def timedOutAndWaiting : List (Input Nat) :=
  [.call true .done, .delayedTask 0 5, .call true .done]

theorem reply_reached_iff_timedOutAndWaiting :
    ∃ impl : WebFrameImpl String Nat,
      ((impl.meetsNotReached (impl.replyTo 5 (some 42)) = false ↔ False) ∧
        (impl.meetsNotReached (impl.replyTo 6 (some 43)) = false ↔ True)) ∧
      impl.step (.reply (impl.replyTo 5 (some 42))) = some (impl, [.replied 5 (some 42)]) := by
  have run : Runs step Accepts (init innerFrame) _ _ :=
    Runs.replay timedOutAndWaiting .start (Option.eq_some_of_isSome (by decide))
  obtain ⟨timedOut, passedOver⟩ := reply_reached_iff innerFrame (by decide) (by decide) []
    [.sent 5 true, .timedOut 0, .completed 0 none, .called 1 6 true, .sent 6 true] 0 5 _ run
    (some 42)
  obtain ⟨waiting, -⟩ := reply_reached_iff innerFrame (by decide) (by decide)
    [.called 0 5 true, .sent 5 true, .timedOut 0, .completed 0 none] [.sent 6 true] 1 6 _ run
    (some 43)
  refine ⟨_, ⟨timedOut.trans ⟨fun unended => ?_, False.elim⟩,
    waiting.trans ⟨fun _ => trivial, fun _ event mem ends => ?_⟩⟩, passedOver (by decide)⟩
  · exact unended (.timedOut 0) (by decide) rfl
  · cases List.mem_singleton.mp mem
    exact ends

/-- A reply behind the timeout of its request reaches what should not be reached. -/
theorem not_reply_reached_timedOut :
    ¬ ∀ (log : List (FrameEvent Nat)) (impl : WebFrameImpl String Nat) (number : Nat)
        (messageId : Int) (result : Option Nat),
      Runs step Accepts (init innerFrame) log impl → .called number messageId true ∈ log →
        impl.Accepts (.reply (impl.replyTo messageId result)) →
        impl.meetsNotReached (impl.replyTo messageId result) = false := by
  intro reached
  have run : Runs step Accepts (init innerFrame) _ _ :=
    Runs.replay timedOutAndWaiting .start (Option.eq_some_of_isSome (by decide))
  exact absurd (reached _ _ 0 5 (some 42) run (by decide) (by decide)) (by decide)

end WebFrameImpl

end ChromiumIos
