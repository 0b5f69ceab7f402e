import ChromiumIos.Frames.WebFrameImpl

/-!
# What becomes of a callback

A log of calls, replies, timeouts and the end of a frame says for every callback
what it is due: nothing if its call was refused, the result of the first reply if
it comes before the timeout and the end, and null otherwise.  The frame owes a
callback what it is due until it has run it.
-/

namespace ChromiumIos

open Lib

variable {Key Origin Value : Type}

inductive Fate (Value : Type) where
  | uncalled
  | refused
  | waiting (messageId : Int)
  | answered (result : Option Value)

namespace Fate

def ended : Fate Value → Fate Value
  | waiting _ => answered none
  | fate => fate

def observe (number : Nat) : Fate Value → FrameEvent Value → Fate Value
  | uncalled, .called callback messageId returned =>
    if callback = number then if returned then waiting messageId else refused else uncalled
  | waiting messageId, .replied replyId result =>
    if replyId = messageId then answered result else waiting messageId
  | waiting messageId, .timedOut callback =>
    if callback = number then answered none else waiting messageId
  | fate, .destroyed => fate.ended
  | fate, _ => fate

def results : Fate Value → List (Option Value)
  | answered result => [result]
  | _ => []

/-- The fate of a callback that has been run, which is already due what the end of the frame
gives it while the frame is going. -/
def due (going : Bool) (fate : Fate Value) : Fate Value := if going then fate.ended else fate

end Fate

def fate (number : Nat) (log : List (FrameEvent Value)) : Fate Value :=
  log.foldl (Fate.observe number) .uncalled

/-- The results the callback with a number has been run with, in order. -/
def completions (number : Nat) (log : List (FrameEvent Value)) : List (Option Value) :=
  log.filterMap fun event =>
    match event with
    | .completed callback result => if callback = number then some result else none
    | _ => none

variable {number other : Nat} {log more emitted : List (FrameEvent Value)}

theorem fate_append : fate number (log ++ more) =
    more.foldl (Fate.observe number) (fate number log) :=
  List.foldl_append

theorem completions_append : completions number (log ++ more) =
    completions number log ++ completions number more :=
  List.filterMap_append

/-- What has been refused or answered stays so. -/
theorem foldl_observe_closed {closed : Fate Value}
    (isClosed : closed = .refused ∨ ∃ result, closed = .answered result)
    (events : List (FrameEvent Value)) :
    events.foldl (Fate.observe number) closed = closed := by
  induction events with
  | nil => rfl
  | cons event _ ih =>
    rcases isClosed with rfl | ⟨result, rfl⟩ <;> cases event <;> exact ih

/-- A callback waits for one id only, and the result it is due is that of a reply to this id. -/
theorem foldl_observe_waiting (messageId : Int) (events : List (FrameEvent Value)) :
    events.foldl (Fate.observe number) (.waiting messageId) = .waiting messageId ∨
      ∃ result, events.foldl (Fate.observe number) (.waiting messageId) = .answered result ∧
        (result = none ∨ .replied messageId result ∈ events) := by
  induction events with
  | nil => exact .inl rfl
  | cons event rest _ =>
    rw [List.foldl_cons]
    have later : rest.foldl (Fate.observe number) (.waiting messageId) = .waiting messageId ∨
        ∃ result, rest.foldl (Fate.observe number) (.waiting messageId) = .answered result ∧
          (result = none ∨ .replied messageId result ∈ event :: rest) := by
      grind
    cases event with
    | called callback otherId returned | sent otherId reply | evaluated otherId
    | completed _ _ => exact later
    | replied otherId _ =>
      by_cases same : otherId = messageId
      · simp [Fate.observe, foldl_observe_closed, same]
      · rw [Fate.observe, if_neg same]
        exact later
    | timedOut callback =>
      by_cases same : callback = number
      · simp [Fate.observe, if_pos same, foldl_observe_closed]
      · rw [Fate.observe, if_neg same]
        exact later
    | destroyed => exact .inr ⟨none, foldl_observe_closed (.inr ⟨_, rfl⟩) _, .inl rfl⟩

/-- A callback that is due a result has been passed to a call whose message was replied to. -/
theorem exists_of_fate_answered {result : Value}
    (answered : fate number log = .answered (some result)) :
    ∃ messageId, .called number messageId true ∈ log ∧
      .replied messageId (some result) ∈ log := by
  unfold fate at answered
  induction log with
  | nil => cases answered
  | cons event rest _ =>
    rw [List.foldl_cons] at answered
    have later : rest.foldl (Fate.observe number) .uncalled = .answered (some result) →
        ∃ messageId, .called number messageId true ∈ event :: rest ∧
          .replied messageId (some result) ∈ event :: rest := by
      grind
    cases event with
    | sent messageId reply | evaluated messageId | replied messageId other | timedOut callback
    | completed callback other | destroyed => exact later answered
    | called callback _ returned =>
      by_cases same : callback = number
      · rw [Fate.observe, if_pos same] at answered
        cases returned with
        | false =>
          simp [foldl_observe_closed (.inl rfl)] at answered
        | true =>
          grind [foldl_observe_waiting]
      · rw [Fate.observe, if_neg same] at answered
        exact later answered

theorem waiting_of_waiting_append {messageId laterId : Int}
    (waiting : fate number log = .waiting messageId)
    (later : fate number (log ++ more) = .waiting laterId) : messageId = laterId := by
  grind [fate_append, foldl_observe_waiting]

def IsMessage : FrameEvent Value → Prop
  | .sent _ _ | .evaluated _ => True
  | _ => False

/-- Events that mean nothing for the callback with a number, whatever its fate among `fates`. -/
structure Unnoticed (number : Nat) (fates : Fate Value → Prop)
    (emitted : List (FrameEvent Value)) : Prop where
  fate_eq : ∀ fate, fates fate → emitted.foldl (Fate.observe number) fate = fate
  completions_eq : completions number emitted = []

variable {fates : Fate Value → Prop}

theorem Unnoticed.nil : Unnoticed number fates [] where
  fate_eq _ _ := rfl
  completions_eq := rfl

theorem Unnoticed.append (first : Unnoticed number fates emitted)
    (rest : Unnoticed number fates more) : Unnoticed number fates (emitted ++ more) where
  fate_eq fate among := by
    simp [first.fate_eq fate among, rest.fate_eq fate among]
  completions_eq := by rw [completions_append, first.completions_eq, rest.completions_eq]; rfl

theorem unnoticed_of_messages (messages : ∀ event ∈ emitted, IsMessage event) :
    Unnoticed number fates emitted := by
  induction emitted with
  | nil => exact .nil
  | cons event _ ih =>
    have following := ih fun event mem => messages event (List.mem_cons_of_mem _ mem)
    have message := messages event List.mem_cons_self
    have first : Unnoticed number fates [event] := by
      cases event with
      | sent messageId reply | evaluated messageId =>
        exact ⟨fun fate _ => by cases fate <;> rfl, rfl⟩
      | called callback messageId returned | replied messageId result | timedOut callback
      | completed callback result | destroyed => cases message
    exact first.append following

theorem unnoticed_called (differs : other ≠ number) (messageId : Int) (returned : Bool) :
    Unnoticed number fates [(.called other messageId returned : FrameEvent Value)] where
  fate_eq fate _ := by cases fate <;> simp [Fate.observe, differs]
  completions_eq := rfl

theorem unnoticed_completed (differs : other ≠ number) (result : Option Value) :
    Unnoticed number fates [.completed other result] where
  fate_eq fate _ := by cases fate <;> rfl
  completions_eq := by simp [completions, differs]

theorem unnoticed_replied {messageId : Int}
    (notAwaited : ∀ fate, fates fate → fate ≠ .waiting messageId) (result : Option Value) :
    Unnoticed number fates [.replied messageId result] where
  fate_eq fate among := by
    cases fate with
    | waiting awaited =>
      have differs : ¬ messageId = awaited :=
        fun same => notAwaited _ among (congrArg Fate.waiting same.symm)
      simp [Fate.observe, differs]
    | uncalled | refused | answered result => rfl
  completions_eq := rfl

theorem unnoticed_timedOut (differs : other ≠ number) :
    Unnoticed number fates [(.timedOut other : FrameEvent Value)] where
  fate_eq fate _ := by
    cases fate <;> simp [Fate.observe, differs]
  completions_eq := rfl

theorem Unnoticed.fate_append (unnoticed : Unnoticed number fates emitted)
    (among : fates (fate number log)) : fate number (log ++ emitted) = fate number log := by
  rw [ChromiumIos.fate_append, unnoticed.fate_eq _ among]

theorem Unnoticed.completions_append (unnoticed : Unnoticed number fates emitted) :
    completions number (log ++ emitted) = completions number log := by
  simp [ChromiumIos.completions_append, unnoticed.completions_eq]

end ChromiumIos
