import ChromiumIos.Frames.WebFrameImpl

/-!
# Messages between a native frame and its page

A message that a frame has sealed is a script that runs in the page later and starts
a decryption.  The page decrypts its messages in the order in which it has received
them, ignores those whose ids are not above the last one and posts the results it has
been asked for.  What the page posts is handled in the order in which it was posted.

The native frame goes when the page is left and is made again when the page registers
once more, with the last id that the page had received when it posted the registration.

The functions that are called have a name.  An id of a native frame object and an id of
a message are kept with every message and with every value a function has returned, so
that it can be told where they come from; neither the frame nor the page looks at them.
-/

namespace ChromiumIos

open Lib

variable {Key Origin Value : Type}

structure PageFrame (importKey : String → Option Key) (Origin : Type) where
  frameId : String
  mainFrame : Bool
  securityOrigin : Origin
  exportedKey : String
  exported : exportedKey.length > 0 ∧ (importKey exportedKey).isSome

/-- A message of a native frame object. -/
structure SealedMessage where
  generation : Nat
  messageId : Int
  replyWithResult : Bool
deriving DecidableEq, Repr

/-- A value that a function has returned, with the message that has called it. -/
structure Execution (Value : Type) where
  generation : Nat
  messageId : Int
  value : Value
deriving DecidableEq, Repr

/-- How the call of a function ends; a function may return no value. -/
inductive Evaluation (Value : Type) where
  | returned (value : Option Value)
  | threw
deriving DecidableEq, Repr

inductive PageMessage (Value : Type) where
  | frameBecameAvailable (lastReceivedMessageId : Int)
  | reply (messageId : Int) (result : Option (Execution Value))
deriving DecidableEq, Repr

inductive MessagingEvent (Value : Type) where
  | registered (generation : Nat)
  | native (generation : Nat) (event : FrameEvent (Execution Value))
  | executed (message : SealedMessage) (evaluation : Evaluation Value)
  | ignored (message : SealedMessage)
deriving DecidableEq, Repr

/-- A native frame object; the objects of a page are numbered. -/
structure RegisteredFrame (Key Origin : Type) where
  generation : Nat
  impl : WebFrameImpl Key Origin
deriving DecidableEq, Repr

structure FrameMessaging (Key Origin Value : Type) where
  frame : Option (RegisteredFrame Key Origin)
  generations : Nat
  scripts : List SealedMessage
  decrypting : List SealedMessage
  posted : List (PageMessage Value)
  lastReceivedMessageId : Int
deriving DecidableEq, Repr

namespace PageFrame

variable {importKey : String → Option Key}

/-- What `registerFrame` posts. -/
def registration (page : PageFrame importKey Origin) (lastReceivedMessageId : Int) :
    WKScriptMessage Origin where
  body := .dictionary [("crwFrameId", .string page.frameId),
    ("crwFrameKey", .string page.exportedKey),
    ("crwFrameLastReceivedMessageId", .number lastReceivedMessageId)]
  mainFrame := page.mainFrame
  securityOrigin := page.securityOrigin

/-- The frame that is made for a registration has a key and goes on with the next id. -/
theorem newFrame_registration (page : PageFrame importKey Origin) (lastReceivedMessageId : Int) :
    let newFrame := (page.registration lastReceivedMessageId).newFrame importKey page.frameId
    newFrame.frameKey.isSome ∧ newFrame.nextMessageId = max 0 (lastReceivedMessageId + 1) := by
  obtain ⟨nonempty, imported⟩ := page.exported
  obtain ⟨key, imported⟩ := Option.isSome_iff_exists.mp imported
  have keyed : (page.registration lastReceivedMessageId).frameKey importKey = some key :=
    (if_pos nonempty).trans imported
  rw [WKScriptMessage.newFrame, keyed]
  exact ⟨rfl, rfl⟩

def reply (page : PageFrame importKey Origin) (messageId : Int) (result : Option Value) :
    ReplyCommand Value where
  command := some ("frameMessaging_" ++ page.frameId ++ ".reply")
  messageId := some messageId
  result := result

end PageFrame

def SealedMessage.replies (message : SealedMessage) : Evaluation Value → List (PageMessage Value)
  | .returned value =>
    if message.replyWithResult then
      [.reply message.messageId (value.map fun value =>
        ⟨message.generation, message.messageId, value⟩)]
    else []
  | .threw => []

def sealedMessage (generation : Nat) : FrameEvent Value → Option SealedMessage
  | .sent messageId replyWithResult => some ⟨generation, messageId, replyWithResult⟩
  | _ => none

namespace FrameMessaging

variable {importKey : String → Option Key}

def init : FrameMessaging Key Origin Value where
  frame := none
  generations := 0
  scripts := []
  decrypting := []
  posted := []
  lastReceivedMessageId := -1

abbrev Outcome (Key Origin Value : Type) :=
  FrameMessaging Key Origin Value × List (MessagingEvent Value)

variable (log : List (MessagingEvent Value)) (state : FrameMessaging Key Origin Value)

/-- The registered frame after one of its steps; a frame that is not alive is not registered. -/
def updateFrame (generation : Nat) (impl : WebFrameImpl Key Origin)
    (emitted : List (FrameEvent (Execution Value))) : FrameMessaging Key Origin Value :=
  { state with
    frame := if impl.alive then some ⟨generation, impl⟩ else none
    scripts := state.scripts ++ emitted.filterMap (sealedMessage generation) }

def frameStep (input : WebFrameImpl.Input (Execution Value)) : Checked (Outcome Key Origin Value) :=
  match state.frame with
  | none => none
  | some ⟨generation, impl⟩ =>
    (impl.step input).map fun (after, emitted) =>
      (state.updateFrame generation after emitted, emitted.map (.native generation))

/-- A page that is registered already is not registered again. -/
def frameBecameAvailable (page : PageFrame importKey Origin)
    (state : FrameMessaging Key Origin Value) (lastReceivedMessageId : Int) :
    Outcome Key Origin Value :=
  if state.frame.isSome then (state, [])
  else
    let newFrame := (page.registration lastReceivedMessageId).newFrame importKey page.frameId
    ({ state with
        frame := some ⟨state.generations, WebFrameImpl.init newFrame⟩
        generations := state.generations + 1 },
      [.registered state.generations])

/-- The first message that the page has posted is handled.  Without a frame nobody handles the
commands with its id. -/
def handleScriptMessage (page : PageFrame importKey Origin)
    (state : FrameMessaging Key Origin Value) : Checked (Outcome Key Origin Value) :=
  match state.posted with
  | [] => some (state, [])
  | .frameBecameAvailable lastReceivedMessageId :: rest =>
    some (frameBecameAvailable page { state with posted := rest } lastReceivedMessageId)
  | .reply messageId result :: rest =>
    if state.frame.isSome then
      frameStep { state with posted := rest } (.reply (page.reply messageId result))
    else some ({ state with posted := rest }, [])

/-- The first decryption is over; the function that is called ends with an evaluation. -/
def executeMessage (evaluation : Evaluation Value) : Outcome Key Origin Value :=
  match state.decrypting with
  | [] => (state, [])
  | message :: rest =>
    if message.messageId ≤ state.lastReceivedMessageId then
      ({ state with decrypting := rest }, [.ignored message])
    else
      ({ state with
          decrypting := rest
          posted := state.posted ++ message.replies evaluation
          lastReceivedMessageId := message.messageId },
        [.executed message evaluation])

inductive Input (Value : Type) where
  | call (seals : Bool) (callback : Callback)
  | send (seals : Bool)
  | delayedTask (number : Nat) (messageId : Int)
  | removeFrame
  | registerFrame
  | scriptMessage
  | scriptMessageLost
  | routeMessage
  | scriptLost
  | decrypted (evaluation : Evaluation Value)

def step (page : PageFrame importKey Origin) (state : FrameMessaging Key Origin Value) :
    Input Value → Checked (Outcome Key Origin Value)
  | .call seals callback => state.frameStep (.call seals callback)
  | .send seals => state.frameStep (.send seals)
  | .delayedTask number messageId => state.frameStep (.delayedTask number messageId)
  | .removeFrame => state.frameStep .destroy
  | .registerFrame =>
    let message := .frameBecameAvailable state.lastReceivedMessageId
    some ({ state with posted := state.posted ++ [message] }, [])
  | .scriptMessage => state.handleScriptMessage page
  | .scriptMessageLost => some ({ state with posted := state.posted.tail }, [])
  | .routeMessage =>
    some ({ state with
      scripts := state.scripts.tail
      decrypting := state.decrypting ++ state.scripts.take 1 }, [])
  | .scriptLost => some ({ state with scripts := state.scripts.tail }, [])
  | .decrypted evaluation => some (state.executeMessage evaluation)

def FrameAccepts (input : WebFrameImpl.Input (Execution Value)) : Prop :=
  ∃ frame ∈ state.frame, frame.impl.Accepts input
deriving Decidable

def Accepts : Input Value → Prop
  | .call seals callback => state.FrameAccepts (.call seals callback)
  | .send seals => state.FrameAccepts (.send seals)
  | .delayedTask number messageId => state.FrameAccepts (.delayedTask number messageId)
  | .removeFrame => state.FrameAccepts .destroy
  | .registerFrame => True
  | .scriptMessage | .scriptMessageLost => state.posted ≠ []
  | .routeMessage | .scriptLost => state.scripts ≠ []
  | .decrypted _ => state.decrypting ≠ []

instance : (input : Input Value) → Decidable (state.Accepts input)
  | .call .. => inferInstanceAs (Decidable (FrameAccepts _ _))
  | .send _ => inferInstanceAs (Decidable (FrameAccepts _ _))
  | .delayedTask .. => inferInstanceAs (Decidable (FrameAccepts _ _))
  | .removeFrame => inferInstanceAs (Decidable (FrameAccepts _ _))
  | .registerFrame => inferInstanceAs (Decidable True)
  | .scriptMessage => inferInstanceAs (Decidable (_ ≠ []))
  | .scriptMessageLost => inferInstanceAs (Decidable (_ ≠ []))
  | .routeMessage => inferInstanceAs (Decidable (_ ≠ []))
  | .scriptLost => inferInstanceAs (Decidable (_ ≠ []))
  | .decrypted _ => inferInstanceAs (Decidable (_ ≠ []))

/-! ## What a log tells -/

def executions : List SealedMessage :=
  log.filterMap fun event =>
    match event with
    | .executed message _ => some message
    | _ => none

def frameLog (generation : Nat) (log : List (MessagingEvent Value)) :
    List (FrameEvent (Execution Value)) :=
  log.filterMap fun event =>
    match event with
    | .native owner event => if owner = generation then some event else none
    | _ => none

/-- Every callback has been run with null or with what the function returned to the message
of the call it was passed to. -/
def Own : Prop :=
  ∀ generation callback (result : Execution Value),
    .native generation (.completed callback (some result)) ∈ log →
      result.generation = generation ∧
        .native generation (.called callback result.messageId true) ∈ log ∧
        .executed ⟨generation, result.messageId, true⟩ (.returned (some result.value)) ∈ log

def Heard : Prop :=
  ∀ frame ∈ state.frame, ∀ message,
    .ignored message ∈ log → message.generation ≠ frame.generation

/-- The messages that the page has not decrypted yet, in the order in which it will. -/
def inFlight : List SealedMessage :=
  state.decrypting ++ state.scripts

/-- The last id in a registration that is handled next and makes a frame. -/
def registering : Option Int :=
  match state.frame, state.posted with
  | none, .frameBecameAvailable lastReceivedMessageId :: _ => some lastReceivedMessageId
  | _, _ => none

/-- The page has executed no message since it has posted the registration with which a frame is
made, and will execute none that was sent before. -/
def UpToDate : Input Value → Prop
  | .scriptMessage =>
    ∀ lastReceivedMessageId ∈ state.registering,
      lastReceivedMessageId = state.lastReceivedMessageId ∧
        ∀ message ∈ state.inFlight, message.messageId ≤ lastReceivedMessageId
  | _ => True

instance : (input : Input Value) → Decidable (state.UpToDate input)
  | .scriptMessage => inferInstanceAs (Decidable (∀ _ ∈ state.registering, _ ∧ ∀ _ ∈ _, _))
  | .call .. | .send _ | .delayedTask .. | .removeFrame | .registerFrame | .scriptMessageLost
  | .routeMessage | .scriptLost | .decrypted _ => isTrue trivial

end FrameMessaging

end ChromiumIos
