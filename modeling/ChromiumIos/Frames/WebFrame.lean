import Mathlib

/-!
# Frames of a page

A frame of a page is known to native code by the id it has sent.  Messages to a
frame are numbered.  They are encrypted with the key of the frame, if it has one;
without a key only the main frame can be sent messages.
-/

namespace ChromiumIos

variable {Key Origin : Type}

structure WebFrame (Key Origin : Type) where
  frameId : String
  isMainFrame : Bool
  securityOrigin : Origin
  frameKey : Option Key
  nextMessageId : Int
deriving DecidableEq, Repr

namespace WebFrame

def init (frameId : String) (isMainFrame : Bool) (securityOrigin : Origin) :
    WebFrame Key Origin where
  frameId := frameId
  isMainFrame := isMainFrame
  securityOrigin := securityOrigin
  frameKey := none
  nextMessageId := 0

def setEncryptionKey (frame : WebFrame Key Origin) (frameKey : Key) : WebFrame Key Origin :=
  { frame with frameKey := some frameKey }

def setNextMessageId (frame : WebFrame Key Origin) (messageId : Int) : WebFrame Key Origin :=
  { frame with nextMessageId := messageId }

def canCallJavaScriptFunction (frame : WebFrame Key Origin) : Bool :=
  frame.isMainFrame || frame.frameKey.isSome

end WebFrame

/-! ## Script messages -/

/-- A value in the body of a message that a page has sent. -/
inductive ScriptValue where
  | string (text : String)
  | number (intValue : Int)
  | dictionary (entries : List (String × ScriptValue))
  | other

namespace ScriptValue

def isDictionary : ScriptValue → Bool
  | dictionary _ => true
  | _ => false

def objectForKey : ScriptValue → String → Option ScriptValue
  | dictionary entries, key => entries.lookup key
  | _, _ => none

def text? : ScriptValue → Option String
  | string text => some text
  | _ => none

def intValue? : ScriptValue → Option Int
  | number intValue => some intValue
  | _ => none

end ScriptValue

structure WKScriptMessage (Origin : Type) where
  body : ScriptValue
  mainFrame : Bool
  securityOrigin : Origin

namespace WKScriptMessage

def crwFrameId (message : WKScriptMessage Origin) : Option String :=
  (message.body.objectForKey "crwFrameId").bind ScriptValue.text?

variable (importKey : String → Option Key) (message : WKScriptMessage Origin) (frameId : String)

def frameKey (importKey : String → Option Key) (message : WKScriptMessage Origin) : Option Key :=
  match (message.body.objectForKey "crwFrameKey").bind ScriptValue.text? with
  | some encodedKey => if encodedKey.length > 0 then importKey encodedKey else none
  | none => none

def nextMessageId : Option Int :=
  ((message.body.objectForKey "crwFrameLastReceivedMessageId").bind ScriptValue.intValue?).map
    fun lastReceived => max 0 (lastReceived + 1)

def newFrame (importKey : String → Option Key) (message : WKScriptMessage Origin)
    (frameId : String) : WebFrame Key Origin :=
  let created := WebFrame.init frameId message.mainFrame message.securityOrigin
  let keyed := (message.frameKey importKey).elim created created.setEncryptionKey
  message.nextMessageId.elim keyed keyed.setNextMessageId

@[simp]
theorem newFrame_frameId : (message.newFrame importKey frameId).frameId = frameId := by
  unfold newFrame
  cases message.nextMessageId <;> cases message.frameKey importKey <;> rfl

@[simp]
theorem newFrame_isMainFrame :
    (message.newFrame importKey frameId).isMainFrame = message.mainFrame := by
  unfold newFrame
  cases message.nextMessageId <;> cases message.frameKey importKey <;> rfl

end WKScriptMessage

end ChromiumIos
