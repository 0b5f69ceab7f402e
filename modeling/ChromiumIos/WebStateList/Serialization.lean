import ChromiumIos.Sessions.SessionStorage
import ChromiumIos.WebStateList.Safety

/-!
# Saving and restoring a list

A list is saved as the session storages of its WebStates.  The openers, which
are pointers, go into the user data of the WebStates as indices into the list.
Restoring appends new WebStates to a list and then, in a second pass, turns the
stored indices into openers among the appended WebStates.
-/

namespace ChromiumIos

open Lib

def kOpenerIndexKey : String := "OpenerIndex"
def kOpenerNavigationIndexKey : String := "OpenerNavigationIndex"

namespace WebStateList

variable {W C : Type} [DecidableEq W]

/-! ## Saving -/

def writeOpener (list : WebStateList W) (opener : WebStateOpener W)
    (userData : SerializableUserData) : Checked SerializableUserData :=
  match opener.opener with
  | some _ => do
      let openerIndex := list.getIndexOfWebState opener.opener
      dcheck (openerIndex ≠ kInvalidIndex)
      return (userData.addSerializableData (.number openerIndex)
        kOpenerIndexKey).addSerializableData
          (.number opener.navigationIndex) kOpenerNavigationIndexKey
  | none =>
    some ((userData.addSerializableData .null kOpenerIndexKey).addSerializableData
      .null kOpenerNavigationIndexKey)

def serializeLoop (slim : Bool) (list : WebStateList W) :
    List (WebStateWrapper W) → (W → WebStateImpl C) →
      Checked (List (CRWSessionStorage C) × (W → WebStateImpl C))
  | [], impl => some ([], impl)
  | wrapper :: rest, impl => do
      let userData ← list.writeOpener wrapper.opener (impl wrapper.webState).userData
      let webState := { impl wrapper.webState with userData := userData }
      let (sessions, impl) ←
        serializeLoop slim list rest (Function.update impl wrapper.webState webState)
      return (webState.buildSessionStorage slim :: sessions, impl)

def serializeWebStateList (slim : Bool) (impl : W → WebStateImpl C) (list : WebStateList W) :
    Checked (SessionWindowIOS C × (W → WebStateImpl C)) := do
  let (sessions, impl) ← serializeLoop slim list list.webStateWrappers impl
  let selectedIndex :=
    if list.activeIndex ≠ kInvalidIndex then list.activeIndex.toNat else nsNotFound
  let window ← SessionWindowIOS.initWithSessions sessions selectedIndex
  return (window, impl)

/-! ## Restoring -/

abbrev WebStateFactory (W C : Type) := Nat → CRWSessionStorage C → W × WebStateImpl C

/-- The first pass: every session becomes a WebState at the end of the list. -/
def insertSessionsLoop (lastCommitted : W → Int) (webStateFactory : WebStateFactory W C) :
    List (CRWSessionStorage C) → Nat → WebStateList W × (W → WebStateImpl C) →
      Checked (WebStateList W × (W → WebStateImpl C))
  | [], _, state => some state
  | session :: rest, call, (list, impl) => do
      let (webState, made) := webStateFactory call session
      let (list, _) ←
        list.insertWebState lastCommitted list.count webState insertForceIndex .null
      insertSessionsLoop lastCommitted webStateFactory rest (call + 1)
        (list, Function.update impl webState made)

def storedNumber (userData : SerializableUserData) (key : String) : Option Int :=
  (userData.getValueForSerializationKey key).bind UserDataValue.number?

def storedOpener (userData : SerializableUserData) : Option (Int × Int) :=
  (storedNumber userData kOpenerIndexKey).bind fun boxedOpenerIndex =>
    (storedNumber userData kOpenerNavigationIndexKey).map fun boxedOpenerNavigationIndex =>
      (boxedOpenerIndex, boxedOpenerNavigationIndex)

/-- The second pass at one index: an opener index out of bounds is no opener. -/
def restoreOpenerAt (impl : W → WebStateImpl C) (oldCount : Int) (list : WebStateList W)
    (index : Int) : Checked (WebStateList W) := do
  let webState ← list.getWebStateAt index
  match storedOpener (impl webState).userData with
  | none => return list
  | some (boxedOpenerIndex, boxedOpenerNavigationIndex) =>
    let openerIndex := boxedOpenerIndex + oldCount
    if openerIndex < oldCount ∨ openerIndex ≥ list.count then
      return list
    else
      let opener ← list.getWebStateAt openerIndex
      list.setOpenerOfWebStateAt index ⟨some opener, boxedOpenerNavigationIndex⟩

/-- The second pass over the `remaining` indices from `index` on. -/
def restoreOpenersLoop (impl : W → WebStateImpl C) (oldCount : Int) :
    Nat → Int → WebStateList W → Checked (WebStateList W)
  | 0, _, list => some list
  | remaining + 1, index, list => do
      let list ← list.restoreOpenerAt impl oldCount index
      restoreOpenersLoop impl oldCount remaining (index + 1) list

def restoreSelection (window : SessionWindowIOS C) (oldCount : Int) (list : WebStateList W) :
    Checked (WebStateList W) :=
  if window.selectedIndex ≠ nsNotFound then do
    dcheck (window.selectedIndex < window.sessions.length)
    dcheck ((window.selectedIndex : Int) < intMax)
    let (list, _) ← list.activateWebStateAt (oldCount + window.selectedIndex)
    return list
  else some list

def deserializeWebStateList (lastCommitted : W → Int) (webStateFactory : WebStateFactory W C)
    (impl : W → WebStateImpl C) (list : WebStateList W) (window : SessionWindowIOS C) :
    Checked (WebStateList W × (W → WebStateImpl C)) := do
  let oldCount := list.count
  let (list, impl) ←
    insertSessionsLoop lastCommitted webStateFactory window.sessions 0 (list, impl)
  let list ← restoreOpenersLoop impl oldCount (list.count - oldCount).toNat oldCount list
  let list ← restoreSelection window oldCount list
  return (list, impl)

end WebStateList

end ChromiumIos
