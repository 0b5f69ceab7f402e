import ChromiumIos.Lib.Checked

/-!
# Session storage of a WebState

A WebState carries a dictionary of user data that is saved with its session.
`BuildSessionStorage` makes the storage of a WebState.  With the slim navigation
manager a WebState that was restored, and has not committed a navigation since,
keeps the storage it was restored from and returns that one.  The navigation
history and everything else that a storage holds is of type `C`; nothing here
looks into it.
-/

namespace ChromiumIos

open Lib

/-- The kinds of objects that end up in the dictionary of user data. -/
inductive UserDataValue where
  | number (value : Int)
  | null
  | string (value : String)
  deriving DecidableEq, Repr

def UserDataValue.number? : UserDataValue → Option Int
  | .number value => some value
  | _ => none

structure SerializableUserData where
  data : String → Option UserDataValue

namespace SerializableUserData

def empty : SerializableUserData := ⟨fun _ => none⟩

def addSerializableData (userData : SerializableUserData) (value : UserDataValue) (key : String) :
    SerializableUserData :=
  ⟨Function.update userData.data key (some value)⟩

def getValueForSerializationKey (userData : SerializableUserData) (key : String) :
    Option UserDataValue :=
  userData.data key

@[simp]
theorem getValueForSerializationKey_add (userData : SerializableUserData) (value : UserDataValue)
    (key other : String) :
    (userData.addSerializableData value key).getValueForSerializationKey other =
      if other = key then some value else userData.getValueForSerializationKey other :=
  Function.update_apply ..

end SerializableUserData

structure CRWSessionStorage (C : Type) where
  content : C
  userData : SerializableUserData

structure WebStateImpl (C : Type) where
  userData : SerializableUserData
  content : C
  restoredSessionStorage : Option (CRWSessionStorage C)

namespace WebStateImpl

variable {C : Type}

def buildStorage (webState : WebStateImpl C) : CRWSessionStorage C :=
  ⟨webState.content, webState.userData⟩

/-- The storage kept from the restoration is returned if there is one. -/
def buildSessionStorage (isSlimNavigationManagerEnabled : Bool) (webState : WebStateImpl C) :
    CRWSessionStorage C :=
  if isSlimNavigationManagerEnabled then
    webState.restoredSessionStorage.getD webState.buildStorage
  else webState.buildStorage

def restoreSessionStorage (isSlimNavigationManagerEnabled : Bool)
    (sessionStorage : CRWSessionStorage C) : WebStateImpl C where
  userData := sessionStorage.userData
  content := sessionStorage.content
  restoredSessionStorage := if isSlimNavigationManagerEnabled then some sessionStorage else none

def onNavigationItemCommitted (isSlimNavigationManagerEnabled isWKInternalUrl : Bool)
    (webState : WebStateImpl C) : WebStateImpl C :=
  if isWKInternalUrl then webState
  else if isSlimNavigationManagerEnabled then { webState with restoredSessionStorage := none }
  else webState

end WebStateImpl

/-! ## Session windows -/

def nsNotFound : Nat := 2 ^ 63 - 1

def IsIndexValidForSessionCount (index sessionCount : Nat) : Prop :=
  if sessionCount = 0 then index = nsNotFound else index < sessionCount
deriving Decidable

structure SessionWindowIOS (C : Type) where
  sessions : List (CRWSessionStorage C)
  selectedIndex : Nat
  valid : IsIndexValidForSessionCount selectedIndex sessions.length

namespace SessionWindowIOS

variable {C : Type}

def initWithSessions (sessions : List (CRWSessionStorage C)) (selectedIndex : Nat) :
    Checked (SessionWindowIOS C) :=
  if valid : IsIndexValidForSessionCount selectedIndex sessions.length then
    some ⟨sessions, selectedIndex, valid⟩
  else none

theorem initWithSessions_eq_some_iff {sessions : List (CRWSessionStorage C)} {selectedIndex : Nat}
    {window : SessionWindowIOS C} :
    initWithSessions sessions selectedIndex = some window ↔
      window.sessions = sessions ∧ window.selectedIndex = selectedIndex := by
  obtain ⟨stored, selected, valid⟩ := window
  grind [initWithSessions]

end SessionWindowIOS

end ChromiumIos
