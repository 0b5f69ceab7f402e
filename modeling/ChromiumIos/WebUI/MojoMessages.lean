import ChromiumIos.WebUI.MojoFacade

/-!
# Mojo messages of a WebUI page

A page writes bytes and handles to a pipe and reads them at the other end.  The bytes are sent as
an object that has a key for each of them and are read as a list; a handle that is sent is taken
from its object.
-/

namespace ChromiumIos

open Lib

/-- `base::NumberToString`; the elements of a typed array have such keys. -/
def numberToString (number : Nat) : List Char := Nat.toDigits 10 number

theorem numberToString_injective : Function.Injective numberToString :=
  fun first second same => by
    simpa [numberToString] using congrArg (Nat.ofDigitChars 10 · 0) same

/-- What the objects `MojoHandle` of a page hold. -/
abbrev NativeHandles := Nat → Option Int

structure WriteMessageArguments where
  handle : Option Int
  buffer : List (List Char × Int)
  handles : List (Option Int)

structure MojoMessage where
  bytes : List (BitVec 8)
  handles : List (BitVec 32)
deriving DecidableEq

abbrev MessageQueues := BitVec 32 → List MojoMessage

def takeNativeHandles : NativeHandles → List Nat → NativeHandles × List (Option Int)
  | page, [] => (page, [])
  | page, handle :: rest =>
    let taken := takeNativeHandles (Function.update page handle none) rest
    (taken.1, page handle :: taken.2)

/-- A typed array in JSON: an object from indices to bytes. -/
def bufferObject (bytes : List (BitVec 8)) : List (List Char × Int) :=
  bytes.mapIdx fun index byte => (numberToString index, byte.toNat)

def getInteger (value : Option Int) : Option Int :=
  value.filter fun value => -2 ^ 31 ≤ value ∧ value < 2 ^ 31

/-- `HandleMojoHandleWriteMessage`; an element that is no integer stays zero. -/
def handleMojoHandleWriteMessage (peer : BitVec 32 → BitVec 32) (queues : MessageQueues)
    (arguments : WriteMessageArguments) : Checked MessageQueues := do
  let handle ← getInteger arguments.handle
  let message : MojoMessage := {
    handles := arguments.handles.map fun handle => .ofInt 32 ((getInteger handle).getD 0)
    bytes := (List.range arguments.buffer.length).map fun index =>
      .ofInt 8 ((getInteger (arguments.buffer.lookup (numberToString index))).getD 0) }
  let other := peer (.ofInt 32 handle)
  return Function.update queues other (queues other ++ [message])

def handleMojoHandleReadMessage (queues : MessageQueues) (handle : Option Int) :
    MessageQueues × Option (List Int × List Int) :=
  let handle := BitVec.ofInt 32 ((getInteger handle).getD 0)
  match queues handle with
  | [] => (queues, none)
  | message :: rest =>
    (Function.update queues handle rest,
      some (message.bytes.map fun byte => byte.toNat, message.handles.map BitVec.toInt))

def writeMessage (peer : BitVec 32 → BitVec 32) (page : NativeHandles) (queues : MessageQueues)
    (pipe : Nat) (bytes : List (BitVec 8)) (handles : List Nat) :
    Checked (NativeHandles × MessageQueues) := do
  let taken := takeNativeHandles page handles
  let queues ← handleMojoHandleWriteMessage peer queues
    ⟨taken.1 pipe, bufferObject bytes, taken.2⟩
  return (taken.1, queues)

def readMessage (queues : MessageQueues) (nativeHandle : Option Int) :
    MessageQueues × Option (List (BitVec 8) × List (Option Int)) :=
  (handleMojoHandleReadMessage queues nativeHandle).map id
    (Option.map fun read => (read.1.map (BitVec.ofInt 8), read.2.map some))

theorem takeNativeHandles_eq {handles : List Nat} (nodup : handles.Nodup) (page : NativeHandles) :
    takeNativeHandles page handles =
      (fun handle => if handle ∈ handles then none else page handle, handles.map page) := by
  induction handles generalizing page with
  | nil => simp [takeNativeHandles]
  | cons first rest ih =>
    obtain ⟨notMem, nodup⟩ := List.nodup_cons.mp nodup
    rw [takeNativeHandles, ih nodup]
    ext handle : 2
    · grind [Function.update_apply]
    · have kept : rest.map (Function.update page first none) = rest.map page :=
        List.map_congr_left fun handle mem => Function.update_of_ne (by grind) _ _
      simp [kept]

theorem getInteger_toInt (value : BitVec 32) :
    getInteger (some value.toInt) = some value.toInt := by
  have := value.isLt
  simp [getInteger, Option.filter, BitVec.toInt_eq_toNat_cond]
  omega

theorem lookup_mapIdx {α β κ : Type} [BEq κ] [LawfulBEq κ] {key : Nat → κ}
    (injective : Function.Injective key) (value : α → β) (elements : List α) (index : Nat) :
    (elements.mapIdx fun index element => (key index, value element)).lookup (key index) =
      elements[index]?.map value := by
  induction elements generalizing key index with
  | nil => rfl
  | cons first rest ih =>
    have shifted : Function.Injective fun index => key (index + 1) :=
      fun _ _ same => by simpa using injective same
    have later := ih shifted
    cases index with
    | zero => simp [List.mapIdx_cons]
    | succ index =>
      have differs : (key (index + 1) == key 0) = false :=
        beq_false_of_ne fun same => by simpa using injective same
      simpa [List.mapIdx_cons, List.lookup_cons, differs] using later index

/-- An array is made again of the keys of its object. -/
theorem bytes_bufferObject (bytes : List (BitVec 8)) :
    ((List.range (bufferObject bytes).length).map fun index => BitVec.ofInt 8
      ((getInteger ((bufferObject bytes).lookup (numberToString index))).getD 0)) = bytes := by
  refine List.ext_getElem (by simp [bufferObject]) fun index _ inside => ?_
  have small := bytes[index].isLt
  have found := lookup_mapIdx numberToString_injective (fun byte : BitVec 8 => (byte.toNat : Int))
    bytes index
  have integer : getInteger (some (bytes[index].toNat : Int)) =
      some (bytes[index].toNat : Int) := by
    simp [getInteger, Option.filter]
    omega
  simp [bufferObject, found, inside, integer]

/-- The bytes and the values of distinct handles other than the one written to arrive at the other
end, and the handles are empty. -/
theorem readMessage_writeMessage (peer : BitVec 32 → BitVec 32) (page : NativeHandles)
    (queues : MessageQueues) (pipe : Nat) (nativeHandle : BitVec 32) (bytes : List (BitVec 8))
    (handles : List Nat) (opened : page pipe = some nativeHandle.toInt)
    (held : ∀ handle ∈ handles, ∃ value : BitVec 32, page handle = some value.toInt)
    (distinct : (pipe :: handles).Nodup) (waiting : queues (peer nativeHandle) = []) :
    ∃ after sent, writeMessage peer page queues pipe bytes handles = some (after, sent) ∧
      readMessage sent (some (peer nativeHandle).toInt) =
        (queues, some (bytes, handles.map page)) ∧
      after = fun handle => if handle ∈ handles then none else page handle := by
  obtain ⟨notMem, nodup⟩ := List.nodup_cons.mp distinct
  have values : ∀ handle ∈ handles,
      some (((getInteger (page handle)).getD 0).bmod 4294967296) = page handle := by
    intro handle mem
    obtain ⟨value, same⟩ := held handle mem
    simpa [same, getInteger_toInt] using value.toInt_bmod_cancel
  let message : MojoMessage :=
    ⟨bytes, (handles.map page).map fun handle => .ofInt 32 ((getInteger handle).getD 0)⟩
  refine ⟨_, Function.update queues (peer nativeHandle) [message], ?_, ?_, rfl⟩
  · rw [writeMessage, takeNativeHandles_eq nodup]
    simp only [if_neg notMem, opened, handleMojoHandleWriteMessage, getInteger_toInt,
      bytes_bufferObject, Option.bind_eq_bind, Option.bind_some, BitVec.ofInt_toInt, waiting]
    rfl
  · have emptied : Function.update queues (peer nativeHandle) [] = queues := by
      rw [← waiting, Function.update_eq_self]
    rw [readMessage, handleMojoHandleReadMessage, getInteger_toInt, Option.getD_some,
      BitVec.ofInt_toInt, Function.update_self]
    simpa [message, emptied, Function.comp_def] using values

/-- The end of a pipe and two handles, of which one is negative as an integer. -/
def pageHandles : NativeHandles
  | 0 => some 1
  | 1 => some 3
  | 2 => some (-5)
  | _ => none

theorem readMessage_writeMessage_two :
    ∃ after sent, writeMessage (· + 1) pageHandles (fun _ => []) 0 [7, 255] [2, 1] =
        some (after, sent) ∧
      (readMessage sent (some 2)).2 = some ([7, 255], [some (-5), some 3]) ∧ after 2 = none := by
  obtain ⟨after, sent, written, read, emptied⟩ := readMessage_writeMessage (· + 1) pageHandles
    (fun _ => []) 0 1 [7, 255] [2, 1] rfl (by
      simp only [List.mem_cons, List.not_mem_nil, or_false, forall_eq_or_imp, forall_eq]
      exact ⟨⟨-5, rfl⟩, 3, rfl⟩) (by decide) rfl
  exact ⟨after, sent, written, congrArg Prod.snd read, congrFun emptied 2⟩

/-- A handle that is listed twice arrives as another the second time. -/
theorem readMessage_repeated :
    (writeMessage (· + 1) pageHandles (fun _ => []) 0 [] [1, 1]).map (fun result =>
      (readMessage result.2 (some 2)).2) ≠ some (some ([], [1, 1].map pageHandles)) := by
  decide

end ChromiumIos
