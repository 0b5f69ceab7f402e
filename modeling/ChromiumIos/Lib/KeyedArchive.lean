import Mathlib

/-!
# Keyed archives

An archive holds values under keys.  A value that is asked for by a key that is
missing, or as a value of another type, is the default of its type; an object may
be nil.  Encoding under a key replaces what is there.
-/

namespace ChromiumIos.Lib

inductive CodedValue (Object : Type) where
  | bool (value : Bool)
  | int (value : Int)
  | int64 (value : Int)
  | bytes (value : String)
  | object (value : Option Object)
deriving DecidableEq, Repr

structure KeyedArchive (Object : Type) where
  entries : List (String × CodedValue Object)
deriving DecidableEq, Repr

namespace KeyedArchive

variable {Object : Type} {archive : KeyedArchive Object} {value : CodedValue Object}
variable {key other : String}

def empty : KeyedArchive Object := ⟨[]⟩

variable (archive : KeyedArchive Object) (key : String)

def encode (value : CodedValue Object) : KeyedArchive Object :=
  ⟨(key, value) :: archive.entries⟩

def valueForKey : Option (CodedValue Object) :=
  archive.entries.lookup key

def containsValueForKey : Bool :=
  (archive.valueForKey key).isSome

def decodeBoolForKey : Bool :=
  match archive.valueForKey key with
  | some (.bool value) => value
  | _ => false

def decodeIntForKey : Int :=
  match archive.valueForKey key with
  | some (.int value) => value
  | _ => 0

def decodeInt64ForKey : Int :=
  match archive.valueForKey key with
  | some (.int64 value) => value
  | _ => 0

def decodeBytesForKey : String :=
  match archive.valueForKey key with
  | some (.bytes value) => value
  | _ => ""

def decodeObjectForKey : Option Object :=
  match archive.valueForKey key with
  | some (.object value) => value
  | _ => none

end KeyedArchive

end ChromiumIos.Lib
