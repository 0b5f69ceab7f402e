import Mathlib

/-!
# Stores that are written by a queue of writes

A store maps keys to values that may be absent.  A write sets or clears one
key.  Writes that wait in a queue determine what the store will hold once they
are done: for each key the last write to it, or what the store holds now.
-/

namespace ChromiumIos.Lib

abbrev Store (κ α : Type) := κ → Option α

namespace Store

variable {κ α : Type} [DecidableEq κ]
variable (entry : κ × Option α)

def write (store : Store κ α) (entry : κ × Option α) : Store κ α :=
  Function.update store entry.1 entry.2

def writeAll (store : Store κ α) (entries : List (κ × Option α)) : Store κ α :=
  entries.foldl write store

variable {store : Store κ α} {key other : κ} {value : Option α} {entries : List (κ × Option α)}

@[simp]
theorem write_self : store.write (key, value) key = value :=
  Function.update_self ..

theorem write_of_ne (ne : other ≠ key) : store.write (key, value) other = store other :=
  Function.update_of_ne ne ..

@[simp]
theorem writeAll_cons :
    store.writeAll (entry :: entries) = (store.write entry).writeAll entries := rfl

@[simp]
theorem writeAll_concat :
    store.writeAll (entries ++ [entry]) = (store.writeAll entries).write entry := by
  rw [writeAll, List.foldl_append]
  rfl

/-- The values of one store, and of a second store where the first has none. -/
def overlay (pending settled : Store κ α) : Store κ α :=
  fun key => (pending key).or (settled key)

variable {pending settled : Store κ α} {found : α}

theorem overlay_write_some :
    (pending.write (key, some found)).overlay settled =
      (pending.overlay settled).write (key, some found) := by
  funext other
  by_cases same : other = key
  · subst same
    simp [overlay]
  · simp [overlay, write_of_ne same]

/-- A value may be moved from the first store to the second. -/
theorem overlay_move (present : pending key = some found) :
    (pending.write (key, none)).overlay (settled.write (key, some found)) =
      pending.overlay settled := by
  funext other
  by_cases same : other = key
  · subst same
    simp [overlay, present]
  · simp [overlay, write_of_ne same]

omit [DecidableEq κ] in
theorem overlay_of_empty (empty : ∀ key, pending key = none) :
    pending.overlay settled = settled := by
  funext key
  simp [overlay, empty key]

end Store

end ChromiumIos.Lib
