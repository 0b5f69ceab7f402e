import Mathlib

/-!
# Session history

The joint session history of a browsing context: a non-empty list of entries
and the position of the current one.  The operations are those of the History
interface that pages see: replace the current entry, push an entry behind the
current one (which drops everything behind it), and go by a signed distance,
which does nothing when there is no entry at that distance.
-/

namespace ChromiumIos.Lib

structure History (α : Type*) where
  entries : List α
  current : Nat
  valid : current < entries.length

namespace History

variable {α : Type*}
variable {delta : Int} (history : History α)

def replaceState (history : History α) (entry : α) : History α where
  entries := history.entries.set history.current entry
  current := history.current
  valid := by simp [history.valid]

def pushState (history : History α) (entry : α) : History α where
  entries := history.entries.take (history.current + 1) ++ [entry]
  current := history.current + 1
  valid := by
    grind [history.valid]

def go (history : History α) (delta : Int) : History α :=
  if inside : 0 ≤ history.current + delta ∧ history.current + delta < history.entries.length then
    { history with current := (history.current + delta).toNat, valid := by omega }
  else history

theorem go_entries (delta : Int) : (history.go delta).entries = history.entries := by
  simp only [go]
  split <;> rfl

theorem go_current_of_inside {history : History α}
    (inside : 0 ≤ history.current + delta ∧ history.current + delta < history.entries.length) :
    ((history.go delta).current : Int) = history.current + delta := by
  simp only [go]
  grind

theorem go_current_of_outside {history : History α} (outside : ¬ (0 ≤ history.current + delta ∧
      history.current + delta < history.entries.length)) :
    (history.go delta).current = history.current := by
  simp only [go]
  rw [dif_neg outside]

/-- Pushing entries one after the other puts them behind the current entry. -/
theorem foldl_pushState (entries : List α) :
    (entries.foldl pushState history).current = history.current + entries.length ∧
      (entries ≠ [] → (entries.foldl pushState history).entries =
        history.entries.take (history.current + 1) ++ entries) := by
  induction entries generalizing history with
  | nil => simp
  | cons entry rest ih =>
    obtain ⟨current, pushed⟩ := ih (history.pushState entry)
    have length : (history.entries.take (history.current + 1) ++ [entry]).length =
        history.current + 1 + 1 := by
      grind [history.valid]
    have taken : (history.pushState entry).entries.take
        ((history.pushState entry).current + 1) = (history.pushState entry).entries :=
      List.take_of_length_le (Nat.le_of_eq length)
    refine ⟨?_, fun _ => ?_⟩
    · rw [List.foldl_cons, current, List.length_cons]
      change history.current + 1 + rest.length = _
      omega
    · rw [List.foldl_cons]
      cases rest with
      | nil => rfl
      | cons _ _ =>
        rw [pushed (List.cons_ne_nil _ _), taken]
        simp [pushState]

/-- Replacing the current entry and then pushing others writes all of them, in
order, from the position of the current entry on. -/
theorem replaceState_foldl_pushState (entry : α) (rest : List α) :
    (rest.foldl pushState (history.replaceState entry)).current =
        history.current + rest.length ∧
      (∀ offset, offset ≤ rest.length →
        (rest.foldl pushState (history.replaceState entry)).entries[history.current + offset]? =
          (entry :: rest)[offset]?) ∧
      (rest ≠ [] → (rest.foldl pushState (history.replaceState entry)).entries.length =
        history.current + 1 + rest.length) := by
  obtain ⟨current, pushed⟩ := foldl_pushState (history.replaceState entry) rest
  have replaced : (history.replaceState entry).entries[history.current]? = some entry :=
    List.getElem?_set_self history.valid
  have length : ((history.replaceState entry).entries.take (history.current + 1)).length =
      history.current + 1 :=
    by grind
  refine ⟨current, ?_, ?_⟩
  · intro offset bound
    cases rest with
    | nil =>
      cases Nat.le_zero.mp bound
      exact replaced
    | cons _ _ =>
      rw [pushed (List.cons_ne_nil _ _)]
      cases offset with
      | zero =>
        grind [replaceState]
      | succ _ =>
        grind [replaceState, Nat.add_sub_cancel_left]
  · intro several
    grind [replaceState]

end History

end ChromiumIos.Lib
