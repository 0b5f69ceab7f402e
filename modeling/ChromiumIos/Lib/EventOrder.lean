import Mathlib

/-!
# The order of the events of a log

That some events occur in a log in a given order is that they are a sublist of it.  What is
in a log with one event more either was there before or ends with the new event.
-/

namespace ChromiumIos.Lib

variable {Event : Type*} {events : List Event} {first second third latest : Event}

theorem sublist_concat_iff (earlier : List Event) :
    (earlier ++ [third]).Sublist (events ++ [latest]) ↔
      (earlier ++ [third]).Sublist events ∨ earlier.Sublist events ∧ third = latest := by
  constructor
  · intro sublist
    obtain ⟨left, right, split, inside, last⟩ := List.sublist_append_iff.mp sublist
    cases last <;> grind [List.append_inj']
  · grind

theorem pair_sublist_concat :
    [first, third].Sublist (events ++ [latest]) ↔
      [first, third].Sublist events ∨ first ∈ events ∧ third = latest := by
  simpa using sublist_concat_iff [first]

theorem triple_sublist_concat :
    [first, second, third].Sublist (events ++ [latest]) ↔
      [first, second, third].Sublist events ∨
        [first, second].Sublist events ∧ third = latest :=
  sublist_concat_iff [first, second]

end ChromiumIos.Lib
