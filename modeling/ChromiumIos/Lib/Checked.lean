import Mathlib

/-!
# Computations that may fail an assertion

A value of `Checked α` is the result of a computation whose assertions all
passed, or `none` as soon as one of them failed.  Assertions that guard the
entry of an operation and assertions that are only met halfway through it are
treated alike, so that a theorem saying that a computation returns also says
that no assertion on its way can fail.
-/

namespace ChromiumIos.Lib

abbrev Checked (α : Type*) := Option α

/-- Continue exactly when the asserted condition holds. -/
def dcheck (condition : Prop) [Decidable condition] : Checked Unit :=
  if condition then some () else none

variable {condition : Prop}

theorem dcheck_eq_some [Decidable condition] {result : Unit} :
    dcheck condition = some result ↔ condition := by
  simp only [dcheck]
  split <;> simp_all

@[simp]
theorem dcheck_of [Decidable condition] (holds : condition) : dcheck condition = some () :=
  if_pos holds

@[simp]
theorem dcheck_of_not [Decidable condition] (fails : ¬ condition) : dcheck condition = none :=
  if_neg fails

/-- A sequence that starts with an assertion returns exactly when the assertion
holds and the rest returns. -/
theorem dcheck_bind_eq_some {α : Type*} [Decidable condition] {rest : Unit → Checked α}
    {value : α} : (dcheck condition).bind rest = some value ↔ condition ∧ rest () = some value := by
  by_cases holds : condition <;> simp [holds]

/-- A sequence returns when its first part does and the rest does with its value. -/
theorem bind_eq_some {α β : Type} {first : Checked α} {rest : α → Checked β} {result : β}
    (returned : (first >>= rest) = some result) :
    ∃ value, first = some value ∧ rest value = some result :=
  Option.bind_eq_some_iff.mp returned

theorem dcheck_then {α : Type} [Decidable condition] {rest : Unit → Checked α} {result : α}
    (returned : (dcheck condition >>= rest) = some result) : condition ∧ rest () = some result :=
  dcheck_bind_eq_some.mp returned

/-- What is said of the elements of a list is decided by going through the list, and not through
all characters. -/
instance (priority := high) decidableForallMem {α : Type} {p : α → Prop} [DecidablePred p]
    (list : List α) :
    Decidable (∀ element, element ∈ list → p element) :=
  List.decidableBAll p list

end ChromiumIos.Lib
