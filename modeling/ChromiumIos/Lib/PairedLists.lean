import Mathlib

/-!
# Two lists whose elements belong together

Elements at the same positions of two lists are related.  Where one list falls into pieces so does
the other, and an element may be changed, added or taken away together with its partner.
-/

namespace ChromiumIos.Lib

open List (Forall₂)

variable {α β : Type} {Related Other : α → β → Prop} {left first last : List α}
variable {right before after : List β} {element : α} {partner : β}

theorem forall₂_append (heads : Forall₂ Related first before)
    (tails : Forall₂ Related last after) : Forall₂ Related (first ++ last) (before ++ after) := by
  induction heads with
  | nil => exact tails
  | cons related _ ih => exact .cons related ih

theorem exists_append_of_left (paired : Forall₂ Related (first ++ last) right) :
    ∃ before after, right = before ++ after ∧ Forall₂ Related first before ∧
      Forall₂ Related last after := by
  induction first generalizing right with
  | nil => simpa using paired
  | cons _ _ ih =>
    cases paired with
    | cons related paired =>
      obtain ⟨before, after, rfl, heads, tails⟩ := ih paired
      exact ⟨_ :: before, after, rfl, .cons related heads, tails⟩

theorem exists_append_of_right (paired : Forall₂ Related left (before ++ after)) :
    ∃ first last, left = first ++ last ∧ Forall₂ Related first before ∧
      Forall₂ Related last after := by
  induction before generalizing left with
  | nil => exact ⟨[], left, rfl, .nil, paired⟩
  | cons _ _ ih =>
    cases paired with
    | cons related paired =>
      obtain ⟨first, last, rfl, heads, tails⟩ := ih paired
      exact ⟨_ :: first, last, rfl, .cons related heads, tails⟩

/-- An element parts both lists. -/
theorem exists_cons_of_left (paired : Forall₂ Related (first ++ element :: last) right) :
    ∃ before partner after, right = before ++ partner :: after ∧
      Forall₂ Related first before ∧ Related element partner ∧ Forall₂ Related last after := by
  obtain ⟨before, rest, rfl, heads, tails⟩ := exists_append_of_left paired
  cases tails
  grind

theorem exists_of_mem_right (paired : Forall₂ Related left right) (mem : partner ∈ right) :
    ∃ element ∈ left, Related element partner := by
  induction paired with
  | nil => cases mem
  | cons _ _ _ =>
    grind

theorem exists_of_mem_left (paired : Forall₂ Related left right) (mem : element ∈ left) :
    ∃ partner ∈ right, Related element partner := by
  induction paired with
  | nil => cases mem
  | cons _ _ _ =>
    grind

/-- Another relation may be shown for the partners alone. -/
theorem forall₂_imp_mem (paired : Forall₂ Related left right)
    (implies : ∀ element ∈ left, ∀ partner ∈ right, Related element partner →
      Other element partner) : Forall₂ Other left right := by
  induction paired with
  | nil => exact .nil
  | cons related _ _ =>
    refine .cons (implies _ List.mem_cons_self _ List.mem_cons_self related) ?_
    grind

/-- An element may be changed where its partner allows it. -/
theorem forall₂_replace {changed : α} (paired : Forall₂ Related (first ++ element :: last) right)
    (kept : ∀ partner ∈ right, Related element partner → Related changed partner) :
    Forall₂ Related (first ++ changed :: last) right := by
  obtain ⟨_, _, _, rfl, heads, related, tails⟩ := exists_cons_of_left paired
  apply forall₂_append heads
  simp [kept, related, tails]

end ChromiumIos.Lib
