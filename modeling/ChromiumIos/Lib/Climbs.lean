import Mathlib

/-!
# Increasing values within bounds

Values that are handed out one after the other, each above the ones before it: a
lower bound says where they begin and an upper bound where the next ones will.
Stretches of such values can be put behind each other.
-/

namespace ChromiumIos.Lib

variable {α : Type*} [Preorder α] {low middle high : α} {values more : List α}

/-- Values that increase from one bound on and stay below another. -/
structure Climbs (low : α) (values : List α) (high : α) : Prop where
  le : low ≤ high
  increasing : values.Pairwise (· < ·)
  within : ∀ value ∈ values, low ≤ value ∧ value < high

namespace Climbs

theorem nil (le : low ≤ high) : Climbs low [] high where
  le := le
  increasing := .nil
  within _ mem := by cases mem

theorem single (less : low < high) : Climbs low [low] high where
  le := le_of_lt less
  increasing := List.pairwise_singleton _ _
  within value mem := by
    grind

theorem append (first : Climbs low values middle) (rest : Climbs middle more high) :
    Climbs low (values ++ more) high where
  le := le_trans first.le rest.le
  increasing := by
    refine List.pairwise_append.mpr ⟨first.increasing, rest.increasing, ?_⟩
    intro earlier memEarlier later memLater
    exact lt_of_lt_of_le (first.within earlier memEarlier).2 (rest.within later memLater).1
  within value mem := by
    rcases List.mem_append.mp mem with mem | mem
    · obtain ⟨above, below⟩ := first.within value mem
      exact ⟨above, lt_of_lt_of_le below rest.le⟩
    · obtain ⟨above, below⟩ := rest.within value mem
      exact ⟨le_trans first.le above, below⟩

end Climbs

end ChromiumIos.Lib
