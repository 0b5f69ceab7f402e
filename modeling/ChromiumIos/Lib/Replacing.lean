import Mathlib

/-!
# Patterns replaced by names, one after the other

A rule replaces the occurrences of its pattern in a text by its name, from left to
right, going on behind what it has put in.
-/

namespace ChromiumIos.Lib

/-- A pattern and what is put in its place. -/
structure Rule (α : Type*) where
  pattern : List α
  name : List α

variable {α : Type*}

section Search

variable [DecidableEq α] {pattern text before behind : List α} {rule : Rule α} {turns : Nat}

/-- The text before the first occurrence of a pattern and the text behind it. -/
def findFirst (pattern : List α) : List α → Option (List α × List α)
  | [] => if pattern = [] then some ([], []) else none
  | letter :: rest =>
    if pattern <+: letter :: rest then some ([], (letter :: rest).drop pattern.length)
    else (findFirst pattern rest).map fun (before, behind) => (letter :: before, behind)

theorem findFirst_eq_some (found : findFirst pattern text = some (before, behind)) :
    text = before ++ pattern ++ behind ∧
      ∀ other rest, text = other ++ pattern ++ rest → before.length ≤ other.length := by
  induction text generalizing before with
  | nil =>
    unfold findFirst at found
    grind
  | cons _ _ ih =>
    unfold findFirst at found
    split at found
    · next starts =>
        cases found
        simpa using (List.prefix_iff_eq_append.mp starts).symm
    · next differs =>
        obtain ⟨⟨head, tail⟩, later, result⟩ := Option.map_eq_some_iff.mp found
        cases result
        obtain ⟨split, first⟩ := ih later
        refine ⟨congrArg _ split, fun other rest same => ?_⟩
        cases other <;> grind

/-- The text that a rule leaves, and whether it has replaced anything; none if that takes more
turns. -/
def replaceWithin (rule : Rule α) : Nat → List α → Option (List α × Bool)
  | 0, text => if findFirst rule.pattern text = none then some (text, false) else none
  | turns + 1, text =>
    match findFirst rule.pattern text with
    | none => some (text, false)
    | some (before, behind) =>
      (replaceWithin rule turns behind).map fun (rest, _) => (before ++ rule.name ++ rest, true)

/-- A pattern that is not empty makes the text that is left shorter with every turn. -/
theorem replaceWithin_isSome (notEmpty : rule.pattern ≠ []) (enough : text.length ≤ turns) :
    (replaceWithin rule turns text).isSome = true := by
  induction turns generalizing text with
  | zero =>
    cases List.length_eq_zero_iff.mp (Nat.le_zero.mp enough)
    have missing : findFirst rule.pattern [] = none := if_neg notEmpty
    simp [replaceWithin, if_pos missing]
  | succ _ ih =>
    unfold replaceWithin
    cases found : findFirst rule.pattern text with
    | none => rfl
    | some _ =>
      have lengths := congrArg List.length (findFirst_eq_some found).1
      rw [List.length_append, List.length_append] at lengths
      have positive := List.length_pos_iff.mpr notEmpty
      simpa using ih (by omega)

/-- An empty pattern is found again and again at the same place. -/
theorem replaceWithin_of_empty (empty : rule.pattern = []) :
    replaceWithin rule turns text = none := by
  have found : findFirst rule.pattern text = some ([], text) := by
    rw [empty]
    cases text <;> simp [findFirst]
  induction turns with
  | zero =>
    simp [replaceWithin, found]
  | succ _ ih =>
    simp [replaceWithin, found, ih]

theorem replaceWithin_unfound {rest : List α}
    (ended : replaceWithin rule turns text = some (rest, false)) : rest = text := by
  cases turns with
  | zero =>
    unfold replaceWithin at ended
    grind
  | succ turns =>
    unfold replaceWithin at ended
    split at ended
    · cases ended
      rfl
    · obtain ⟨_, _, ⟨⟩⟩ := Option.map_eq_some_iff.mp ended

/-- More turns make no difference once it has ended. -/
theorem replaceWithin_mono {result : List α × Bool}
    (ended : replaceWithin rule turns text = some result) {more : Nat} (le : turns ≤ more) :
    replaceWithin rule more text = some result := by
  induction turns generalizing text result more with
  | zero =>
    unfold replaceWithin at ended
    split at ended
    · next missing =>
        cases ended
        cases more <;> simp [replaceWithin, missing]
    · cases ended
  | succ turns _ =>
    obtain ⟨more, rfl⟩ := Nat.exists_eq_add_of_le' (Nat.le_trans (Nat.le_add_left 1 turns) le)
    unfold replaceWithin at ended ⊢
    split at ended
    · exact ended
    · obtain ⟨rest, replaced, result⟩ := Option.map_eq_some_iff.mp ended
      grind

end Search

end ChromiumIos.Lib
