import Mathlib

/-!
# Replacing a string everywhere

The occurrences of a string in a text are replaced from left to right, each search going on
behind the occurrence before it.  A text whose occurrences are known to be at marks has the
replacement at these marks and is the same everywhere else; so has a text in which only a range
from the start is searched, as long as no mark is beyond it.
-/

namespace ChromiumIos.Lib

variable {α : Type*} [DecidableEq α]

/-- Replace the occurrences behind as many letters as are skipped; the empty string does not
occur. -/
def replaceFrom (target replacement : List α) : Nat → List α → List α
  | _, [] => []
  | skipped + 1, _ :: rest => replaceFrom target replacement skipped rest
  | 0, letter :: rest =>
    if target ≠ [] ∧ target <+: letter :: rest then
      replacement ++ replaceFrom target replacement (target.length - 1) rest
    else letter :: replaceFrom target replacement 0 rest

def replaceAll (target replacement text : List α) : List α :=
  replaceFrom target replacement 0 text

variable {target replacement text rest : List α}

theorem replaceFrom_eq_drop (skipped : Nat) :
    replaceFrom target replacement skipped text =
      replaceAll target replacement (text.drop skipped) := by
  induction text generalizing skipped with
  | nil =>
    cases skipped <;> rfl
  | cons _ _ _ =>
    cases skipped <;> grind [replaceFrom, replaceAll]

/-- An occurrence at the start is replaced. -/
theorem replaceAll_target (some : target ≠ []) :
    replaceAll target replacement (target ++ rest) =
      replacement ++ replaceAll target replacement rest := by
  cases target with
  | nil => exact absurd rfl some
  | cons letter target =>
    have starts : letter :: target <+: letter :: (target ++ rest) := ⟨rest, rfl⟩
    change replaceFrom _ _ 0 (letter :: (target ++ rest)) = _
    unfold replaceFrom
    rw [if_pos ⟨some, starts⟩, replaceFrom_eq_drop]
    simp

/-- A text in which no occurrence starts stays as it is. -/
theorem replaceAll_append (missing : ∀ before letter behind, text = before ++ letter :: behind →
      ¬ target <+: letter :: behind ++ rest) :
    replaceAll target replacement (text ++ rest) =
      text ++ replaceAll target replacement rest := by
  induction text with
  | nil => rfl
  | cons letter text ih =>
    have later := ih (by grind)
    change replaceFrom _ _ 0 (letter :: (text ++ rest)) = _
    unfold replaceFrom
    rw [if_neg fun starts => missing [] letter text rfl starts.2]
    exact congrArg _ later

/-! ## Marks -/

/-- A text in parts, where a mark stands for an occurrence. -/
def fillMarks (string : List α) (parts : List (Option (List α))) : List α :=
  parts.flatMap fun part => part.getD string

omit [DecidableEq α] in
@[simp]
theorem fillMarks_cons (string : List α) (part : Option (List α)) (parts : List (Option (List α))) :
    fillMarks string (part :: parts) = part.getD string ++ fillMarks string parts := rfl

def markPlaces (length : Nat) : List (Option (List α)) → List Nat
  | [] => []
  | none :: parts => 0 :: (markPlaces length parts).map (length + ·)
  | some text :: parts => (markPlaces length parts).map (text.length + ·)

def OccursAtMarks (target : List α) (range : Nat) (parts : List (Option (List α))) : Prop :=
  ∀ place, target <+: ((fillMarks target parts).take range).drop place ↔
    place ∈ markPlaces target.length parts

variable {parts : List (Option (List α))} {range : Nat}

omit [DecidableEq α] in
/-- What is behind the first part has its occurrences at its marks too. -/
theorem OccursAtMarks.tail {part : Option (List α)} (some : target ≠ [])
    (occurs : OccursAtMarks target range (part :: parts)) :
    OccursAtMarks target (range - (part.getD target).length) parts := by
  intro place
  have here := occurs ((part.getD target).length + place)
  rw [fillMarks_cons, List.take_append, ← List.drop_drop] at here
  have drops : (((part.getD target).take range) ++
      (fillMarks target parts).take (range - (part.getD target).length)).drop
        (part.getD target).length =
          (fillMarks target parts).take (range - (part.getD target).length) := by
    grind [List.drop_left]
  rw [drops] at here
  rw [here]
  cases part <;> simp [markPlaces, some]

omit [DecidableEq α] in
/-- A mark is not behind the text. -/
theorem add_length_le_of_mem_markPlaces {place : Nat}
    (mem : place ∈ markPlaces target.length parts) :
    place + target.length ≤ (fillMarks target parts).length := by
  induction parts generalizing place with
  | nil => cases mem
  | cons part _ _ =>
    rw [fillMarks_cons, List.length_append]
    cases part with
    | none =>
      rcases List.mem_cons.mp mem with rfl | mem <;> grind
    | some _ =>
      obtain ⟨later, inside, rfl⟩ := List.mem_map.mp mem
      grind

omit [DecidableEq α] in
/-- Only the places in the text need to be looked at. -/
theorem occursAtMarks_of_lt (some : target ≠ [])
    (occurs : ∀ place < (fillMarks target parts).length,
      target <+: ((fillMarks target parts).take range).drop place ↔
        place ∈ markPlaces target.length parts) :
    OccursAtMarks target range parts := by
  intro place
  rcases Nat.lt_or_ge place (fillMarks target parts).length with inside | outside
  · exact occurs place inside
  · have positive := List.length_pos_iff.mpr some
    constructor
    · grind
    · intro mem
      have := add_length_le_of_mem_markPlaces mem
      omega

/-- Replacing in a range in which the string occurs exactly at the marks puts the replacement at
the marks, and nowhere else. -/
theorem replaceAll_take_of_occursAtMarks (some : target ≠ [])
    (occurs : OccursAtMarks target range parts) :
    replaceAll target replacement ((fillMarks target parts).take range) ++
        (fillMarks target parts).drop range = fillMarks replacement parts := by
  induction parts generalizing range with
  | nil =>
    change replaceAll target replacement (([] : List α).take range) ++ [].drop range = []
    rw [List.take_nil, List.drop_nil]
    rfl
  | cons part parts ih =>
    have later := ih (occurs.tail some)
    cases part with
    | none =>
      have first := (occurs 0).mpr List.mem_cons_self
      have inside : target.length ≤ range := by
        grind
      rw [fillMarks_cons, Option.getD_none, List.take_append, List.drop_append,
        List.take_of_length_le inside, List.drop_of_length_le inside, replaceAll_target some,
        List.nil_append, List.append_assoc]
      exact congrArg _ later
    | some text =>
      have missing : ∀ before letter behind, text.take range = before ++ letter :: behind →
          ¬ target <+: letter :: behind ++ (fillMarks target parts).take (range - text.length) := by
        intro before letter behind split starts
        have place := (occurs before.length).mp (by
          grind [fillMarks_cons, List.take_append])
        obtain ⟨later, -, same⟩ := List.mem_map.mp place
        grind [List.length_append]
      rw [fillMarks_cons, fillMarks_cons, Option.getD_some, Option.getD_some, List.take_append,
        List.drop_append, replaceAll_append missing]
      rw [Option.getD_some] at later
      rcases Nat.le_total text.length range with inside | outside
      · grind [List.take_of_length_le]
      · rw [Nat.sub_eq_zero_of_le outside, List.take_zero, List.drop_zero] at later ⊢
        change text.take range ++ [] ++ _ = _
        rw [List.append_nil, ← List.append_assoc, List.take_append_drop]
        exact congrArg _ later

end ChromiumIos.Lib
