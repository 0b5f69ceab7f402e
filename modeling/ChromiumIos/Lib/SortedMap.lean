import Mathlib

/-!
# Maps that are sorted by their keys

A map is the list of its entries in the order of their keys, of which each is there once.
-/

namespace ChromiumIos.Lib

variable {κ α : Type*} [LinearOrder κ]

def assign (key : κ) (value : α) : List (κ × α) → List (κ × α)
  | [] => [(key, value)]
  | entry :: rest =>
    if key < entry.1 then (key, value) :: entry :: rest
    else if entry.1 < key then entry :: assign key value rest
    else (key, value) :: rest

def SortedByKey (entries : List (κ × α)) : Prop :=
  entries.Pairwise fun first second => first.1 < second.1

variable {key : κ} {value : α} {entry : κ × α} {entries : List (κ × α)}

theorem mem_assign (sorted : SortedByKey entries) :
    entry ∈ assign key value entries ↔ entry = (key, value) ∨ entry ∈ entries ∧ entry.1 ≠ key := by
  induction entries with
  | nil => simp [assign]
  | cons _ _ ih =>
    obtain ⟨before, sorted⟩ := List.pairwise_cons.mp sorted
    grind [assign, ih sorted]

theorem mem_keys_assign (sorted : SortedByKey entries) {other : κ} :
    other ∈ (assign key value entries).map Prod.fst ↔
      other = key ∨ other ∈ entries.map Prod.fst := by
  rw [List.mem_map, List.mem_map]
  constructor
  · grind [mem_assign]
  · rintro (rfl | ⟨entry, inside, rfl⟩)
    · exact ⟨_, (mem_assign sorted).mpr (.inl rfl), rfl⟩
    · by_cases same : entry.1 = key
      · exact ⟨_, (mem_assign sorted).mpr (.inl rfl), same.symm⟩
      · grind [mem_assign]

theorem sorted_assign (sorted : SortedByKey entries) :
    SortedByKey (assign key value entries) := by
  induction entries with
  | nil => exact List.pairwise_singleton _ _
  | cons first _ ih =>
    obtain ⟨before, later⟩ := List.pairwise_cons.mp sorted
    unfold assign
    split
    · next less =>
        grind [SortedByKey]
    · split
      · next less =>
          refine List.pairwise_cons.mpr ⟨fun entry mem => ?_, ih later⟩
          rcases (mem_assign later).mp mem with rfl | ⟨mem, -⟩ <;> grind
      · next notLess notGreater =>
          have same : first.1 = key := le_antisymm (not_lt.mp notLess) (not_lt.mp notGreater)
          exact List.pairwise_cons.mpr ⟨fun entry mem => same ▸ before entry mem, later⟩

end ChromiumIos.Lib
