import Mathlib

/-!
# Counts by key

A finite map from keys to counts.  A key that is not there counts nothing, so the
total is the sum over any keys among which are all those that count.
-/

namespace ChromiumIos.Lib

structure Counts (κ : Type) where
  entries : List (κ × Int)
  nodup : (entries.map Prod.fst).Nodup

namespace Counts

variable {κ : Type}

def empty : Counts κ := ⟨[], List.nodup_nil⟩

def total (counts : Counts κ) : Int := (counts.entries.map Prod.snd).sum

variable [DecidableEq κ] {counts : Counts κ} {key other : κ}

def count (counts : Counts κ) (key : κ) : Int := (counts.entries.lookup key).getD 0

def erase (counts : Counts κ) (key : κ) : Counts κ where
  entries := counts.entries.filter fun entry => entry.1 ≠ key
  nodup := counts.nodup.sublist (List.filter_sublist.map _)

def set (counts : Counts κ) (key : κ) (value : Int) : Counts κ where
  entries := (key, value) :: (counts.erase key).entries
  nodup := by
    grind [erase]

def keys (counts : Counts κ) : List κ := counts.entries.map Prod.fst

theorem mem_keys_erase : other ∈ (counts.erase key).keys ↔ other ∈ counts.keys ∧ other ≠ key := by
  simp [keys, erase]

variable {value : Int}

theorem mem_keys_set : other ∈ (counts.set key value).keys ↔ other = key ∨ other ∈ counts.keys := by
  change other ∈ key :: (counts.erase key).keys ↔ _
  grind [mem_keys_erase]

variable (entries : List (κ × Int))

/-- Looking up a key that is not erased. -/
theorem lookup_filter_of_ne (differs : other ≠ key) :
    (entries.filter fun entry => entry.1 ≠ key).lookup other = entries.lookup other := by
  induction entries with
  | nil => rfl
  | cons _ _ _ =>
    grind

theorem lookup_filter_self : (entries.filter fun entry => entry.1 ≠ key).lookup key = none := by
  grind

theorem count_erase (counts : Counts κ) (key other : κ) :
    (counts.erase key).count other = if other = key then 0 else counts.count other := by
  unfold count erase
  by_cases same : other = key
  · rw [same, if_pos rfl, lookup_filter_self]
    rfl
  · rw [if_neg same, lookup_filter_of_ne _ same]

theorem count_set (counts : Counts κ) (key other : κ) (value : Int) :
    (counts.set key value).count other = if other = key then value else counts.count other := by
  unfold count set
  rw [List.lookup_cons]
  by_cases same : other = key
  · rw [if_pos same, beq_iff_eq.mpr same]
    rfl
  · rw [if_neg same, beq_false_of_ne same]
    have kept := counts.count_erase key other
    rw [if_neg same] at kept
    exact kept

theorem count_of_mem (mem : (key, value) ∈ counts.entries) : counts.count key = value := by
  obtain ⟨entries, nodup⟩ := counts
  unfold count
  induction entries with
  | nil => cases mem
  | cons _ _ _ =>
    grind

/-- The total is the sum over any keys among which are those that count. -/
theorem total_eq_sum {keys : List κ} (nodup : keys.Nodup)
    (among : ∀ key, counts.count key ≠ 0 → key ∈ keys) :
    counts.total = (keys.map counts.count).sum := by
  have own : counts.total = ((counts.entries.map Prod.fst).map counts.count).sum := by
    rw [List.map_map]
    exact congrArg List.sum (List.map_congr_left fun entry mem => (count_of_mem mem).symm)
  rw [own, ← List.sum_toFinset _ counts.nodup, ← List.sum_toFinset _ nodup]
  have uncounted : ∀ {key}, key ∉ (counts.entries.map Prod.fst).toFinset →
      counts.count key = 0 := by
    intro key notMem
    have missing : counts.entries.lookup key = none := by
      refine List.lookup_eq_none_iff.mpr fun entry mem => bne_iff_ne.mpr fun same => notMem ?_
      exact List.mem_toFinset.mpr (List.mem_map.mpr ⟨entry, mem, same.symm⟩)
    unfold count
    rw [missing]
    rfl
  calc ∑ key ∈ (counts.entries.map Prod.fst).toFinset, counts.count key
      = ∑ key ∈ (counts.entries.map Prod.fst).toFinset ∪ keys.toFinset, counts.count key :=
        Finset.sum_subset Finset.subset_union_left fun key _ notMem => uncounted notMem
    _ = ∑ key ∈ keys.toFinset, counts.count key := by
        refine (Finset.sum_subset Finset.subset_union_right fun key _ notMem => ?_).symm
        by_contra counted
        exact notMem (List.mem_toFinset.mpr (among key counted))

end Counts

end ChromiumIos.Lib
