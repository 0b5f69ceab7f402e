import Mathlib

/-!
# Intervals that follow one another

A list of half-open intervals tiles a range if the first begins where the range
begins, each begins where the one before ends, and the last ends where the range
ends.  Empty intervals are allowed.  The slices of a list along a tiling put
together are its slice along the whole range.
-/

namespace ChromiumIos.Lib

inductive Tiles : Nat → Nat → List (Nat × Nat) → Prop where
  | done (position : Nat) : Tiles position position []
  | next {begin ending last : Nat} {rest : List (Nat × Nat)} (ordered : begin ≤ ending)
      (following : Tiles ending last rest) : Tiles begin last ((begin, ending) :: rest)

namespace Tiles

variable {first middle last : Nat} {parts more : List (Nat × Nat)}

variable (tiles : Tiles first last parts)
include tiles

theorem le : first ≤ last := by
  induction tiles with
  | done position => exact Nat.le_refl position
  | next ordered _ ih => exact Nat.le_trans ordered ih

omit tiles

theorem nil_iff : Tiles first last [] ↔ first = last := by
  constructor
  · intro tiles
    cases tiles
    rfl
  · rintro rfl
    exact .done first

theorem cons_iff {begin ending : Nat} :
    Tiles first last ((begin, ending) :: parts) ↔
      begin = first ∧ begin ≤ ending ∧ Tiles ending last parts := by
  constructor
  · intro tiles
    generalize list : (begin, ending) :: parts = all at tiles
    cases tiles <;> grind
  · rintro ⟨rfl, ordered, following⟩
    exact .next ordered following

theorem append (before : Tiles first middle parts) (after : Tiles middle last more) :
    Tiles first last (parts ++ more) := by
  induction before with
  | done _ => exact after
  | next ordered _ ih => exact .next ordered (ih after)

theorem snoc (before : Tiles first middle parts) (ordered : middle ≤ last) :
    Tiles first last (parts ++ [(middle, last)]) :=
  before.append (.next ordered (.done last))

variable {part other : Nat × Nat} {index : Nat}

include tiles

/-- The intervals of a tiling lie in the range. -/
theorem bounds (mem : part ∈ parts) : first ≤ part.1 ∧ part.1 ≤ part.2 ∧ part.2 ≤ last := by
  induction tiles with
  | done _ => cases mem
  | next ordered following _ =>
    rcases List.mem_cons.mp mem with rfl | mem
    · simp [ordered, following.le]
    · grind

omit tiles

variable {later : Nat}

include tiles

/-- A later interval begins where an earlier one ends, or after it. -/
theorem ending_le_begin (before : index < later) (atIndex : parts[index]? = some part)
    (atLater : parts[later]? = some other) : part.2 ≤ other.1 := by
  induction tiles generalizing index later with
  | done _ => cases atIndex
  | next _ following _ =>
    grind [following.bounds]

theorem ending_mono (before : index ≤ later) (atIndex : parts[index]? = some part)
    (atLater : parts[later]? = some other) : part.2 ≤ other.2 := by
  rcases Nat.lt_or_eq_of_le before with before | rfl
  · exact Nat.le_trans (tiles.ending_le_begin before atIndex atLater)
      (tiles.bounds (List.mem_of_getElem? atLater)).2.1
  · grind

/-- The next interval begins exactly where this one ends. -/
theorem begin_succ (atIndex : parts[index]? = some part) (atNext : parts[index + 1]? = some other) :
    other.1 = part.2 := by
  induction tiles generalizing index with
  | done _ => cases atIndex
  | next _ following ih =>
    cases index with
    | zero =>
      cases atIndex
      cases following <;> grind
    | succ _ => exact ih atIndex atNext

/-- Where the last interval ends. -/
theorem ending_last (atIndex : parts[index]? = some part) (isLast : parts.length = index + 1) :
    part.2 = last := by
  induction tiles generalizing index with
  | done _ => cases atIndex
  | next _ following ih =>
    cases index with
    | zero =>
      cases atIndex
      cases following <;> grind
    | succ _ => exact ih atIndex (Nat.succ.inj isLast)

end Tiles

/-! ## Slices -/

variable {α β : Type*}
variable {last first : Nat} (list : List α)

def slice (list : List α) (first last : Nat) : List α := (list.drop first).take (last - first)

theorem slice_self (position : Nat) : slice list position position = [] := by
  simp [slice]

theorem slice_append {middle : Nat} (before : first ≤ middle) (after : middle ≤ last) :
    slice list first middle ++ slice list middle last = slice list first last := by
  unfold slice
  have split : last - first = (middle - first) + (last - middle) := by omega
  rw [split, List.take_add, List.drop_drop]
  congr 3
  omega

theorem map_slice (f : α → β) (list : List α) (first last : Nat) :
    (slice list first last).map f = slice (list.map f) first last := by
  simp [slice]

/-- A slice of a slice, at positions counted from where the latter begins. -/
theorem slice_slice {begin ending : Nat} (above : begin ≤ first) (below : last ≤ ending) :
    slice (slice list begin ending) (first - begin) (last - begin) = slice list first last := by
  unfold slice
  grind [List.drop_take, List.drop_drop]

theorem mem_of_mem_slice {list : List α} {element : α} (mem : element ∈ slice list first last) :
    element ∈ list :=
  List.mem_of_mem_drop (List.mem_of_mem_take mem)

theorem Tiles.flatMap_slice {parts : List (Nat × Nat)} (tiles : Tiles first last parts)
    (list : List α) :
    parts.flatMap (fun part => slice list part.1 part.2) = slice list first last := by
  induction tiles with
  | done position => exact (slice_self list position).symm
  | next ordered following ih =>
    simpa [ih] using slice_append list ordered following.le

end ChromiumIos.Lib
