import Mathlib

/-!
# Unfolding a finite graph

Every point of a graph has its children in a list.  Following the children from a point, as often
as they are listed, visits finitely many points if none of those that can be reached lies on a
cycle, and the number of visits of a point is one more than those of its children together.
-/

namespace ChromiumIos.Lib

variable {α : Type*}

def Lists (children : α → List α) (parent child : α) : Prop := child ∈ children parent

def unfolding (children : α → List α) : Nat → α → Nat
  | 0, _ => 0
  | depth + 1, point => 1 + ((children point).map (unfolding children depth)).sum

variable {children : α → List α} {known : Set α}

/-- The number of points behind a point, which its children do not all have. -/
theorem exists_rank (finite : known.Finite)
    (closed : ∀ parent ∈ known, ∀ child, Lists children parent child → child ∈ known)
    (acyclic : ∀ point ∈ known, ¬ Relation.TransGen (Lists children) point point) :
    ∃ rank : α → Nat, ∀ parent ∈ known, ∀ child, Lists children parent child →
      rank child < rank parent := by
  let behind (point : α) : Set α :=
    {other | other ∈ known ∧ Relation.TransGen (Lists children) point other}
  refine ⟨fun point => (behind point).ncard, fun parent mem child listed => ?_⟩
  have mem' := closed parent mem child listed
  have finite' : (behind parent).Finite := finite.subset fun other inside => inside.1
  apply Set.ncard_lt_ncard _ finite'
  rw [Set.ssubset_iff_of_subset]
  · exact ⟨child, ⟨mem', .single listed⟩, fun inside => acyclic child mem' inside.2⟩
  · rintro other ⟨inside, path⟩
    exact ⟨inside, .head listed path⟩

/-- From its rank on the depth makes no difference. -/
theorem unfolding_succ {rank : α → Nat}
    (closed : ∀ parent ∈ known, ∀ child, Lists children parent child → child ∈ known)
    (lower : ∀ parent ∈ known, ∀ child, Lists children parent child → rank child < rank parent)
    {depth : Nat} {point : α} (mem : point ∈ known) (deep : rank point < depth) :
    unfolding children (depth + 1) point = unfolding children depth point := by
  induction depth generalizing point with
  | zero => exact absurd deep (Nat.not_lt_zero _)
  | succ depth ih =>
    have same : (children point).map (unfolding children (depth + 1)) =
        (children point).map (unfolding children depth) := by
      apply List.map_congr_left
      intro child listed
      have less := lower point mem child listed
      exact ih (closed point mem child listed) (by omega)
    change 1 + ((children point).map (unfolding children (depth + 1))).sum =
      1 + ((children point).map (unfolding children depth)).sum
    rw [same]

/-- Without cycles every point has a number of visits. -/
theorem exists_visits (finite : known.Finite)
    (closed : ∀ parent ∈ known, ∀ child, Lists children parent child → child ∈ known)
    (acyclic : ∀ point ∈ known, ¬ Relation.TransGen (Lists children) point point) :
    ∃ visits : α → Nat, ∀ point ∈ known,
      visits point = 1 + ((children point).map visits).sum := by
  obtain ⟨rank, lower⟩ := exists_rank finite closed acyclic
  obtain ⟨highest, below⟩ := (finite.image rank).bddAbove
  refine ⟨unfolding children (highest + 1), fun point mem => ?_⟩
  have deep : rank point < highest + 1 := Nat.lt_succ_of_le (below ⟨point, mem, rfl⟩)
  exact (unfolding_succ closed lower mem deep).symm

def HasCycleAhead (children : α → List α) (point : α) : Prop :=
  ∃ turning, Relation.ReflTransGen (Lists children) point turning ∧
    Relation.TransGen (Lists children) turning turning

/-- One of the children has the cycle ahead as well. -/
theorem HasCycleAhead.child {point : α} (ahead : HasCycleAhead children point) :
    ∃ child ∈ children point, HasCycleAhead children child := by
  obtain ⟨turning, path, cycle⟩ := ahead
  rcases path.cases_head with rfl | ⟨child, listed, path⟩
  · obtain ⟨child, listed, path⟩ := Relation.TransGen.head'_iff.mp cycle
    exact ⟨child, listed, point, path, cycle⟩
  · exact ⟨child, listed, turning, path, cycle⟩

end ChromiumIos.Lib
