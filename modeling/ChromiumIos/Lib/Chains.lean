import Mathlib

/-!
# Chains in a list

Some elements of a list follow the one before them; the others head a chain.
A chain runs from its head up to the next head.  The positions of the heads, the
end of the chain that a position is in, and the positions before the heads are
described here for loops that walk over chains.
-/

namespace ChromiumIos.Lib

variable {α : Type*} (follows : α → Bool) (items : List α)

/-- Whether the element at a position is there and follows the one before it. -/
def followsAt (position : Nat) : Bool := (items[position]?).any follows

def headsFrom (position : Nat) : List Nat :=
  (List.range' position (items.length - position)).filter fun head => !followsAt follows items head

def beforeHeads : Nat → List Nat
  | 0 => []
  | position + 1 =>
    if followsAt follows items (position + 1) then beforeHeads position
    else position :: beforeHeads position

/-- The elements between two positions belong to one chain, which ends at the second. -/
structure EndsChain (first last : Nat) : Prop where
  ordered : first ≤ last
  inside : last < items.length
  follow : ∀ position, first < position → position ≤ last → followsAt follows items position
  ends : ¬ followsAt follows items (last + 1)

def chainEnd : List α → Nat → Nat
  | [], position => position
  | item :: rest, position =>
    if follows item then chainEnd rest (position + 1) else position

variable {follows items}
variable {position : Nat}

theorem headsFrom_of_le (outside : items.length ≤ position) :
    headsFrom follows items position = [] := by
  grind [headsFrom]

theorem headsFrom_cons (inside : position < items.length) :
    headsFrom follows items position =
      if followsAt follows items position then headsFrom follows items (position + 1)
      else position :: headsFrom follows items (position + 1) := by
  unfold headsFrom
  have count : items.length - position = items.length - (position + 1) + 1 := by omega
  grind [List.range'_succ]

theorem not_followsAt_of_le (outside : items.length ≤ position) :
    ¬ followsAt follows items position := by
  simp [followsAt, outside]

variable {start : Nat}

theorem mem_headsFrom :
    position ∈ headsFrom follows items start ↔
      start ≤ position ∧ position < items.length ∧ ¬ followsAt follows items position := by
  unfold headsFrom
  grind

theorem EndsChain.self (inside : position < items.length)
    (ends : ¬ followsAt follows items (position + 1)) : EndsChain follows items position position :=
  ⟨Nat.le_refl _, inside, fun _ after before => by omega, ends⟩

theorem EndsChain.cons {first last : Nat} (chain : EndsChain follows items (first + 1) last)
    (next : followsAt follows items (first + 1)) : EndsChain follows items first last where
  ordered := by
    have ordered := chain.ordered
    omega
  inside := chain.inside
  follow := by
    grind [chain.follow]
  ends := chain.ends

theorem lt_of_mem_beforeHeads (member : position ∈ beforeHeads follows items start) :
    position < start := by
  induction start with
  | zero => cases member
  | succ _ _ =>
    unfold beforeHeads at member
    grind

/-- The heads after a position are those after the end of its chain. -/
theorem chainEnd_spec {rest : List α} (split : items.drop (position + 1) = rest)
    (inside : position < items.length) :
    EndsChain follows items position (chainEnd follows rest position) ∧
      headsFrom follows items (position + 1) =
        headsFrom follows items (chainEnd follows rest position + 1) := by
  induction rest generalizing position with
  | nil =>
    have outside : items.length ≤ position + 1 := List.drop_eq_nil_iff.mp split
    exact ⟨.self inside (not_followsAt_of_le outside), rfl⟩
  | cons _ _ ih =>
    have length := congrArg List.length split
    rw [List.length_drop, List.length_cons] at length
    have next : position + 1 < items.length := by omega
    obtain ⟨rfl, rest_eq⟩ := List.cons.inj (split.symm.trans (List.drop_eq_getElem_cons next))
    have here : followsAt follows items (position + 1) = follows items[position + 1] := by
      simp [followsAt, next]
    unfold chainEnd
    split_ifs with followed
    · obtain ⟨chain, heads⟩ := ih rest_eq.symm next
      refine ⟨chain.cons (here.trans followed), ?_⟩
      rw [headsFrom_cons next, if_pos (here.trans followed), heads]
    · exact ⟨.self inside (by rw [here]; exact followed), rfl⟩

/-- Where a walk over the chains from a position on stops first: at the position itself
if it is in the middle of a chain. -/
def stopsFrom (follows : α → Bool) (items : List α) (position : Nat) : List Nat :=
  if followsAt follows items position then position :: headsFrom follows items (position + 1)
  else headsFrom follows items position

theorem stopsFrom_of_le (outside : items.length ≤ position) :
    stopsFrom follows items position = [] := by
  unfold stopsFrom
  rw [if_neg (not_followsAt_of_le outside), headsFrom_of_le outside]

/-- The stops after a position go on after the end of its chain. -/
theorem stopsFrom_cons (inside : position < items.length) :
    stopsFrom follows items position = position :: stopsFrom follows items
      (chainEnd follows (items.drop (position + 1)) position + 1) := by
  obtain ⟨chain, heads⟩ := chainEnd_spec rfl inside
  have rest : stopsFrom follows items
      (chainEnd follows (items.drop (position + 1)) position + 1) =
        headsFrom follows items (position + 1) := by
    unfold stopsFrom
    rw [if_neg chain.ends, heads]
  rw [rest]
  unfold stopsFrom
  split_ifs with inChain
  · rfl
  · rw [headsFrom_cons inside, if_neg inChain]

theorem length_stopsFrom (position : Nat) :
    (stopsFrom follows items position).length =
      (headsFrom follows items position).length +
        if followsAt follows items position then 1 else 0 := by
  unfold stopsFrom
  split_ifs with inChain
  · have inside : position < items.length := by
      by_contra outside
      exact not_followsAt_of_le (by omega) inChain
    simp [headsFrom_cons inside, if_pos inChain]
  · rfl

end ChromiumIos.Lib
