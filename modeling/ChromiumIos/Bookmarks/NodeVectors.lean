import ChromiumIos.Lib.Checked

/-!
# Vectors of bookmark nodes

When bookmarks have been deleted elsewhere, the nodes that a menu still shows are compared
with those it has shown before.  Both functions scan the vectors once from the front.  Each
takes the first match that comes up, and that is enough: a vector that can be matched at all
can be matched so.
-/

namespace ChromiumIos

open Lib

namespace BookmarkUtils

open List (Sublist)

variable {Node : Type} [DecidableEq Node]

/-- The scan of the first vector.  The iterator on the second one is what is left of it. -/
def isSubvectorFrom : List Node → List Node → Bool
  | [], _ => true
  | node :: rest, it =>
    match it.dropWhile (· ≠ node) with
    | [] => false
    | _ :: next => isSubvectorFrom rest next

def isSubvectorOfNodes (vector1 vector2 : List Node) : Bool :=
  isSubvectorFrom vector1 vector2

/-- The scan of the second vector from index `i2` on, with an iterator on the first one. -/
def missingFrom : Nat → List Node → List Node → List Nat
  | _, _, [] => []
  | i2, [], _ :: rest => i2 :: missingFrom (i2 + 1) [] rest
  | i2, node :: it1, other :: rest =>
    if other ≠ node then i2 :: missingFrom (i2 + 1) (node :: it1) rest
    else missingFrom (i2 + 1) it1 rest

def missingNodesIndices (vector1 vector2 : List Node) : Checked (List Nat) :=
  (dcheck (isSubvectorOfNodes vector1 vector2 = true)).map fun _ => missingFrom 0 vector1 vector2

/-- A vector whose first element has index `first`, without the elements at some indices. -/
def eraseIndicesFrom {α : Type} (indices : List Nat) : Nat → List α → List α
  | _, [] => []
  | first, element :: rest =>
    if first ∈ indices then eraseIndicesFrom indices (first + 1) rest
    else element :: eraseIndicesFrom indices (first + 1) rest

variable {vector1 vector2 rest it1 : List Node} {node : Node} {i2 : Nat}

/-! ## Which vectors are subvectors -/

/-- A node that can be matched at all can be matched with its first occurrence. -/
theorem cons_sublist_iff_dropWhile :
    Sublist (node :: rest) vector2 ↔
      ∃ found next, vector2.dropWhile (· ≠ node) = found :: next ∧ Sublist rest next := by
  induction vector2 with
  | nil => simp
  | cons other vector2 ih =>
    by_cases same : other = node
    · subst same
      simp
    · have skipped : Sublist (node :: rest) (other :: vector2) ↔
          Sublist (node :: rest) vector2 := by
        grind
      rw [skipped, ih]
      simp [same]

theorem isSubvectorFrom_iff : isSubvectorFrom vector1 vector2 = true ↔ Sublist vector1 vector2 := by
  induction vector1 generalizing vector2 with
  | nil => simp [isSubvectorFrom]
  | cons _ _ _ =>
    rw [cons_sublist_iff_dropWhile, isSubvectorFrom]
    grind

/-! ## Which nodes are missing -/

variable {first index : Nat}

theorem le_of_mem_missingFrom (mem : index ∈ missingFrom i2 vector1 vector2) : i2 ≤ index := by
  induction vector2 generalizing i2 vector1 with
  | nil => simp [missingFrom] at mem
  | cons _ _ _ =>
    cases vector1 <;> grind [missingFrom]

theorem lt_of_mem_missingFrom (mem : index ∈ missingFrom i2 vector1 vector2) :
    index < i2 + vector2.length := by
  induction vector2 generalizing i2 vector1 with
  | nil => simp [missingFrom] at mem
  | cons _ _ _ =>
    rw [List.length_cons]
    cases vector1 <;> grind [missingFrom]

theorem pairwise_missingFrom : (missingFrom i2 vector1 vector2).Pairwise (· < ·) := by
  induction vector2 generalizing i2 vector1 with
  | nil => simp [missingFrom]
  | cons _ _ ih =>
    cases vector1 with
    | nil => exact List.pairwise_cons.mpr ⟨fun _ later => le_of_mem_missingFrom later, ih⟩
    | cons _ _ =>
      unfold missingFrom
      split
      · exact List.pairwise_cons.mpr ⟨fun _ later => le_of_mem_missingFrom later, ih⟩
      · exact ih

variable {α : Type} {indices : List Nat}

/-- Indices before the vector are not looked at. -/
theorem eraseIndicesFrom_cons_of_lt (before : index < first) (elements : List α) :
    eraseIndicesFrom (index :: indices) first elements =
      eraseIndicesFrom indices first elements := by
  induction elements generalizing first with
  | nil => rfl
  | cons _ _ ih =>
    have differs : first ≠ index := Nat.ne_of_gt before
    simp [eraseIndicesFrom, differs, ih (Nat.lt_succ_of_lt before)]

theorem eraseIndicesFrom_missing (element : α) (elements : List α) :
    eraseIndicesFrom (first :: indices) first (element :: elements) =
      eraseIndicesFrom indices (first + 1) elements := by
  simp [eraseIndicesFrom, eraseIndicesFrom_cons_of_lt (Nat.lt_succ_self _)]

/-- What is not missing is the first vector, if the scan comes to its end. -/
theorem eraseIndicesFrom_missingFrom (i2 : Nat) (sub : Sublist vector1 vector2) :
    eraseIndicesFrom (missingFrom i2 vector1 vector2) i2 vector2 = vector1 ∧
      (missingFrom i2 vector1 vector2).length + vector1.length = vector2.length := by
  induction vector2 generalizing i2 vector1 with
  | nil =>
    cases List.sublist_nil.mp sub
    exact ⟨rfl, rfl⟩
  | cons _ vector2 ih =>
    cases vector1 with
    | nil =>
      obtain ⟨erased, lengths⟩ := ih (i2 + 1) vector2.nil_sublist
      simpa [missingFrom, eraseIndicesFrom_missing, erased] using lengths
    | cons _ it1 =>
      unfold missingFrom
      split
      · next differs =>
          grind [eraseIndicesFrom_missing]
      · next matched =>
          cases not_not.mp matched
          obtain ⟨erased, lengths⟩ := ih (i2 + 1) (List.cons_sublist_cons.mp sub)
          have kept : i2 ∉ missingFrom (i2 + 1) it1 vector2 := fun mem =>
            Nat.not_succ_le_self i2 (le_of_mem_missingFrom mem)
          rw [eraseIndicesFrom, if_neg kept, erased]
          exact ⟨rfl, congrArg Nat.succ lengths⟩

/-- Both scans agree with the subsequence relation: one decides it, and where it holds the indices
that the other one finds, increasing, leave the first vector when they are erased. -/
theorem isSubvectorOfNodes_spec (vector1 vector2 : List Node) :
    (isSubvectorOfNodes vector1 vector2 = true ↔ Sublist vector1 vector2) ∧
      (Sublist vector1 vector2 →
        ∃ indices, missingNodesIndices vector1 vector2 = some indices ∧
          indices.Pairwise (· < ·) ∧ (∀ index ∈ indices, index < vector2.length) ∧
          indices.length = vector2.length - vector1.length ∧
          eraseIndicesFrom indices 0 vector2 = vector1) := by
  refine ⟨isSubvectorFrom_iff, fun sub => ?_⟩
  obtain ⟨erased, lengths⟩ := eraseIndicesFrom_missingFrom 0 sub
  refine ⟨missingFrom 0 vector1 vector2, ?_, pairwise_missingFrom, fun index mem => ?_, ?_, erased⟩
  · have decided : isSubvectorOfNodes vector1 vector2 = true := isSubvectorFrom_iff.mpr sub
    rw [missingNodesIndices, dcheck_of decided]
    rfl
  · have below := lt_of_mem_missingFrom mem
    omega
  · omega

/-- A node that comes twice is matched where it comes first. -/
example : missingNodesIndices [1, 2] [2, 1, 1, 2, 2] = some [0, 2, 4] := by decide

end BookmarkUtils

end ChromiumIos
