import Mathlib

/-!
# Forests and their depth-first listing

Nodes with their children in order, no two nodes having a child in common, and finite
heights.  A depth-first listing puts behind every node the listings of its children.
-/

namespace ChromiumIos.Lib

structure Forest (α : Type*) where
  children : α → List α
  height : α → Nat
  nodup : ∀ node, (children node).Nodup
  parent_unique : ∀ {child first second}, child ∈ children first → child ∈ children second →
    first = second
  height_lt : ∀ {child node}, child ∈ children node → height child < height node

namespace Forest

variable {α : Type*} {forest : Forest α} {node other first second ancestor : α}
variable {nodes before : List α}

def Below (forest : Forest α) : α → α → Prop :=
  Relation.ReflTransGen fun child node => child ∈ forest.children node

theorem Below.eq_or_height_lt (below : forest.Below node ancestor) :
    node = ancestor ∨ forest.height node < forest.height ancestor := by
  induction below with
  | refl => exact .inl rfl
  | tail _ child _ =>
    have less := forest.height_lt child
    grind

theorem Below.height_le (below : forest.Below node ancestor) :
    forest.height node ≤ forest.height ancestor := by
  rcases below.eq_or_height_lt with rfl | lower <;> grind

theorem Below.antisymm (below : forest.Below first second) (above : forest.Below second first) :
    first = second := by
  grind [below.eq_or_height_lt, above.height_le]

theorem not_below_child {child : α} (mem : child ∈ forest.children node) :
    ¬ forest.Below node child := fun below =>
  Nat.not_lt.mpr below.height_le (forest.height_lt mem)

/-- Ancestors of one node lie below each other. -/
theorem Below.total (left : forest.Below node first) (right : forest.Below node second) :
    forest.Below first second ∨ forest.Below second first :=
  Relation.ReflTransGen.total_of_right_unique
    (fun _ _ _ one two => forest.parent_unique one two) left right

def Apart (forest : Forest α) (first second : α) : Prop :=
  ∀ node, forest.Below node first → ¬ forest.Below node second

theorem apart_of_siblings (left : first ∈ forest.children node)
    (right : second ∈ forest.children node) (differs : first ≠ second) :
    forest.Apart first second := by
  -- One sibling below the other would put their parent below that one.
  have excluded : ∀ {one two}, one ∈ forest.children node → two ∈ forest.children node →
      one ≠ two → ¬ forest.Below one two := by
    intro one two memOne memTwo differs below
    rcases Relation.ReflTransGen.cases_head below with same | ⟨parent, child, rest⟩
    · exact differs same
    · cases forest.parent_unique memOne child
      exact not_below_child memTwo rest
  intro below underFirst underSecond
  grind [underFirst.total]

theorem pairwise_apart_children (forest : Forest α) (node : α) :
    (forest.children node).Pairwise forest.Apart :=
  (forest.nodup node).imp_of_mem fun left right differs => apart_of_siblings left right differs

/-! ## The listing -/

def preorder (forest : Forest α) (node : α) : List α :=
  node :: (forest.children node).attach.flatMap fun child => preorder forest child.1
termination_by forest.height node
decreasing_by exact forest.height_lt child.2

theorem preorder_eq (forest : Forest α) (node : α) :
    forest.preorder node = node :: (forest.children node).flatMap forest.preorder := by
  rw [preorder, List.flatMap_subtype (g := forest.preorder) (fun _ _ => rfl), List.unattach_attach]

/-- A property of all nodes, which nodes have if their children do. -/
theorem induction {motive : α → Prop} (forest : Forest α)
    (step : ∀ node, (∀ child ∈ forest.children node, motive child) → motive node) (node : α) :
    motive node :=
  step node fun child _ => induction forest step child
termination_by forest.height node
decreasing_by exact forest.height_lt ‹_›

theorem mem_preorder : other ∈ forest.preorder node ↔ forest.Below other node := by
  induction node using forest.induction with
  | step _ ih =>
    rw [preorder_eq, List.mem_cons, List.mem_flatMap]
    constructor
    · rintro (rfl | ⟨child, mem, listed⟩)
      · exact .refl
      · exact ((ih child mem).mp listed).tail mem
    · intro below
      rcases below.cases_tail with same | ⟨child, underChild, mem⟩
      · exact .inl same.symm
      · exact .inr ⟨child, mem, (ih child mem).mpr underChild⟩

theorem mem_flatMap_preorder :
    other ∈ nodes.flatMap forest.preorder ↔ ∃ node ∈ nodes, forest.Below other node := by
  simp [mem_preorder]

/-- Listings of nodes that lie apart have no node in common. -/
theorem nodup_flatMap (nodup : ∀ node ∈ nodes, (forest.preorder node).Nodup)
    (apart : nodes.Pairwise forest.Apart) : (nodes.flatMap forest.preorder).Nodup := by
  refine List.nodup_flatMap.mpr ⟨nodup, apart.imp fun apart => ?_⟩
  exact fun node left right => apart node (mem_preorder.mp left) (mem_preorder.mp right)

theorem nodup_preorder (forest : Forest α) (node : α) : (forest.preorder node).Nodup := by
  induction node using forest.induction with
  | step node ih =>
    rw [preorder_eq]
    refine List.nodup_cons.mpr ⟨fun mem => ?_, ?_⟩
    · obtain ⟨child, memChild, below⟩ := mem_flatMap_preorder.mp mem
      grind [not_below_child]
    · exact nodup_flatMap ih (forest.pairwise_apart_children node)

/-- A node that is listed is followed there by the listings of its children. -/
theorem preorder_split (below : forest.Below other node) :
    ∃ before after, forest.preorder node = before ++ forest.preorder other ++ after := by
  induction below with
  | refl => exact ⟨[], [], by simp⟩
  | @tail _ _ _ mem _ =>
    obtain ⟨left, right, siblings⟩ := List.append_of_mem mem
    grind [preorder_eq]

end Forest

end ChromiumIos.Lib
