import ChromiumIos.Lib.Checked
import ChromiumIos.Lib.ComparisonSort
import ChromiumIos.Lib.Forest

/-!
# Folders that bookmarks can be moved to

The folders are listed depth first.  The list begins with the permanent folders, and the
children of each folder that comes up are put into the list right behind it, wherever that is
by then.
-/

namespace ChromiumIos

open Lib

/-- A loaded bookmark model.  Nodes are known by their addresses; the key of a title is what a
collator compares it by. -/
structure BookmarkModel (Node Key : Type) where
  tree : Forest Node
  isFolder : Node → Bool
  isVisible : Node → Bool
  titleKey : Node → Key
  hasAncestor : Node → Node → Bool
  hasAncestor_iff : ∀ {node ancestor}, hasAncestor node ancestor = true ↔ tree.Below node ancestor
  rootNode : Node
  mobileNode : Node
  bookmarkBarNode : Node
  otherNode : Node
  permanent : ∀ node ∈ [mobileNode, bookmarkBarNode, otherNode], node ∈ tree.children rootNode
  distinct : [mobileNode, bookmarkBarNode, otherNode].Nodup

namespace BookmarkUtils

variable {Node Key : Type}
variable (model : BookmarkModel Node Key)

def primaryPermanentNodes : List Node :=
  [model.mobileNode, model.bookmarkBarNode, model.otherNode]

/-- The folder is asserted to be one, which the caller has made sure of. -/
def folderHasAncestorInBookmarkNodes (folder : Node) (bookmarkNodes : List Node) : Bool :=
  bookmarkNodes.any fun node => model.hasAncestor folder node

def isObstructed (node : Node) (obstructions : List Node) : Bool :=
  if !model.isFolder node then true
  else if !model.isVisible node then true
  else if folderHasAncestorInBookmarkNodes model node obstructions then true
  else false

/-- Insert nodes behind the first occurrence of a folder, which is asserted to be there. -/
def insertBehind [DecidableEq Node] (folder : Node) (nodes : List Node) :
    List Node → Checked (List Node)
  | [] => none
  | first :: rest =>
    if first = folder then some (first :: (nodes ++ rest))
    else (insertBehind folder nodes rest).map fun inserted => first :: inserted

section Listing

variable [LinearOrder Key]

def sortFolders (sort : ComparisonSort Node) (model : BookmarkModel Node Key)
    (vector : List Node) : List Node :=
  (sort.tree vector).evaluate (compareBy model.titleKey)

def directDescendants (sort : ComparisonSort Node) (model : BookmarkModel Node Key)
    (obstructions : List Node) (folder : Node) : List Node :=
  sortFolders sort model
    ((model.tree.children folder).filter fun subfolder =>
      !isObstructed model subfolder obstructions)

theorem mem_directDescendants {sort : ComparisonSort Node} {model : BookmarkModel Node Key}
    {obstructions : List Node} {node folder : Node} :
    node ∈ directDescendants sort model obstructions folder ↔
      node ∈ model.tree.children folder ∧ isObstructed model node obstructions = false := by
  simp [directDescendants, sortFolders, (sort.perm model.titleKey _).mem_iff]

variable [DecidableEq Node]

def updateFoldersFromNode (sort : ComparisonSort Node) (model : BookmarkModel Node Key)
    (obstructions : List Node) (folder : Node) (results : List Node) : Checked (List Node) :=
  (insertBehind folder (directDescendants sort model obstructions folder) results).bind
    fun inserted =>
      (directDescendants sort model obstructions folder).attach.foldlM
        (fun results node => updateFoldersFromNode sort model obstructions node.1 results) inserted
termination_by model.tree.height folder
decreasing_by exact model.tree.height_lt (mem_directDescendants.mp node.2).1

def visibleNonDescendantNodes (sort : ComparisonSort Node) (model : BookmarkModel Node Key)
    (obstructions : List Node) : Checked (List Node) :=
  let filteredPrimaryNodes :=
    (primaryPermanentNodes model).filter fun node => !isObstructed model node obstructions
  filteredPrimaryNodes.foldlM
    (fun results node => updateFoldersFromNode sort model obstructions node results)
    filteredPrimaryNodes

end Listing

/-! ## What is to be listed -/

/-- A visible folder that is neither an obstruction nor lies below one. -/
structure Unobstructed (model : BookmarkModel Node Key) (obstructions : List Node) (node : Node) :
    Prop where
  folder : model.isFolder node = true
  visible : model.isVisible node = true
  clear : ∀ obstruction ∈ obstructions, ¬ model.tree.Below node obstruction

/-- A folder is reached from a primary permanent node through unobstructed folders. -/
inductive Reachable (model : BookmarkModel Node Key) (obstructions : List Node) : Node → Prop where
  | permanent {node : Node} (mem : node ∈ primaryPermanentNodes model)
      (clear : Unobstructed model obstructions node) : Reachable model obstructions node
  | child {folder node : Node} (reached : Reachable model obstructions folder)
      (mem : node ∈ model.tree.children folder) (clear : Unobstructed model obstructions node) :
      Reachable model obstructions node

section Spec

variable [LinearOrder Key]

/-- Folders one after the other, each followed by its subfolders in the order of the sort, and
these by theirs. -/
inductive DepthFirst (sort : ComparisonSort Node) (model : BookmarkModel Node Key)
    (obstructions : List Node) : List Node → List Node → Prop where
  | nil : DepthFirst sort model obstructions [] []
  | cons {folder : Node} {rest below after : List Node}
      (under : DepthFirst sort model obstructions
        (directDescendants sort model obstructions folder) below)
      (next : DepthFirst sort model obstructions rest after) :
      DepthFirst sort model obstructions (folder :: rest) (folder :: below ++ after)

/-- The list has every folder that is reached once, and behind it the folders below it. -/
structure ListsDepthFirst (sort : ComparisonSort Node) (model : BookmarkModel Node Key)
    (obstructions : List Node) (results : List Node) : Prop where
  nodup : results.Nodup
  mem_iff : ∀ node, node ∈ results ↔ Reachable model obstructions node
  depthFirst : DepthFirst sort model obstructions
    ((primaryPermanentNodes model).filter fun node => !isObstructed model node obstructions) results
  followed : ∀ folder ∈ results, ∃ before below after,
    results = before ++ (folder :: below) ++ after ∧
      DepthFirst sort model obstructions (directDescendants sort model obstructions folder) below ∧
      ∀ node, node ∈ below ↔ node ∈ results ∧ node ≠ folder ∧ model.tree.Below node folder

variable {sort : ComparisonSort Node} {model : BookmarkModel Node Key} {obstructions : List Node}
variable {node other folder : Node} {folders before after nodes results : List Node}

omit [LinearOrder Key] in
theorem isObstructed_eq_false :
    isObstructed model node obstructions = false ↔ Unobstructed model obstructions node := by
  have ancestors : folderHasAncestorInBookmarkNodes model node obstructions = false ↔
      ∀ obstruction ∈ obstructions, ¬ model.tree.Below node obstruction := by
    simp [folderHasAncestorInBookmarkNodes, ← model.hasAncestor_iff]
  unfold isObstructed
  constructor
  · intro free
    split at free
    · cases free
    split at free
    · cases free
    split at free
    · cases free
    · next folder visible clear =>
        exact ⟨by simpa using folder, by simpa using visible,
          ancestors.mp ((Bool.not_eq_true _).mp clear)⟩
  · rintro ⟨folder, visible, clear⟩
    simp [folder, visible, ancestors.mpr clear]

/-! ## The forest of the folders that are listed -/

def listed (sort : ComparisonSort Node) (model : BookmarkModel Node Key)
    (obstructions : List Node) : Forest Node where
  children := directDescendants sort model obstructions
  height := model.tree.height
  nodup folder := (sort.perm model.titleKey _).nodup_iff.mpr ((model.tree.nodup folder).filter _)
  parent_unique left right :=
    model.tree.parent_unique (mem_directDescendants.mp left).1 (mem_directDescendants.mp right).1
  height_lt mem := model.tree.height_lt (mem_directDescendants.mp mem).1

theorem below_of_listed (below : (listed sort model obstructions).Below node folder) :
    model.tree.Below node folder :=
  Relation.ReflTransGen.mono (fun _ _ mem => (mem_directDescendants.mp mem).1) _ _ below

def roots (model : BookmarkModel Node Key) (obstructions : List Node) : List Node :=
  (primaryPermanentNodes model).filter fun node => !isObstructed model node obstructions

omit [LinearOrder Key] in
theorem mem_roots : node ∈ roots model obstructions ↔
    node ∈ primaryPermanentNodes model ∧ Unobstructed model obstructions node := by
  simp [roots, isObstructed_eq_false]

omit [LinearOrder Key] in
theorem pairwise_apart_roots : (roots model obstructions).Pairwise model.tree.Apart :=
  (model.distinct.imp_of_mem (by grind [Forest.apart_of_siblings, model.permanent])).filter _

theorem reachable_iff (sort : ComparisonSort Node) :
    Reachable model obstructions node ↔
      ∃ root ∈ roots model obstructions, (listed sort model obstructions).Below node root := by
  constructor
  · intro reached
    induction reached with
    | permanent mem clear => exact ⟨_, mem_roots.mpr ⟨mem, clear⟩, .refl⟩
    | child _ mem clear ih =>
      obtain ⟨root, memRoot, below⟩ := ih
      exact ⟨root, memRoot,
        below.head (mem_directDescendants.mpr ⟨mem, isObstructed_eq_false.mpr clear⟩)⟩
  · rintro ⟨root, memRoot, below⟩
    induction below using Relation.ReflTransGen.head_induction_on with
    | refl => exact .permanent (mem_roots.mp memRoot).1 (mem_roots.mp memRoot).2
    | head mem _ ih =>
      obtain ⟨child, free⟩ := mem_directDescendants.mp mem
      exact .child ih child (isObstructed_eq_false.mp free)

theorem depthFirst_flatMap (folders : List Node) :
    DepthFirst sort model obstructions folders
      (folders.flatMap (listed sort model obstructions).preorder) := by
  have single : ∀ folder, DepthFirst sort model obstructions
      (directDescendants sort model obstructions folder)
      (((listed sort model obstructions).children folder).flatMap
        (listed sort model obstructions).preorder) := by
    intro folder
    induction folder using (listed sort model obstructions).induction with
    | step folder ih =>
      change ∀ child ∈ directDescendants sort model obstructions folder, _ at ih
      change DepthFirst sort model obstructions _
        ((directDescendants sort model obstructions folder).flatMap _)
      generalize directDescendants sort model obstructions folder = children at ih
      induction children with
      | nil => exact .nil
      | cons child _ next =>
        rw [List.flatMap_cons, Forest.preorder_eq]
        exact .cons (ih child List.mem_cons_self)
          (next fun other mem => ih other (List.mem_cons_of_mem _ mem))
  induction folders with
  | nil => exact .nil
  | cons folder _ ih =>
    simpa [Forest.preorder_eq] using .cons (single folder) ih

/-! ## Where the recursion inserts -/

theorem insertBehind_append [DecidableEq Node] (absent : folder ∉ before) :
    insertBehind folder nodes (before ++ folder :: after) =
      some (before ++ folder :: (nodes ++ after)) := by
  induction before with
  | nil => simp [insertBehind]
  | cons _ _ ih =>
    obtain ⟨differs, absent⟩ := List.ne_and_not_mem_of_not_mem_cons absent
    simp [insertBehind, if_neg differs.symm, ih absent]

variable [DecidableEq Node]

def ListsAt (sort : ComparisonSort Node) (model : BookmarkModel Node Key)
    (obstructions : List Node) (folder : Node) : Prop :=
  ∀ before after, (∀ node ∈ before, ¬ model.tree.Below node folder) →
    updateFoldersFromNode sort model obstructions folder (before ++ folder :: after) =
      some (before ++ (listed sort model obstructions).preorder folder ++ after)

/-- The calls for some folders that lie apart turn each of them into its listing.  Those that come
later find their folders behind the listings made so far. -/
theorem foldlM_updateFoldersFromNode (before after : List Node)
    (lists : ∀ folder ∈ folders, ListsAt sort model obstructions folder)
    (apart : folders.Pairwise model.tree.Apart)
    (outside : ∀ node ∈ before, ∀ folder ∈ folders, ¬ model.tree.Below node folder) :
    folders.foldlM (fun results node => updateFoldersFromNode sort model obstructions node results)
        (before ++ folders ++ after) =
      some (before ++ folders.flatMap (listed sort model obstructions).preorder ++ after) := by
  induction folders generalizing before with
  | nil => rfl
  | cons folder rest _ =>
    obtain ⟨apartFromFirst, apart⟩ := List.pairwise_cons.mp apart
    have first := lists folder List.mem_cons_self before (rest ++ after)
      fun node mem => outside node mem folder List.mem_cons_self
    have outsideRest : ∀ node ∈ before ++ (listed sort model obstructions).preorder folder,
        ∀ other ∈ rest, ¬ model.tree.Below node other := by
      intro node mem other memRest
      rcases List.mem_append.mp mem with early | under
      · simp [outside, early, memRest]
      · exact apartFromFirst other memRest node (below_of_listed (Forest.mem_preorder.mp under))
    grind

theorem listsAt (sort : ComparisonSort Node) (model : BookmarkModel Node Key)
    (obstructions : List Node) (folder : Node) : ListsAt sort model obstructions folder := by
  induction folder using (listed sort model obstructions).induction with
  | step folder ih =>
    intro before after outside
    have absent : folder ∉ before := fun mem => outside folder mem .refl
    have siblings : (directDescendants sort model obstructions folder).Pairwise model.tree.Apart :=
      ((listed sort model obstructions).nodup folder).imp_of_mem fun left right differs =>
        Forest.apart_of_siblings (mem_directDescendants.mp left).1
          (mem_directDescendants.mp right).1 differs
    have children := foldlM_updateFoldersFromNode (before ++ [folder]) after ih siblings
      fun node mem child memChild below => by
        have isChild := (mem_directDescendants.mp memChild).1
        rcases List.mem_append.mp mem with early | here
        · exact outside node early (below.tail isChild)
        · grind [Forest.not_below_child]
    rw [updateFoldersFromNode, insertBehind_append absent, Forest.preorder_eq]
    simp only [List.append_assoc, List.singleton_append] at children
    have attached := List.foldlM_subtype
      (l := (directDescendants sort model obstructions folder).attach)
      (f := fun results node => updateFoldersFromNode sort model obstructions node.1 results)
      (g := fun results node => updateFoldersFromNode sort model obstructions node results)
      (x := before ++ folder :: (directDescendants sort model obstructions folder ++ after))
      fun _ _ _ => rfl
    simpa using! children

theorem visibleNonDescendantNodes_eq :
    visibleNonDescendantNodes sort model obstructions =
      some ((roots model obstructions).flatMap (listed sort model obstructions).preorder) := by
  have all : ∀ folder ∈ roots model obstructions, ListsAt sort model obstructions folder :=
    fun folder _ => listsAt sort model obstructions folder
  have made := foldlM_updateFoldersFromNode [] [] all pairwise_apart_roots nofun
  rw [List.append_nil, List.append_nil] at made
  exact made

/-! ## The list -/

omit [LinearOrder Key] [DecidableEq Node] in
theorem eq_of_below_root (memNode : node ∈ roots model obstructions)
    (memOther : other ∈ roots model obstructions) (below : model.tree.Below node other) :
    node = other := by
  by_contra differs
  exact Forest.apart_of_siblings (model.permanent _ (mem_roots.mp memNode).1)
    (model.permanent _ (mem_roots.mp memOther).1) differs node .refl below

omit [DecidableEq Node] in
/-- A listed folder that lies below another one comes below it in the list. -/
theorem below_listed (reachedNode : Reachable model obstructions node)
    (reached : Reachable model obstructions folder) (below : model.tree.Below node folder) :
    (listed sort model obstructions).Below node folder := by
  obtain ⟨_, memRoot, underRoot⟩ := (reachable_iff sort).mp reachedNode
  obtain ⟨_, memTop, underTop⟩ := (reachable_iff sort).mp reached
  clear reachedNode
  induction underRoot using Relation.ReflTransGen.head_induction_on with
  | refl =>
    -- A permanent node lies below no other one, and so below no folder under it.
    cases eq_of_below_root memRoot memTop (below.trans (below_of_listed underTop))
    cases below.antisymm (below_of_listed underTop)
    exact .refl
  | head mem _ ih =>
    rcases Relation.ReflTransGen.cases_head below with rfl | ⟨parent, child, above⟩
    · exact .refl
    · cases model.tree.parent_unique child (mem_directDescendants.mp mem).1
      exact .head mem (ih above)

/-- The folders that are visible and not obstructed are listed depth first, each once, and no
assertion fails on the way. -/
theorem visibleNonDescendantNodes_spec (sort : ComparisonSort Node)
    (model : BookmarkModel Node Key) (obstructions : List Node) :
    ∃ results, visibleNonDescendantNodes sort model obstructions = some results ∧
      ListsDepthFirst sort model obstructions results := by
  refine ⟨_, visibleNonDescendantNodes_eq, ?_, ?_, depthFirst_flatMap _, ?_⟩
  · refine Forest.nodup_flatMap (fun node _ => Forest.nodup_preorder _ node) ?_
    exact pairwise_apart_roots.imp fun apart node left right =>
      apart node (below_of_listed left) (below_of_listed right)
  · intro node
    rw [Forest.mem_flatMap_preorder, reachable_iff sort]
  · intro folder mem
    have reached : Reachable model obstructions folder :=
      (reachable_iff sort).mpr (Forest.mem_flatMap_preorder.mp mem)
    obtain ⟨root, memRoot, underRoot⟩ := (reachable_iff sort).mp reached
    obtain ⟨left, right, split⟩ := List.append_of_mem memRoot
    obtain ⟨before, after, listing⟩ := Forest.preorder_split underRoot
    refine ⟨left.flatMap (listed sort model obstructions).preorder ++ before,
      (directDescendants sort model obstructions folder).flatMap
        (listed sort model obstructions).preorder,
      after ++ right.flatMap (listed sort model obstructions).preorder, ?_,
      depthFirst_flatMap _, fun node => ?_⟩
    · rw [split, List.flatMap_append, List.flatMap_cons, listing, Forest.preorder_eq]
      simp only [List.append_assoc]
      rfl
    · rw [Forest.mem_flatMap_preorder, Forest.mem_flatMap_preorder, ← reachable_iff sort]
      constructor
      · rintro ⟨child, memChild, below⟩
        have under : (listed sort model obstructions).Below node folder := below.tail memChild
        refine ⟨(reachable_iff sort).mpr ⟨root, memRoot, under.trans underRoot⟩, ?_,
          below_of_listed under⟩
        rintro rfl
        exact Forest.not_below_child memChild below
      · rintro ⟨reachedNode, differs, below⟩
        rcases (below_listed reachedNode reached below).cases_tail with same | under
        · exact absurd same.symm differs
        · obtain ⟨child, underChild, memChild⟩ := under
          exact ⟨child, memChild, underChild⟩

end Spec

/-! ## A small model -/

/-- The root 0 with the permanent folders 1, 2 and 3, two folders in the second of these, one of
which holds a folder and a bookmark. -/
def smallTree : Forest (Fin 8) where
  children
    | 0 => [1, 2, 3]
    | 2 => [4, 5]
    | 4 => [6, 7]
    | _ => []
  height node := 7 - node.val
  nodup := by decide
  parent_unique := by decide
  height_lt := by decide

def smallModel : BookmarkModel (Fin 8) Nat where
  tree := smallTree
  isFolder node := node ≠ 7
  isVisible node := node ≠ 3
  titleKey node := 10 - node.val
  hasAncestor node ancestor := node ∈ smallTree.preorder ancestor
  hasAncestor_iff := decide_eq_true_iff.trans Forest.mem_preorder
  rootNode := 0
  mobileNode := 1
  bookmarkBarNode := 2
  otherNode := 3
  permanent := by decide
  distinct := by decide

/-- Folder 5 comes first by its title; the folder in folder 4 follows that one. -/
example : visibleNonDescendantNodes .insertion smallModel [] = some [1, 2, 5, 4, 6] := by
  decide +kernel

end BookmarkUtils

end ChromiumIos
