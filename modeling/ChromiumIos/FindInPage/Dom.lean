import Mathlib

/-!
# The document a find-in-page script works on

A page is a list of trees: the body of the main document and the documents of
its frames.  Text is a list of UTF-16 code units, as in the strings of the
script.  The nodes the script creates are named after the replacement they
belong to and their position in it, so that what was taken out of the document
again leaves no trace in it.
-/

namespace ChromiumIos.FindInPage

/-- A string of the script: its UTF-16 code units. -/
abbrev Text := List UInt16

inductive NodeId where
  | page (number : Nat)
  | made (replacement position : Nat)
  | inner (replacement position child : Nat)
deriving DecidableEq, Repr

structure TextNode where
  id : NodeId
  textContent : Text
deriving DecidableEq, Repr

inductive NodeName where
  | script | style | embed | object | select | textarea | br | chromeFind
  | named (number : Nat)
deriving DecidableEq, Repr

/-- A text node, an element (or the document of a frame) or a node of another
type, such as a comment. -/
inductive Node where
  | text (node : TextNode)
  | element (id : NodeId) (nodeName : NodeName) (childNodes : List Node)
  | other (id : NodeId)

namespace Node

def id : Node → NodeId
  | text node => node.id
  | element id _ _ => id
  | other id => id

end Node

/-! ## Collecting over a list of trees -/

section Gather

variable {α : Type*}

/-- What a list is collected from: the text nodes, the elements around what
their child nodes gave, and the other nodes. -/
structure Collector (α : Type*) where
  text : TextNode → List α
  element : NodeId → NodeName → List α → List α
  other : NodeId → List α

mutual

def Node.gather (collector : Collector α) : Node → List α
  | .text node => collector.text node
  | .element id nodeName childNodes =>
    collector.element id nodeName (gather collector childNodes)
  | .other id => collector.other id

def gather (collector : Collector α) : List Node → List α
  | [] => []
  | node :: rest => node.gather collector ++ gather collector rest

end

variable (collector : Collector α)

@[simp] theorem gather_nil : gather collector [] = [] := rfl

@[simp] theorem gather_text_cons (node : TextNode) (rest : List Node) :
    gather collector (.text node :: rest) = collector.text node ++ gather collector rest :=
  rfl

@[simp] theorem gather_element_cons (id : NodeId) (nodeName : NodeName)
    (childNodes rest : List Node) :
    gather collector (.element id nodeName childNodes :: rest) =
      collector.element id nodeName (gather collector childNodes) ++ gather collector rest :=
  rfl

@[simp] theorem gather_other_cons (id : NodeId) (rest : List Node) :
    gather collector (.other id :: rest) = collector.other id ++ gather collector rest :=
  rfl

theorem gather_append (first second : List Node) :
    gather collector (first ++ second) = gather collector first ++ gather collector second := by
  induction first with
  | nil => rfl
  | cons _ _ ih =>
    simp [gather, ih]

/-- Induction over a list of trees: an element comes with its child nodes. -/
theorem forest_induction {motive : List Node → Prop} (nil : motive [])
    (text : ∀ node rest, motive rest → motive (.text node :: rest))
    (element : ∀ id nodeName childNodes rest, motive childNodes → motive rest →
      motive (.element id nodeName childNodes :: rest))
    (other : ∀ id rest, motive rest → motive (.other id :: rest)) (nodes : List Node) :
    motive nodes :=
  gather.induct (fun node => ∀ rest, motive rest → motive (node :: rest)) motive
    text (by grind)
    other nil (fun _ rest first outside => first rest outside) nodes

end Gather

def textContent : List Node → Text :=
  gather ⟨TextNode.textContent, fun _ _ inside => inside, fun _ => []⟩

def nodeIds : List Node → List NodeId :=
  gather ⟨fun node => [node.id], fun id _ inside => id :: inside, fun id => [id]⟩

def textNodes : List Node → List TextNode :=
  gather ⟨fun node => [node], fun _ _ inside => inside, fun _ => []⟩

def otherIds : List Node → List NodeId :=
  gather ⟨fun _ => [], fun id _ inside => id :: inside, fun id => [id]⟩

variable {nodes : List Node} {node : TextNode}

theorem mem_nodeIds_of_mem {node : Node} (mem : node ∈ nodes) : node.id ∈ nodeIds nodes := by
  induction nodes with
  | nil => cases mem
  | cons _ _ ih =>
    rcases List.mem_cons.mp mem with rfl | mem
    · cases node <;> simp [nodeIds, Node.id]
    · exact List.mem_append_right _ (ih mem)

theorem mem_otherIds_of_mem {node : Node} (mem : node ∈ nodes)
    (notText : ∀ textNode, node ≠ .text textNode) : node.id ∈ otherIds nodes := by
  induction nodes with
  | nil => cases mem
  | cons _ _ ih =>
    rcases List.mem_cons.mp mem with rfl | mem
    · cases node with
      | text textNode => exact absurd rfl (notText textNode)
      | element id nodeName childNodes | other id => exact List.mem_cons_self ..
    · exact List.mem_append_right _ (ih mem)

theorem mem_textNodes_of_mem (mem : Node.text node ∈ nodes) : node ∈ textNodes nodes := by
  induction nodes with
  | nil => cases mem
  | cons _ _ ih =>
    rcases List.mem_cons.mp mem with rfl | mem
    · exact List.mem_cons_self ..
    · exact List.mem_append_right _ (ih mem)

theorem mem_nodeIds_of_mem_textNodes (mem : node ∈ textNodes nodes) : node.id ∈ nodeIds nodes := by
  induction nodes using forest_induction with
  | nil => cases mem
  | text _ _ ih =>
    rcases List.mem_append.mp mem with mem | mem
    · cases List.mem_singleton.mp mem
      simp [nodeIds]
    · exact List.mem_append_right _ (ih mem)
  | element _ _ _ _ inside outside =>
    rcases List.mem_append.mp mem with mem | mem
    · exact List.mem_append_left _ (List.mem_cons_of_mem _ (inside mem))
    · exact List.mem_append_right _ (outside mem)
  | other _ _ ih => exact List.mem_append_right _ (ih mem)

theorem otherIds_subset (nodes : List Node) : otherIds nodes ⊆ nodeIds nodes := by
  induction nodes using forest_induction with
  | nil => exact List.Subset.refl _
  | text _ _ ih => exact fun _ mem => List.mem_append_right _ (ih mem)
  | element _ _ _ _ inside outside =>
    intro candidate mem
    rcases List.mem_append.mp mem with mem | mem
    · rcases List.mem_cons.mp mem with rfl | mem
      · simp [nodeIds]
      · exact List.mem_append_left _ (List.mem_cons_of_mem _ (inside mem))
    · exact List.mem_append_right _ (outside mem)
  | other _ _ ih =>
    intro candidate mem
    rcases List.mem_append.mp mem with mem | mem
    · exact List.mem_append_left _ mem
    · exact List.mem_append_right _ (ih mem)

/-- In a tree of distinct nodes the id of a text node is not that of another node. -/
theorem textNode_id_notMem_otherIds (distinct : (nodeIds nodes).Nodup)
    (mem : node ∈ textNodes nodes) : node.id ∉ otherIds nodes := by
  induction nodes using forest_induction with
  | nil => cases mem
  | text _ _ ih =>
    obtain ⟨-, distinct, disjoint⟩ := List.nodup_append.mp distinct
    rcases List.mem_append.mp mem with mem | mem
    · cases List.mem_singleton.mp mem
      intro other
      exact disjoint _ (List.mem_singleton_self _) _ (otherIds_subset _ other) rfl
    · exact ih distinct mem
  | element _ _ _ _ inside outside =>
    obtain ⟨distinct, distinctRest, disjoint⟩ := List.nodup_append.mp distinct
    obtain ⟨fresh, distinct⟩ := List.nodup_cons.mp distinct
    intro other
    rcases List.mem_append.mp mem with mem | mem
    · rcases List.mem_append.mp other with other | other
      · rcases List.mem_cons.mp other with same | other
        · exact fresh (same ▸ mem_nodeIds_of_mem_textNodes mem)
        · exact inside distinct mem other
      · exact disjoint _ (List.mem_cons_of_mem _ (mem_nodeIds_of_mem_textNodes mem)) _
          (otherIds_subset _ other) rfl
    · rcases List.mem_append.mp other with other | other
      · apply disjoint _ ?_ _ (mem_nodeIds_of_mem_textNodes mem) rfl
        rcases List.mem_cons.mp other with same | other
        · exact same ▸ List.mem_cons_self ..
        · exact List.mem_cons_of_mem _ (otherIds_subset _ other)
      · exact outside distinctRest mem other
  | other _ _ ih =>
    obtain ⟨-, distinct, disjoint⟩ := List.nodup_append.mp distinct
    intro other
    rcases List.mem_append.mp other with same | other
    · exact disjoint _ same _ (mem_nodeIds_of_mem_textNodes mem) rfl
    · exact ih distinct mem other

/-- In a tree of distinct nodes the id of a text node determines it. -/
theorem textNode_eq_of_id_eq {other : TextNode} (distinct : (nodeIds nodes).Nodup)
    (mem : node ∈ textNodes nodes) (memOther : other ∈ textNodes nodes)
    (same : node.id = other.id) : node = other := by
  induction nodes using forest_induction with
  | nil => cases mem
  | text _ _ ih =>
    obtain ⟨-, distinct, disjoint⟩ := List.nodup_append.mp distinct
    rcases List.mem_append.mp mem with here | inRest <;>
      rcases List.mem_append.mp memOther with otherHere | otherInRest
    · exact (List.mem_singleton.mp here).trans (List.mem_singleton.mp otherHere).symm
    · cases List.mem_singleton.mp here
      exact absurd same (disjoint _ (List.mem_singleton_self _) _
        (mem_nodeIds_of_mem_textNodes otherInRest))
    · cases List.mem_singleton.mp otherHere
      exact absurd same.symm (disjoint _ (List.mem_singleton_self _) _
        (mem_nodeIds_of_mem_textNodes inRest))
    · exact ih distinct inRest otherInRest
  | element _ _ _ _ inside outside =>
    obtain ⟨distinct, distinctRest, disjoint⟩ := List.nodup_append.mp distinct
    rcases List.mem_append.mp mem with mem | mem <;>
      rcases List.mem_append.mp memOther with memOther | memOther
    · exact inside (List.nodup_cons.mp distinct).2 mem memOther
    · exact absurd same (disjoint _ (List.mem_cons_of_mem _ (mem_nodeIds_of_mem_textNodes mem))
        _ (mem_nodeIds_of_mem_textNodes memOther))
    · exact absurd same.symm (disjoint _
        (List.mem_cons_of_mem _ (mem_nodeIds_of_mem_textNodes memOther))
        _ (mem_nodeIds_of_mem_textNodes mem))
    · exact outside distinctRest mem memOther
  | other _ _ ih => exact ih (List.nodup_append.mp distinct).2.1 mem memOther

/-! ## Changing the child nodes of one parent -/

def insertBefore (newNode : Node) (reference : NodeId) (childNodes : List Node) : List Node :=
  childNodes.flatMap fun node => if node.id = reference then [newNode, node] else [node]

def removeChild (child : NodeId) (childNodes : List Node) : List Node :=
  childNodes.filter fun node => node.id ≠ child

def changeAround (child : NodeId) (change : List Node → List Node) (childNodes : List Node) :
    List Node :=
  if child ∈ childNodes.map Node.id then change childNodes else childNodes

/-- Change the child nodes of the parent of a node.  Nothing is done when the
node has no parent in the document. -/
def updateParent (child : NodeId) (change : List Node → List Node) : List Node → List Node :=
  gather
    { text := fun node => [.text node]
      element := fun id nodeName childNodes =>
        [.element id nodeName (changeAround child change childNodes)]
      other := fun id => [.other id] }

/-! ## Pages -/

/-- The body of the main document, then the documents of the frames.  A page is
a tree of distinct nodes, none of which the script has made. -/
structure Page where
  roots : List Node
  rooted : ∀ node ∈ roots, ∃ id nodeName childNodes, node = .element id nodeName childNodes
  distinct : (nodeIds roots).Nodup
  unmade : ∀ id ∈ nodeIds roots, ∃ number, id = .page number

def Page.ofText (text : Text) : Page where
  roots := [.element (.page 0) (.named 0) [.text ⟨.page 1, text⟩]]
  rooted := by
    simp
  distinct := by
    simp [nodeIds]
  unmade := by
    simp [nodeIds]

end ChromiumIos.FindInPage
