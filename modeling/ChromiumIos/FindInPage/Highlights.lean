import ChromiumIos.FindInPage.FindInPage

/-!
# Highlighting and taking the highlights out again

The document is at every point the page with some of its text nodes exchanged
for the nodes made for them.  Executing a replacement exchanges its text node,
unless that has been exchanged before, and undoing it puts the text node back,
unless it was never exchanged.
-/

namespace ChromiumIos.FindInPage

/-- The nodes that stand in the document in the place of a text node. -/
abbrev Swaps := NodeId → Option (List Node)

def rendering (swaps : Swaps) : Collector Node where
  text node := (swaps node.id).getD [.text node]
  element id nodeName inside := [.element id nodeName inside]
  other id := [.other id]

/-- Exchange the text nodes of a list of trees. -/
def render (swaps : Swaps) : List Node → List Node := gather (rendering swaps)

theorem render_none (nodes : List Node) : render (fun _ => none) nodes = nodes := by
  induction nodes using forest_induction with
  | nil => rfl
  | text node _ ih => exact congrArg (Node.text node :: ·) ih
  | element id nodeName childNodes rest inside outside =>
    change Node.element id nodeName (render _ childNodes) :: render _ rest = _
    rw [inside, outside]
  | other id _ ih => exact congrArg (Node.other id :: ·) ih

theorem render_eq_flatMap (swaps : Swaps) (nodes : List Node) :
    render swaps nodes = nodes.flatMap (Node.gather (rendering swaps)) := by
  induction nodes with
  | nil => rfl
  | cons node _ ih => exact congrArg (node.gather (rendering swaps) ++ ·) ih

/-! ## The nodes that are made for a replacement -/

structure MadeFor (replacement : Nat) (nodes : List Node) : Prop where
  nonempty : nodes ≠ []
  named : ∀ node ∈ nodes, ∃ position, node.id = .made replacement position
  distinct : (nodes.map Node.id).Nodup
  inside : ∀ {id nodeName childNodes}, Node.element id nodeName childNodes ∈ nodes →
    ∀ inner ∈ nodeIds childNodes, ∃ position child, inner = .inner replacement position child

variable {change : List Node → List Node} {child : NodeId} {nodes : List Node}
variable {executed : List Replacement} {first : Node}

theorem updateParent_eq_self (absent : child ∉ nodeIds nodes) :
    updateParent child change nodes = nodes := by
  induction nodes using forest_induction with
  | nil => rfl
  | text node _ ih =>
    exact congrArg (Node.text node :: ·) (ih fun mem => absent (List.mem_append_right _ mem))
  | element id nodeName childNodes rest inside outside =>
    have absentInside : child ∉ nodeIds childNodes := fun mem =>
      absent (List.mem_append_left _ (List.mem_cons_of_mem _ mem))
    have noChild : child ∉ childNodes.map Node.id := by
      grind [mem_nodeIds_of_mem]
    change Node.element id nodeName (changeAround child change (updateParent child change
      childNodes)) :: updateParent child change rest = _
    rw [inside absentInside, outside fun mem => absent (List.mem_append_right _ mem),
      changeAround, if_neg noChild]
  | other id _ ih =>
    exact congrArg (Node.other id :: ·) (ih fun mem => absent (List.mem_append_right _ mem))

/-- A node that is not inside the elements of a list has no parent among them. -/
theorem updateParent_of_absent_inside
    (absent : ∀ {id nodeName childNodes}, Node.element id nodeName childNodes ∈ nodes →
      child ∉ nodeIds childNodes) : updateParent child change nodes = nodes := by
  induction nodes with
  | nil => rfl
  | cons node rest ih =>
    have restSame := ih fun mem => absent (List.mem_cons_of_mem _ mem)
    cases node with
    | text node => exact congrArg (Node.text node :: ·) restSame
    | other id => exact congrArg (Node.other id :: ·) restSame
    | element id nodeName childNodes =>
      have absentInside := absent (List.mem_cons_self ..)
      have noChild : child ∉ childNodes.map Node.id := by
        grind [mem_nodeIds_of_mem]
      change Node.element id nodeName (changeAround child change (updateParent child change
        childNodes)) :: updateParent child change rest = _
      rw [restSame, updateParent_eq_self absentInside, changeAround, if_neg noChild]

theorem MadeFor.updateParent_eq_self {replacement : Nat} (made : MadeFor replacement nodes)
    (outer : ∀ replacement position inner, child ≠ .inner replacement position inner)
    (change : List Node → List Node) : updateParent child change nodes = nodes := by
  grind [updateParent_of_absent_inside, made.inside]

/-! ## Exchanging around one text node -/

/-- Trees of the page in which a text node, if it occurs, is the only node with its id. -/
structure Hosts (oldNode : TextNode) (nodes : List Node) : Prop where
  unmade : ∀ id ∈ nodeIds nodes, ∃ number, id = .page number
  textual : oldNode.id ∉ otherIds nodes
  same : ∀ node ∈ textNodes nodes, node.id = oldNode.id → node = oldNode

variable {index : Nat} {swaps' swaps : Swaps} {id : NodeId} (page : Page)
  {newNodes childNodes rest : List Node} {oldNode : TextNode}

theorem Page.hosts (mem : oldNode ∈ textNodes page.roots) : Hosts oldNode page.roots where
  unmade := page.unmade
  textual := textNode_id_notMem_otherIds page.distinct mem
  same _ memNode sameId := textNode_eq_of_id_eq page.distinct memNode mem sameId

section Hosts

variable {oldNode : TextNode} {node : Node} {rest : List Node}

theorem Hosts.tail (hosts : Hosts oldNode (node :: rest)) : Hosts oldNode rest where
  unmade id mem := hosts.unmade id (List.mem_append_right _ mem)
  textual mem := hosts.textual (List.mem_append_right _ mem)
  same other mem := hosts.same other (List.mem_append_right _ mem)

theorem Hosts.inside {nodeName : NodeName}
    (hosts : Hosts oldNode (.element id nodeName childNodes :: rest)) :
    Hosts oldNode childNodes where
  unmade id mem := hosts.unmade id (List.mem_append_left _ (List.mem_cons_of_mem _ mem))
  textual mem := hosts.textual (List.mem_append_left _ (List.mem_cons_of_mem _ mem))
  same other mem := hosts.same other (List.mem_append_left _ mem)

end Hosts

def exchangedInside (swaps swaps' : Swaps) : Node → List Node
  | .text node => (swaps node.id).getD [.text node]
  | .element id nodeName childNodes => [.element id nodeName (render swaps' childNodes)]
  | .other id => [.other id]

/-- If around every list of child nodes a change makes the exchange, it makes it
in the whole document. -/
theorem updateParent_render
    (untouched : ∀ id nodes, swaps id = some nodes → updateParent child change nodes = nodes)
    (around : ∀ childNodes, Hosts oldNode childNodes →
      changeAround child change (childNodes.flatMap (exchangedInside swaps swaps')) =
        render swaps' childNodes) (hosts : Hosts oldNode nodes) :
    updateParent child change (render swaps nodes) =
      nodes.flatMap (exchangedInside swaps swaps') := by
  induction nodes using forest_induction with
  | nil => rfl
  | text node rest ih =>
    change updateParent child change ((swaps node.id).getD [.text node] ++ render swaps rest) =
      (swaps node.id).getD [.text node] ++ _
    rw [updateParent, gather_append]
    congr 1
    · cases swapped : swaps node.id with
      | none => rfl
      | some _ => exact untouched _ _ swapped
    · exact ih hosts.tail
  | element id nodeName childNodes rest inside outside =>
    change Node.element id nodeName (changeAround child change (updateParent child change
      (render swaps childNodes))) :: updateParent child change (render swaps rest) = _
    rw [inside hosts.inside, around childNodes hosts.inside, outside hosts.tail]
    rfl
  | other id _ ih => exact congrArg (Node.other id :: ·) (ih hosts.tail)

/-- The roots of a page are elements, so that nothing is exchanged around them. -/
theorem updateParent_page (inPage : oldNode ∈ textNodes page.roots)
    (untouched : ∀ id nodes, swaps id = some nodes → updateParent child change nodes = nodes)
    (around : ∀ childNodes, Hosts oldNode childNodes →
      changeAround child change (childNodes.flatMap (exchangedInside swaps swaps')) =
        render swaps' childNodes) :
    updateParent child change (render swaps page.roots) = render swaps' page.roots := by
  rw [updateParent_render untouched around (page.hosts inPage), render_eq_flatMap]
  apply List.flatMap_congr
  intro node mem
  obtain ⟨_, _, _, rfl⟩ := page.rooted node mem
  rfl

/-! ## Executing a replacement -/

/-- Inserting new nodes one after the other puts them in order before the reference. -/
theorem foldl_insertBefore {reference : NodeId}
    (apart : ∀ newNode ∈ newNodes, newNode.id ≠ reference) (childNodes : List Node) :
    newNodes.foldl (fun childNodes newNode => insertBefore newNode reference childNodes)
        childNodes =
      childNodes.flatMap fun node =>
        if node.id = reference then newNodes ++ [node] else [node] := by
  induction newNodes using List.reverseRecOn with
  | nil => simp
  | append_singleton newNodes last ih =>
    have earlier := ih fun node mem => apart node (List.mem_append_left _ mem)
    rw [List.foldl_append, earlier]
    change insertBefore last reference _ = _
    rw [insertBefore, List.flatMap_assoc]
    apply List.flatMap_congr
    intro node _
    by_cases isReference : node.id = reference
    · have others : newNodes.flatMap (fun node =>
          if node.id = reference then [last, node] else [node]) = newNodes := by
        rw [List.flatMap_congr fun node mem =>
          if_neg (apart node (List.mem_append_left _ mem)), List.flatMap_singleton']
      simp [isReference, others]
    · simp [isReference]

theorem doSwap_change (apart : ∀ newNode ∈ newNodes, newNode.id ≠ oldNode.id)
    (childNodes : List Node) :
    removeChild oldNode.id (newNodes.foldl
        (fun childNodes newNode => insertBefore newNode oldNode.id childNodes) childNodes) =
      childNodes.flatMap fun node => if node.id = oldNode.id then newNodes else [node] := by
  rw [foldl_insertBefore apart, removeChild, List.filter_flatMap]
  apply List.flatMap_congr
  intro node _
  by_cases isOld : node.id = oldNode.id
  · simpa [isOld] using apart
  · simp [isOld]

/-- Where the node does not occur, exchanging it changes nothing. -/
theorem changeAround_eq_flatMap {exchange : Node → List Node}
    (changed : ∀ childNodes, change childNodes = childNodes.flatMap exchange)
    (others : ∀ node, node.id ≠ child → exchange node = [node]) (childNodes : List Node) :
    changeAround child change childNodes = childNodes.flatMap exchange := by
  unfold changeAround
  split <;> grind [List.flatMap_congr, List.flatMap_singleton']

def placed (executed : List Replacement) : Swaps := fun id =>
  (executed.find? fun replacement => replacement.oldNode.id = id).map Replacement.newNodes

structure Replaces (page : Page) (index : Nat) (replacement : Replacement) : Prop where
  inPage : replacement.oldNode ∈ textNodes page.roots
  made : MadeFor index replacement.newNodes

theorem placed_eq_some (found : placed executed id = some nodes) :
    ∃ replacement ∈ executed, replacement.oldNode.id = id ∧ replacement.newNodes = nodes := by
  obtain ⟨replacement, first, rfl⟩ := Option.map_eq_some_iff.mp found
  grind

/-- The first of the replacements for a text node is the one that is executed. -/
theorem placed_append_singleton (executed : List Replacement) (replacement : Replacement)
    (id : NodeId) :
    placed (executed ++ [replacement]) id =
      if id = replacement.oldNode.id then some ((placed executed id).getD replacement.newNodes)
      else placed executed id := by
  unfold placed
  grind

variable {replacement : Replacement}

theorem placed_append_of_mem (mem : replacement ∈ executed) :
    placed (executed ++ [replacement]) = placed executed := by
  funext id
  rw [placed_append_singleton]
  split
  · next isOld =>
      cases found : placed executed id with
      | some _ => rfl
      | none =>
        have absent := List.find?_eq_none.mp (Option.map_eq_none_iff.mp found) _ mem
        exact absurd (decide_eq_true isOld.symm) absent
  · rfl

/-- Executing a replacement exchanges its text node, unless an earlier one has. -/
theorem doSwap_render (made : ∀ earlier ∈ executed, ∃ index, Replaces page index earlier)
    (replaces : Replaces page index replacement) :
    replacement.doSwap (render (placed executed) page.roots) =
      render (placed (executed ++ [replacement])) page.roots := by
  obtain ⟨number, isPage⟩ := page.unmade _ (mem_nodeIds_of_mem_textNodes replaces.inPage)
  have apart : ∀ {index nodes}, MadeFor index nodes →
      ∀ node ∈ nodes, node.id ≠ replacement.oldNode.id := by
    intro index nodes made node mem
    grind [made.named]
  apply updateParent_page page replaces.inPage
  · intro id nodes found
    obtain ⟨earlier, mem, -, rfl⟩ := placed_eq_some found
    obtain ⟨index, replacesEarlier⟩ := made earlier mem
    simp [isPage, replacesEarlier.made.updateParent_eq_self]
  · intro childNodes hosts
    rw [changeAround_eq_flatMap (doSwap_change (apart replaces.made))
      (fun node isOther => if_neg isOther), List.flatMap_assoc, render_eq_flatMap]
    apply List.flatMap_congr
    intro node mem
    have others : ∀ {nodes : List Node}, (∀ node ∈ nodes, node.id ≠ replacement.oldNode.id) →
        nodes.flatMap (fun node => if node.id = replacement.oldNode.id then
          replacement.newNodes else [node]) = nodes := by
      intro nodes apart
      simp [List.flatMap_congr fun node mem => if_neg (apart node mem)]
    cases node with
    | text node =>
      change ((placed executed node.id).getD [.text node]).flatMap _ =
        (placed (executed ++ [replacement]) node.id).getD [.text node]
      rw [placed_append_singleton]
      cases found : placed executed node.id with
      | some _ =>
        obtain ⟨earlier, mem, -, rfl⟩ := placed_eq_some found
        obtain ⟨index, replacesEarlier⟩ := made earlier mem
        simp [others (apart replacesEarlier.made)]
      | none =>
        grind [Node.id]
    | element id _ _ =>
      apply others
      intro node memNode
      cases List.mem_singleton.mp memNode
      have memOther : id ∈ otherIds childNodes :=
        mem_otherIds_of_mem mem fun _ same => by cases same
      exact fun isOld => hosts.textual (isOld ▸ memOther)
    | other _ =>
      apply others
      grind [exchangedInside, mem_otherIds_of_mem, hosts.textual]

/-! ## Undoing a replacement -/

theorem foldl_removeChild (newNodes childNodes : List Node) :
    newNodes.foldl (fun childNodes newNode => removeChild newNode.id childNodes) childNodes =
      childNodes.filter fun node => node.id ∉ newNodes.map Node.id := by
  induction newNodes generalizing childNodes with
  | nil => simp
  | cons _ _ ih =>
    rw [List.foldl_cons, ih, removeChild, List.filter_filter]
    simp [Bool.and_comm]

/-- Putting the old node back before the first of the new nodes and removing those. -/
theorem undoSwap_change (apart : oldNode.id ∉ (first :: rest).map Node.id)
    (childNodes : List Node) :
    (first :: rest).foldl (fun childNodes newNode => removeChild newNode.id childNodes)
        (insertBefore (.text oldNode) first.id childNodes) =
      childNodes.flatMap fun node =>
        if node.id = first.id then [.text oldNode]
        else if node.id ∈ (first :: rest).map Node.id then [] else [node] := by
  rw [foldl_removeChild, insertBefore, List.filter_flatMap]
  grind [Node.id]

/-- What undoing a replacement does with one node of a list of child nodes. -/
def putBack (replacement : Replacement) (first : Node) (node : Node) : List Node :=
  if node.id = first.id then [.text replacement.oldNode]
  else if node.id ∈ replacement.newNodes.map Node.id then [] else [node]

theorem flatMap_putBack_of_apart (newNodes : replacement.newNodes = first :: rest)
    (apart : ∀ node ∈ nodes, node.id ∉ replacement.newNodes.map Node.id) :
    nodes.flatMap (putBack replacement first) = nodes := by
  have kept : ∀ node ∈ nodes, putBack replacement first node = [node] := by
    intro node mem
    have notFirst : node.id ≠ first.id := by
      grind
    simp [putBack, notFirst, apart, mem]
  simp [List.flatMap_congr kept]

theorem flatMap_putBack_newNodes (newNodes : replacement.newNodes = first :: rest)
    (distinct : (replacement.newNodes.map Node.id).Nodup) :
    replacement.newNodes.flatMap (putBack replacement first) = [.text replacement.oldNode] := by
  have removed : ∀ node ∈ rest, putBack replacement first node = [] := by
    intro node mem
    have isNew : node.id ∈ replacement.newNodes.map Node.id := by
      grind
    have notFirst : node.id ≠ first.id := by
      grind
    rw [putBack, if_neg notFirst, if_pos isNew]
  have atFirst : putBack replacement first first = [.text replacement.oldNode] := if_pos rfl
  simp [newNodes, atFirst, List.flatMap_eq_nil_iff.mpr removed]

/-- The document shows the new nodes of a replacement, if at all, in the place of
its text node. -/
structure Undoable (page : Page) (replacement : Replacement) (swaps : Swaps) : Prop where
  replaces : ∃ index, Replaces page index replacement
  made : ∀ id nodes, swaps id = some nodes → ∃ index, MadeFor index nodes
  own : ∀ nodes, swaps replacement.oldNode.id = some nodes → nodes = replacement.newNodes
  apart : ∀ id nodes, swaps id = some nodes → id ≠ replacement.oldNode.id →
    ∀ node ∈ nodes, node.id ∉ replacement.newNodes.map Node.id

namespace Undoable

variable {page : Page} {replacement : Replacement} {swaps : Swaps}

variable (undoable : Undoable page replacement swaps)
include undoable

theorem page_notMem (number : Nat) : NodeId.page number ∉ replacement.newNodes.map Node.id := by
  obtain ⟨index, replaces⟩ := undoable.replaces
  grind [replaces.made.named]

omit undoable

variable {first : Node}

include undoable

theorem undoSwap_eq (newNodes : replacement.newNodes = first :: rest) (document : List Node) :
    replacement.undoSwap document =
      updateParent first.id (List.flatMap (putBack replacement first)) document := by
  obtain ⟨_, replaces⟩ := undoable.replaces
  obtain ⟨number, isPage⟩ := page.unmade _ (mem_nodeIds_of_mem_textNodes replaces.inPage)
  have oldNotNew := undoable.page_notMem number
  rw [← isPage, newNodes] at oldNotNew
  have changed : List.flatMap (putBack replacement first) = fun childNodes =>
      (first :: rest).foldl (fun childNodes newNode => removeChild newNode.id childNodes)
        (insertBefore (.text replacement.oldNode) first.id childNodes) := by
    funext childNodes
    rw [undoSwap_change oldNotNew childNodes, ← newNodes]
    rfl
  unfold Replacement.undoSwap
  rw [newNodes, changed]

omit undoable

variable {node : Node}

include undoable

/-- Putting back one node of the list the new nodes are in. -/
theorem flatMap_putBack (newNodes : replacement.newNodes = first :: rest)
    (hosts : Hosts replacement.oldNode childNodes) (mem : node ∈ childNodes) :
    (exchangedInside swaps (Function.update swaps replacement.oldNode.id none) node).flatMap
        (putBack replacement first) =
      node.gather (rendering (Function.update swaps replacement.oldNode.id none)) := by
  obtain ⟨number, isPage⟩ := hosts.unmade _ (mem_nodeIds_of_mem mem)
  have outside : ∀ candidate : Node, candidate.id = node.id →
      [candidate].flatMap (putBack replacement first) = [candidate] := by
    grind [flatMap_putBack_of_apart, undoable.page_notMem]
  cases node with
  | element _ _ _ => exact outside _ rfl
  | other id => exact outside (.other id) rfl
  | text node =>
    change ((swaps node.id).getD [.text node]).flatMap _ =
      (Function.update swaps replacement.oldNode.id none node.id).getD [.text node]
    by_cases isOld : node.id = replacement.oldNode.id
    · cases hosts.same node (mem_textNodes_of_mem mem) isOld
      rw [Function.update_self, Option.getD_none]
      cases found : swaps replacement.oldNode.id with
      | none => exact outside (.text _) rfl
      | some nodes =>
        obtain ⟨index, replaces⟩ := undoable.replaces
        simpa [undoable.own nodes found]
          using flatMap_putBack_newNodes newNodes replaces.made.distinct
    · rw [Function.update_of_ne isOld]
      cases found : swaps node.id <;> grind [flatMap_putBack_of_apart, undoable.apart]

/-- In a list that does not show the new nodes there is nothing to put back. -/
theorem exchangedInside_of_absent (memFirst : first ∈ replacement.newNodes)
    (absent : first.id ∉ (childNodes.flatMap (exchangedInside swaps
      (Function.update swaps replacement.oldNode.id none))).map Node.id) (mem : node ∈ childNodes) :
    exchangedInside swaps (Function.update swaps replacement.oldNode.id none) node =
      node.gather (rendering (Function.update swaps replacement.oldNode.id none)) := by
  cases node with
  | element id nodeName inside | other id => rfl
  | text node =>
    change (swaps node.id).getD [.text node] =
      (Function.update swaps replacement.oldNode.id none node.id).getD [.text node]
    by_cases isOld : node.id = replacement.oldNode.id
    · rw [isOld, Function.update_self, Option.getD_none]
      cases found : swaps replacement.oldNode.id with
      | none => rfl
      | some _ =>
        refine absurd (List.mem_map_of_mem (List.mem_flatMap.mpr ⟨_, mem, ?_⟩)) absent
        simp [exchangedInside, isOld, found, undoable.own, memFirst]
    · rw [Function.update_of_ne isOld]

/-- Undoing a replacement puts its text node back, if it was exchanged. -/
theorem undoSwap_render :
    replacement.undoSwap (render swaps page.roots) =
      render (Function.update swaps replacement.oldNode.id none) page.roots := by
  obtain ⟨index, replaces⟩ := undoable.replaces
  obtain ⟨first, rest, newNodes⟩ := List.exists_cons_of_ne_nil replaces.made.nonempty
  have memFirst : first ∈ replacement.newNodes := newNodes ▸ List.mem_cons_self ..
  rw [undoable.undoSwap_eq newNodes]
  apply updateParent_page page replaces.inPage
  · intro id nodes found
    obtain ⟨other, madeFor⟩ := undoable.made id nodes found
    grind [replaces.made.named, madeFor.updateParent_eq_self]
  · unfold changeAround
    grind [render_eq_flatMap, List.flatMap_assoc, List.flatMap_congr, undoable.flatMap_putBack,
      undoable.exchangedInside_of_absent]

end Undoable

/-- New nodes made for different replacements have different ids. -/
theorem MadeFor.apart {other : Nat} {otherNodes : List Node} (made : MadeFor index nodes)
    (madeOther : MadeFor other otherNodes) (different : index ≠ other) :
    ∀ node ∈ nodes, node.id ∉ otherNodes.map Node.id := by
  grind [made.named, madeOther.named]

/-- Undoing all replacements restores the page, whichever of them were executed. -/
theorem foldl_undoSwap {replacements : List Replacement}
    (replaces : ∀ replacement ∈ replacements, ∃ index, Replaces page index replacement)
    (apart : replacements.Pairwise fun first second =>
      ∀ node ∈ second.newNodes, node.id ∉ first.newNodes.map Node.id)
    (first : ∀ id nodes, swaps id = some nodes → placed replacements id = some nodes) :
    replacements.foldl (fun document replacement => replacement.undoSwap document)
      (render swaps page.roots) = page.roots := by
  induction replacements generalizing swaps with
  | nil =>
    have none : swaps = fun _ => none := by
      funext id
      cases found : swaps id with
      | none => rfl
      | some nodes => cases first id nodes found
    rw [none, render_none]
    rfl
  | cons replacement rest _ =>
    obtain ⟨apartRest, apart⟩ := List.pairwise_cons.mp apart
    have later : ∀ id nodes, swaps id = some nodes → id ≠ replacement.oldNode.id →
        placed rest id = some nodes := by
      grind [placed]
    have undoable : Undoable page replacement swaps := by
      constructor
      · simp [replaces]
      · intro id nodes found
        obtain ⟨earlier, mem, -, rfl⟩ := placed_eq_some (first id nodes found)
        obtain ⟨index, replaced⟩ := replaces earlier mem
        exact ⟨index, replaced.made⟩
      · grind [placed]
      · grind [placed_eq_some]
    grind [undoable.undoSwap_render]

/-! ## The document of a state -/

structure Shows (page : Page) (count : Nat) (state : State) : Prop where
  replaces : ∀ {index replacement}, state.replacements[index]? = some replacement →
    Replaces page index replacement
  executed : count ≤ state.replacements.length
  document : state.document = render (placed (state.replacements.take count)) page.roots

namespace Shows

variable {page : Page} {count : Nat} {state : State}

theorem replaces_of_mem (shown : Shows page count state) (mem : replacement ∈ state.replacements) :
    ∃ index, Replaces page index replacement := by
  obtain ⟨index, found⟩ := List.mem_iff_getElem?.mp mem
  exact ⟨index, shown.replaces found⟩

/-- Executing a replacement that has been executed before changes nothing; the
next one is added to those the document shows. -/
theorem swapReplacement (shown : Shows page count state) {index : Nat}
    (reached : index ≤ count) (inRange : index < state.replacements.length) :
    Shows page (max count (index + 1)) (swapReplacement index state) := by
  have found : state.replacements[index]? = some state.replacements[index] :=
    List.getElem?_eq_getElem inRange
  have taken : ∀ earlier ∈ state.replacements.take count, ∃ index, Replaces page index earlier :=
    fun earlier mem => shown.replaces_of_mem (List.mem_of_mem_take mem)
  unfold FindInPage.swapReplacement
  rw [found]
  constructor
  · exact shown.replaces
  · exact Nat.max_le.mpr ⟨shown.executed, inRange⟩
  · change Replacement.doSwap _ state.document = render (placed (state.replacements.take _)) _
    rw [shown.document, doSwap_render page taken (shown.replaces found)]
    rcases Nat.lt_or_eq_of_le reached with earlier | rfl
    · have mem : state.replacements[index] ∈ state.replacements.take count :=
        List.mem_take_iff_getElem.mpr ⟨index, by omega, rfl⟩
      rw [placed_append_of_mem mem, Nat.max_eq_left earlier]
    · simp

/-- Cleaning up restores the page at every point of the swaps. -/
theorem cleanUp_document (shown : Shows page count state) :
    (cleanUp state).document = page.roots := by
  change state.replacements.foldl _ state.document = _
  rw [shown.document]
  apply foldl_undoSwap page fun replacement mem => shown.replaces_of_mem mem
  · rw [List.pairwise_iff_getElem]
    intro first second firstIn secondIn before node mem
    have made := (shown.replaces (List.getElem?_eq_getElem secondIn)).made
    exact made.apart (shown.replaces (List.getElem?_eq_getElem firstIn)).made
      (Nat.ne_of_gt before) node mem
  · grind [placed, List.take_append_drop]

end Shows

end ChromiumIos.FindInPage
