import DashboardFilters.Proofs.Tree.Editing

/-!
Edits that undo each other, and edits whose order does not matter. Adding to a block and changing its
operator meet the first node of an identifier, removing and replacing meet every node alike; so two
edits are compared by what they make of the outline.
-/

namespace DashboardFilters

variable {V : Type}

namespace Node

/-- Some nodes with the first one of an identifier changed. -/
def changeFirst (id : String) (change : Node V → Node V) : List (Node V) → List (Node V)
  | [] => []
  | node :: rest =>
      if node.id = id then change node :: rest else node :: changeFirst id change rest

variable {id other : String} {change alter : Node V → Node V}

/-- Nodes that do not have the identifier are passed over. -/
theorem changeFirst_append {ahead : List (Node V)} (apart : ∀ node ∈ ahead, node.id ≠ id)
    (rest : List (Node V)) :
    changeFirst id change (ahead ++ rest) = ahead ++ changeFirst id change rest := by
  induction ahead with
  | nil => rfl
  | cons node ahead ih =>
      rw [List.forall_mem_cons] at apart
      rw [List.cons_append, changeFirst, if_neg apart.1, ih apart.2, List.cons_append]

/-- Where no node has the identifier, none is changed. -/
theorem changeFirst_of_absent {nodes : List (Node V)} (apart : ∀ node ∈ nodes, node.id ≠ id) :
    changeFirst id change nodes = nodes := by
  have passed : changeFirst id change (nodes ++ []) = nodes ++ changeFirst id change [] :=
    changeFirst_append apart []
  rw [changeFirst, List.append_nil] at passed
  exact passed

/-- Changes under different identifiers meet different nodes. -/
theorem changeFirst_comm (different : id ≠ other) (keeps : ∀ node, (change node).id = node.id)
    (holds : ∀ node, (alter node).id = node.id) (nodes : List (Node V)) :
    changeFirst id change (changeFirst other alter nodes) =
      changeFirst other alter (changeFirst id change nodes) := by
  induction nodes with
  | nil => rfl
  | cons node rest ih =>
      by_cases first : node.id = id
      · have later : node.id ≠ other := first ▸ different
        have kept : (change node).id ≠ other := (keeps node).symm ▸ later
        rw [changeFirst, if_neg later, changeFirst, if_pos first, changeFirst, if_pos first,
          changeFirst, if_neg kept]
      · by_cases second : node.id = other
        · have kept : (alter node).id ≠ id := (holds node).symm ▸ first
          rw [changeFirst, if_pos second, changeFirst, if_neg kept, changeFirst, if_neg first,
            changeFirst, if_pos second]
        · rw [changeFirst, if_neg second, changeFirst, if_neg first, changeFirst, if_neg first,
            changeFirst, if_neg second, ih]

/-- Where no identifier comes twice, changing the first node of one changes all its nodes. -/
theorem changeFirst_eq_map {nodes : List (Node V)} (distinct : (nodes.map Node.id).Nodup) :
    changeFirst id change nodes =
      nodes.map fun node => if node.id = id then change node else node := by
  induction nodes with
  | nil => rfl
  | cons node rest ih =>
      rw [List.map_cons, List.nodup_cons] at distinct
      rw [changeFirst, List.map_cons]
      split
      next first =>
        have alone : rest.map (fun node => if node.id = id then change node else node) =
            rest.map fun node => node := by
          apply List.map_congr_left
          intro later inside
          have apart : later.id ≠ id := by
            rintro rfl
            exact distinct.1 (first ▸ List.mem_map_of_mem inside)
          exact if_neg apart
        rw [alone, List.map_id']
      next => rw [ih distinct.2]

/-- A change of all nodes that undoes the change of one is as if that had not been made. -/
theorem map_changeFirst {undo : Node V → Node V} (undoes : ∀ node, undo (change node) = undo node)
    (id : String) (nodes : List (Node V)) :
    (changeFirst id change nodes).map undo = nodes.map undo := by
  induction nodes with
  | nil => rfl
  | cons node rest ih =>
      rw [changeFirst]
      split
      · rw [List.map_cons, List.map_cons, undoes]
      · rw [List.map_cons, List.map_cons, ih]

end Node

namespace Block

open Node (changeFirst)

variable {id other : String} {tree : Block V}

section First

/-- Whether a change of a block is a change of its own node, which leaves its identifier. -/
structure IsLocal (edit : Block V → Block V) (change : Node V → Node V) : Prop where
  outline : ∀ block trail, (edit block).outlineFrom trail =
    change ⟨trail, block.id, block.op, block.filters⟩ :: outlineIn trail block.blocks
  id : ∀ block, (edit block).id = block.id
  nodeId : ∀ node, (change node).id = node.id
  trail : ∀ node, (change node).trail = node.trail

variable {edit : Block V → Block V} {change : Node V → Node V}

/-- A local change of a block that is searched for changes the first node of the identifier. -/
theorem IsLocal.outline_editFirst (isLocal : IsLocal edit change) (id : String) (tree : Block V) :
    (tree.editFirst id edit).outline = changeFirst id change tree.outline := by
  cases known : tree.find? id with
  | none =>
      have apart := id_ne_of_find?_eq_none [] tree known
      rw [editFirst_of_find?_eq_none known]
      exact (Node.changeFirst_of_absent apart).symm
  | some found =>
      obtain ⟨ahead, trail, behind, apart, before, after⟩ :=
        editFirst_of_find? edit isLocal.id known
      have named := id_of_find? tree known
      rw [after, before, isLocal.outline, outlineFrom_eq_cons, List.append_assoc,
        List.append_assoc, Node.changeFirst_append apart, List.cons_append, List.cons_append,
        changeFirst, if_pos named]

/-- Local changes under different identifiers can be made in any order. -/
theorem IsLocal.editFirst_comm {alter : Block V → Block V} {alterNode : Node V → Node V}
    (isLocal : IsLocal edit change) (localToo : IsLocal alter alterNode) (different : id ≠ other) :
    (tree.editFirst id edit).editFirst other alter =
      (tree.editFirst other alter).editFirst id edit := by
  apply outline_injective
  rw [localToo.outline_editFirst, isLocal.outline_editFirst, isLocal.outline_editFirst,
    localToo.outline_editFirst,
    Node.changeFirst_comm different isLocal.nodeId localToo.nodeId]

/-- Where no identifier comes twice, a block is changed before or after others are removed, also if
it lies in one of them. -/
theorem IsLocal.editFirst_removeBlock (isLocal : IsLocal edit change)
    (distinct : tree.blockIds.Nodup) (id gone : String) :
    (tree.editFirst id edit).removeBlock gone = (tree.removeBlock gone).editFirst id edit := by
  have fewer := distinct.sublist (blockIds_removeBlock gone tree)
  rw [← ids_outline] at distinct fewer
  have kept (node : Node V) :
      (if node.id = id then change node else node).trail = node.trail := by
    split
    · exact isLocal.trail node
    · rfl
  apply outline_injective
  rw [outline_removeBlock, isLocal.outline_editFirst, isLocal.outline_editFirst,
    Node.changeFirst_eq_map distinct, Node.changeFirst_eq_map fewer, outline_removeBlock,
    List.filter_map]
  simp only [Function.comp_def, kept]

theorem isLocal_addFilter (filter : Filter V) :
    IsLocal (fun block => { block with filters := block.filters ++ [filter] })
      (Node.mapFilters (· ++ [filter])) where
  outline _ _ := outlineFrom_eq_cons _ _
  id _ := rfl
  nodeId _ := rfl
  trail _ := rfl

theorem isLocal_setOperator (op : LogicalOp) :
    IsLocal (fun block : Block V => { block with op }) (fun node => { node with op }) where
  outline _ _ := outlineFrom_eq_cons _ _
  id _ := rfl
  nodeId _ := rfl
  trail _ := rfl

end First

section Everywhere

/-- Filters are changed before or after blocks are removed. -/
theorem mapFilters_removeBlock (change : List (Filter V) → List (Filter V)) (id : String)
    (tree : Block V) :
    (tree.mapFilters change).removeBlock id = (tree.removeBlock id).mapFilters change := by
  apply outline_injective
  rw [outline_removeBlock, outline, outlineFrom_mapFilters, outline, outlineFrom_mapFilters,
    List.filter_map]
  exact congrArg (List.map _) (outline_removeBlock id tree).symm

/-- Filters of two identifiers are removed in any order. -/
theorem removeFilter_comm (id other : String) (tree : Block V) :
    (tree.removeFilter id).removeFilter other = (tree.removeFilter other).removeFilter id := by
  apply outline_injective
  simp only [outline_removeFilter, List.map_map]
  congr 1
  funext node
  exact congrArg (fun filters => { node with filters }) (List.filter_comm _ _ node.filters)

end Everywhere

section Undoing

theorem removeFilter_of_absent (absent : ∀ filter ∈ tree.allFilters, filter.id ≠ id) :
    tree.removeFilter id = tree := by
  have same : tree.outline.map (Node.mapFilters (List.filter fun filter => filter.id ≠ id)) =
      tree.outline.map fun node => node := by
    apply List.map_congr_left
    intro node inside
    have kept : node.filters.filter (fun filter => filter.id ≠ id) = node.filters := by
      rw [List.filter_eq_self]
      intro filter member
      rw [allFilters_eq_flatMap []] at absent
      exact decide_eq_true (absent filter (List.mem_flatMap.mpr ⟨node, inside, member⟩))
    rw [Node.mapFilters, kept]
  apply outline_injective
  rw [outline_removeFilter, same, List.map_id']

/-- Removing the identifier of a filter that was added is as if it had not been added. -/
theorem removeFilter_addFilter (id : String) (filter : Filter V) (tree : Block V) :
    (tree.addFilter id filter).removeFilter filter.id = tree.removeFilter filter.id := by
  apply outline_injective
  rw [outline_removeFilter, outline_removeFilter, addFilter,
    (isLocal_addFilter filter).outline_editFirst]
  apply Node.map_changeFirst
  intro node
  have gone : [filter].filter (fun other => other.id ≠ filter.id) = [] :=
    List.filter_cons_of_neg (by simp)
  rw [Node.mapFilters, Node.mapFilters, Node.mapFilters, List.filter_append, gone, List.append_nil]

/-- A filter that is added stands among the filters that were there. -/
theorem allFilters_addFilter {found : Block V} (known : tree.find? id = some found)
    (filter : Filter V) : ∃ before after, tree.allFilters = before ++ after ∧
      (tree.addFilter id filter).allFilters = before ++ filter :: after := by
  obtain ⟨ahead, trail, behind, -, before, after⟩ :=
    editFirst_of_find? (fun block => { block with filters := block.filters ++ [filter] })
      (fun _ => rfl) known
  refine ⟨ahead.flatMap Node.filters ++ found.filters,
    (outlineIn trail found.blocks ++ behind).flatMap Node.filters, ?_, ?_⟩
  · rw [allFilters_eq_flatMap [] tree]
    change tree.outline.flatMap Node.filters = _
    rw [before, outlineFrom_eq_cons]
    simp only [List.flatMap_append, List.flatMap_cons, List.append_assoc]
  · rw [allFilters_eq_flatMap []]
    change (tree.editFirst id _).outline.flatMap Node.filters = _
    rw [after, outlineFrom_eq_cons]
    simp only [List.flatMap_append, List.flatMap_cons, List.append_assoc, List.cons_append,
      List.nil_append]

/-- A filter of a new identifier is found when it has been added to a block of the tree. -/
theorem findFilter?_addFilter {filter : Filter V} (present : id ∈ tree.blockIds)
    (fresh : ∀ other ∈ tree.allFilters, other.id ≠ filter.id) :
    (tree.addFilter id filter).findFilter? filter.id = some filter := by
  cases known : tree.find? id with
  | none =>
      rw [← ids_outline, List.mem_map] at present
      obtain ⟨node, inside, same⟩ := present
      exact absurd same (id_ne_of_find?_eq_none [] tree known node inside)
  | some found =>
      obtain ⟨before, after, same, added⟩ := allFilters_addFilter known filter
      have passed : before.find? (fun other => other.id == filter.id) = none := by
        rw [List.find?_eq_none]
        intro other member
        rw [beq_iff_eq]
        exact fresh other (same ▸ List.mem_append_left after member)
      have first : (filter :: after).find? (fun other => other.id == filter.id) = some filter :=
        List.find?_cons_of_pos (beq_self_eq_true filter.id)
      rw [findFilter?_eq_find?, added, List.find?_append, passed, Option.none_or, first]

theorem removeBlock_of_absent (absent : id ∉ tree.blockIds) : tree.removeBlock id = tree := by
  apply outline_injective
  rw [outline_removeBlock, List.filter_eq_self]
  intro node inside
  rw [decide_eq_true_eq]
  intro passed
  rcases exists_block_of_mem_trail [] tree node inside id passed with before | below
  · exact List.not_mem_nil before
  · obtain ⟨block, member, rfl, -⟩ := below
    rw [blockIds_eq_cons] at absent
    exact absent (List.mem_cons_of_mem _ (List.mem_map_of_mem member))

theorem outlineIn_append (trail : List String) (blocks others : List (Block V)) :
    outlineIn trail (blocks ++ others) = outlineIn trail blocks ++ outlineIn trail others := by
  induction blocks with
  | nil => rfl
  | cons block rest ih => rw [List.cons_append, outlineIn, outlineIn, ih, List.append_assoc]

/-- Removing the identifier of a block that was added is as if it had not been added. -/
theorem removeBlock_addBlock (parent : String) (tree child : Block V) :
    (tree.addBlock parent child).removeBlock child.id = tree.removeBlock child.id := by
  cases known : tree.find? parent with
  | none =>
      rw [addBlock, editFirst_of_find?_eq_none known]
  | some found =>
      obtain ⟨ahead, trail, behind, -, before, after⟩ :=
        editFirst_of_find? (fun block => { block with blocks := block.blocks ++ [child] })
          (fun _ => rfl) known
      have gone : child.id ∈ trail ++ [child.id] := by simp
      apply outline_injective
      rw [outline_removeBlock, outline_removeBlock, addBlock, after, before, outlineFrom_eq_cons,
        outlineFrom_eq_cons, outlineIn_append, outlineIn, outlineIn, List.append_nil]
      simp only [List.filter_append, List.filter_cons, filter_outlineFrom_of_mem gone,
        List.append_nil]

end Undoing

/-- Edits undo each other, and their order does not matter where it should not. A filter of a new
identifier that is added to a block of the tree is found, and removing it gives the tree back; a
block of a new identifier can be added anywhere and removed again. Removing filters goes with
removing other filters and blocks, and replacing filters with removing blocks; adding filters goes
with adding filters to other blocks. Where no identifier of a block comes twice, removing blocks
goes with adding filters and changing operators too, also inside what is removed. -/
theorem edits_undo_and_commute (tree : Block V) :
    (∀ block filter, block ∈ tree.blockIds → (∀ other ∈ tree.allFilters, other.id ≠ filter.id) →
      (tree.addFilter block filter).findFilter? filter.id = some filter ∧
      (tree.addFilter block filter).removeFilter filter.id = tree) ∧
    (∀ parent child, child.id ∉ tree.blockIds →
      (tree.addBlock parent child).removeBlock child.id = tree) ∧
    (∀ filter other, (tree.removeFilter filter).removeFilter other =
      (tree.removeFilter other).removeFilter filter) ∧
    (∀ filter block, (tree.removeFilter filter).removeBlock block =
      (tree.removeBlock block).removeFilter filter) ∧
    (∀ block other filter another, block ≠ other →
      (tree.addFilter block filter).addFilter other another =
        (tree.addFilter other another).addFilter block filter) ∧
    (∀ filter block, (tree.replaceFilter filter).removeBlock block =
      (tree.removeBlock block).replaceFilter filter) ∧
    (tree.blockIds.Nodup → ∀ gone,
      (∀ block filter, (tree.addFilter block filter).removeBlock gone =
        (tree.removeBlock gone).addFilter block filter) ∧
      ∀ block op, (tree.setOperator block op).removeBlock gone =
        (tree.removeBlock gone).setOperator block op) := by
  refine ⟨?filter, ?block, ?filters, ?both, ?added, ?replaced, ?distinct⟩
  case filter =>
    intro block filter present fresh
    refine ⟨findFilter?_addFilter present fresh, ?_⟩
    rw [removeFilter_addFilter, removeFilter_of_absent fresh]
  case block =>
    intro parent child fresh
    rw [removeBlock_addBlock, removeBlock_of_absent fresh]
  case filters => exact fun filter other => removeFilter_comm filter other tree
  case both => exact fun filter block => mapFilters_removeBlock _ block tree
  case added =>
    intro block other filter another different
    exact (isLocal_addFilter filter).editFirst_comm (isLocal_addFilter another) different
  case replaced => exact fun filter block => mapFilters_removeBlock _ block tree
  case distinct =>
    intro distinct gone
    refine ⟨fun block filter => ?_, fun block op => ?_⟩
    · exact (isLocal_addFilter filter).editFirst_removeBlock distinct block gone
    · exact (isLocal_setOperator op).editFirst_removeBlock distinct block gone

end Block

namespace Sample

/-- Three blocks inside each other, with a filter in the middle one. -/
def boxes : Block Value where
  id := "root"
  blocks := [{
    id := "outer"
    op := .or
    filters := [{ id := "first", column := "id", predicate := .isNull }]
    blocks := [{ id := "inner" }] }]

def another : Filter Value where
  id := "another"
  column := "id"
  predicate := .isNotNull

end Sample

open Sample

/-- A filter and a block are added to the innermost block and taken away again, and the block around
it is removed before or after. -/
theorem Block.boxes_edits_undo_and_commute :
    ("inner" ∈ boxes.blockIds ∧ (∀ other ∈ boxes.allFilters, other.id ≠ another.id) ∧
      (boxes.addFilter "inner" another).findFilter? "another" = some another ∧
      (boxes.addFilter "inner" another).removeFilter "another" = boxes) ∧
    ("new" ∉ boxes.blockIds ∧
      (boxes.addBlock "inner" (Block.bare "new")).removeBlock "new" = boxes) ∧
    ("outer" ≠ "inner" ∧ (boxes.addFilter "outer" another).addFilter "inner" another =
      (boxes.addFilter "inner" another).addFilter "outer" another) ∧
    boxes.blockIds.Nodup ∧ (boxes.addFilter "inner" another).removeBlock "outer" =
      (boxes.removeBlock "outer").addFilter "inner" another := by
  obtain ⟨filter, block, -, -, added, -, distinct⟩ := edits_undo_and_commute boxes
  have present : "inner" ∈ boxes.blockIds := by decide
  have fresh : ∀ other ∈ boxes.allFilters, other.id ≠ another.id := by decide
  have unknown : "new" ∉ boxes.blockIds := by decide
  have different : "outer" ≠ "inner" := by decide
  have once : boxes.blockIds.Nodup := by decide
  exact ⟨⟨present, fresh, filter "inner" another present fresh⟩,
    ⟨unknown, block "inner" (Block.bare "new") unknown⟩,
    ⟨different, added "outer" "inner" another another different⟩, once,
    (distinct once "outer").1 "inner" another⟩

end DashboardFilters
