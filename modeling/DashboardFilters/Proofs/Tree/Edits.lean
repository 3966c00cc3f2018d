import DashboardFilters.Proofs.Tree.Outline

namespace DashboardFilters.Block

variable {V : Type}

section Removal

/-- Nothing is left of an outline below a removed block. -/
theorem filter_outlineFrom_of_mem {id : String} {trail : List String} (removed : id ∈ trail)
    (block : Block V) :
    (block.outlineFrom trail).filter (fun node => id ∉ node.trail) = [] := by
  rw [List.filter_eq_nil_iff]
  intro node inside
  have begins := trail_isPrefix trail block node inside
  simpa using begins.subset removed

theorem id_removeBlock (id : String) (block : Block V) : (block.removeBlock id).id = block.id := by
  obtain ⟨ownId, op, filters, blocks⟩ := block
  rw [removeBlock]

mutual

/-- Removing blocks leaves those whose way does not pass a removed one. -/
theorem outlineFrom_removeBlock {id : String} {trail : List String} (kept : id ∉ trail) :
    ∀ block : Block V, (block.removeBlock id).outlineFrom trail =
      (block.outlineFrom trail).filter fun node => id ∉ node.trail
  | ⟨ownId, op, filters, blocks⟩ => by
      rw [removeBlock, outlineFrom, outlineFrom, List.filter_cons_of_pos (by simpa using kept),
        outlineIn_removeBlockIn kept blocks]

theorem outlineIn_removeBlockIn {id : String} {trail : List String} (kept : id ∉ trail) :
    ∀ blocks : List (Block V), outlineIn trail (removeBlockIn id blocks) =
      (outlineIn trail blocks).filter fun node => id ∉ node.trail
  | [] => by rw [removeBlockIn, outlineIn, List.filter_nil]
  | ⟨childId, op, filters, blocks⟩ :: rest => by
      rw [removeBlockIn]
      by_cases removed : childId = id
      · have gone : id ∈ trail ++ [childId] := by simp [removed]
        rw [if_pos removed, outlineIn, List.filter_append, filter_outlineFrom_of_mem gone,
          List.nil_append, outlineIn_removeBlockIn kept rest]
      · have stays : id ∉ trail ++ [childId] := by simp [kept, Ne.symm removed]
        rw [if_neg removed, outlineIn, outlineIn, id_removeBlock, outlineFrom_removeBlock stays,
          outlineIn_removeBlockIn kept rest, List.filter_append]

end

/-- Removing blocks leaves the root, and the blocks whose way does not pass a removed one. -/
theorem outline_removeBlock (id : String) (tree : Block V) :
    (tree.removeBlock id).outline = tree.outline.filter fun node => id ∉ node.trail :=
  outlineFrom_removeBlock List.not_mem_nil tree

/-- The root stands first in an outline. -/
theorem outline_eq_cons (tree : Block V) :
    tree.outline = ⟨[], tree.id, tree.op, tree.filters⟩ :: outlineIn [] tree.blocks :=
  outlineFrom_eq_cons [] tree

/-- The root stays. -/
theorem head?_outline_removeBlock (id : String) (tree : Block V) :
    (tree.removeBlock id).outline.head? = tree.outline.head? := by
  rw [outline_removeBlock, outline_eq_cons, List.filter_cons_of_pos (by simp)]
  rfl

/-- No sub-block of the identifier is left at any depth. -/
theorem id_ne_of_removeBlock (id : String) (tree : Block V) :
    ∀ node ∈ (tree.removeBlock id).outline.tail, node.id ≠ id := by
  rw [outline_eq_cons, List.tail_cons]
  intro node inside same
  have named := id_mem_trail_in [] _ node inside
  have kept : node ∈ (tree.removeBlock id).outline := by
    rw [outline_eq_cons]
    exact List.mem_cons_of_mem _ inside
  rw [outline_removeBlock, List.mem_filter, decide_eq_true_eq] at kept
  exact kept.2 (same ▸ named)

end Removal

section Filters

/-- Removing filters changes the filters of each block and nothing else. -/
theorem outline_removeFilter (id : String) (tree : Block V) :
    (tree.removeFilter id).outline =
      tree.outline.map (Node.mapFilters (List.filter fun filter => filter.id ≠ id)) :=
  outlineFrom_mapFilters _ [] tree

/-- Replacing filters changes the filters of each block and nothing else. -/
theorem outline_replaceFilter (filter : Filter V) (tree : Block V) :
    (tree.replaceFilter filter).outline = tree.outline.map (Node.mapFilters
      (List.map fun other => if other.id = filter.id then filter else other)) :=
  outlineFrom_mapFilters _ [] tree

/-- All filters of a tree with other filters, if the change respects that they stand in blocks. -/
theorem allFilters_mapFilters (change : List (Filter V) → List (Filter V)) (tree : Block V) :
    (tree.mapFilters change).allFilters =
      tree.outline.flatMap fun node => change node.filters := by
  rw [allFilters_eq_flatMap [], outlineFrom_mapFilters, List.flatMap_map]
  rfl

/-- Removing filters takes them out of the sequence of all filters. -/
theorem allFilters_removeFilter (id : String) (tree : Block V) :
    (tree.removeFilter id).allFilters = tree.allFilters.filter fun filter => filter.id ≠ id := by
  rw [removeFilter, allFilters_mapFilters, allFilters_eq_flatMap [], List.filter_flatMap]
  rfl

/-- Replacing filters changes them at their places in the sequence of all filters. -/
theorem allFilters_replaceFilter (filter : Filter V) (tree : Block V) :
    (tree.replaceFilter filter).allFilters =
      tree.allFilters.map fun other => if other.id = filter.id then filter else other := by
  rw [replaceFilter, allFilters_mapFilters, allFilters_eq_flatMap [], List.map_flatMap]
  rfl

mutual

/-- A search finds the first of all filters that has the identifier. -/
theorem findFilter?_eq_find? (id : String) : ∀ tree : Block V,
    tree.findFilter? id = tree.allFilters.find? fun filter => filter.id == id
  | ⟨ownId, op, filters, blocks⟩ => by
      rw [findFilter?, allFilters, List.find?_append, findFilterIn?_eq_find? id blocks]

theorem findFilterIn?_eq_find? (id : String) : ∀ blocks : List (Block V),
    findFilterIn? id blocks = (allFiltersIn blocks).find? fun filter => filter.id == id
  | [] => by
      rw [findFilterIn?, allFiltersIn, List.find?_nil]
  | block :: rest => by
      rw [findFilterIn?, allFiltersIn, List.find?_append, findFilter?_eq_find? id block,
        findFilterIn?_eq_find? id rest]

end

end Filters

section First

variable {id : String} {change : Block V → Block V}

mutual

/-- A search that finds nothing has passed no block of the identifier. -/
theorem id_ne_of_find?_eq_none (trail : List String) : ∀ tree : Block V, tree.find? id = none →
    ∀ node ∈ tree.outlineFrom trail, node.id ≠ id
  | ⟨ownId, op, filters, blocks⟩, missing => by
      rw [find?] at missing
      split at missing
      next => cases missing
      next different =>
        rw [outlineFrom, List.forall_mem_cons]
        exact ⟨different, id_ne_of_findIn?_eq_none trail blocks missing⟩

theorem id_ne_of_findIn?_eq_none (trail : List String) : ∀ blocks : List (Block V),
    findIn? id blocks = none → ∀ node ∈ outlineIn trail blocks, node.id ≠ id
  | [], _ => by
      rw [outlineIn]
      exact List.forall_mem_nil _
  | block :: rest, missing => by
      rw [findIn?, Option.or_eq_none_iff] at missing
      rw [outlineIn, List.forall_mem_append]
      exact ⟨id_ne_of_find?_eq_none _ block missing.1,
        id_ne_of_findIn?_eq_none trail rest missing.2⟩

end

mutual

/-- Where a search finds nothing, there is nothing to change. -/
theorem editFirst?_eq_none : ∀ tree : Block V, tree.find? id = none →
    editFirst? id change tree = none
  | ⟨ownId, op, filters, blocks⟩, missing => by
      rw [find?] at missing
      split at missing
      next => cases missing
      next different =>
        rw [editFirst?, if_neg different, editFirstIn?_eq_none blocks missing, Option.map_none]

theorem editFirstIn?_eq_none : ∀ blocks : List (Block V), findIn? id blocks = none →
    editFirstIn? id change blocks = none
  | [], _ => rfl
  | block :: rest, missing => by
      rw [findIn?, Option.or_eq_none_iff] at missing
      rw [editFirstIn?, editFirst?_eq_none block missing.1]
      dsimp only
      rw [editFirstIn?_eq_none rest missing.2, Option.map_none]

end

/-- Whether two outlines differ in one block only, the first of an identifier: what stands before it,
none of it with the identifier, and what stands behind it is the same. -/
def DifferAtFirst (id : String) (found changed : Block V) (before after : List (Node V)) : Prop :=
  ∃ ahead trail behind, (∀ node ∈ ahead, node.id ≠ id) ∧
    before = ahead ++ found.outlineFrom trail ++ behind ∧
    after = ahead ++ changed.outlineFrom trail ++ behind

/-- More nodes in front that do not have the identifier. -/
theorem DifferAtFirst.append_left {found changed : Block V} {before after ahead : List (Node V)}
    (differ : DifferAtFirst id found changed before after) (others : ∀ node ∈ ahead, node.id ≠ id) :
    DifferAtFirst id found changed (ahead ++ before) (ahead ++ after) := by
  obtain ⟨front, trail, behind, different, rfl, rfl⟩ := differ
  refine ⟨ahead ++ front, trail, behind, ?_, ?_, ?_⟩
  · rw [List.forall_mem_append]
    exact ⟨others, different⟩
  · simp only [List.append_assoc]
  · simp only [List.append_assoc]

/-- More nodes behind. -/
theorem DifferAtFirst.append_right {found changed : Block V} {before after : List (Node V)}
    (differ : DifferAtFirst id found changed before after) (rest : List (Node V)) :
    DifferAtFirst id found changed (before ++ rest) (after ++ rest) := by
  obtain ⟨ahead, trail, behind, different, rfl, rfl⟩ := differ
  refine ⟨ahead, trail, behind ++ rest, different, ?_, ?_⟩
  · simp only [List.append_assoc]
  · simp only [List.append_assoc]

mutual

/-- A search finds a block of the identifier. -/
theorem id_of_find? {found : Block V} : ∀ tree : Block V, tree.find? id = some found → found.id = id
  | ⟨ownId, op, filters, blocks⟩, known => by
      rw [find?] at known
      split at known
      next same =>
        cases known
        exact same
      next => exact id_of_findIn? blocks known

theorem id_of_findIn? {found : Block V} : ∀ blocks : List (Block V),
    findIn? id blocks = some found → found.id = id
  | [], known => by cases known
  | block :: rest, known => by
      rw [findIn?, Option.or_eq_some_iff] at known
      rcases known with inside | ⟨-, later⟩
      · exact id_of_find? block inside
      · exact id_of_findIn? rest later

end

mutual

/-- The block that a search finds is the one that is changed. -/
theorem editFirst?_of_find? (keeps : ∀ block, (change block).id = block.id) {found : Block V}
    (trail : List String) : ∀ tree : Block V, tree.find? id = some found → ∃ edited,
      editFirst? id change tree = some edited ∧ edited.id = tree.id ∧
      DifferAtFirst id found (change found) (tree.outlineFrom trail) (edited.outlineFrom trail)
  | ⟨ownId, op, filters, blocks⟩, known => by
      rw [find?] at known
      rw [editFirst?]
      split at known
      next same =>
        cases known
        rw [if_pos same]
        refine ⟨_, rfl, keeps _, [], trail, [], List.forall_mem_nil _, ?_, ?_⟩
        · rw [List.nil_append, List.append_nil]
        · rw [List.nil_append, List.append_nil]
      next different =>
        obtain ⟨edited, made, differ⟩ := editFirstIn?_of_findIn? keeps trail blocks known
        rw [if_neg different, made, Option.map_some]
        refine ⟨_, rfl, rfl, ?_⟩
        rw [outlineFrom, outlineFrom]
        exact differ.append_left (List.forall_mem_singleton.mpr different)

theorem editFirstIn?_of_findIn? (keeps : ∀ block, (change block).id = block.id) {found : Block V}
    (trail : List String) : ∀ blocks : List (Block V), findIn? id blocks = some found → ∃ edited,
      editFirstIn? id change blocks = some edited ∧
      DifferAtFirst id found (change found) (outlineIn trail blocks) (outlineIn trail edited)
  | [], known => by cases known
  | block :: rest, known => by
      rw [findIn?, Option.or_eq_some_iff] at known
      rw [editFirstIn?]
      rcases known with inside | ⟨missing, later⟩
      · obtain ⟨edited, made, same, differ⟩ :=
          editFirst?_of_find? keeps (trail ++ [block.id]) block inside
        rw [made]
        refine ⟨_, rfl, ?_⟩
        rw [outlineIn, outlineIn, same]
        exact differ.append_right _
      · obtain ⟨edited, made, differ⟩ := editFirstIn?_of_findIn? keeps trail rest later
        rw [editFirst?_eq_none block missing, made]
        refine ⟨_, rfl, ?_⟩
        rw [outlineIn, outlineIn]
        exact differ.append_left (id_ne_of_find?_eq_none _ block missing)

end

/-- Changing the first block of an identifier changes the one that a search finds. -/
theorem editFirst_of_find? {found tree : Block V} (change : Block V → Block V)
    (keeps : ∀ block, (change block).id = block.id) (known : tree.find? id = some found) :
    DifferAtFirst id found (change found) tree.outline (tree.editFirst id change).outline := by
  obtain ⟨edited, made, -, differ⟩ := editFirst?_of_find? keeps [] tree known
  rw [editFirst, made, Option.getD_some]
  exact differ

/-- Where a search finds nothing, nothing changes. -/
theorem editFirst_of_find?_eq_none {tree : Block V} (missing : tree.find? id = none) :
    tree.editFirst id change = tree := by
  rw [editFirst, editFirst?_eq_none tree missing, Option.getD_none]

end First

/-- Each edit changes its targets and nothing else. Removing and replacing filters leaves all blocks
and the order of the other filters; removing blocks leaves the root and everything that is not inside
a removed block; the other edits change the block that a search for the identifier finds, or nothing
if it finds none. A search for a filter finds the first one of the identifier. As no two trees have
the same outline, this determines what every edit comes to. -/
theorem edits_meet_targets (tree : Block V) :
    (∀ other : Block V, other.outline = tree.outline → other = tree) ∧
    (∀ id, (tree.removeFilter id).outline =
        tree.outline.map (Node.mapFilters (List.filter fun filter => filter.id ≠ id)) ∧
      (tree.removeFilter id).allFilters = tree.allFilters.filter fun filter => filter.id ≠ id) ∧
    (∀ filter : Filter V, (tree.replaceFilter filter).outline = tree.outline.map (Node.mapFilters
        (List.map fun other => if other.id = filter.id then filter else other)) ∧
      (tree.replaceFilter filter).allFilters =
        tree.allFilters.map fun other => if other.id = filter.id then filter else other) ∧
    (∀ id, (tree.removeBlock id).outline = tree.outline.filter (fun node => id ∉ node.trail) ∧
      (tree.removeBlock id).allFilters =
        (tree.outline.filter fun node => id ∉ node.trail).flatMap Node.filters ∧
      (tree.removeBlock id).outline.head? = tree.outline.head? ∧
      ∀ node ∈ (tree.removeBlock id).outline.tail, node.id ≠ id) ∧
    (∀ id, tree.find? id = none → (∀ filter, tree.addFilter id filter = tree) ∧
      (∀ child, tree.addBlock id child = tree) ∧ ∀ op, tree.setOperator id op = tree) ∧
    (∀ id found, tree.find? id = some found → found.id = id ∧
      (∀ filter, DifferAtFirst id found { found with filters := found.filters ++ [filter] }
        tree.outline (tree.addFilter id filter).outline) ∧
      (∀ child, DifferAtFirst id found { found with blocks := found.blocks ++ [child] }
        tree.outline (tree.addBlock id child).outline) ∧
      ∀ op, DifferAtFirst id found { found with op } tree.outline (tree.setOperator id op).outline) ∧
    ∀ id, tree.findFilter? id = tree.allFilters.find? fun filter => filter.id == id := by
  refine ⟨?known, ?removed, ?replaced, ?blocks, ?missing, ?found, ?search⟩
  case known => exact fun other same => outline_injective same
  case removed => exact fun id => ⟨outline_removeFilter id tree, allFilters_removeFilter id tree⟩
  case replaced =>
    exact fun filter => ⟨outline_replaceFilter filter tree, allFilters_replaceFilter filter tree⟩
  case blocks =>
    intro id
    have left := outline_removeBlock id tree
    refine ⟨left, ?_, head?_outline_removeBlock id tree, id_ne_of_removeBlock id tree⟩
    rw [← left]
    exact allFilters_eq_flatMap [] (tree.removeBlock id)
  case missing =>
    intro id missing
    refine ⟨fun filter => ?_, fun child => ?_, fun op => ?_⟩
    · exact editFirst_of_find?_eq_none missing
    · exact editFirst_of_find?_eq_none missing
    · exact editFirst_of_find?_eq_none missing
  case found =>
    intro id found known
    refine ⟨id_of_find? tree known, fun filter => ?_, fun child => ?_, fun op => ?_⟩
    · exact editFirst_of_find? (fun block => { block with filters := block.filters ++ [filter] })
        (fun _ => rfl) known
    · exact editFirst_of_find? (fun block => { block with blocks := block.blocks ++ [child] })
        (fun _ => rfl) known
    · exact editFirst_of_find? (fun block => { block with op }) (fun _ => rfl) known
  case search => exact fun id => findFilter?_eq_find? id tree

end DashboardFilters.Block

namespace DashboardFilters.Sample

/-- The first of two blocks of one identifier, with another one inside. -/
def twin : Block Value where
  id := "twin"
  filters := [{ id := "kept", column := "id", predicate := .isNull }]
  blocks := [{ id := "twin", op := .or }]

/-- A tree in which an identifier comes three times. -/
def twins : Block Value where
  id := "root"
  filters := [{ id := "kept", column := "id", predicate := .isNotNull }]
  blocks := [twin, { id := "twin" }]

end DashboardFilters.Sample

namespace DashboardFilters.Block

open Sample

/-- Of three blocks of one identifier the first one is found and changed, and removing them leaves
the root alone. -/
theorem edits_meet_first_twin :
    (twins.find? "twin" = some twin ∧
      ∀ op, DifferAtFirst "twin" twin { twin with op } twins.outline
        (twins.setOperator "twin" op).outline) ∧
    (twins.find? "gone" = none ∧ ∀ child, twins.addBlock "gone" child = twins) ∧
    (twins.removeBlock "twin").outline = [⟨[], "root", .and, twins.filters⟩] := by
  obtain ⟨-, -, -, removed, missing, found, -⟩ := edits_meet_targets twins
  exact ⟨⟨rfl, (found "twin" twin rfl).2.2.2⟩, ⟨rfl, (missing "gone" rfl).2.1⟩,
    (removed "twin").1.trans rfl⟩

end DashboardFilters.Block
