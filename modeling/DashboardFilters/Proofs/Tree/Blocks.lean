import DashboardFilters.Proofs.Tree.Edits
import Mathlib.Data.List.Nodup

namespace DashboardFilters.Block

variable {V : Type}

mutual

/-- The blocks of a tree from the root down, each with everything inside it. -/
def allBlocks : Block V → List (Block V)
  | ⟨id, op, filters, blocks⟩ => ⟨id, op, filters, blocks⟩ :: allBlocksIn blocks

def allBlocksIn : List (Block V) → List (Block V)
  | [] => []
  | block :: rest => allBlocks block ++ allBlocksIn rest

end

/-- The identifiers of all blocks of a tree, as often as they come. -/
def blockIds (tree : Block V) : List String :=
  tree.allBlocks.map Block.id

theorem allBlocks_eq_cons (block : Block V) :
    block.allBlocks = block :: allBlocksIn block.blocks := by
  obtain ⟨id, op, filters, blocks⟩ := block
  rw [allBlocks]

theorem blockIds_eq_cons (block : Block V) :
    block.blockIds = block.id :: (allBlocksIn block.blocks).map Block.id := by
  rw [blockIds, allBlocks_eq_cons, List.map_cons]

section Outline

mutual

theorem ids_outlineFrom (trail : List String) : ∀ block : Block V,
    (block.outlineFrom trail).map Node.id = block.blockIds
  | ⟨id, op, filters, blocks⟩ => by
      rw [outlineFrom, List.map_cons, ids_outlineIn trail blocks, blockIds_eq_cons]

theorem ids_outlineIn (trail : List String) : ∀ blocks : List (Block V),
    (outlineIn trail blocks).map Node.id = (allBlocksIn blocks).map Block.id
  | [] => by rw [outlineIn, allBlocksIn, List.map_nil, List.map_nil]
  | block :: rest => by
      rw [outlineIn, allBlocksIn, List.map_append, List.map_append,
        ids_outlineFrom (trail ++ [block.id]) block, ids_outlineIn trail rest, blockIds]

end

theorem ids_outline (tree : Block V) : tree.outline.map Node.id = tree.blockIds :=
  ids_outlineFrom [] tree

mutual

/-- The way to a block passes blocks that it lies in. -/
theorem exists_block_of_mem_trail (trail : List String) : ∀ tree : Block V,
    ∀ node ∈ tree.outlineFrom trail, ∀ name ∈ node.trail, name ∈ trail ∨
      ∃ block ∈ allBlocksIn tree.blocks, block.id = name ∧ node.id ∈ block.blockIds
  | ⟨id, op, filters, blocks⟩ => by
      rw [outlineFrom, List.forall_mem_cons]
      exact ⟨fun name passed => Or.inl passed, exists_block_of_mem_trail_in trail blocks⟩

theorem exists_block_of_mem_trail_in (trail : List String) : ∀ blocks : List (Block V),
    ∀ node ∈ outlineIn trail blocks, ∀ name ∈ node.trail, name ∈ trail ∨
      ∃ block ∈ allBlocksIn blocks, block.id = name ∧ node.id ∈ block.blockIds
  | [] => by
      rw [outlineIn]
      exact List.forall_mem_nil _
  | child :: rest => by
      rw [outlineIn, allBlocksIn, allBlocks_eq_cons, List.forall_mem_append]
      constructor
      · intro node inside name passed
        have known : node.id ∈ child.blockIds := by
          rw [← ids_outlineFrom (trail ++ [child.id]) child]
          exact List.mem_map_of_mem inside
        rcases exists_block_of_mem_trail _ child node inside name passed with before | below
        · rw [List.mem_append, List.mem_singleton] at before
          rcases before with before | rfl
          · exact Or.inl before
          · exact Or.inr ⟨child, by simp, rfl, known⟩
        · obtain ⟨block, member, same, within⟩ := below
          exact Or.inr ⟨block, by simp [member], same, within⟩
      · intro node inside name passed
        rcases exists_block_of_mem_trail_in trail rest node inside name passed with before | below
        · exact Or.inl before
        · obtain ⟨block, member, same, within⟩ := below
          exact Or.inr ⟨block, by simp [member], same, within⟩

end

end Outline

section Search

mutual

/-- A search goes through the blocks from the root down. -/
theorem find?_eq_find? (id : String) : ∀ tree : Block V,
    tree.find? id = tree.allBlocks.find? fun block => block.id = id
  | ⟨ownId, op, filters, blocks⟩ => by
      rw [find?, allBlocks, List.find?_cons, findIn?_eq_find? id blocks]
      by_cases same : ownId = id
      · simp [same]
      · simp [same]

theorem findIn?_eq_find? (id : String) : ∀ blocks : List (Block V),
    findIn? id blocks = (allBlocksIn blocks).find? fun block => block.id = id
  | [] => by rw [findIn?, allBlocksIn, List.find?_nil]
  | block :: rest => by
      rw [findIn?, allBlocksIn, List.find?_append, find?_eq_find? id block,
        findIn?_eq_find? id rest]

end

variable {tree : Block V}

/-- Two blocks of one identifier are the same where no identifier comes twice. -/
theorem eq_of_id_eq (distinct : tree.blockIds.Nodup) {block other : Block V}
    (inside : block ∈ tree.allBlocks) (within : other ∈ tree.allBlocks)
    (same : block.id = other.id) : block = other :=
  List.inj_on_of_nodup_map distinct inside within same

/-- A block is found under its identifier where no identifier comes twice. -/
theorem find?_of_mem (distinct : tree.blockIds.Nodup) {block : Block V}
    (inside : block ∈ tree.allBlocks) : tree.find? block.id = some block := by
  rw [find?_eq_find?]
  cases known : tree.allBlocks.find? fun other => other.id = block.id with
  | none => simpa using List.find?_eq_none.mp known block inside
  | some found =>
      have same := List.find?_some known
      rw [decide_eq_true_eq] at same
      rw [eq_of_id_eq distinct (List.mem_of_find?_eq_some known) inside same]

end Search

section Alone

variable {tree block : Block V} {ahead behind : List (Node V)} {trail : List String}

end Alone

end DashboardFilters.Block
