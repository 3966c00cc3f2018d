import DashboardFilters.Proofs.Tree.Blocks
import DashboardFilters.Tree.Ids
import Mathlib.Data.List.Perm.Subperm

namespace DashboardFilters

variable {V : Type}

namespace IdSequence

/-- The number of an identifier can be read off it, whatever its stem looks like. -/
theorem idAt_inj {stem : String} {number other : Nat} :
    idAt stem number = idAt stem other ↔ number = other := by
  constructor
  · intro same
    rw [idAt, idAt, String.append_right_inj, Nat.toString_eq_repr, Nat.toString_eq_repr,
      Nat.repr_eq_ofList_toDigits, Nat.repr_eq_ofList_toDigits, String.ofList_inj] at same
    have value := congrArg (fun digits => Nat.ofDigitChars 10 digits 0) same
    simpa only [Nat.ofDigitChars_toDigits (by decide : 1 < 10) (by decide : 10 ≤ 10)] using value
  · rintro rfl
    rfl

/-- Whether an identifier is among those that are given out first. -/
def Drawn (stem : String) (count : Nat) (id : String) : Prop :=
  ∃ number, 1 ≤ number ∧ number ≤ count ∧ id = idAt stem number

/-- The identifier that comes next has not been given out. -/
theorem not_drawn_next (stem : String) (count : Nat) :
    ¬ Drawn stem count (idAt stem (count + 1)) := by
  rintro ⟨number, -, earlier, same⟩
  have next := idAt_inj.mp same
  omega

end IdSequence

namespace Block

theorem allBlocksIn_append (blocks others : List (Block V)) :
    allBlocksIn (blocks ++ others) = allBlocksIn blocks ++ allBlocksIn others := by
  induction blocks with
  | nil => rfl
  | cons block rest ih => rw [List.cons_append, allBlocksIn, allBlocksIn, ih, List.append_assoc]

theorem blockIds_mapFilters (change : List (Filter V) → List (Filter V)) (tree : Block V) :
    (tree.mapFilters change).blockIds = tree.blockIds := by
  rw [← ids_outline, outline, outlineFrom_mapFilters, List.map_map, ← ids_outline]
  rfl

theorem blockIds_removeBlock (id : String) (tree : Block V) :
    (tree.removeBlock id).blockIds.Sublist tree.blockIds := by
  rw [← ids_outline, ← ids_outline, outline_removeBlock]
  exact List.filter_sublist.map Node.id

/-- Changing a block that is found adds at most the identifiers that the change of a block adds. -/
theorem blockIds_editFirst (change : Block V → Block V) (added : List String)
    (keeps : ∀ block, (change block).id = block.id)
    (grows : ∀ block, (change block).blockIds.Perm (added ++ block.blockIds))
    (id : String) (tree : Block V) :
    (tree.editFirst id change).blockIds.Subperm (added ++ tree.blockIds) := by
  cases known : tree.find? id with
  | none =>
      rw [editFirst_of_find?_eq_none known]
      exact (List.sublist_append_right added tree.blockIds).subperm
  | some found =>
      obtain ⟨ahead, trail, behind, -, before, after⟩ := editFirst_of_find? change keeps known
      apply List.Perm.subperm
      rw [← ids_outline, ← ids_outline, before, after]
      simp only [List.map_append, ids_outlineFrom]
      calc
        (ahead.map Node.id ++ (change found).blockIds ++ behind.map Node.id).Perm
            (ahead.map Node.id ++ (added ++ found.blockIds) ++ behind.map Node.id) :=
          ((grows found).append_left _).append_right _
        _ = ahead.map Node.id ++ added ++ (found.blockIds ++ behind.map Node.id) := by
          simp only [List.append_assoc]
        (ahead.map Node.id ++ added ++ (found.blockIds ++ behind.map Node.id)).Perm
            (added ++ ahead.map Node.id ++ (found.blockIds ++ behind.map Node.id)) :=
          List.perm_append_comm.append_right _
        _ = added ++ (ahead.map Node.id ++ found.blockIds ++ behind.map Node.id) := by
          simp only [List.append_assoc]

theorem blockIds_addFilter (id : String) (filter : Filter V) (tree : Block V) :
    (tree.addFilter id filter).blockIds.Subperm tree.blockIds := by
  apply blockIds_editFirst (fun block => { block with filters := block.filters ++ [filter] }) []
    (fun _ => rfl)
  intro block
  rw [List.nil_append, blockIds_eq_cons, blockIds_eq_cons block]

theorem blockIds_setOperator (id : String) (op : LogicalOp) (tree : Block V) :
    (tree.setOperator id op).blockIds.Subperm tree.blockIds := by
  apply blockIds_editFirst (fun block => { block with op }) [] (fun _ => rfl)
  intro block
  rw [List.nil_append, blockIds_eq_cons, blockIds_eq_cons block]

/-- A new block adds at most its own identifiers. -/
theorem blockIds_addBlock (id : String) (tree child : Block V) :
    (tree.addBlock id child).blockIds.Subperm (child.blockIds ++ tree.blockIds) := by
  apply blockIds_editFirst (fun block => { block with blocks := block.blocks ++ [child] })
    child.blockIds (fun _ => rfl)
  intro block
  have single : allBlocksIn [child] = child.allBlocks := List.append_nil _
  rw [blockIds_eq_cons, blockIds_eq_cons block, allBlocksIn_append, single, List.map_append]
  exact (List.perm_append_comm.cons block.id).trans List.perm_middle.symm

end Block

/-- A change of a tree by its user. -/
inductive Edit (V : Type) where
  | addFilter (block : String) (filter : Filter V)
  | removeFilter (filter : String)
  | replaceFilter (filter : Filter V)
  | setOperator (block : String) (op : LogicalOp)
  | removeBlock (block : String)
  /-- Draws an identifier for a fresh block, which stands ready from then on. -/
  | drawBlock
  /-- Adds one of the blocks that stand ready below a parent. The block is used up also if there is
  no such parent. -/
  | addBlock (parent : String) (place : Nat)

def Edit.draws : Edit V → Bool
  | .drawBlock => true
  | _ => false

/-- A tree that is being edited, the source of its identifiers, and the fresh blocks that stand
ready. -/
structure Editor (V : Type) where
  tree : Block V
  ids : IdSequence
  ready : List (Block V) := []

namespace Editor

def start (stem : String) : Editor V :=
  let (tree, ids) := Block.fresh { stem }
  { tree, ids }

def apply (editor : Editor V) : Edit V → Editor V
  | .addFilter block filter => { editor with tree := editor.tree.addFilter block filter }
  | .removeFilter filter => { editor with tree := editor.tree.removeFilter filter }
  | .replaceFilter filter => { editor with tree := editor.tree.replaceFilter filter }
  | .setOperator block op => { editor with tree := editor.tree.setOperator block op }
  | .removeBlock block => { editor with tree := editor.tree.removeBlock block }
  | .drawBlock =>
      let (block, ids) := Block.fresh editor.ids
      { editor with ids, ready := editor.ready ++ [block] }
  | .addBlock parent place =>
      match editor.ready[place]? with
      | some block =>
          { editor with
            tree := editor.tree.addBlock parent block
            ready := editor.ready.eraseIdx place }
      | none => editor

def run (editor : Editor V) (edits : List (Edit V)) : Editor V :=
  edits.foldl apply editor

/-- The identifiers of all blocks, of those in the tree and of those that stand ready. -/
def blockIds (editor : Editor V) : List String :=
  editor.tree.blockIds ++ editor.ready.flatMap Block.blockIds

/-- Whether all identifiers are distinct and among so many that the source has given out. -/
structure Numbered (editor : Editor V) (stem : String) (count : Nat) : Prop where
  source : editor.ids = { stem, next := .ofNat (count + 1) }
  distinct : editor.blockIds.Nodup
  drawn : ∀ id ∈ editor.blockIds, IdSequence.Drawn stem count id

variable {editor next : Editor V} {stem : String} {count : Nat}

/-- An edit that adds no identifier leaves them distinct and drawn. -/
theorem Numbered.of_subperm (numbered : editor.Numbered stem count)
    (fewer : next.blockIds.Subperm editor.blockIds) (same : next.ids = editor.ids) :
    next.Numbered stem count := by
  obtain ⟨kept, reordered, inside⟩ := fewer
  refine ⟨same.trans numbered.source, ?_, ?_⟩
  · exact reordered.nodup_iff.mp (numbered.distinct.sublist inside)
  · intro id member
    exact numbered.drawn id (inside.subset (reordered.mem_iff.mpr member))

/-- The identifier of a fresh block differs from those that have been drawn before, as long as there
are numbers left. -/
theorem Numbered.drawBlock (numbered : editor.Numbered stem count) (few : count + 1 < UInt64.size) :
    (editor.apply .drawBlock).Numbered stem (count + 1) := by
  have number : (UInt64.ofNat (count + 1)).toNat = count + 1 := UInt64.toNat_ofNat_of_lt' few
  have ids : (editor.apply .drawBlock).blockIds =
      editor.blockIds ++ [IdSequence.idAt stem (count + 1)] := by
    rw [← number]
    simp only [blockIds, apply, Block.fresh, IdSequence.draw, numbered.source,
      List.flatMap_append, List.append_assoc]
    rfl
  refine ⟨?_, ?_, ?_⟩
  · simp only [apply, Block.fresh, IdSequence.draw, numbered.source, UInt64.ofNat_add]
    rfl
  · rw [ids, List.nodup_append]
    refine ⟨numbered.distinct, List.nodup_singleton _, ?_⟩
    intro id member other last
    obtain rfl := List.mem_singleton.mp last
    rintro rfl
    exact IdSequence.not_drawn_next stem count (numbered.drawn _ member)
  · rw [ids, List.forall_mem_append, List.forall_mem_singleton]
    constructor
    · intro id member
      obtain ⟨number, positive, earlier, known⟩ := numbered.drawn id member
      exact ⟨number, positive, Nat.le_succ_of_le earlier, known⟩
    · exact ⟨count + 1, Nat.le_add_left 1 count, Nat.le_refl _, rfl⟩

/-- A block that stood ready has its identifiers in the tree, or nowhere. -/
theorem blockIds_apply_addBlock (editor : Editor V) (parent : String) (place : Nat) :
    (editor.apply (.addBlock parent place)).blockIds.Subperm editor.blockIds := by
  rw [apply]
  split
  next block known =>
    obtain ⟨inside, rfl⟩ := List.getElem?_eq_some_iff.mp known
    have taken := (List.getElem_cons_eraseIdx_perm inside).flatMap_right Block.blockIds
    rw [List.flatMap_cons] at taken
    have added := Block.blockIds_addBlock parent editor.tree editor.ready[place]
    refine ((List.subperm_append_right _).mpr added).trans (List.Perm.subperm ?_)
    calc
      (editor.ready[place].blockIds ++ editor.tree.blockIds ++
          (editor.ready.eraseIdx place).flatMap Block.blockIds).Perm
          (editor.tree.blockIds ++ editor.ready[place].blockIds ++
            (editor.ready.eraseIdx place).flatMap Block.blockIds) :=
        List.perm_append_comm.append_right _
      _ = editor.tree.blockIds ++ (editor.ready[place].blockIds ++
            (editor.ready.eraseIdx place).flatMap Block.blockIds) := List.append_assoc _ _ _
      (editor.tree.blockIds ++ (editor.ready[place].blockIds ++
          (editor.ready.eraseIdx place).flatMap Block.blockIds)).Perm editor.blockIds :=
        taken.append_left _
  next => exact List.Subperm.refl _

/-- Every edit leaves the identifiers distinct and drawn. -/
theorem Numbered.apply (numbered : editor.Numbered stem count) (edit : Edit V)
    (few : count + (if edit.draws then 1 else 0) < UInt64.size) :
    (editor.apply edit).Numbered stem (count + if edit.draws then 1 else 0) := by
  cases edit with
  | drawBlock => exact numbered.drawBlock few
  | addBlock parent place =>
      refine numbered.of_subperm (editor.blockIds_apply_addBlock parent place) ?_
      rw [Editor.apply]
      split <;> rfl
  | addFilter block filter =>
      have fewer := editor.tree.blockIds_addFilter block filter
      exact numbered.of_subperm ((List.subperm_append_right _).mpr fewer) rfl
  | setOperator block op =>
      have fewer := editor.tree.blockIds_setOperator block op
      exact numbered.of_subperm ((List.subperm_append_right _).mpr fewer) rfl
  | removeBlock block =>
      have fewer := (editor.tree.blockIds_removeBlock block).subperm
      exact numbered.of_subperm ((List.subperm_append_right _).mpr fewer) rfl
  | removeFilter filter =>
      have same := editor.tree.blockIds_mapFilters (List.filter fun other => other.id ≠ filter)
      exact numbered.of_subperm ((List.subperm_append_right _).mpr (List.Perm.of_eq same).subperm) rfl
  | replaceFilter filter =>
      have same := editor.tree.blockIds_mapFilters
        (List.map fun other => if other.id = filter.id then filter else other)
      exact numbered.of_subperm ((List.subperm_append_right _).mpr (List.Perm.of_eq same).subperm) rfl

/-- Every run of edits leaves the identifiers distinct and drawn. -/
theorem Numbered.run (numbered : editor.Numbered stem count) (edits : List (Edit V))
    (few : count + edits.countP Edit.draws < UInt64.size) :
    (editor.run edits).Numbered stem (count + edits.countP Edit.draws) := by
  induction edits generalizing editor count with
  | nil => exact numbered
  | cons edit rest ih =>
      have total : count + (edit :: rest).countP Edit.draws =
          count + (if edit.draws then 1 else 0) + rest.countP Edit.draws := by
        rw [List.countP_cons, Nat.add_assoc, Nat.add_comm (ite _ _ _)]
      rw [total] at few ⊢
      exact ih (numbered.apply edit (Nat.lt_of_le_of_lt (Nat.le_add_right _ _) few)) few

end Editor

namespace Sample

end Sample

open Sample

end DashboardFilters
