import DashboardFilters.Tree.Edit

/-!
The outline of a tree: its blocks from the root down, each with the way to it. A tree is known by its
outline, so that what becomes of the outline tells all that an edit does to the tree.
-/

namespace DashboardFilters

/-- A block without its sub-blocks, and the way to it. -/
structure Node (V : Type) where
  /-- The identifiers from just below the root down to the block itself; none for the root. -/
  trail : List String
  id : String
  op : LogicalOp
  filters : List (Filter V)

def Node.mapFilters {V : Type} (change : List (Filter V) → List (Filter V)) (node : Node V) :
    Node V :=
  { node with filters := change node.filters }

namespace Block

variable {V : Type}

mutual

/-- The outline of a block at the end of a trail. -/
def outlineFrom (trail : List String) : Block V → List (Node V)
  | ⟨id, op, filters, blocks⟩ => ⟨trail, id, op, filters⟩ :: outlineIn trail blocks

/-- The outline of the sub-blocks of a block at the end of a trail. -/
def outlineIn (trail : List String) : List (Block V) → List (Node V)
  | [] => []
  | block :: rest => outlineFrom (trail ++ [block.id]) block ++ outlineIn trail rest

end

/-- The blocks of a tree from the root down. -/
def outline (tree : Block V) : List (Node V) :=
  tree.outlineFrom []

/-- The root comes first, and its sub-blocks follow. -/
theorem outlineFrom_eq_cons (trail : List String) (block : Block V) :
    block.outlineFrom trail =
      ⟨trail, block.id, block.op, block.filters⟩ :: outlineIn trail block.blocks := by
  obtain ⟨id, op, filters, blocks⟩ := block
  rw [outlineFrom]

section Trails

mutual

/-- The way to a block of a tree begins with the way to the tree. -/
theorem trail_isPrefix (trail : List String) : ∀ block : Block V,
    ∀ node ∈ block.outlineFrom trail, trail <+: node.trail
  | ⟨id, op, filters, blocks⟩ => by
      rw [outlineFrom, List.forall_mem_cons]
      refine ⟨List.prefix_rfl, fun node inside => ?_⟩
      obtain ⟨name, begins⟩ := trail_isPrefix_in trail blocks node inside
      exact (List.prefix_append trail [name]).trans begins

/-- The way to a block below another goes on for at least one identifier. -/
theorem trail_isPrefix_in (trail : List String) : ∀ blocks : List (Block V),
    ∀ node ∈ outlineIn trail blocks, ∃ name, trail ++ [name] <+: node.trail
  | [] => by
      rw [outlineIn]
      exact List.forall_mem_nil _
  | block :: rest => by
      rw [outlineIn, List.forall_mem_append]
      refine ⟨fun node inside => ⟨block.id, ?_⟩, trail_isPrefix_in trail rest⟩
      exact trail_isPrefix (trail ++ [block.id]) block node inside

end

mutual

/-- The way to a block ends with the identifier of the block, as long as the way to the tree does. -/
theorem id_mem_trail (trail : List String) : ∀ block : Block V, block.id ∈ trail →
    ∀ node ∈ block.outlineFrom trail, node.id ∈ node.trail
  | ⟨id, op, filters, blocks⟩, named => by
      rw [outlineFrom, List.forall_mem_cons]
      exact ⟨named, id_mem_trail_in trail blocks⟩

/-- The way to a block below another ends with the identifier of the block. -/
theorem id_mem_trail_in (trail : List String) : ∀ blocks : List (Block V),
    ∀ node ∈ outlineIn trail blocks, node.id ∈ node.trail
  | [] => by
      rw [outlineIn]
      exact List.forall_mem_nil _
  | block :: rest => by
      have named : block.id ∈ trail ++ [block.id] := by simp
      rw [outlineIn, List.forall_mem_append]
      exact ⟨id_mem_trail _ block named, id_mem_trail_in trail rest⟩

end

end Trails

section Injectivity

/-- Whether the next of some nodes is at most so deep below the root. -/
def Shallow (depth : Nat) (nodes : List (Node V)) : Prop :=
  ∀ node ∈ nodes.head?, node.trail.length ≤ depth

/-- What follows some trees is no deeper than they are. -/
theorem shallow_outlineIn {trail : List String} {after : List (Node V)}
    (shallow : Shallow trail.length after) (blocks : List (Block V)) :
    Shallow (trail.length + 1) (outlineIn trail blocks ++ after) := by
  cases blocks with
  | nil =>
      intro node first
      rw [outlineIn, List.nil_append] at first
      exact Nat.le_succ_of_le (shallow node first)
  | cons block rest =>
      intro node first
      rw [outlineIn, outlineFrom_eq_cons, List.cons_append, List.cons_append, List.head?_cons,
        Option.mem_some_iff] at first
      subst first
      simp

theorem not_shallow_subBlock (trail : List String) (name : String) (block : Block V)
    (after : List (Node V)) :
    ¬ Shallow trail.length (block.outlineFrom (trail ++ [name]) ++ after) := by
  intro shallow
  rw [outlineFrom_eq_cons, List.cons_append] at shallow
  have deep := shallow _ rfl
  rw [List.length_append, List.length_singleton] at deep
  exact Nat.not_succ_le_self _ deep

mutual

/-- A tree is known by its outline, also in front of other nodes that are less deep. -/
theorem eq_of_outlineFrom {trail : List String} : ∀ (block other : Block V)
    {after behind : List (Node V)}, Shallow trail.length after → Shallow trail.length behind →
    block.outlineFrom trail ++ after = other.outlineFrom trail ++ behind →
      block = other ∧ after = behind
  | ⟨id, op, filters, blocks⟩, ⟨id', op', filters', blocks'⟩, after, behind, shallow, low, same => by
      rw [outlineFrom, outlineFrom, List.cons_append, List.cons_append, List.cons.injEq,
        Node.mk.injEq] at same
      obtain ⟨⟨-, rfl, rfl, rfl⟩, below⟩ := same
      obtain ⟨rfl, rest⟩ := eq_of_outlineIn blocks blocks' shallow low below
      exact ⟨rfl, rest⟩

/-- Some trees beside each other are known by their outlines. -/
theorem eq_of_outlineIn {trail : List String} : ∀ (blocks others : List (Block V))
    {after behind : List (Node V)}, Shallow trail.length after → Shallow trail.length behind →
    outlineIn trail blocks ++ after = outlineIn trail others ++ behind →
      blocks = others ∧ after = behind
  | [], [], _, _, _, _, same => by
      simpa [outlineIn] using same
  | [], other :: others, after, behind, shallow, _, same => by
      rw [outlineIn, outlineIn, List.nil_append, List.append_assoc] at same
      exact absurd (same ▸ shallow) (not_shallow_subBlock trail other.id other _)
  | block :: rest, [], after, behind, _, low, same => by
      rw [outlineIn, outlineIn, List.nil_append, List.append_assoc] at same
      exact absurd (same ▸ low) (not_shallow_subBlock trail block.id block _)
  | block :: rest, other :: others, after, behind, shallow, low, same => by
      rw [outlineIn, outlineIn, List.append_assoc, List.append_assoc] at same
      have named : block.id = other.id := by
        rw [outlineFrom_eq_cons, outlineFrom_eq_cons, List.cons_append, List.cons_append,
          List.cons.injEq, Node.mk.injEq] at same
        exact same.1.2.1
      rw [named] at same
      have length : (trail ++ [other.id]).length = trail.length + 1 := by simp
      obtain ⟨rfl, following⟩ := eq_of_outlineFrom block other
        (length ▸ shallow_outlineIn shallow rest) (length ▸ shallow_outlineIn low others) same
      obtain ⟨rfl, last⟩ := eq_of_outlineIn rest others shallow low following
      exact ⟨rfl, last⟩

end

/-- A tree is known by its outline. -/
theorem outline_injective : Function.Injective (outline : Block V → List (Node V)) := by
  intro tree other same
  have shallow : Shallow ([] : List String).length ([] : List (Node V)) := by
    intro node first
    cases first
  refine (eq_of_outlineFrom tree other shallow shallow ?_).1
  rw [List.append_nil, List.append_nil]
  exact same

end Injectivity

section Filters

mutual

/-- The filters of a tree are those of its blocks, from the root down. -/
theorem allFilters_eq_flatMap (trail : List String) : ∀ block : Block V,
    block.allFilters = (block.outlineFrom trail).flatMap Node.filters
  | ⟨id, op, filters, blocks⟩ => by
      rw [allFilters, outlineFrom, List.flatMap_cons, allFiltersIn_eq_flatMap trail blocks]

theorem allFiltersIn_eq_flatMap (trail : List String) : ∀ blocks : List (Block V),
    allFiltersIn blocks = (outlineIn trail blocks).flatMap Node.filters
  | [] => by rw [allFiltersIn, outlineIn, List.flatMap_nil]
  | block :: rest => by
      rw [allFiltersIn, outlineIn, List.flatMap_append, allFilters_eq_flatMap (trail ++ [block.id]),
        allFiltersIn_eq_flatMap trail rest]

end

theorem id_mapFilters (change : List (Filter V) → List (Filter V)) (block : Block V) :
    (block.mapFilters change).id = block.id := by
  obtain ⟨id, op, filters, blocks⟩ := block
  rw [mapFilters]

mutual

/-- Changing the filters of a tree changes those of each block. -/
theorem outlineFrom_mapFilters (change : List (Filter V) → List (Filter V)) (trail : List String) :
    ∀ block : Block V, (block.mapFilters change).outlineFrom trail =
      (block.outlineFrom trail).map (Node.mapFilters change)
  | ⟨id, op, filters, blocks⟩ => by
      rw [mapFilters, outlineFrom, outlineFrom, List.map_cons, outlineIn_mapFiltersIn]
      rfl

theorem outlineIn_mapFiltersIn (change : List (Filter V) → List (Filter V)) (trail : List String) :
    ∀ blocks : List (Block V), outlineIn trail (mapFiltersIn change blocks) =
      (outlineIn trail blocks).map (Node.mapFilters change)
  | [] => by rw [mapFiltersIn, outlineIn, List.map_nil]
  | block :: rest => by
      rw [mapFiltersIn, outlineIn, outlineIn, id_mapFilters, outlineFrom_mapFilters,
        outlineIn_mapFiltersIn change trail rest, List.map_append]

end

end Filters

end Block

end DashboardFilters
