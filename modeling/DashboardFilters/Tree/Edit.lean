import DashboardFilters.Tree.Basic

namespace DashboardFilters.Block

variable {V : Type}

mutual

/-- The tree with the first block of an identifier changed; nothing if there is none. -/
def editFirst? (id : String) (edit : Block V → Block V) : Block V → Option (Block V)
  | ⟨ownId, op, filters, blocks⟩ =>
      if ownId = id then some (edit ⟨ownId, op, filters, blocks⟩)
      else (editFirstIn? id edit blocks).map fun edited => ⟨ownId, op, filters, edited⟩

/-- Some blocks with the first one of an identifier changed, also below them. -/
def editFirstIn? (id : String) (edit : Block V → Block V) :
    List (Block V) → Option (List (Block V))
  | [] => none
  | block :: rest =>
      match editFirst? id edit block with
      | some edited => some (edited :: rest)
      | none => (editFirstIn? id edit rest).map (block :: ·)

end

/-- The tree with the first block of an identifier changed, if there is one. -/
def editFirst (id : String) (edit : Block V → Block V) (tree : Block V) : Block V :=
  (editFirst? id edit tree).getD tree

mutual

def mapFilters (change : List (Filter V) → List (Filter V)) : Block V → Block V
  | ⟨id, op, filters, blocks⟩ => ⟨id, op, change filters, mapFiltersIn change blocks⟩

def mapFiltersIn (change : List (Filter V) → List (Filter V)) :
    List (Block V) → List (Block V)
  | [] => []
  | block :: rest => mapFilters change block :: mapFiltersIn change rest

end

mutual

def removeBlock (id : String) : Block V → Block V
  | ⟨ownId, op, filters, blocks⟩ => ⟨ownId, op, filters, removeBlockIn id blocks⟩

/-- Some blocks without those of an identifier, also below them. -/
def removeBlockIn (id : String) : List (Block V) → List (Block V)
  | [] => []
  | ⟨childId, op, filters, blocks⟩ :: rest =>
      if childId = id then removeBlockIn id rest
      else removeBlock id ⟨childId, op, filters, blocks⟩ :: removeBlockIn id rest

end

/-- The filter comes last in its block. -/
def addFilter (blockId : String) (filter : Filter V) (tree : Block V) : Block V :=
  tree.editFirst blockId fun block => { block with filters := block.filters ++ [filter] }

def removeFilter (filterId : String) (tree : Block V) : Block V :=
  tree.mapFilters fun filters => filters.filter fun filter => filter.id ≠ filterId

/-- The filter takes the place of all those of its identifier. -/
def replaceFilter (filter : Filter V) (tree : Block V) : Block V :=
  tree.mapFilters fun filters =>
    filters.map fun other => if other.id = filter.id then filter else other

/-- The new block comes last in its parent. -/
def addBlock (parentId : String) (tree : Block V) (child : Block V) : Block V :=
  tree.editFirst parentId fun block => { block with blocks := block.blocks ++ [child] }

/-- The tree whose first block of an identifier combines its parts otherwise. -/
def setOperator (blockId : String) (op : LogicalOp) (tree : Block V) : Block V :=
  tree.editFirst blockId fun block => { block with op }

end DashboardFilters.Block
