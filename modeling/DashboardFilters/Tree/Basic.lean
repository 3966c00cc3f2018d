import DashboardFilters.Operator
import DashboardFilters.Temporal.Period
import DashboardFilters.Value

namespace DashboardFilters

/-- A picked value, or an expression that is evaluated later. -/
inductive Operand (V : Type) where
  | value (value : V)
  | manual (expression : String)
  deriving BEq, DecidableEq, Repr

def Operand.isManual {V : Type} : Operand V → Bool
  | .value _ => false
  | .manual _ => true

inductive Range (V : Type) where
  | fixed (left right : Operand V)
  | relative (relative : RelativePeriod)
  deriving BEq, DecidableEq, Repr

/-- What a filter tests. -/
inductive Predicate (V : Type) where
  | isNull
  | isNotNull
  | compare (op : CompareOp) (operand : Operand V)
  | between (range : Range V)
  /-- The list stays as the user typed it, with commas between its items. -/
  | list (op : ListOp) (values : String)
  deriving BEq, DecidableEq, Repr

/-- The operator of a predicate; no predicate fits two of them. -/
def Predicate.operator {V : Type} : Predicate V → Operator
  | .isNull => .isNull
  | .isNotNull => .isNotNull
  | .compare op _ => op.operator
  | .between _ => .between
  | .list op _ => op.operator

/-- A predicate on a column, outside of any tree. -/
structure Selector (V : Type) where
  column : String
  predicate : Predicate V
  deriving BEq, DecidableEq, Repr

/-- A predicate on a column, as a leaf of a tree. -/
structure Filter (V : Type) where
  id : String
  column : String
  /-- Whether summaries mention the filter. -/
  shown : Bool := true
  predicate : Predicate V
  deriving BEq, DecidableEq, Repr

namespace Filter

variable {V : Type}

def operator (filter : Filter V) : Operator :=
  filter.predicate.operator

/-- The predicate of a filter with its column, outside of its tree. -/
def selector (filter : Filter V) : Selector V :=
  ⟨filter.column, filter.predicate⟩

/-- The filter as one that summaries do not mention. -/
def hidden (filter : Filter V) : Filter V :=
  { filter with shown := false }

end Filter

structure Block (V : Type) where
  id : String
  op : LogicalOp := .and
  filters : List (Filter V) := []
  blocks : List (Block V) := []
  deriving BEq

namespace Block

variable {V : Type}

def bare (id : String) : Block V :=
  { id }

/-- Whether a block has neither filters nor sub-blocks. -/
def isEmpty (block : Block V) : Bool :=
  block.filters.isEmpty && block.blocks.isEmpty

mutual

/-- The first block of an identifier, from the root down. -/
def find? (id : String) : Block V → Option (Block V)
  | ⟨ownId, op, filters, blocks⟩ =>
      if ownId = id then some ⟨ownId, op, filters, blocks⟩ else findIn? id blocks

/-- The first block of an identifier among some blocks and all below them. -/
def findIn? (id : String) : List (Block V) → Option (Block V)
  | [] => none
  | block :: rest => (find? id block).or (findIn? id rest)

end

mutual

/-- The first filter of an identifier: a block's own filters come before those of its
sub-blocks. -/
def findFilter? (id : String) : Block V → Option (Filter V)
  | ⟨_, _, filters, blocks⟩ =>
      (filters.find? fun filter => filter.id == id).or (findFilterIn? id blocks)

/-- The first filter of an identifier in some blocks. -/
def findFilterIn? (id : String) : List (Block V) → Option (Filter V)
  | [] => none
  | block :: rest => (findFilter? id block).or (findFilterIn? id rest)

end

mutual

/-- All filters: a block's own come before those of its sub-blocks. -/
def allFilters : Block V → List (Filter V)
  | ⟨_, _, filters, blocks⟩ => filters ++ allFiltersIn blocks

def allFiltersIn : List (Block V) → List (Filter V)
  | [] => []
  | block :: rest => allFilters block ++ allFiltersIn rest

end

end Block

end DashboardFilters
