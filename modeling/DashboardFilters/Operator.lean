import DashboardFilters.Dataset
import DashboardFilters.Failure

namespace DashboardFilters

/-- How a filter tests the values of a column. -/
inductive Operator where
  | eq
  | ne
  | gt
  | gte
  | lt
  | lte
  | between
  | startsWith
  | endsWith
  | contains
  | containsAnyCase
  | notContains
  | notContainsAnyCase
  | isIn
  | notIn
  | isNull
  | isNotNull
  deriving DecidableEq, Repr

namespace Operator

/-- All operators, in the order in which complaints list them. -/
def all : List Operator :=
  [.eq, .ne, .gt, .gte, .lt, .lte, .between, .startsWith, .endsWith, .contains, .containsAnyCase,
    .notContains, .notContainsAnyCase, .isIn, .notIn, .isNull, .isNotNull]

/-- The name in expressions and stored filters. -/
def wire : Operator → String
  | .eq => "$eq"
  | .ne => "$ne"
  | .gt => "$gt"
  | .gte => "$gte"
  | .lt => "$lt"
  | .lte => "$lte"
  | .between => "$between"
  | .startsWith => "$startsWith"
  | .endsWith => "$endsWith"
  | .contains => "$contains"
  | .containsAnyCase => "$containsi"
  | .notContains => "$notContains"
  | .notContainsAnyCase => "$notContainsi"
  | .isIn => "$in"
  | .notIn => "$notIn"
  | .isNull => "$null"
  | .isNotNull => "$notNull"

def ofWire? (name : String) : Option Operator :=
  all.find? fun operator => operator.wire == name

def title : Operator → String
  | .eq => "="
  | .ne => "!="
  | .gt => ">"
  | .gte => ">="
  | .lt => "<"
  | .lte => "<="
  | .between => "between"
  | .startsWith => "starts with"
  | .endsWith => "ends with"
  | .contains => "contains"
  | .containsAnyCase => "contains (case-insensitive)"
  | .notContains => "does not contain"
  | .notContainsAnyCase => "does not contain (case-insensitive)"
  | .isIn => "in"
  | .notIn => "not in"
  | .isNull => "null"
  | .isNotNull => "not null"

/-- Operators without an operand. -/
def isNullCheck : Operator → Bool
  | .isNull | .isNotNull => true
  | _ => false

def read {m : Type → Type} [Reading.Source m] : m Operator :=
  Reading.Source.variant (all.map fun operator => (operator.wire, operator))

/-- Texts are tested for equality and for parts. -/
def ofStringLike : List Operator :=
  [.eq, .ne, .startsWith, .endsWith, .contains, .containsAnyCase, .notContains,
    .notContainsAnyCase, .isIn, .notIn, .isNull, .isNotNull]

/-- Numbers are tested for equality and order. -/
def ofNumeric : List Operator :=
  [.eq, .ne, .gt, .gte, .lt, .lte, .between, .isIn, .notIn, .isNull, .isNotNull]

/-- Dates and times are tested for equality and order. -/
def ofTemporal : List Operator :=
  [.eq, .ne, .gt, .gte, .lt, .lte, .between, .isNull, .isNotNull]

/-- Truth values are tested for equality alone. -/
def ofBoolean : List Operator :=
  [.eq, .ne, .isNull, .isNotNull]

end Operator

def ColumnType.operators (type : ColumnType) : Except Failure (List Operator) :=
  match type.category? with
  | some .stringLike => .ok Operator.ofStringLike
  | some .numeric => .ok Operator.ofNumeric
  | some .temporal => .ok Operator.ofTemporal
  | some .boolean => .ok Operator.ofBoolean
  | none => .error (.illegalType type.name)

def Dataset.lookup (dataset : Dataset) (name : String) : Except Failure Column :=
  match dataset.column? name with
  | some column => .ok column
  | none => .error (.columnNotFound name)

/-- Operators that compare a column with one operand. -/
inductive CompareOp where
  | eq
  | ne
  | gt
  | gte
  | lt
  | lte
  | startsWith
  | endsWith
  | contains
  | containsAnyCase
  | notContains
  | notContainsAnyCase
  deriving DecidableEq, Repr

namespace CompareOp

def operator : CompareOp → Operator
  | .eq => .eq
  | .ne => .ne
  | .gt => .gt
  | .gte => .gte
  | .lt => .lt
  | .lte => .lte
  | .startsWith => .startsWith
  | .endsWith => .endsWith
  | .contains => .contains
  | .containsAnyCase => .containsAnyCase
  | .notContains => .notContains
  | .notContainsAnyCase => .notContainsAnyCase

/-- The comparison that an operator is, if it is one. -/
def ofOperator? : Operator → Option CompareOp
  | .eq => some .eq
  | .ne => some .ne
  | .gt => some .gt
  | .gte => some .gte
  | .lt => some .lt
  | .lte => some .lte
  | .startsWith => some .startsWith
  | .endsWith => some .endsWith
  | .contains => some .contains
  | .containsAnyCase => some .containsAnyCase
  | .notContains => some .notContains
  | .notContainsAnyCase => some .notContainsAnyCase
  | _ => none

/-- Comparisons for equality and order, whose operand is a value of the column. -/
def isSingleValueComparison : CompareOp → Bool
  | .eq | .ne | .gt | .gte | .lt | .lte => true
  | _ => false

/-- Every comparison is found again from its operator. -/
theorem ofOperator?_operator (op : CompareOp) : ofOperator? op.operator = some op := by
  cases op <;> rfl

end CompareOp

/-- Operators that look for a column's value in a list. -/
inductive ListOp where
  | isIn
  | notIn
  deriving DecidableEq, Repr

namespace ListOp

/-- The operator that a test for membership is. -/
def operator : ListOp → Operator
  | .isIn => .isIn
  | .notIn => .notIn

/-- The test for membership that an operator is, if it is one. -/
def ofOperator? : Operator → Option ListOp
  | .isIn => some .isIn
  | .notIn => some .notIn
  | _ => none

end ListOp

/-- How a block combines its filters and sub-blocks. -/
inductive LogicalOp where
  | and
  | or
  deriving DecidableEq, Repr

namespace LogicalOp

def name : LogicalOp → String
  | .and => "AND"
  | .or => "OR"

def title : LogicalOp → String
  | .and => "and"
  | .or => "or"

/-- The names in stored trees, both spellings of each. -/
def variants : List (String × LogicalOp) :=
  [("AND", .and), ("and", .and), ("OR", .or), ("or", .or)]

def read {m : Type → Type} [Reading.Source m] : m LogicalOp :=
  Reading.Source.variant variants

end LogicalOp

end DashboardFilters
