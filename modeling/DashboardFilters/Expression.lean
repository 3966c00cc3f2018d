import DashboardFilters.Keyed
import DashboardFilters.Operator
import DashboardFilters.Value

namespace DashboardFilters

/-- Operators on one column, with their values. -/
abbrev Conditions := List (Operator × Value)

/-- An expression: nested expressions, and conditions on columns. -/
structure Expression where
  /-- The members of `$and`. -/
  all : Option (List Expression) := none
  /-- The members of `$or`. -/
  any : Option (List Expression) := none
  /-- The expression under `$not`. -/
  negated : Option Expression := none
  /-- Columns in the order in which they first came. -/
  columns : List (String × Conditions) := []
  deriving BEq

namespace Expression

def empty : Expression := {}

/-- With a `$and` that has no members: where a compiled block begins. -/
def start : Expression :=
  { all := some [] }

/-- Sets the value of an operator on a column. -/
def insert (column : String) (operator : Operator) (value : Value) (expression : Expression) :
    Expression :=
  { expression with
    columns := Keyed.change column [] (Keyed.put operator value) expression.columns }

def entry (column : String) (operator : Operator) (value : Value) : Expression :=
  empty.insert column operator value

def anyOf (members : List Expression) : Expression :=
  { any := some members }

def negate (inner : Expression) : Expression :=
  { negated := some inner }

/-- The member comes last under `$and`, which comes to be if it is not there. -/
def pushAll (expression : Expression) (member : Expression) : Expression :=
  { expression with all := some (expression.all.getD [] ++ [member]) }

/-- The value of an operator on a column, nested expressions left aside. -/
def get? (column : String) (operator : Operator) (expression : Expression) : Option Value :=
  (Keyed.get? column expression.columns).bind (Keyed.get? operator)

/-- The members of `$and`. -/
def conjuncts (expression : Expression) : List Expression :=
  expression.all.getD []

/-- Adds the columns that have a withheld value and are not listed yet. -/
def listWithheld (columns : List (String × Conditions)) (found : List String) : List String :=
  columns.foldl (fun found column =>
    if (column.2.any fun condition => condition.2.containsWithheld) && column.1 ∉ found then
      found ++ [column.1]
    else found) found

mutual

/-- Adds the columns of an expression that have a withheld value: its own first, then those of
nested expressions. -/
def collectWithheld : Expression → List String → List String
  | ⟨all, any, negated, columns⟩, found =>
      collectNegated negated
        (collectMembers any (collectMembers all (listWithheld columns found)))

/-- Adds the columns of nested expressions, if there are any. -/
def collectMembers : Option (List Expression) → List String → List String
  | none, found => found
  | some members, found => collectList members found

/-- Adds the columns of nested expressions, from the first to the last. -/
def collectList : List Expression → List String → List String
  | [], found => found
  | member :: rest, found => collectList rest (collectWithheld member found)

/-- Adds the columns of a negated expression, if there is one. -/
def collectNegated : Option Expression → List String → List String
  | none, found => found
  | some inner, found => collectWithheld inner found

end

def withheldColumns (expression : Expression) : List String :=
  expression.collectWithheld []

/-- The document of the conditions on one column; a withheld value is left out. -/
def conditionsJson (conditions : Conditions) : Json :=
  .object ((conditions.filter fun condition => !condition.2.isWithheld).map fun condition =>
    (condition.1.wire, condition.2.toJson))

mutual

/-- The document of an expression: nested expressions first, then the columns. -/
def toJson : Expression → Json
  | ⟨all, any, negated, columns⟩ =>
      .object (membersJson "$and" all ++ membersJson "$or" any ++ negatedJson negated ++
        columns.map fun column => (column.1, conditionsJson column.2))

def membersJson (key : String) : Option (List Expression) → List (String × Json)
  | none => []
  | some members => [(key, .array (documents members))]

def documents : List Expression → List Json
  | [] => []
  | member :: rest => toJson member :: documents rest

def negatedJson : Option Expression → List (String × Json)
  | none => []
  | some inner => [("$not", toJson inner)]

end

end Expression

end DashboardFilters
