import DashboardFilters.Expression
import DashboardFilters.Json.Text
import DashboardFilters.Temporal.Literal
import DashboardFilters.Tree.Basic

/-!
Compiling filter trees into expressions. Filters on one column with one operator cannot stand beside
each other in an expression, so the last of them stays at the top and the others go under `$and`;
sub-blocks go there too. An expression that fails to evaluate withholds its own value and stops
nothing else.
-/

namespace DashboardFilters

/-- An outcome, and the failures reported on the way that did not stop it. -/
structure Reported (α : Type) where
  result : Except Failure α
  notices : List Failure := []

/-- What was reported before stays reported, also when a later step stops. -/
instance : Monad Reported where
  pure value := { result := .ok value }
  bind first next :=
    match first.result with
    | .ok value =>
        let second := next value
        { result := second.result, notices := first.notices ++ second.notices }
    | .error failure => { result := .error failure, notices := first.notices }

/-- An outcome without anything to report. -/
def Reported.ofExcept {α : Type} (result : Except Failure α) : Reported α where
  result

/-- An evaluator of expressions: a value, or what went wrong. -/
abbrev Evaluator := String → Except String Value

/-- Expressions that are JSON documents. -/
def Evaluator.literals : Evaluator := fun expression =>
  match Json.parse (Text.trim expression) with
  | .ok document => .ok (Value.ofJson document)
  | .error error => .error error.message

/-- What compiling needs beyond the dataset and the tree. -/
structure Context where
  timezone : Timezone := .utc
  now : Calendar.Instant := .epoch
  evaluate : Evaluator := .literals

/-- The present moment in the timezone of the display. -/
def Context.localNow (context : Context) : Calendar.Instant :=
  context.now.inZone context.timezone

/-- The value of an expression; a failure is reported and the value withheld. -/
def Context.evaluateManual (context : Context) (expression : String) : Reported Value :=
  match context.evaluate expression with
  | .ok value => return value
  | .error message =>
      { result := .ok .withheld
        notices := [(Failure.evaluatorFailure expression message).withCause message] }

def Operand.resolve (context : Context) : Operand Value → Reported Value
  | .value picked => return picked
  | .manual expression => context.evaluateManual expression

/-- An item of a numeric list: a whole number of 64 bits, or else any number. -/
def Value.ofNumber? (item : String) : Option Value :=
  ((Decimal.integer? item.toList).bind fun number => (Value.int64? number).map .int).or
    ((Decimal.float? item.toList).map .float)

def Column.numericItem (column : Column) (item : String) : Except Failure Value :=
  match Value.ofNumber? item with
  | some value => .ok value
  | none => .error ((Failure.malformedLiteral "a number" item).withColumn column.name)

/-- The value of a list as typed by the user. -/
def Column.splitList (column : Column) (typed : String) : Except Failure Value := do
  let items := Text.listItems typed
  if column.type.isNumeric then return .list (← items.mapM column.numericItem)
  else return .list (items.map .text)

/-- The bounds of a period as seen from now, in the form of the column. -/
def Column.resolvePeriod (column : Column) (relative : RelativePeriod) (context : Context) :
    Except Failure Value :=
  match column.temporalKind? with
  | none => .error ((Failure.illegalArgument
      ("relative period on non-temporal column of type " ++ column.type.name)).withColumn
      column.name)
  | some kind => do
      let interval ← relative.resolve context.localNow
      return .list [.text (interval.start.isoAs kind context.timezone),
        .text (interval.finish.isoAs kind context.timezone)]

def Predicate.resolve (column : Column) (context : Context) : Predicate Value → Reported Value
  | .isNull | .isNotNull => return .bool true
  | .compare _ operand => operand.resolve context
  | .between (.fixed left right) => do
      let low ← left.resolve context
      let high ← right.resolve context
      return .list [low, high]
  | .between (.relative relative) => .ofExcept (column.resolvePeriod relative context)
  | .list _ typed => .ofExcept (column.splitList typed)

/-- The expression of one filter outside of any tree. -/
def Selector.compile (dataset : Dataset) (context : Context) (selector : Selector Value) :
    Reported Expression := do
  let column ← .ofExcept (dataset.lookup selector.column)
  let value ← selector.predicate.resolve column context
  return .entry selector.column selector.predicate.operator value

/-- The filters of a block by column and then by operator, each in the order in which they first
came. -/
abbrev Groups := List (String × List (Operator × List (Filter Value)))

/-- Adds a filter to the group of its column and operator. -/
def Groups.add (groups : Groups) (filter : Filter Value) : Groups :=
  Keyed.change filter.column [] (Keyed.change filter.operator [] (· ++ [filter])) groups

def Groups.ofFilters (filters : List (Filter Value)) : Groups :=
  filters.foldl Groups.add []

/-- The values of one column and operator: the last one is the condition on the column, the earlier
ones are conjuncts. -/
def Expression.addValues (column : String) (operator : Operator) (values : List Value)
    (expression : Expression) : Expression :=
  match values.getLast? with
  | none => expression
  | some last =>
      let earlier := values.dropLast.foldl (fun (built : Expression) value =>
        built.pushAll (.entry column operator value)) expression
      earlier.insert column operator last

def Expression.addOperator (column : Column) (name : String) (context : Context)
    (expression : Expression) (group : Operator × List (Filter Value)) : Reported Expression := do
  let values ← group.2.mapM fun filter => filter.predicate.resolve column context
  return expression.addValues name group.1 values

/-- Adds the filters of one column, which has to be part of the dataset. -/
def Expression.addColumn (dataset : Dataset) (context : Context) (expression : Expression)
    (group : String × List (Operator × List (Filter Value))) : Reported Expression := do
  let column ← .ofExcept (dataset.lookup group.1)
  group.2.foldlM (Expression.addOperator column group.1 context) expression

/-- A block that asks for any of its parts becomes the only member of a `$or`. -/
def Expression.asMember (op : LogicalOp) (compiled : Expression) : Expression :=
  match op with
  | .and => compiled
  | .or => .anyOf [compiled]

namespace Block

mutual

def compile (dataset : Dataset) (context : Context) : Block Value → Reported Expression
  | ⟨_, _, filters, blocks⟩ => do
      let own ← (Groups.ofFilters filters).foldlM (Expression.addColumn dataset context) .start
      compileInto dataset context own blocks

/-- Adds the expressions of sub-blocks. -/
def compileInto (dataset : Dataset) (context : Context) (expression : Expression) :
    List (Block Value) → Reported Expression
  | [] => return expression
  | block :: rest => do
      let compiled ← compile dataset context block
      compileInto dataset context (expression.pushAll (compiled.asMember block.op)) rest

end

end Block

end DashboardFilters
