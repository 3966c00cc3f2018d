import DashboardFilters.Tree.Basic

/-!
The stored form of trees. A filter is stored flat: its operator, one value, and an object that holds
whatever else its predicate needs. Reading builds the predicate again and refuses parts that do not
go together.
-/

namespace DashboardFilters

open Reading (Error Source)

variable {V : Type}

/-- A member of an object that is left out when it says nothing. -/
def flagMember (key : String) (flag : Bool) : List (String × Json) :=
  if flag then [(key, .bool true)] else []

def Operand.toJson (write : V → Json) : Operand V → Json
  | .value picked => write picked
  | .manual expression => .string expression

namespace Predicate

def storedValue (write : V → Json) : Predicate V → Json
  | .isNull | .isNotNull | .between _ => .null
  | .compare _ operand => operand.toJson write
  | .list _ values => .string values

/-- What a predicate stores beside its operator and value. -/
def storedExtra (write : V → Json) : Predicate V → List (String × Json)
  | .isNull | .isNotNull | .list _ _ => []
  | .compare _ operand => flagMember "isManual" operand.isManual
  | .between (.fixed left right) =>
      [("period", .string Period.arbitrary.name)] ++ flagMember "isManualLeft" left.isManual ++
        flagMember "isManualRight" right.isManual ++
        [("left", left.toJson write), ("right", right.toJson write)]
  | .between (.relative relative) =>
      [("period", .string relative.period.name), ("unit", .string relative.unit.name),
        ("value", .int relative.amount.toNat)]

/-- The members that every stored predicate has, with others around them. -/
def stored (write : V → Json) (column : String) (predicate : Predicate V)
    (before between : List (String × Json)) : Json :=
  .object (before ++ [("columnName", .string column), ("op", .string predicate.operator.wire),
    ("value", predicate.storedValue write)] ++ between ++
    [("extra", .object (predicate.storedExtra write))])

end Predicate

def Selector.toJson (write : V → Json) (selector : Selector V) : Json :=
  selector.predicate.stored write selector.column [] []

def Filter.toJson (write : V → Json) (filter : Filter V) : Json :=
  filter.predicate.stored write filter.column [("id", .string filter.id)]
    [("show", .bool filter.shown)]

namespace Block

mutual

/-- The stored form of a block, with its filters before its sub-blocks. -/
def toJson (write : V → Json) : Block V → Json
  | ⟨id, op, filters, blocks⟩ =>
      .object [("id", .string id), ("logicalOp", .string op.name),
        ("filters", .array (filters.map (Filter.toJson write))),
        ("blocks", .array (documents write blocks))]

def documents (write : V → Json) : List (Block V) → List Json
  | [] => []
  | block :: rest => toJson write block :: documents write rest

end

end Block

/-- What is stored beside the operator and the value of a filter. -/
structure Extra where
  period : Option (Option Period) := none
  unit : Option (Option TimeUnit) := none
  amount : Option (Option UInt32) := none
  manual : Option Bool := none
  manualLeft : Option Bool := none
  manualRight : Option Bool := none
  left : Option Value := none
  right : Option Value := none

namespace Extra

/-- Reads the details of a filter; unknown ones are passed over. -/
def read {m : Type → Type} [Source m] : m Extra :=
  Source.record {
    name := "RawExtra"
    closed := false
    fields := [
      .of "period" false Extra.period (fun extra period => { extra with period })
        (Source.optional Period.read),
      .of "unit" false Extra.unit (fun extra unit => { extra with unit })
        (Source.optional TimeUnit.read),
      .of "value" false Extra.amount (fun extra amount => { extra with amount })
        (Source.optional Source.word),
      .of "isManual" false Extra.manual (fun extra manual => { extra with manual }) Source.flag,
      .of "isManualLeft" false Extra.manualLeft
        (fun extra manualLeft => { extra with manualLeft }) Source.flag,
      .of "isManualRight" false Extra.manualRight
        (fun extra manualRight => { extra with manualRight }) Source.flag,
      .of "left" false Extra.left (fun extra left => { extra with left }) Value.read,
      .of "right" false Extra.right (fun extra right => { extra with right }) Value.read]
    start := {}
    finish := .ok }

end Extra

/-- An expression is a text; a missing one is a missing value. -/
def Operand.ofStored (value : Value) (manual : Bool) : Except Failure (Operand Value) :=
  if !manual then .ok (.value value)
  else match value with
    | .text expression => .ok (.manual expression)
    | .null => .ok (.value .null)
    | other => .error (.illegalArgument
        ("manual values must be expression strings, found " ++ other.displayText))

/-- A stored list as the user would have typed it. -/
def Value.listText : Value → String
  | .text typed => typed
  | .list items => Text.joinWith "," (items.map Value.displayText)
  | other => other.displayText

namespace Predicate

def rangeOfStored (extra : Extra) : Except Failure (Range Value) := do
  match extra.period.join.getD .arbitrary with
  | .arbitrary =>
      let left ← Operand.ofStored (extra.left.getD .null) (extra.manualLeft.getD false)
      let right ← Operand.ofStored (extra.right.getD .null) (extra.manualRight.getD false)
      return .fixed left right
  | period =>
      match extra.unit.join, extra.amount.join with
      | some unit, some amount => return .relative ⟨period, unit, amount⟩
      | _, _ => throw ((Failure.illegalArgument
          (period.title ++ " period needs both a unit and an amount")).withOperator
          Operator.between.wire)

/-- Relative periods go with ranges only. -/
def checkPeriod (operator : Operator) (extra : Extra) : Except Failure Unit :=
  match extra.period.join with
  | some .last | some .next =>
      if operator = .between then .ok ()
      else .error ((Failure.illegalArgument ("relative periods only apply to $between, not " ++
        operator.wire)).withOperator operator.wire)
  | _ => .ok ()

def ofStored (operator : Operator) (value : Value) (extra : Extra) :
    Except Failure (Predicate Value) := do
  checkPeriod operator extra
  match operator with
  | .isNull => return .isNull
  | .isNotNull => return .isNotNull
  | .isIn => return .list .isIn value.listText
  | .notIn => return .list .notIn value.listText
  | .between => return .between (← rangeOfStored extra)
  | other =>
      match CompareOp.ofOperator? other with
      | some op => return .compare op (← Operand.ofStored value (extra.manual.getD false))
      | none => throw (.internal ("unmapped operator " ++ other.wire))

end Predicate

/-- A stored filter as far as it has been read. -/
structure Filter.Draft where
  id : Option String := none
  column : Option String := none
  operator : Option Operator := none
  value : Option Value := none
  shown : Option Bool := none
  extra : Option (Option Extra) := none

/-- A stored filter before its predicate is built. -/
structure StoredFilter where
  id : String
  column : String
  operator : Operator
  value : Value
  shown : Bool
  extra : Extra

namespace StoredFilter

/-- The filter that the fields describe, if none of the needed ones is missing. -/
def ofDraft (draft : Filter.Draft) : Except Error StoredFilter := do
  let column ← Reading.required "columnName" draft.column
  let operator ← Reading.required "op" draft.operator
  return {
    id := draft.id.getD ""
    column
    operator
    value := draft.value.getD .null
    shown := draft.shown.getD true
    extra := draft.extra.join.getD {} }

def read {m : Type → Type} [Source m] : m StoredFilter :=
  Source.record {
    name := "RawFilter"
    closed := false
    fields := [
      .of "id" false Filter.Draft.id (fun draft id => { draft with id }) Source.text,
      .of "columnName" true Filter.Draft.column (fun draft column => { draft with column })
        Source.text,
      .of "op" true Filter.Draft.operator (fun draft operator => { draft with operator })
        Operator.read,
      .of "value" false Filter.Draft.value (fun draft value => { draft with value }) Value.read,
      .of "show" false Filter.Draft.shown (fun draft shown => { draft with shown }) Source.flag,
      .of "extra" false Filter.Draft.extra (fun draft extra => { draft with extra })
        (Source.optional Extra.read)]
    start := {}
    finish := ofDraft }

/-- The filter that is stored; a failure names its column. -/
def filter (stored : StoredFilter) : Except Failure (Filter Value) :=
  match Predicate.ofStored stored.operator stored.value stored.extra with
  | .ok predicate => .ok ⟨stored.id, stored.column, stored.shown, predicate⟩
  | .error failure => .error (failure.withColumn stored.column)

end StoredFilter

def Filter.read {m : Type → Type} [Source m] : m (Filter Value) := do
  let stored ← StoredFilter.read
  match stored.filter with
  | .ok filter => pure filter
  | .error failure => Source.fail (Error.refusal failure.text)

/-- Reads a predicate with its column; what concerns trees is passed over. -/
def Selector.read {m : Type → Type} [Source m] : m (Selector Value) := do
  return (← Filter.read).selector

/-- A stored block as far as it has been read. -/
structure Block.Draft where
  id : Option String := none
  op : Option LogicalOp := none
  filters : Option (List (Filter Value)) := none
  blocks : Option (List (Block Value)) := none

namespace Block

/-- The block that the fields describe, if its identifier is there. -/
def Draft.finish (draft : Draft) : Except Error (Block Value) := do
  let id ← Reading.required "id" draft.id
  return ⟨id, draft.op.getD .and, draft.filters.getD [], draft.blocks.getD []⟩

/-- A block with at most so many blocks inside each other. -/
def readWithin {m : Type → Type} [Source m] : Nat → m (Block Value)
  | 0 => Source.fail { fault := .badSyntax .tooDeep }
  | fuel + 1 =>
      Source.record {
        name := "QueryBlock"
        closed := false
        fields := [
          .of "id" true Draft.id (fun draft id => { draft with id }) Source.text,
          .of "logicalOp" false Draft.op (fun draft op => { draft with op }) LogicalOp.read,
          .of "filters" false Draft.filters (fun draft filters => { draft with filters })
            (Source.items Filter.read),
          .of "blocks" false Draft.blocks (fun draft blocks => { draft with blocks })
            (Source.items (readWithin fuel))]
        start := {}
        finish := Draft.finish }

def read {m : Type → Type} [Source m] : m (Block Value) := do
  readWithin ((← Source.levels) + 1)

end Block

end DashboardFilters
