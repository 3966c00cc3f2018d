import DashboardFilters.Temporal.Literal
import DashboardFilters.Tree.Basic

namespace DashboardFilters

inductive FormValue where
  | plain (value : Value)
  | picked (value : TemporalValue)
  deriving BEq

def FormValue.toJson : FormValue → Json
  | .plain value => value.toJson
  | .picked value => value.toJson

/-- One direction of the conversion. -/
structure Codec (Source Target : Type) where
  /-- Values that are not compared as dates or times. -/
  plain : Source → Target
  /-- Values that are compared with a temporal column. -/
  temporal : Source → TemporalKind → Except Failure Target

def Codec.toForm (timezone : Timezone) : Codec Value FormValue where
  plain := .plain
  temporal value kind :=
    match value with
    | .null => .ok (.plain .null)
    | .text text => (TemporalValue.parse text kind timezone).map .picked
    | other => .error (.malformedLiteral "an ISO string" other.displayText)

/-- The stored text of a picked value in a column of a kind. A date stands for its midnight where
instants are stored. -/
def TemporalValue.storedAs? (timezone : Timezone) (kind : TemporalKind) :
    TemporalValue → Option String
  | .dateTime instant => some (instant.isoAs kind timezone)
  | .date day =>
      match kind with
      | .date => some day.iso
      | .time => none
      | .dateTime => (Calendar.Instant.ofLocal? ⟨day, .midnight⟩ timezone).map fun midnight =>
          midnight.isoAs .dateTime timezone
  | .time clock =>
      match kind with
      | .time => some clock.iso
      | _ => none

/-- The stored text of a picked value, if its kind fits the column. -/
def TemporalValue.storedAs (timezone : Timezone) (kind : TemporalKind) (value : TemporalValue) :
    Except Failure String :=
  match value.storedAs? timezone kind with
  | some text => .ok text
  | none => .error (.illegalArgument
      (value.iso ++ " cannot be stored in a " ++ kind.title ++ " column"))

def Codec.fromForm (timezone : Timezone) : Codec FormValue Value where
  plain
    | .plain value => value
    | .picked value => .text value.iso
  temporal value kind :=
    match value with
    | .picked picked => (picked.storedAs timezone kind).map .text
    | .plain .null => .ok .null
    | .plain (.text text) => do
        let parsed ← TemporalValue.parse text kind timezone
        return .text (← parsed.storedAs timezone kind)
    | .plain other => .error (.malformedLiteral "a date or time" other.displayText)

variable {V W : Type}

/-- Expressions stay as they are. -/
def Operand.convert (codec : Codec V W) (kind : Option TemporalKind) :
    Operand V → Except Failure (Operand W)
  | .manual expression => .ok (.manual expression)
  | .value picked =>
      match kind with
      | some kind => (codec.temporal picked kind).map .value
      | none => .ok (.value (codec.plain picked))

/-- Only the operands of comparisons for equality and order and the bounds of fixed ranges are
compared with the column. -/
def Predicate.convert (codec : Codec V W) (column : Column) :
    Predicate V → Except Failure (Predicate W)
  | .isNull => .ok .isNull
  | .isNotNull => .ok .isNotNull
  | .compare op operand =>
      let kind := if op.isSingleValueComparison then column.temporalKind? else none
      (operand.convert codec kind).map (.compare op)
  | .between (.fixed left right) => do
      let low ← left.convert codec column.temporalKind?
      let high ← right.convert codec column.temporalKind?
      return .between (.fixed low high)
  | .between (.relative relative) => .ok (.between (.relative relative))
  | .list op values => .ok (.list op values)

/-- A failure names the column of the selector. -/
def Selector.convert (codec : Codec V W) (dataset : Dataset) (selector : Selector V) :
    Except Failure (Selector W) := do
  let column ← dataset.lookup selector.column
  match selector.predicate.convert codec column with
  | .ok predicate => return ⟨selector.column, predicate⟩
  | .error failure => throw (failure.withColumn selector.column)

/-- A filter whose values are converted; everything else stays. A failure names the column of the
filter. -/
def Filter.convert (codec : Codec V W) (dataset : Dataset) (filter : Filter V) :
    Except Failure (Filter W) := do
  let column ← dataset.lookup filter.column
  match filter.predicate.convert codec column with
  | .ok predicate => return ⟨filter.id, filter.column, filter.shown, predicate⟩
  | .error failure => throw (failure.withColumn filter.column)

namespace Block

mutual

/-- The filters of a block are converted before its sub-blocks. -/
def convert (codec : Codec V W) (dataset : Dataset) : Block V → Except Failure (Block W)
  | ⟨id, op, filters, blocks⟩ => do
      let filters ← filters.mapM (Filter.convert codec dataset)
      let blocks ← convertList codec dataset blocks
      return ⟨id, op, filters, blocks⟩

/-- Blocks whose values are converted, up to the first failure. -/
def convertList (codec : Codec V W) (dataset : Dataset) :
    List (Block V) → Except Failure (List (Block W))
  | [] => .ok []
  | block :: rest => do
      let first ← convert codec dataset block
      return first :: (← convertList codec dataset rest)

end

def toForm (dataset : Dataset) (timezone : Timezone) (block : Block Value) :
    Except Failure (Block FormValue) :=
  block.convert (.toForm timezone) dataset

def fromForm (dataset : Dataset) (timezone : Timezone) (block : Block FormValue) :
    Except Failure (Block Value) :=
  block.convert (.fromForm timezone) dataset

end Block

end DashboardFilters
