import DashboardFilters.Reading.Source
import DashboardFilters.Text.Pieces

namespace DashboardFilters

/-- A type of column. A type of any other name is kept, but it cannot be filtered. -/
inductive ColumnType where
  | string
  | text
  | uuid
  | json
  | enumeration
  | array
  | int
  | smallInt
  | bigInt
  | float
  | double
  | decimal
  | boolean
  | date
  | time
  | dateTime
  | timestamp
  | unsupported (name : String)
  deriving DecidableEq, Repr

/-- What columns of several types have in common. -/
inductive Category where
  | stringLike
  | numeric
  | temporal
  | boolean
  deriving DecidableEq, Repr

/-- The form in which a temporal column is compared. -/
inductive TemporalKind where
  | date
  | time
  | dateTime
  deriving DecidableEq, Repr

namespace ColumnType

def names : List (String × ColumnType) :=
  [("string", .string), ("varchar", .string), ("char", .string), ("text", .text),
    ("uuid", .uuid), ("id", .uuid), ("json", .json), ("jsonb", .json), ("enum", .enumeration),
    ("array", .array), ("int", .int), ("integer", .int), ("int4", .int),
    ("smallint", .smallInt), ("int2", .smallInt), ("bigint", .bigInt), ("int8", .bigInt),
    ("long", .bigInt), ("float", .float), ("real", .float), ("float4", .float),
    ("double", .double), ("float8", .double), ("decimal", .decimal), ("numeric", .decimal),
    ("boolean", .boolean), ("bool", .boolean), ("date", .date), ("time", .time),
    ("datetime", .dateTime), ("timestamp", .timestamp), ("timestamptz", .timestamp)]

/-- The case of ASCII letters does not count. -/
def parse (name : String) : ColumnType :=
  (names.lookup (Text.lowerAscii name)).getD (.unsupported name)

def name : ColumnType → String
  | .string => "string"
  | .text => "text"
  | .uuid => "uuid"
  | .json => "json"
  | .enumeration => "enum"
  | .array => "array"
  | .int => "int"
  | .smallInt => "smallint"
  | .bigInt => "bigint"
  | .float => "float"
  | .double => "double"
  | .decimal => "decimal"
  | .boolean => "boolean"
  | .date => "date"
  | .time => "time"
  | .dateTime => "datetime"
  | .timestamp => "timestamp"
  | .unsupported name => name

/-- The category of a type; an unsupported type has none. -/
def category? : ColumnType → Option Category
  | .string | .text | .uuid | .json | .enumeration | .array => some .stringLike
  | .int | .smallInt | .bigInt | .float | .double | .decimal => some .numeric
  | .date | .time | .dateTime | .timestamp => some .temporal
  | .boolean => some .boolean
  | .unsupported _ => none

def isTemporal (type : ColumnType) : Bool :=
  type.category? == some .temporal

def isNumeric (type : ColumnType) : Bool :=
  type.category? == some .numeric

def isInteger : ColumnType → Bool
  | .int | .smallInt | .bigInt => true
  | _ => false

end ColumnType

namespace TemporalKind

def name : TemporalKind → String
  | .date => "date"
  | .time => "time"
  | .dateTime => "datetime"

def title : TemporalKind → String
  | .date => "Date"
  | .time => "Time"
  | .dateTime => "DateTime"

/-- All names of the kinds, the usual one last. -/
def variants : List (String × TemporalKind) :=
  [("date", .date), ("time", .time), ("date-time", .dateTime), ("date_time", .dateTime),
    ("datetime", .dateTime)]

def read {m : Type → Type} [Reading.Source m] : m TemporalKind :=
  Reading.Source.variant variants

end TemporalKind

structure Column where
  name : String
  type : ColumnType
  /-- The form in which a column of date and time is compared. -/
  format : Option TemporalKind := none
  label : Option String := none
  deriving DecidableEq, Repr

namespace Column

def displayName (column : Column) : String :=
  column.label.getD column.name

/-- The form in which values of the column are compared, if it is temporal. Only columns of date and
time have a choice. -/
def temporalKind? (column : Column) : Option TemporalKind :=
  match column.type with
  | .date => some .date
  | .time => some .time
  | .dateTime | .timestamp => some (column.format.getD .dateTime)
  | _ => none

/-- The stored form of a column; what is not set is left out. -/
def toJson (column : Column) : Json :=
  .object ([("name", .string column.name), ("type", .string column.type.name)] ++
    (column.format.map fun kind => ("format", .string kind.name)).toList ++
    (column.label.map fun text => ("alias", .string text)).toList)

/-- A column as far as it has been read. -/
structure Draft where
  name : Option String := none
  type : Option String := none
  format : Option (Option TemporalKind) := none
  label : Option (Option String) := none

/-- The column that the fields describe, if name and type are there. -/
def Draft.finish (draft : Draft) : Except Reading.Error Column := do
  let name ← Reading.required "name" draft.name
  let type ← Reading.required "type" draft.type
  return ⟨name, .parse type, draft.format.join, draft.label.join⟩

/-- Reads a column as it is stored; unknown fields are passed over. -/
def read {m : Type → Type} [Reading.Source m] : m Column :=
  Reading.Source.record {
    name := "Column"
    closed := false
    fields := [
      .of "name" true Draft.name (fun draft name => { draft with name })
        Reading.Source.text,
      .of "type" true Draft.type (fun draft type => { draft with type })
        Reading.Source.text,
      .of "format" false Draft.format (fun draft format => { draft with format })
        (Reading.Source.optional TemporalKind.read),
      .of "alias" false Draft.label (fun draft label => { draft with label })
        (Reading.Source.optional Reading.Source.text)]
    start := {}
    finish := Draft.finish }

end Column

end DashboardFilters
