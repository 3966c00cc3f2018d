import DashboardFilters.Column
import DashboardFilters.Json.Decode
import DashboardFilters.Json.TypedText
import DashboardFilters.LoadError
import DashboardFilters.Toml.Decode

namespace DashboardFilters

/-- Columns with one of them declared, in place if its name is there and at the end otherwise. -/
def Column.declare (column : Column) : List Column → List Column
  | [] => [column]
  | other :: rest =>
      if column.name = other.name then column :: rest else other :: column.declare rest

/-- The names after declaring a column: a known one stays at its place. -/
theorem Column.names_declare (column : Column) (columns : List Column) :
    (column.declare columns).map Column.name =
      if column.name ∈ columns.map Column.name then columns.map Column.name
      else columns.map Column.name ++ [column.name] := by
  induction columns with
  | nil => simp [declare]
  | cons other rest ih =>
      by_cases same : column.name = other.name
      · simp [declare, same]
      · simp only [declare, same, if_false, List.map_cons, ih, List.mem_cons, false_or]
        split <;> simp

/-- No name comes twice after declaring a column. -/
theorem Column.nodup_declare (column : Column) {columns : List Column}
    (distinct : (columns.map Column.name).Nodup) :
    ((column.declare columns).map Column.name).Nodup := by
  rw [Column.names_declare]
  split
  · exact distinct
  · next absent =>
      rw [List.nodup_append]
      refine ⟨distinct, by simp, ?_⟩
      intro name present other last
      rw [List.mem_singleton] at last
      rintro rfl
      exact absent (last ▸ present)

/-- A named list of columns, none of them twice. -/
structure Dataset where
  name : String
  columns : List Column
  distinct : (columns.map Column.name).Nodup

namespace Dataset

def empty (name : String) : Dataset :=
  ⟨name, [], List.nodup_nil⟩

/-- A column of the same name is replaced. -/
def withColumn (dataset : Dataset) (column : Column) : Dataset :=
  ⟨dataset.name, column.declare dataset.columns, column.nodup_declare dataset.distinct⟩

/-- The column of a name. -/
def column? (dataset : Dataset) (name : String) : Option Column :=
  dataset.columns.find? fun column => column.name == name

theorem name_of_column? {dataset : Dataset} {name : String} {column : Column}
    (found : dataset.column? name = some column) : column.name = name := by
  simpa using List.find?_some found

/-- Declares a column whose name is new. -/
def declareNew (dataset : Dataset) (column : Column) : Except LoadError Dataset :=
  if (dataset.column? column.name).isSome then
    .error (.duplicateColumn dataset.name column.name)
  else .ok (dataset.withColumn column)

/-- A dataset of columns with distinct names. -/
def ofColumns (name : String) (columns : List Column) : Except LoadError Dataset :=
  columns.foldlM declareNew (empty name)

def toJson (dataset : Dataset) : Json :=
  .object [("name", .string dataset.name), ("columns", .array (dataset.columns.map Column.toJson))]

/-- A dataset as far as it has been read. -/
structure Draft where
  name : Option String := none
  columns : Option (List Column) := none

/-- Name and columns as they are written; either may be left out, and nothing else may be there. -/
def readParts {m : Type → Type} [Reading.Source m] : m (String × List Column) :=
  Reading.Source.record {
    name := "DatasetFile"
    closed := true
    fields := [
      .of "name" false Draft.name (fun draft name => { draft with name }) Reading.Source.text,
      .of "columns" false Draft.columns (fun draft columns => { draft with columns })
        (Reading.Source.items Column.read)]
    start := {}
    finish := fun draft => .ok (draft.name.getD "", draft.columns.getD []) }

/-- A dataset inside other data, where a duplicate column is an error of shape. -/
def read {m : Type → Type} [Reading.Source m] : m Dataset := do
  let (name, columns) ← readParts
  match ofColumns name columns with
  | .ok dataset => pure dataset
  | .error error => Reading.Source.fail (Reading.Error.refusal error.message)

def ofJsonText (content : String) : Except LoadError Dataset :=
  match Json.Scan.run readParts content with
  | .ok (name, columns) => ofColumns name columns
  | .error _ => .error .malformedJson

def ofTomlText (content : String) : Except LoadError Dataset :=
  match Toml.parse? content with
  | none => .error .malformedToml
  | some document =>
      match (readParts : Toml.Decode (String × List Column)) document with
      | .ok (name, columns) => ofColumns name columns
      | .error _ => .error .malformedToml

/-- The last part of a path, if it names a file. -/
def fileName? (path : String) : Option (List Char) :=
  let parts := (path.toList.splitOn '/').filter fun part => part ≠ [] && part ≠ ['.']
  match parts.getLast? with
  | some ['.', '.'] | none => none
  | some part => some part

/-- What follows the last point of a file's name, unless the name begins with that point. -/
def extension? (path : String) : Option String := do
  let name ← fileName? path
  let reversed := name.reverse
  let extension := reversed.takeWhile (· ≠ '.')
  match reversed.drop extension.length with
  | '.' :: _ :: _ => some (String.ofList extension.reverse)
  | _ => none

/-- The dataset that a file with the given content stores. -/
def ofContent (content path : String) : Except LoadError Dataset :=
  match extension? path with
  | some "json" => ofJsonText content
  | some "toml" => ofTomlText content
  | _ => .error (.unsupportedFormat path)

def load (files : String → Option String) (path : String) : Except LoadError Dataset :=
  match files path with
  | some content => ofContent content path
  | none => .error (.unreadable path)

end Dataset

end DashboardFilters
