import DashboardFilters.Reading.Source
import DashboardFilters.Toml.Reader

namespace DashboardFilters.Toml

open Reading (Error Field Record Source)

/-- A reader of a value. -/
abbrev Decode := ReaderT Value (Except Error)

namespace Decode

/-- The one error of this reader: its text is never shown. -/
def unfit : Error where
  fault := .refused "the value does not fit its place"

mutual

/-- The document in JSON; dates and times become strings. -/
def document : Value → Json
  | .string value => .string value
  | .integer value => .int value
  | .float value => .float value
  | .boolean value => .bool value
  | .datetime text => .string text
  | .array items => .array (documents items)
  | .table entries => .object (members entries)

def documents : List Value → List Json
  | [] => []
  | item :: rest => document item :: documents rest

def members : List (String × Value) → List (String × Json)
  | [] => []
  | (key, item) :: rest => (key, document item) :: members rest

end

def text : Decode String
  | .string value => .ok value
  | _ => .error unfit

def flag : Decode Bool
  | .boolean value => .ok value
  | _ => .error unfit

def word : Decode UInt32
  | .integer value => Reading.word? value
  | _ => .error unfit

/-- Whether a value is an array or a table without entries. -/
def isEmpty : Value → Bool
  | .array items => items.isEmpty
  | .table entries => entries.isEmpty
  | _ => false

/-- A variant is written as its name, or as a table that maps its name to nothing. -/
def variant {α : Type} (variants : List (String × α)) : Decode α
  | .string name => Reading.choose variants name
  | .table [(name, payload)] => do
      let value ← Reading.choose variants name
      if isEmpty payload then .ok value else .error unfit
  | _ => .error unfit

/-- The items of an array, each read in the same way. -/
def items {α : Type} (read : Decode α) : Decode (List α)
  | .array values => values.mapM read
  | _ => .error unfit

/-- The entries of a table whose keys are free. -/
def entries {α : Type} (read : Decode α) : Decode (List (String × α))
  | .table entries => entries.mapM fun entry => do return (entry.1, ← read entry.2)
  | _ => .error unfit

/-- Fills the fields of a record from the entries of a table. -/
def fillNamed {σ α : Type} (record : Record Decode σ α) :
    List (String × Value) → σ → Except Error σ
  | [], state => .ok state
  | (name, value) :: rest, state => do
      match ← record.field name state with
      | some field => fillNamed record rest (← field.fill state value)
      | none => fillNamed record rest state

/-- Values that are left over do not count. -/
def fillPlaced {σ : Type} : List (Field Decode σ) → List Value → σ → Except Error σ
  | [], _, state => .ok state
  | field :: fields, [], state =>
      if field.needed then .error unfit else fillPlaced fields [] state
  | field :: fields, value :: values, state => do
      fillPlaced fields values (← field.fill state value)

/-- A record, from a table or from the items of an array in the order of its fields. -/
def record {σ α : Type} (record : Record Decode σ α) : Decode α
  | .table entries => do record.finish (← fillNamed record entries record.start)
  | .array values => do record.finish (← fillPlaced record.fields values record.start)
  | _ => .error unfit

/-- Finished TOML values are a source of typed values. -/
instance : Source Decode where
  fail error := fun _ => .error error
  levels := fun value => .ok value.depth
  value := fun value => .ok (document value).sorted
  text := text
  flag := flag
  word := word
  optional := fun read value => (read value).map some
  variant := variant
  items := items
  record := record

end Decode

end DashboardFilters.Toml
