import DashboardFilters.Reading.Source

namespace DashboardFilters.Json

open Reading (Error Fault Found Field Record Source)

/-- A reader of a document. -/
abbrev Decode := ReaderT Json (Except Error)

namespace Decode

/-- An error; documents know nothing about places. -/
def fail {α : Type} (fault : Fault) : Decode α :=
  fun _ => .error { fault }

/-- A document of another shape than expected. -/
def wrongType {α : Type} (expected : String) : Decode α :=
  fun document => .error { fault := .wrongType (Found.ofJson document) expected }

def text : Decode String
  | .string value => .ok value
  | other => wrongType "a string" other

def flag : Decode Bool
  | .bool value => .ok value
  | other => wrongType "a boolean" other

/-- A whole number of 32 bits without a sign. -/
def word : Decode UInt32
  | .int value => Reading.word? value
  | other => wrongType "u32" other

/-- Nothing in place of null. -/
def optional {α : Type} (read : Decode α) : Decode (Option α)
  | .null => .ok none
  | other => (read other).map some

/-- A variant is written as its name, or as an object that maps its name to null. -/
def variant {α : Type} (variants : List (String × α)) : Decode α
  | .string name => Reading.choose variants name
  | .object [(name, payload)] => do
      let value ← Reading.choose variants name
      match payload with
      | .null => .ok value
      | other => wrongType "unit" other
  | .object members =>
      fail (.wrongValue .map "map with a single key") (.object members)
  | other => wrongType "string or map" other

/-- The items of an array, each read in the same way. -/
def items {α : Type} (read : Decode α) : Decode (List α)
  | .array documents => documents.mapM read
  | other => wrongType "a sequence" other

/-- The fields written by name, in the order of the document. -/
def fillNamed {σ α : Type} (record : Record Decode σ α) :
    List (String × Json) → σ → Except Error σ
  | [], state => .ok state
  | (name, document) :: rest, state => do
      match ← record.field name state with
      | some field => fillNamed record rest (← field.fill state document)
      | none => fillNamed record rest state

/-- The fields written by place: the filled record and the items that are left. -/
def fillPlaced {σ : Type} (expected : String) :
    List (Field Decode σ) → Nat → List Json → σ → Except Error (σ × List Json)
  | [], _, documents, state => .ok (state, documents)
  | field :: fields, index, [], state =>
      if field.needed then .error { fault := .wrongLength index expected }
      else fillPlaced expected fields (index + 1) [] state
  | field :: fields, index, document :: documents, state => do
      fillPlaced expected fields (index + 1) documents (← field.fill state document)

/-- A record, from an object or from the items of an array in the order of its fields. -/
def record {σ α : Type} (record : Record Decode σ α) : Decode α
  | .object members => do record.finish (← fillNamed record members record.start)
  | .array documents => do
      let (state, left) ← fillPlaced record.expectedLength record.fields 0 documents record.start
      let value ← record.finish state
      if left.isEmpty then .ok value
      else .error { fault := .wrongLength documents.length "fewer elements in array" }
  | other => wrongType record.expected other

/-- JSON documents are a source of typed values. -/
instance : Source Decode where
  fail error := fun _ => .error error
  levels := fun document => .ok document.depth
  value := fun document => .ok document
  text := text
  flag := flag
  word := word
  optional := optional
  variant := variant
  items := items
  record := record

end Decode

/-- Reads typed data from a document of any form. -/
def decode {α : Type} (read : Decode α) (document : Json) : Except Error α :=
  read document.sorted

end DashboardFilters.Json
