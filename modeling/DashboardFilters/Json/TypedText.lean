import DashboardFilters.Json.Text
import DashboardFilters.Reading.Source

/-!
JSON text as a source of typed data. The text is read once from left to right, so that an error of
shape wins over an error of syntax that stands behind it, and the place of an error is where the
reading stopped.
-/

namespace DashboardFilters.Json.Scan

open Reading (Error Field Found Record Source)

/-- An outcome that does not depend on the text. -/
def ofResult {α : Type} : Except Error α → Scan α
  | .ok value => return value
  | .error error => throw error

/-- The wrong thing stands at the cursor: a scalar is read before it is reported, an array or
object is not entered. -/
def wrongType {α : Type} (expected : String) : Scan α := do
  let found ← (do
    match ← scalar? with
    | some value => return Found.ofJson value
    | none => return if (← peek) == some '[' then Found.sequence else Found.map : Scan Found)
  throw { fault := .wrongType found expected, position := some (← get).place }

/-- Text where the given thing is expected. -/
def textAs (expected : String) : Scan String := do
  match ← peekToken with
  | some '"' =>
      skip
      string
  | _ => wrongType expected

def text : Scan String :=
  textAs "a string"

def flag : Scan Bool := do
  match ← peekToken with
  | some 't' | some 'f' =>
      match ← scalar? with
      | some (.bool value) => return value
      | _ => wrongType "a boolean"
  | _ => wrongType "a boolean"

/-- A whole number of 32 bits without a sign. -/
def word : Scan UInt32 := do
  let numeric := (← peekToken).any fun character => character == '-' || Decimal.isDigit character
  if numeric then
    match ← scalar? with
    | some (.int value) => placed (ofResult (Reading.word? value))
    | some other =>
        placed (throw { fault := .wrongType (Found.ofJson other) "u32" })
    | none => wrongType "u32"
  else wrongType "u32"

/-- Nothing where the text has null. -/
def optional {α : Type} (read : Scan α) : Scan (Option α) := do
  match ← peekToken with
  | some 'n' =>
      let _ ← scalar?
      return none
  | _ => return some (← read)

def unit : Scan Unit := do
  match ← peekToken with
  | some 'n' =>
      let _ ← scalar?
  | _ => wrongType "unit"

/-- A variant is written as its name, or as an object that maps its name to null. -/
def variant {α : Type} (variants : List (String × α)) : Scan α := do
  let named : Scan α := placed (do
    let name ← textAs "variant identifier"
    ofResult (Reading.choose variants name))
  match ← peekToken with
  | none => failHere .endInValue
  | some '"' => named
  | some '{' =>
      let value ← nested (do
        skip
        let value ← named
        colon
        unit
        return value)
      match ← peekToken with
      | some '}' =>
          skip
          return value
      | some _ => failHere .valueExpected
      | none => failHere .endInObject
  | some _ => failNext .valueExpected

/-- The items of an array, each read in the same way. -/
def list {α : Type} (read : Scan α) : Scan (List α) := do
  match ← peekToken with
  | some '[' => placed (within (items read) closeArray)
  | _ => wrongType "a sequence"

/-- The fields written by place; those that are not needed may be missing at the end. -/
def fillPlaced {σ : Type} (expected : String) :
    List (Field Scan σ) → Nat → σ → Scan σ
  | [], _, state => return state
  | field :: fields, index, state => do
      if ← nextItem (index == 0) then
        fillPlaced expected fields (index + 1) (← field.fill state)
      else if field.needed then throw { fault := .wrongLength index expected }
      else fillPlaced expected fields (index + 1) state

/-- One field written by name. -/
def fillNamed {σ α : Type} (record : Record Scan σ α) (state : σ) : Scan σ := do
  let name ← key
  match ← ofResult (record.field name state) with
  | some field =>
      colon
      field.fill state
  | none =>
      colon
      skipValue
      return state

/-- A record, from an object or from the items of an array in the order of its fields. -/
def record {σ α : Type} (record : Record Scan σ α) : Scan α := do
  match ← peekToken with
  | some '{' =>
      placed (within (do
        ofResult (record.finish (← members (fillNamed record) record.start))) closeObject)
  | some '[' =>
      placed (within (do
        let state ← fillPlaced record.expectedLength record.fields 0 record.start
        ofResult (record.finish state)) closeArray)
  | _ => wrongType record.expected

/-- JSON text is a source of typed values. -/
instance : Source Scan where
  fail error := throw error
  levels := read
  value := value
  text := text
  flag := flag
  word := word
  optional := optional
  variant := variant
  items := list
  record := record

end DashboardFilters.Json.Scan
