import DashboardFilters.Reading.Fault

/-!
Reading typed data without knowing what it is written in. A reader is a program over a `Source`; the
sources are parsed JSON documents, JSON text and parsed TOML documents. A record may be written by
name, as its fields in any order, or by place, as a sequence of their values.
-/

namespace DashboardFilters.Reading

structure Field (m : Type → Type) (σ : Type) where
  name : String
  /-- Whether the field has been read before. -/
  filled : σ → Bool
  /-- Whether the field has to be there in a record written by place. -/
  needed : Bool
  /-- The read value, put into the record. -/
  fill : σ → m σ

/-- A field that takes one value. -/
def Field.of {m : Type → Type} [Monad m] {σ α : Type} (name : String) (needed : Bool)
    (taken : σ → Option α) (put : σ → Option α → σ) (read : m α) : Field m σ where
  name
  filled state := (taken state).isSome
  needed
  fill state := do return put state (some (← read))

/-- A record: its name in messages, its fields in order, and how the filled fields make a value. -/
structure Record (m : Type → Type) (σ α : Type) where
  name : String
  /-- Whether fields of other names are refused rather than skipped. -/
  closed : Bool
  fields : List (Field m σ)
  start : σ
  finish : σ → Except Error α

/-- What complaints say was expected. -/
def Record.expected {m : Type → Type} {σ α : Type} (record : Record m σ α) : String :=
  "struct " ++ record.name

/-- What a record written by place should have been, if it is too short. -/
def Record.expectedLength {m : Type → Type} {σ α : Type} (record : Record m σ α) : String :=
  let count := record.fields.length
  record.expected ++ " with " ++ toString count ++ (if count = 1 then " element" else " elements")

/-- The field of the given name, for a record that may still take it. -/
def Record.field {m : Type → Type} {σ α : Type} (record : Record m σ α) (name : String)
    (state : σ) : Except Error (Option (Field m σ)) :=
  match record.fields.find? fun field => field.name == name with
  | some field =>
      if field.filled state then .error { fault := .duplicateField name } else .ok (some field)
  | none =>
      if record.closed then
        .error { fault := .unknownField name (record.fields.map fun field => field.name) }
      else .ok none

def required {α : Type} (name : String) : Option α → Except Error α
  | some value => .ok value
  | none => .error { fault := .missingField name }

def choose {α : Type} (variants : List (String × α)) (name : String) : Except Error α :=
  match variants.lookup name with
  | some value => .ok value
  | none => .error { fault := .unknownVariant name (variants.map fun variant => variant.1) }

/-- A number that fits 32 bits. -/
def word? (number : Int) : Except Error UInt32 :=
  if 0 ≤ number && number < UInt32.size then .ok (UInt32.ofNat number.toNat)
  else .error { fault := .wrongValue (.int number) "u32" }

/-- What can be asked for at a place of the data. -/
class Source (m : Type → Type) extends Monad m where
  fail {α : Type} : Error → m α
  /-- A bound on the arrays and objects that stand inside each other here. -/
  levels : m Nat
  /-- Anything, as a canonical document. -/
  value : m Json
  text : m String
  flag : m Bool
  word : m UInt32
  /-- Null stands for nothing. -/
  optional {α : Type} : m α → m (Option α)
  /-- One of several names. -/
  variant {α : Type} : List (String × α) → m α
  items {α : Type} : m α → m (List α)
  record {σ α : Type} : Record m σ α → m α

/-- Goes on with a result, or fails with its error. -/
def Source.ofResult {m : Type → Type} [Source m] {α : Type} : Except Error α → m α
  | .ok value => pure value
  | .error error => Source.fail error

end DashboardFilters.Reading
