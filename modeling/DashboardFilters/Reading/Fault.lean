import DashboardFilters.Decimal.Reader
import DashboardFilters.Json.Printer
import DashboardFilters.Text.Quoted

namespace DashboardFilters.Reading

/-- A text that is no JSON. -/
inductive SyntaxFault where
  | endInList
  | endInObject
  | endInString
  | endInValue
  | colonExpected
  | listEndExpected
  | objectEndExpected
  | wordExpected
  | valueExpected
  | keyNotString
  | trailingComma
  | trailingCharacters
  | invalidEscape
  | invalidNumber
  | numberOutOfRange
  | endInHexEscape
  | loneSurrogate
  | controlCharacter
  | tooDeep
  deriving DecidableEq, Repr

def SyntaxFault.message : SyntaxFault → String
  | .endInList => "EOF while parsing a list"
  | .endInObject => "EOF while parsing an object"
  | .endInString => "EOF while parsing a string"
  | .endInValue => "EOF while parsing a value"
  | .colonExpected => "expected `:`"
  | .listEndExpected => "expected `,` or `]`"
  | .objectEndExpected => "expected `,` or `\x7d`"
  | .wordExpected => "expected ident"
  | .valueExpected => "expected value"
  | .keyNotString => "key must be a string"
  | .trailingComma => "trailing comma"
  | .trailingCharacters => "trailing characters"
  | .invalidEscape => "invalid escape"
  | .invalidNumber => "invalid number"
  | .numberOutOfRange => "number out of range"
  | .endInHexEscape => "unexpected end of hex escape"
  | .loneSurrogate => "lone leading surrogate in hex escape"
  | .controlCharacter => "control character (\\u0000-\\u001F) found while parsing a string"
  | .tooDeep => "recursion limit exceeded"

/-- What stands at a place where something else was expected. -/
inductive Found where
  | null
  | bool (value : Bool)
  | int (value : Int)
  | float (value : Float)
  | string (value : String)
  | sequence
  | map
  deriving DecidableEq

/-- What a document is, as complaints name it. -/
def Found.ofJson : Json → Found
  | .null => .null
  | .bool value => .bool value
  | .int value => .int value
  | .float value => .float value
  | .string value => .string value
  | .array _ => .sequence
  | .object _ => .map

def Found.message : Found → String
  | .null => "null"
  | .bool value => "boolean `" ++ (if value then "true" else "false") ++ "`"
  | .int value => "integer `" ++ toString value ++ "`"
  | .float value => "floating point `" ++ Json.numberLayout.text value ++ "`"
  | .string value => "string " ++ Text.quoted value
  | .sequence => "sequence"
  | .map => "map"

/-- Data of the wrong shape. -/
inductive Fault where
  | badSyntax (fault : SyntaxFault)
  | missingField (name : String)
  | duplicateField (name : String)
  | unknownField (name : String) (known : List String)
  | unknownVariant (name : String) (known : List String)
  | wrongType (found : Found) (expected : String)
  | wrongValue (found : Found) (expected : String)
  | wrongLength (length : Nat) (expected : String)
  | refused (message : String)
  deriving DecidableEq

/-- The names that would have been right. -/
def alternatives : List String → String
  | [] => "there are no fields"
  | [only] => "expected `" ++ only ++ "`"
  | [first, second] => "expected `" ++ first ++ "` or `" ++ second ++ "`"
  | names => "expected one of " ++
      String.intercalate ", " (names.map fun name => "`" ++ name ++ "`")

def Fault.message : Fault → String
  | .badSyntax fault => fault.message
  | .missingField name => "missing field `" ++ name ++ "`"
  | .duplicateField name => "duplicate field `" ++ name ++ "`"
  | .unknownField name known => "unknown field `" ++ name ++ "`, " ++ alternatives known
  | .unknownVariant name known => "unknown variant `" ++ name ++ "`, " ++ alternatives known
  | .wrongType found expected =>
      "invalid type: " ++ found.message ++ ", expected " ++ expected
  | .wrongValue found expected =>
      "invalid value: " ++ found.message ++ ", expected " ++ expected
  | .wrongLength length expected =>
      "invalid length " ++ toString length ++ ", expected " ++ expected
  | .refused message => message

/-- A place in a text: lines count from one, columns are the bytes since the line began. -/
structure Position where
  line : Nat
  column : Nat
  deriving DecidableEq, Repr

/-- A fault, with its place where there is a text. -/
structure Error where
  fault : Fault
  position : Option Position := none
  deriving DecidableEq

/-- The wording of an error, with its place behind it. -/
def Error.message (error : Error) : String :=
  match error.position with
  | none => error.fault.message
  | some place =>
      error.fault.message ++ " at line " ++ toString place.line ++ " column " ++
        toString place.column

/-- An error that has no place yet gets the given one. -/
def Error.at (error : Error) (place : Position) : Error :=
  match error.position with
  | none => { error with position := some place }
  | some _ => error

/-- The number of 64 bits that a row of digits stands for. -/
def count? (digits : List Char) : Option Nat :=
  let number := Decimal.ofDigits digits
  if digits.isEmpty || UInt64.size ≤ number then none else some number

/-- The last place at which a text contains another one: what stands before it and after it. -/
def splitAtLast? (pattern : List Char) : List Char → Option (List Char × List Char)
  | [] => none
  | character :: rest =>
      match splitAtLast? pattern rest with
      | some (before, after) => some (character :: before, after)
      | none => (Text.dropLeading? pattern (character :: rest)).map fun after => ([], after)

/-- A message that ends in a place of its own, taken apart. -/
def splitPlace? (message : List Char) : Option (List Char × Position) := do
  let (before, after) ← splitAtLast? " at line ".toList message
  let (line, rest) := Decimal.spanDigits after
  let (column, rest) := Decimal.spanDigits (← Text.dropLeading? " column ".toList rest)
  let line ← count? line
  let column ← count? column
  if rest.isEmpty then some (before, ⟨line, column⟩) else none

/-- A refusal whose message ends in a place takes it as its own; line zero is no place. -/
def Error.refusal (message : String) : Error :=
  match splitPlace? message.toList with
  | none => { fault := .refused message }
  | some (before, place) =>
      { fault := .refused (String.ofList before)
        position := if place.line = 0 then none else some place }

end DashboardFilters.Reading
