import DashboardFilters.Json.Decode
import DashboardFilters.Text.Pieces

/-!
Values carried by filters. There are two ways to get one from a JSON document: by the kind of the
document, and by the first alternative that fits it.
-/

namespace DashboardFilters

inductive Value where
  | null
  | bool (value : Bool)
  | int (value : Int64)
  | float (value : Float)
  | text (value : String)
  | list (items : List Value)
  /-- Any other document, which is an object. -/
  | json (document : Json)
  /-- Left out on purpose, because its expression could not be evaluated. -/
  | withheld
  deriving BEq, Inhabited

namespace Value

def isNull : Value → Bool
  | .null => true
  | _ => false

def isWithheld : Value → Bool
  | .withheld => true
  | _ => false

def text? : Value → Option String
  | .text value => some value
  | _ => none

mutual

/-- Whether the value or an item of it at any depth is withheld. -/
def containsWithheld : Value → Bool
  | .withheld => true
  | .list items => anyWithheld items
  | _ => false

def anyWithheld : List Value → Bool
  | [] => false
  | item :: rest => item.containsWithheld || anyWithheld rest

end

mutual

/-- What users see. -/
def displayText : Value → String
  | .null | .withheld => ""
  | .bool value => if value then "true" else "false"
  | .int value => toString value.toInt
  | .float value => Decimal.display.text value
  | .text value => value
  | .list items => Text.joinWith ", " (displayTexts items)
  | .json document => document.compact

def displayTexts : List Value → List String
  | [] => []
  | item :: rest => item.displayText :: displayTexts rest

end

mutual

/-- The document of a value; what is withheld, and a number that is not finite, is null. -/
def toJson : Value → Json
  | .null | .withheld => .null
  | .bool value => .bool value
  | .int value => .int value.toInt
  | .float value => if value.isFinite then .float value else .null
  | .text value => .string value
  | .list items => .array (documents items)
  | .json document => document

def documents : List Value → List Json
  | [] => []
  | item :: rest => item.toJson :: documents rest

end

/-- A whole number as one of 64 bits with a sign, if it fits. -/
def int64? (number : Int) : Option Int64 :=
  if -9223372036854775808 ≤ number && number ≤ 9223372036854775807 then
    some (Int64.ofInt number)
  else none

/-- The double nearest to a whole number of 64 bits. -/
def doubleOf (number : Int) : Float :=
  if number < 0 then -(UInt64.ofNat number.natAbs).toFloat
  else (UInt64.ofNat number.natAbs).toFloat

mutual

/-- The value of a document, by its kind. -/
def ofJson : Json → Value
  | .null => .null
  | .bool value => .bool value
  | .int value =>
      match int64? value with
      | some number => .int number
      | none => .float (doubleOf value)
  | .float value => .float value
  | .string value => .text value
  | .array items => .list (ofJsonItems items)
  | .object members => .json (.object members)

def ofJsonItems : List Json → List Value
  | [] => []
  | item :: rest => ofJson item :: ofJsonItems rest

end

def asNull? : Json → Option Value
  | .null => some .null
  | _ => none

def asBool? : Json → Option Value
  | .bool value => some (.bool value)
  | _ => none

/-- A whole number of 64 bits with a sign as a value. -/
def asInt? : Json → Option Value
  | .int value => (int64? value).map .int
  | _ => none

/-- Every number fits a double. -/
def asFloat? : Json → Option Value
  | .int value => some (.float (doubleOf value))
  | .float value => some (.float value)
  | _ => none

def asText? : Json → Option Value
  | .string value => some (.text value)
  | _ => none

/-- The first alternative that fits, those apart that have parts. -/
def scalar? (document : Json) : Option Value :=
  [asNull?, asBool?, asInt?, asFloat?, asText?].findSome? (· document)

mutual

/-- The value of a document, by the first alternative that fits: a list before any other
document. -/
def decode : Json → Value
  | .array items => (scalar? (.array items)).getD (.list (decodeItems items))
  | document => (scalar? document).getD (.json document)

def decodeItems : List Json → List Value
  | [] => []
  | item :: rest => decode item :: decodeItems rest

end

def read {m : Type → Type} [Reading.Source m] : m Value := do
  return decode (← Reading.Source.value)

end Value

end DashboardFilters
