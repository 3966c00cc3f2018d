import DashboardFilters.Decimal.Layout
import DashboardFilters.Json.Basic
import DashboardFilters.Text.Quoted

namespace DashboardFilters.Json

/-- Numbers are shortest, show that they are doubles, and take an exponent from `1e16` on and below
`1e-5`. What is no finite number is written as null. -/
def numberLayout : Decimal.Layout where
  tie := .toEven
  positional := fun exponent => -5 ≤ exponent && exponent < 16
  keepsFraction := true
  notNumber := "null"
  infinity := "null"
  negativeInfinity := "null"

/-- Controls without a short escape are written with four digits. -/
def escapedChar (character : Char) : List Char :=
  match character with
  | '"' => ['\\', '"']
  | '\\' => ['\\', '\\']
  | '\x08' => ['\\', 'b']
  | '\x0c' => ['\\', 'f']
  | '\n' => ['\\', 'n']
  | '\r' => ['\\', 'r']
  | '\t' => ['\\', 't']
  | _ =>
      if character.toNat < 0x20 then
        let digits := Text.hexDigits character.toNat
        ['\\', 'u'] ++ List.replicate (4 - digits.length) '0' ++ digits
      else [character]

def stringText (text : String) : String :=
  String.ofList (['"'] ++ text.toList.flatMap escapedChar ++ ['"'])

/-- The text of anything that is neither an array nor an object. -/
def scalarText : Json → String
  | .null => "null"
  | .bool value => if value then "true" else "false"
  | .int value => toString value
  | .float value => numberLayout.text value
  | .string value => stringText value
  | .array _ | .object _ => ""

mutual

/-- The text on one line. -/
def compact : Json → String
  | .array items => "[" ++ String.intercalate "," (compactItems items) ++ "]"
  | .object members => "\x7b" ++ String.intercalate "," (compactMembers members) ++ "\x7d"
  | scalar => scalar.scalarText

def compactItems : List Json → List String
  | [] => []
  | item :: rest => item.compact :: compactItems rest

def compactMembers : List (String × Json) → List String
  | [] => []
  | (key, item) :: rest => (stringText key ++ ":" ++ item.compact) :: compactMembers rest

end

/-- Pieces on lines of their own, between brackets; nothing between them stays on one line. -/
def spread (level : Nat) (opening closing : String) (pieces : List String) : String :=
  if pieces.isEmpty then opening ++ closing
  else
    let margin (depth : Nat) : String := "\n" ++ String.ofList (List.replicate (2 * depth) ' ')
    opening ++ margin (level + 1) ++ String.intercalate ("," ++ margin (level + 1)) pieces ++
      margin level ++ closing

mutual

/-- The text over several lines, for a place that is `level` deep. -/
def prettyAt (level : Nat) : Json → String
  | .array items => spread level "[" "]" (prettyItems (level + 1) items)
  | .object members => spread level "\x7b" "\x7d" (prettyMembers (level + 1) members)
  | scalar => scalar.scalarText

def prettyItems (level : Nat) : List Json → List String
  | [] => []
  | item :: rest => item.prettyAt level :: prettyItems level rest

/-- The texts of the members of an object at a level. -/
def prettyMembers (level : Nat) : List (String × Json) → List String
  | [] => []
  | (key, item) :: rest =>
      (stringText key ++ ": " ++ item.prettyAt level) :: prettyMembers level rest

end

/-- The text of a document on several lines. -/
def pretty (document : Json) : String :=
  document.prettyAt 0

end DashboardFilters.Json
