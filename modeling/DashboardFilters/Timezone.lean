import DashboardFilters.Decimal.Reader
import DashboardFilters.Reading.Source

namespace DashboardFilters

/-- A distance from UTC of less than a day, in seconds east. -/
structure Timezone where
  seconds : Int
  inDay : -86400 < seconds ∧ seconds < 86400 := by decide
  deriving DecidableEq, Repr

namespace Timezone

def utc : Timezone where
  seconds := 0

/-- The usual timezone is UTC. -/
instance : Inhabited Timezone where
  default := utc

/-- A timezone by its distance, if that is less than a day. -/
def ofSeconds? (seconds : Int) : Option Timezone :=
  if inDay : -86400 < seconds ∧ seconds < 86400 then some ⟨seconds, inDay⟩ else none

/-- Whether the timezone has no distance from UTC, whatever its name was. -/
def isUtc (timezone : Timezone) : Bool :=
  timezone.seconds == 0

/-- Two digits at least. -/
def twoDigits (number : Nat) : List Char :=
  Text.padStart 2 '0' (Nat.toDigits 10 number)

/-- Sign, hours and minutes; seconds only where there are some. -/
def offsetText (timezone : Timezone) : String :=
  let distance := timezone.seconds.natAbs
  let sign := if timezone.seconds < 0 then '-' else '+'
  let seconds := distance % 60
  String.ofList (sign :: twoDigits (distance / 3600) ++ ':' :: twoDigits (distance / 60 % 60) ++
    if seconds = 0 then [] else ':' :: twoDigits seconds)

def text (timezone : Timezone) : String :=
  if timezone.isUtc then "UTC" else timezone.offsetText

/-- The hours and minutes behind the sign, as digits. -/
def splitClock? (clock : List Char) : Option (List Char × List Char) :=
  match clock.span (· ≠ ':') with
  | (hours, ':' :: minutes) => if minutes.length = 2 then some (hours, minutes) else none
  | (digits, _) =>
      match digits.length with
      | 1 | 2 => some (digits, [])
      | 3 | 4 => some (digits.take (digits.length - 2), digits.drop (digits.length - 2))
      | _ => none

/-- The distance that a sign, hours and minutes stand for. -/
def ofClock? (negative : Bool) (clock : List Char) : Option Timezone := do
  let (hours, minutes) ← splitClock? clock
  if hours.isEmpty || 2 < hours.length || !(hours ++ minutes).all Decimal.isDigit then none
  else
    let hours := Decimal.ofDigits hours
    let minutes := Decimal.ofDigits minutes
    if 23 < hours || 59 < minutes then none
    else ofSeconds? (Decimal.signed negative (hours * 3600 + minutes * 60))

/-- Upper-case names of UTC may stand in front of the sign. -/
def dropName (text : List Char) : List Char :=
  match text with
  | 'U' :: 'T' :: 'C' :: rest => rest
  | 'G' :: 'M' :: 'T' :: rest => rest
  | _ => text

/-- The timezone of a text, blanks around it left out. -/
def parse? (text : String) : Option Timezone :=
  let trimmed := Text.trimChars text.toList
  if Text.upperAscii (String.ofList trimmed) ∈ ["UTC", "Z", "GMT"] then some utc
  else
    match dropName trimmed with
    | '+' :: clock => ofClock? false clock
    | '-' :: clock => ofClock? true clock
    | _ => none

/-- The complaint about a text that is no timezone. -/
def invalidMessage (text : String) : String :=
  "invalid timezone `" ++ text ++ "`"

/-- A timezone in stored data is its text. -/
def read {m : Type → Type} [Reading.Source m] : m Timezone := do
  let text ← Reading.Source.text
  match parse? text with
  | some timezone => pure timezone
  | none => Reading.Source.fail (Reading.Error.refusal (invalidMessage text))

end Timezone

end DashboardFilters
