import DashboardFilters.Calendar.Instant

/-!
Reading dates, times and instants. The form for exchange is strict: every number has its width and
the distance from UTC is always there. The other forms take numbers of fewer digits, with blanks
before them.
-/

namespace DashboardFilters.Calendar

/-- A reader of the front of a text. -/
abbrev Read := StateT (List Char) Option

namespace Read

open Decimal (isDigit)

def literal (expected : Char) : Read Unit := fun
  | character :: rest => if character = expected then some ((), rest) else none
  | [] => none

def oneOf (expected : List Char) : Read Char := fun
  | character :: rest => if character ∈ expected then some (character, rest) else none
  | [] => none

def exactly (width : Nat) : Read Nat := do
  let digits := (← get).take width
  modify (·.drop width)
  if digits.length = width && digits.all isDigit then return Decimal.ofDigits digits else failure

/-- A number of at least one digit and at most so many, with blanks before it. -/
def upTo (width : Nat) : Read Nat := do
  modify Text.skipBlanks
  let digits := ((← get).take width).takeWhile isDigit
  modify (·.drop digits.length)
  if digits.isEmpty then failure else return Decimal.ofDigits digits

/-- A year: four digits at most, or any number of digits behind a sign. -/
def year : Read Int := do
  modify Text.skipBlanks
  match ← get with
  | '+' :: rest =>
      set rest
      signedDigits false
  | '-' :: rest =>
      set rest
      signedDigits true
  | _ => return (← upTo 4 : Nat)
where
  signedDigits (negative : Bool) : Read Int := do
    let (digits, rest) := Decimal.spanDigits (← get)
    set rest
    if digits.isEmpty then failure
    else return Decimal.signed negative (Decimal.ofDigits digits)

/-- A value that has to be there. -/
def ofOption {α : Type} : Option α → Read α
  | some value => return value
  | none => failure

def date : Read Date := do
  let year ← year
  literal '-'
  let month ← upTo 2
  literal '-'
  let day ← upTo 2
  ofOption (Date.ofCivil? ⟨year, month, day⟩)

def hourMinute : Read TimeOfDay := do
  let hour ← upTo 2
  literal ':'
  let minute ← upTo 2
  ofOption (TimeOfDay.ofClock? hour minute 0 0)

/-- Hours, minutes and seconds with colons between them. -/
def time : Read TimeOfDay := do
  let hour ← upTo 2
  literal ':'
  let minute ← upTo 2
  literal ':'
  let second ← upTo 2
  ofOption (TimeOfDay.ofClock? hour minute second 0)

/-- Date and time with a letter between them. -/
def lettered : Read DateTime := do
  let date ← date
  literal 'T'
  return ⟨date, ← time⟩

/-- Date and time with any blanks between them, or none. -/
def spaced : Read DateTime := do
  let date ← date
  modify Text.skipBlanks
  return ⟨date, ← time⟩

/-- The first nine digits of a fraction, as nanoseconds. -/
def nanoseconds (digits : List Char) : Nat :=
  let used := digits.take 9
  Decimal.ofDigits used * Nat.pow 10 (9 - used.length)

/-- The fraction of a second, as nanoseconds: a point and digits, or nothing. -/
def fraction : Read Nat := do
  match ← get with
  | '.' :: rest =>
      let (digits, rest) := Decimal.spanDigits rest
      set rest
      if digits.isEmpty then failure else return nanoseconds digits
  | _ => return 0

/-- The distance from UTC: a letter for none, or sign, hours and minutes. -/
def zone : Read Timezone := do
  match ← oneOf ['Z', 'z', '+', '-', '\u2212'] with
  | 'Z' | 'z' => return .utc
  | sign =>
      let hours ← exactly 2
      literal ':'
      let minutes ← exactly 2
      if 59 < minutes || 23 < hours then failure
      else ofOption (Timezone.ofSeconds?
        (Decimal.signed (sign ≠ '+') (hours * 3600 + minutes * 60)))

def exchange : Read Instant := do
  let year ← exactly 4
  literal '-'
  let month ← exactly 2
  literal '-'
  let day ← exactly 2
  let _ ← oneOf ['T', 't', ' ']
  let hour ← exactly 2
  literal ':'
  let minute ← exactly 2
  literal ':'
  let second ← exactly 2
  let nanos ← fraction
  let zone ← zone
  let date ← ofOption (Date.ofCivil? ⟨year, month, day⟩)
  let time ← ofOption (TimeOfDay.ofClock? hour minute second nanos)
  ofOption (Instant.ofLocal? ⟨date, time⟩ zone)

def all? {α : Type} (read : Read α) (text : String) : Option α :=
  match read text.toList with
  | some (value, []) => some value
  | _ => none

end Read

/-- Year, month and day with hyphens between them. -/
def Date.parse? (text : String) : Option Date :=
  Read.date.all? text

/-- Hours and minutes, with or without seconds. -/
def TimeOfDay.parse? (text : String) : Option TimeOfDay :=
  (Read.time.all? text).or (Read.hourMinute.all? text)

/-- Date and time without a distance from UTC. -/
def DateTime.parse? (text : String) : Option DateTime :=
  (Read.lettered.all? text).or (Read.spaced.all? text)

/-- The form for exchange. -/
def Instant.parse? (text : String) : Option Instant :=
  Read.exchange.all? text

end DashboardFilters.Calendar
