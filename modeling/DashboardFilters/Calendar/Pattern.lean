import DashboardFilters.Calendar.Instant

/-!
Patterns that say how dates and times are shown: percent signs introduce fields, all else stands for
itself. A field of one number may say how the number is filled up; the other fields may not.
-/

namespace DashboardFilters.Calendar

/-- What fills a number up to its width. -/
inductive Fill where
  | zeros
  | blanks
  | nothing
  deriving DecidableEq, Repr

inductive Number where
  | year
  | century
  | yearOfCentury
  | weekYear
  | weekYearOfCentury
  | quarter
  | month
  | day
  | weekFromSunday
  | weekFromMonday
  | week
  | daysFromSunday
  | dayFromMonday
  | ordinal
  | hour
  | halfHour
  | minute
  | second
  | nanosecond
  | timestamp
  deriving DecidableEq, Repr

/-- How exactly a distance from UTC is written. -/
inductive Precision where
  | hours
  | minutes
  | seconds
  deriving DecidableEq, Repr

inductive Part where
  | literal (character : Char)
  | number (number : Number) (fill : Fill)
  | monthName (long : Bool)
  | weekdayName (long : Bool)
  | halfDay (upper : Bool)
  /-- A point and the digits of the fraction; nothing for a full second if their count is open. -/
  | fraction (digits : Option Nat)
  /-- The first digits of the fraction, without a point. -/
  | fractionDigits (digits : Nat)
  | zoneName
  | offset (precision : Precision) (colons : Bool)
  /-- The form for exchange, with the distance from UTC. -/
  | exchange
  /-- A field that can be read but never be shown. -/
  | unshowable
  deriving DecidableEq, Repr

namespace Part

/-- A number filled up with zeros. -/
def zeros (field : Number) : Part :=
  .number field .zeros

def hoursMinutes : List Part :=
  [zeros .hour, .literal ':', zeros .minute]

/-- Hours, minutes and seconds with colons between them. -/
def clock : List Part :=
  hoursMinutes ++ [.literal ':', zeros .second]

/-- Month, day and the last two digits of the year. -/
def shortDate : List Part :=
  [zeros .month, .literal '/', zeros .day, .literal '/', zeros .yearOfCentury]

/-- The pieces that a letter behind a percent sign stands for. -/
def ofLetter? : Char → Option (List Part)
  | 'A' => some [.weekdayName true]
  | 'B' => some [.monthName true]
  | 'C' => some [zeros .century]
  | 'D' | 'x' => some shortDate
  | 'F' => some [zeros .year, .literal '-', zeros .month, .literal '-', zeros .day]
  | 'G' => some [zeros .weekYear]
  | 'H' => some [zeros .hour]
  | 'I' => some [zeros .halfHour]
  | 'M' => some [zeros .minute]
  | 'P' => some [.halfDay false]
  | 'R' => some hoursMinutes
  | 'S' => some [zeros .second]
  | 'T' | 'X' => some clock
  | 'U' => some [zeros .weekFromSunday]
  | 'V' => some [zeros .week]
  | 'W' => some [zeros .weekFromMonday]
  | 'Y' => some [zeros .year]
  | 'Z' => some [.zoneName]
  | 'a' => some [.weekdayName false]
  | 'b' | 'h' => some [.monthName false]
  | 'c' => some ([.weekdayName false, .literal ' ', .monthName false, .literal ' ',
      .number .day .blanks, .literal ' '] ++ clock ++ [.literal ' ', zeros .year])
  | 'd' => some [zeros .day]
  | 'e' => some [.number .day .blanks]
  | 'f' => some [zeros .nanosecond]
  | 'g' => some [zeros .weekYearOfCentury]
  | 'j' => some [zeros .ordinal]
  | 'k' => some [.number .hour .blanks]
  | 'l' => some [.number .halfHour .blanks]
  | 'm' => some [zeros .month]
  | 'n' => some [.literal '\n']
  | 'p' => some [.halfDay true]
  | 'q' => some [.number .quarter .nothing]
  | 'r' => some ([zeros .halfHour, .literal ':', zeros .minute, .literal ':', zeros .second,
      .literal ' ', .halfDay true])
  | 's' => some [.number .timestamp .nothing]
  | 't' => some [.literal '\t']
  | 'u' => some [.number .dayFromMonday .nothing]
  | 'v' => some [.number .day .blanks, .literal '-', .monthName false, .literal '-', zeros .year]
  | 'w' => some [.number .daysFromSunday .nothing]
  | 'y' => some [zeros .yearOfCentury]
  | 'z' => some [.offset .minutes false]
  | '+' => some [.exchange]
  | '%' => some [.literal '%']
  | _ => none

/-- The pieces of a field, from behind its percent sign and any modifier, and the rest. -/
def ofField? : List Char → Option (List Part × List Char)
  | ':' :: ':' :: ':' :: 'z' :: rest => some ([.offset .hours false], rest)
  | ':' :: ':' :: 'z' :: rest => some ([.offset .seconds true], rest)
  | ':' :: 'z' :: rest => some ([.offset .minutes true], rest)
  | '.' :: 'f' :: rest => some ([.fraction none], rest)
  | '.' :: '3' :: 'f' :: rest => some ([.fraction (some 3)], rest)
  | '.' :: '6' :: 'f' :: rest => some ([.fraction (some 6)], rest)
  | '.' :: '9' :: 'f' :: rest => some ([.fraction (some 9)], rest)
  | '3' :: 'f' :: rest => some ([.fractionDigits 3], rest)
  | '6' :: 'f' :: rest => some ([.fractionDigits 6], rest)
  | '9' :: 'f' :: rest => some ([.fractionDigits 9], rest)
  | letter :: rest => (ofLetter? letter).map fun parts => (parts, rest)
  | [] => none

/-- A field whose number is filled up in another way. -/
def refilled? (fill : Fill) : List Part → Option (List Part)
  | [.number field _] => some [.number field fill]
  | _ => none

/-- A modifier or none, and the field, from behind the percent sign. -/
def ofSpecifier? (text : List Char) : Option (List Part × List Char) :=
  let filled (fill : Fill) (rest : List Char) : Option (List Part × List Char) := do
    let (parts, rest) ← ofField? rest
    some (← refilled? fill parts, rest)
  match text with
  | '-' :: rest => filled .nothing rest
  | '0' :: rest => filled .zeros rest
  | '_' :: rest => filled .blanks rest
  | '#' :: 'z' :: rest => some ([.unshowable], rest)
  | _ => ofField? text

/-- The pieces of a text; each of them takes at least one character. -/
def ofTextWithin? : Nat → List Char → Option (List Part)
  | _, [] => some []
  | 0, _ => none
  | fuel + 1, '%' :: text => do
      let (parts, rest) ← ofSpecifier? text
      some (parts ++ (← ofTextWithin? fuel rest))
  | fuel + 1, character :: rest => do
      some (.literal character :: (← ofTextWithin? fuel rest))

/-- The pieces of a pattern; nothing if a percent sign introduces no field. -/
def ofText? (pattern : String) : Option (List Part) :=
  ofTextWithin? pattern.length pattern.toList

end Part

end DashboardFilters.Calendar
