import DashboardFilters.Calendar.Writer
import DashboardFilters.Column
import DashboardFilters.Failure

namespace DashboardFilters

open Calendar (Instant)

/-- Whether a range has fixed bounds, or ends or begins now. -/
inductive Period where
  | arbitrary
  | last
  | next
  deriving DecidableEq, Repr

namespace Period

def name : Period → String
  | .arbitrary => "ARBITRARY"
  | .last => "LAST"
  | .next => "NEXT"

def title : Period → String
  | .arbitrary => "arbitrary"
  | .last => "last"
  | .next => "next"

/-- All periods, in the order in which complaints list them. -/
def all : List Period :=
  [.arbitrary, .last, .next]

def read {m : Type → Type} [Reading.Source m] : m Period :=
  Reading.Source.variant (all.map fun period => (period.name, period))

end Period

inductive TimeUnit where
  | second
  | minute
  | hour
  | day
  | week
  | month
  | year
  deriving DecidableEq, Repr

namespace TimeUnit

def all : List TimeUnit :=
  [.second, .minute, .hour, .day, .week, .month, .year]

def name : TimeUnit → String
  | .second => "SECOND"
  | .minute => "MINUTE"
  | .hour => "HOUR"
  | .day => "DAY"
  | .week => "WEEK"
  | .month => "MONTH"
  | .year => "YEAR"

def title : TimeUnit → String
  | .second => "second"
  | .minute => "minute"
  | .hour => "hour"
  | .day => "day"
  | .week => "week"
  | .month => "month"
  | .year => "year"

def label : TimeUnit → String
  | .second => "Second"
  | .minute => "Minute"
  | .hour => "Hour"
  | .day => "Day"
  | .week => "Week"
  | .month => "Month"
  | .year => "Year"

def read {m : Type → Type} [Reading.Source m] : m TimeUnit :=
  Reading.Source.variant (all.map fun unit => (unit.name, unit))

/-- What a unit measures: a fixed number of seconds, or a number of months. -/
inductive Length where
  | seconds (count : Nat)
  | months (count : Nat)
  deriving DecidableEq, Repr

def length : TimeUnit → Length
  | .second => .seconds 1
  | .minute => .seconds 60
  | .hour => .seconds 3600
  | .day => .seconds 86400
  | .week => .seconds 604800
  | .month => .months 1
  | .year => .months 12

/-- The seconds of the longest span, whose milliseconds take 63 bits. -/
def longestSpan : Nat :=
  9223372036854775

/-- The seconds of an amount of units, if the unit has a fixed length and the span is not too
long. -/
def span? (unit : TimeUnit) (amount : UInt32) : Option Nat :=
  match unit.length with
  | .seconds count =>
      if count * amount.toNat ≤ longestSpan then some (count * amount.toNat) else none
  | .months _ => none

/-- The months of an amount of units, if the unit counts months and there are not too many. -/
def months? (unit : TimeUnit) (amount : UInt32) : Option Nat :=
  match unit.length with
  | .seconds _ => none
  | .months count =>
      if count * amount.toNat < UInt32.size then some (count * amount.toNat) else none

/-- An instant moved by a number of units, forward or back. -/
def shift? (unit : TimeUnit) (amount : UInt32) (forward : Bool) (instant : Instant) :
    Option Instant :=
  let signed (count : Nat) : Int := if forward then count else -(count : Int)
  match unit.span? amount, unit.months? amount with
  | some seconds, _ => instant.advanced? (signed seconds)
  | none, some months => instant.addMonths? (signed months)
  | none, none => none

end TimeUnit

/-- A number of units before or after now. An arbitrary period has no relation to now and is never
resolved. -/
structure RelativePeriod where
  period : Period
  unit : TimeUnit
  amount : UInt32
  deriving DecidableEq, Repr

/-- Two instants, both of them included. -/
structure Interval where
  start : Instant
  finish : Instant
  deriving DecidableEq, Repr

namespace RelativePeriod

/-- What users see, with a plural unless there is one unit. -/
def title (relative : RelativePeriod) : String :=
  relative.period.title ++ " " ++ toString relative.amount.toNat ++ " " ++ relative.unit.title ++
    (if relative.amount = 1 then "" else "s")

/-- The complaint about a period that leaves the range of dates. -/
def outOfRange (relative : RelativePeriod) : Failure :=
  .illegalArgument (relative.period.title ++ " " ++ toString relative.amount.toNat ++ " " ++
    relative.unit.label ++ " is out of range")

def shifted (relative : RelativePeriod) (forward : Bool) (now : Instant) :
    Except Failure Instant :=
  match relative.unit.shift? relative.amount forward now with
  | some instant => .ok instant
  | none => .error relative.outOfRange

/-- The interval of the period, as seen from a moment. -/
def resolve (relative : RelativePeriod) (now : Instant) : Except Failure Interval :=
  match relative.period with
  | .last => do return ⟨← relative.shifted false now, now⟩
  | .next => do return ⟨now, ← relative.shifted true now⟩
  | .arbitrary => .error (.illegalArgument
      "ARBITRARY periods have fixed bounds and cannot be resolved relative to now")

end RelativePeriod

end DashboardFilters
