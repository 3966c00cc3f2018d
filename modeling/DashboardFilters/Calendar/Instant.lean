import DashboardFilters.Calendar.Date
import DashboardFilters.Timezone

namespace DashboardFilters.Calendar

structure TimeOfDay where
  /-- Seconds since midnight. -/
  seconds : Nat
  /-- Nanoseconds of the second, twice as many in a leap second. -/
  nanos : Nat
  secondsInDay : seconds < 86400 := by decide
  nanosInSecond : nanos < 2000000000 := by decide
  deriving DecidableEq, Repr

namespace TimeOfDay

def midnight : TimeOfDay where
  seconds := 0
  nanos := 0

/-- The seconds of a day that began some days earlier or later. -/
def wrapped (seconds : Int) (nanos : Nat) (nanosInSecond : nanos < 2000000000) : TimeOfDay where
  seconds := (seconds % 86400).toNat
  nanos
  secondsInDay := by omega
  nanosInSecond

def hour (time : TimeOfDay) : Nat :=
  time.seconds / 3600

def minute (time : TimeOfDay) : Nat :=
  time.seconds / 60 % 60

/-- The second of the minute as it is shown: sixty in a leap second. -/
def second (time : TimeOfDay) : Nat :=
  time.seconds % 60 + time.nanos / 1000000000

/-- Nanoseconds as they are shown. -/
def fraction (time : TimeOfDay) : Nat :=
  time.nanos % 1000000000

/-- The time of an hour, a minute and a second, where second sixty stands for a leap second. -/
def ofClock? (hour minute second fraction : Nat) : Option TimeOfDay :=
  if inClock : hour < 24 ∧ minute < 60 ∧ second ≤ 60 ∧ fraction < 1000000000 then
    if second = 60 then
      some ⟨hour * 3600 + minute * 60 + 59, 1000000000 + fraction, by omega, by omega⟩
    else some ⟨hour * 3600 + minute * 60 + min second 59, fraction, by omega, by omega⟩
  else none

end TimeOfDay

/-- A date and a time of day, of no timezone in particular. -/
structure DateTime where
  date : Date
  time : TimeOfDay
  deriving DecidableEq, Repr

namespace DateTime

/-- Seconds since the first midnight of 1970. -/
def timestamp (moment : DateTime) : Int :=
  moment.date.day * 86400 + moment.time.seconds

def ofTimestamp (timestamp : Int) (nanos : Nat) (nanosInSecond : nanos < 2000000000) :
    DateTime where
  date := ⟨timestamp / 86400⟩
  time := .wrapped timestamp nanos nanosInSecond

/-- Seconds further; the nanoseconds stay, so that a leap second is one in every timezone. -/
def shifted (moment : DateTime) (seconds : Int) : DateTime :=
  ofTimestamp (moment.timestamp + seconds) moment.time.nanos moment.time.nanosInSecond

/-- A span of seconds later, if that lies in the range of dates. A span leaves a leap second, at its
end if it goes forward and at its beginning if it goes back. -/
def advanced? (moment : DateTime) (span : Int) : Option DateTime :=
  let nanos := moment.time.nanos
  let moved :=
    if span = 0 || nanos < 1000000000 then moment.shifted span
    else
      ofTimestamp (moment.timestamp + span + if span < 0 then 1 else 0) (nanos - 1000000000)
        (by have := moment.time.nanosInSecond; omega)
  if moved.date.inRange then some moved else none

end DateTime

/-- A moment in UTC, and the timezone it is told in. -/
structure Instant where
  utc : DateTime
  zone : Timezone
  deriving DecidableEq, Repr

namespace Instant

def localTime (instant : Instant) : DateTime :=
  instant.utc.shifted instant.zone.seconds

def inZone (instant : Instant) (zone : Timezone) : Instant :=
  { instant with zone }

/-- The instant at which it is the given time in a timezone, if its date in UTC lies in the
range. -/
def ofLocal? (moment : DateTime) (zone : Timezone) : Option Instant :=
  let utc := moment.shifted (-zone.seconds)
  if utc.date.inRange then some ⟨utc, zone⟩ else none

def epoch : Instant where
  utc := ⟨⟨0⟩, .midnight⟩
  zone := .utc

/-- A span of seconds later. -/
def advanced? (instant : Instant) (span : Int) : Option Instant :=
  (instant.utc.advanced? span).map fun utc => ⟨utc, instant.zone⟩

/-- Nothing lies behind the last nanosecond of the last day, not even its leap second. -/
def isAfterLast (instant : Instant) : Bool :=
  instant.utc.date = Date.last && instant.utc.time.seconds = 86399 &&
    1000000000 ≤ instant.utc.time.nanos

/-- A number of months later, at the same time of day in the instant's own timezone. -/
def addMonths? (instant : Instant) (months : Int) : Option Instant := do
  let moment := instant.localTime
  let date ← moment.date.addMonths? months
  let moved ← ofLocal? ⟨date, moment.time⟩ instant.zone
  if moved.isAfterLast then none else some moved

end Instant

end DashboardFilters.Calendar
