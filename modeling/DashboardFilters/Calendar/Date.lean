import DashboardFilters.Decimal.Reader

namespace DashboardFilters.Calendar

/-- Days since 1970-01-01. -/
structure Date where
  day : Int
  deriving DecidableEq, Repr

/-- Year, month and day of the month. -/
structure Civil where
  year : Int
  month : Nat
  day : Nat
  deriving DecidableEq, Repr

def isLeapYear (year : Int) : Bool :=
  year % 4 == 0 && (year % 100 != 0 || year % 400 == 0)

def daysOfMonth (year : Int) (month : Nat) : Nat :=
  if month = 2 then (if isLeapYear year then 29 else 28)
  else if month = 4 || month = 6 || month = 9 || month = 11 then 30
  else 31

/-- Years begin in March here, so that the leap day is the last of its year; 400 of them have 146097
days. -/
def Date.ofCivil (civil : Civil) : Date :=
  let year := if civil.month ≤ 2 then civil.year - 1 else civil.year
  let era := year / 400
  let yearOfEra := year % 400
  let shifted := (civil.month + 9) % 12
  let dayOfYear := (153 * shifted + 2) / 5 + civil.day - 1
  let dayOfEra := yearOfEra * 365 + yearOfEra / 4 - yearOfEra / 100 + dayOfYear
  ⟨era * 146097 + dayOfEra - 719468⟩

/-- Year, month and day of a date, by the same years from March on. -/
def Date.civil (date : Date) : Civil :=
  let shifted := date.day + 719468
  let era := shifted / 146097
  let dayOfEra := (shifted % 146097).toNat
  let yearOfEra := (dayOfEra - dayOfEra / 1460 + dayOfEra / 36524 - dayOfEra / 146096) / 365
  let dayOfYear := dayOfEra - (365 * yearOfEra + yearOfEra / 4 - yearOfEra / 100)
  let month := (5 * dayOfYear + 2) / 153
  let day := dayOfYear - (153 * month + 2) / 5 + 1
  let month := if month < 10 then month + 3 else month - 9
  ⟨era * 400 + yearOfEra + if month ≤ 2 then 1 else 0, month, day⟩

/-- Whether the month is in the year and the day in the month. -/
def Civil.isValid (civil : Civil) : Bool :=
  1 ≤ civil.month && civil.month ≤ 12 && 1 ≤ civil.day &&
    civil.day ≤ daysOfMonth civil.year civil.month

/-- The first of January of the year -262143. -/
def Date.first : Date :=
  .ofCivil ⟨-262143, 1, 1⟩

/-- The last of December of the year 262142. -/
def Date.last : Date :=
  .ofCivil ⟨262142, 12, 31⟩

def Date.inRange (date : Date) : Bool :=
  Date.first.day ≤ date.day && date.day ≤ Date.last.day

/-- The date of a valid year, month and day within the range. -/
def Date.ofCivil? (civil : Civil) : Option Date :=
  if civil.isValid && (Date.ofCivil civil).inRange then some (.ofCivil civil) else none

def Date.daysFromMonday (date : Date) : Nat :=
  ((date.day + 3) % 7).toNat

def Date.daysFromSunday (date : Date) : Nat :=
  ((date.day + 4) % 7).toNat

/-- The day of the year, counted from one. -/
def Date.ordinal (date : Date) : Nat :=
  (date.day - (Date.ofCivil ⟨date.civil.year, 1, 1⟩).day).toNat + 1

/-- Weeks that begin on Monday belong to the year of their Thursday: that year, and the number of
the week in it. -/
def Date.week (date : Date) : Int × Nat :=
  let thursday : Date := ⟨date.day - date.daysFromMonday + 3⟩
  (thursday.civil.year, (thursday.ordinal - 1) / 7 + 1)

/-- A number of months further, on the last day of the month if that is shorter. -/
def Civil.addMonths (civil : Civil) (months : Int) : Civil :=
  let total := civil.year * 12 + (civil.month - 1 : Nat) + months
  let year := total / 12
  let month := (total % 12).toNat + 1
  ⟨year, month, min civil.day (daysOfMonth year month)⟩

/-- A number of months further, if that date lies in the range. -/
def Date.addMonths? (date : Date) (months : Int) : Option Date :=
  if months = 0 then some date else Date.ofCivil? (date.civil.addMonths months)

end DashboardFilters.Calendar
