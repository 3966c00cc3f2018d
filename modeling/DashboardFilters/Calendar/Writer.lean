import DashboardFilters.Calendar.Pattern

namespace DashboardFilters.Calendar

structure Shown where
  date : Option Date
  time : Option TimeOfDay
  zone : Option Timezone

/-- A date has neither time of day nor timezone. -/
def Date.shown (date : Date) : Shown :=
  ⟨some date, none, none⟩

/-- A time of day has neither date nor timezone. -/
def TimeOfDay.shown (time : TimeOfDay) : Shown :=
  ⟨none, some time, none⟩

/-- An instant has everything, as told in its own timezone. -/
def Instant.shown (instant : Instant) : Shown :=
  let moment := instant.localTime
  ⟨some moment.date, some moment.time, some instant.zone⟩

/-- A whole number of at least the given width, its sign included. -/
def filled (fill : Fill) (width : Nat) (explicitSign : Bool) (number : Int) : List Char :=
  let sign := if number < 0 then ['-'] else if explicitSign then ['+'] else []
  let digits := Nat.toDigits 10 number.natAbs
  match fill with
  | .nothing => sign ++ digits
  | .zeros => sign ++ Text.padStart (width - sign.length) '0' digits
  | .blanks => Text.padStart width ' ' (sign ++ digits)

/-- Two places; the first one counts on past nine with the characters that follow the digits. -/
def twoPlaces (fill : Fill) (number : Nat) : List Char :=
  let ones := Char.ofNat (48 + number % 10)
  match number / 10, fill with
  | 0, .nothing => [ones]
  | 0, .blanks => [' ', ones]
  | tens, _ => [Char.ofNat (48 + tens), ones]

/-- Years of more or less than four digits show their sign. -/
def yearText (fill : Fill) (year : Int) : List Char :=
  if 0 ≤ year && year < 10000 then filled fill 4 false year
  else filled fill 5 true year

/-- A number with zeros in front up to its width. -/
def padded (width number : Nat) : List Char :=
  Text.padStart width '0' (Nat.toDigits 10 number)

/-- The weeks of the year that have begun, with weeks that begin a number of days ago. -/
def weeksBegun (date : Date) (daysAgo : Nat) : Nat :=
  (date.ordinal + 6 - daysAgo) / 7

/-- The fraction with three, six or nine digits, as many as it needs; nothing for a full second. -/
def fractionText (fraction : Nat) : List Char :=
  if fraction = 0 then []
  else if fraction % 1000000 = 0 then '.' :: padded 3 (fraction / 1000000)
  else if fraction % 1000 = 0 then '.' :: padded 6 (fraction / 1000)
  else '.' :: padded 9 fraction

/-- Minutes are rounded, hours are cut off. -/
def offsetText (precision : Precision) (colons : Bool) (zone : Timezone) : List Char :=
  let sign := if zone.seconds < 0 then '-' else '+'
  let distance := zone.seconds.natAbs
  let colon := if colons then [':'] else []
  match precision with
  | .hours => sign :: padded 2 (distance / 3600)
  | .minutes =>
      let minutes := (distance + 30) / 60
      sign :: padded 2 (minutes / 60) ++ colon ++ padded 2 (minutes % 60)
  | .seconds =>
      sign :: padded 2 (distance / 3600) ++ colon ++ padded 2 (distance / 60 % 60) ++ colon ++
        padded 2 (distance % 60)

/-- Year, month and day with hyphens between them. -/
def Date.isoChars (date : Date) : List Char :=
  let civil := date.civil
  yearText .zeros civil.year ++ '-' :: padded 2 civil.month ++ '-' :: padded 2 civil.day

/-- Hours, minutes and seconds, with the fraction if there is one. -/
def TimeOfDay.exactChars (time : TimeOfDay) : List Char :=
  padded 2 time.hour ++ ':' :: padded 2 time.minute ++ ':' :: padded 2 time.second ++
    fractionText time.fraction

/-- The form for exchange: date, time and distance from UTC. -/
def DateTime.exchangeChars (moment : DateTime) (zone : Timezone) : List Char :=
  moment.date.isoChars ++ 'T' :: moment.time.exactChars ++ offsetText .minutes true zone

def monthNames : List String :=
  ["January", "February", "March", "April", "May", "June", "July", "August", "September",
    "October", "November", "December"]

def weekdayNames : List String :=
  ["Monday", "Tuesday", "Wednesday", "Thursday", "Friday", "Saturday", "Sunday"]

/-- A name in full, or its first three letters. -/
def nameText (long : Bool) (names : List String) (index : Nat) : List Char :=
  let name := (names.getD index "").toList
  if long then name else name.take 3

def Number.ofDate? (date : Date) : Number → Option (Fill → List Char)
  | .year => some fun fill => yearText fill date.civil.year
  | .century => some fun fill => twoPlaces fill (date.civil.year / 100 % 256).toNat
  | .yearOfCentury => some fun fill => twoPlaces fill (date.civil.year % 100).toNat
  | .weekYear => some fun fill => yearText fill date.week.1
  | .weekYearOfCentury => some fun fill => twoPlaces fill (date.week.1 % 100).toNat
  | .quarter => some fun _ => Nat.toDigits 10 ((date.civil.month - 1) / 3 + 1)
  | .month => some fun fill => twoPlaces fill date.civil.month
  | .day => some fun fill => twoPlaces fill date.civil.day
  | .weekFromSunday => some fun fill => twoPlaces fill (weeksBegun date date.daysFromSunday)
  | .weekFromMonday => some fun fill => twoPlaces fill (weeksBegun date date.daysFromMonday)
  | .week => some fun fill => twoPlaces fill date.week.2
  | .daysFromSunday => some fun _ => Nat.toDigits 10 date.daysFromSunday
  | .dayFromMonday => some fun _ => Nat.toDigits 10 (date.daysFromMonday + 1)
  | .ordinal => some fun fill => filled fill 3 false date.ordinal
  | _ => none

def Number.ofTime? (time : TimeOfDay) : Number → Option (Fill → List Char)
  | .hour => some fun fill => twoPlaces fill time.hour
  | .halfHour => some fun fill =>
      twoPlaces fill (if time.hour % 12 = 0 then 12 else time.hour % 12)
  | .minute => some fun fill => twoPlaces fill time.minute
  | .second => some fun fill => twoPlaces fill time.second
  | .nanosecond => some fun fill => filled fill 9 false time.fraction
  | _ => none

/-- The text of a number, if what is shown has it. -/
def Number.text? (number : Number) (fill : Fill) (shown : Shown) : Option (List Char) :=
  match number with
  | .timestamp => do
      let moment : DateTime := ⟨← shown.date, ← shown.time⟩
      let distance := (shown.zone.map Timezone.seconds).getD 0
      some (filled fill 9 false (moment.timestamp - distance))
  | _ =>
      let ofDate := shown.date.bind fun date => number.ofDate? date
      let ofTime := shown.time.bind fun time => number.ofTime? time
      (ofDate.or ofTime).map (· fill)

/-- The text of a piece, if what is shown has it. -/
def Part.text? (part : Part) (shown : Shown) : Option (List Char) :=
  match part with
  | .literal character => some [character]
  | .number field fill => field.text? fill shown
  | .monthName long => shown.date.map fun date => nameText long monthNames (date.civil.month - 1)
  | .weekdayName long => shown.date.map fun date => nameText long weekdayNames date.daysFromMonday
  | .halfDay upper => shown.time.map fun time =>
      let letters := if time.hour < 12 then ['a', 'm'] else ['p', 'm']
      if upper then letters.map Char.toUpper else letters
  | .fraction none => shown.time.map fun time => fractionText time.fraction
  | .fraction (some digits) => shown.time.map fun time =>
      '.' :: padded digits (time.fraction / Nat.pow 10 (9 - digits))
  | .fractionDigits digits => shown.time.map fun time =>
      padded digits (time.fraction / Nat.pow 10 (9 - digits))
  | .zoneName => shown.zone.map fun zone => zone.offsetText.toList
  | .offset precision colons => shown.zone.map fun zone => offsetText precision colons zone
  | .exchange => do
      let moment : DateTime := ⟨← shown.date, ← shown.time⟩
      some (moment.exchangeChars (← shown.zone))
  | .unshowable => none

/-- The texts of all pieces, if all of them can be shown. -/
def Shown.format? (shown : Shown) (parts : List Part) : Option String := do
  let pieces ← parts.mapM fun part => part.text? shown
  some (String.ofList pieces.flatten)

/-- Shows by the text of a pattern. -/
def Shown.formatBy? (shown : Shown) (pattern : String) : Option String := do
  shown.format? (← Part.ofText? pattern)

end DashboardFilters.Calendar
