import DashboardFilters.Calendar.Reader
import DashboardFilters.Calendar.Writer
import DashboardFilters.Column
import DashboardFilters.Config.Basic
import DashboardFilters.Failure

namespace DashboardFilters

open Calendar

namespace Calendar

def Date.iso (date : Date) : String :=
  String.ofList date.isoChars

/-- Hours, minutes and seconds; the fraction is left out. -/
def TimeOfDay.isoChars (time : TimeOfDay) : List Char :=
  padded 2 time.hour ++ ':' :: padded 2 time.minute ++ ':' :: padded 2 time.second

def TimeOfDay.iso (time : TimeOfDay) : String :=
  String.ofList time.isoChars

/-- Date, time and distance from UTC in the instant's own timezone; the fraction is left out. -/
def Instant.iso (instant : Instant) : String :=
  let moment := instant.localTime
  String.ofList (moment.date.isoChars ++ 'T' :: moment.time.isoChars ++
    offsetText .minutes true instant.zone)

/-- The ISO text of an instant for a kind of column: dates and times are taken in the instant's own
timezone, instants are told in the given one. -/
def Instant.isoAs (instant : Instant) (kind : TemporalKind) (timezone : Timezone) : String :=
  match kind with
  | .date => instant.localTime.date.iso
  | .time => instant.localTime.time.iso
  | .dateTime => (instant.inZone timezone).iso

/-- Date, time with its full fraction, and distance from UTC, which is a letter if there is none. -/
def Instant.exchangeText (instant : Instant) : String :=
  let moment := instant.localTime
  if instant.zone.isUtc then
    String.ofList (moment.date.isoChars ++ 'T' :: moment.time.exactChars ++ ['Z'])
  else String.ofList (moment.exchangeChars instant.zone)

/-- The same with the distance from UTC always in figures. -/
def Instant.figuresText (instant : Instant) : String :=
  String.ofList (instant.localTime.exchangeChars instant.zone)

end Calendar

/-- A value that is picked in a calendar or clock. -/
inductive TemporalValue where
  | date (date : Date)
  | time (time : TimeOfDay)
  | dateTime (instant : Instant)
  deriving DecidableEq, Repr

/-- What the text of a kind should look like. -/
def TemporalKind.expected : TemporalKind → String
  | .date => "an ISO date (YYYY-MM-DD)"
  | .time => "an ISO time (HH:MM:SS)"
  | .dateTime => "an ISO datetime"

namespace TemporalValue

/-- A date, or the date of an instant or of a date and time. -/
def parseDate? (text : String) : Option Date :=
  (Date.parse? text).or
    (((Instant.parse? text).map fun instant => instant.localTime.date).or
      ((DateTime.parse? text).map DateTime.date))

/-- A time, or the time of an instant. -/
def parseTime? (text : String) : Option TimeOfDay :=
  (TimeOfDay.parse? text).or ((Instant.parse? text).map fun instant => instant.localTime.time)

/-- Date and time, or the midnight of a date. -/
def parseLocal? (text : String) : Option DateTime :=
  (DateTime.parse? text).or ((Date.parse? text).map fun date => ⟨date, .midnight⟩)

/-- An instant in the timezone of the display. -/
def parseInstant? (text : String) (timezone : Timezone) : Option Instant :=
  ((Instant.parse? text).map (·.inZone timezone)).or
    ((parseLocal? text).bind fun moment => Instant.ofLocal? moment timezone)

/-- The value of a text, blanks around it left out. -/
def parse (text : String) (kind : TemporalKind) (timezone : Timezone) :
    Except Failure TemporalValue :=
  let trimmed := Text.trim text
  let parsed := match kind with
    | .date => (parseDate? trimmed).map .date
    | .time => (parseTime? trimmed).map .time
    | .dateTime => (parseInstant? trimmed timezone).map .dateTime
  match parsed with
  | some value => .ok value
  | none => .error (.malformedLiteral kind.expected trimmed)

/-- The text in stored filters. -/
def iso : TemporalValue → String
  | .date day => day.iso
  | .time clock => clock.iso
  | .dateTime instant => instant.iso

/-- The text in form state, which loses nothing. -/
def exactText : TemporalValue → String
  | .date day => day.iso
  | .time clock => String.ofList clock.exactChars
  | .dateTime instant => instant.exchangeText

/-- The text in form state as a document. -/
def toJson (value : TemporalValue) : Json :=
  .string value.exactText

/-- The value shown by the pattern of its kind, if the pattern can show it. -/
def formatted? (value : TemporalValue) (formats : Formats) : Option String :=
  match value with
  | .date day => day.shown.formatBy? formats.date
  | .time clock => clock.shown.formatBy? formats.time
  | .dateTime instant => instant.shown.formatBy? formats.dateTime

/-- What users see; a pattern that cannot show the value gives way to the ISO text. -/
def display (value : TemporalValue) (formats : Formats) : String :=
  (value.formatted? formats).getD value.iso

end TemporalValue

end DashboardFilters
