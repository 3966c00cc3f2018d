import DashboardFilters.Proofs.Calendar.Civil
import DashboardFilters.Proofs.Digits
import DashboardFilters.Temporal.Literal

namespace DashboardFilters.Calendar

open Decimal

/-- Rows of digits for year, month and day of a valid date. -/
structure IsoDate where
  year : List Char
  month : List Char
  day : List Char
  yearRow : Row 4 year
  monthRow : Row 2 month
  dayRow : Row 2 day
  valid : Civil.isValid ⟨ofDigits year, ofDigits month, ofDigits day⟩ = true

/-- Rows of digits for hour, minute and second, where second sixty is a leap second. -/
structure IsoTime where
  hour : List Char
  minute : List Char
  second : List Char
  hourRow : Row 2 hour
  minuteRow : Row 2 minute
  secondRow : Row 2 second
  hours : ofDigits hour < 24
  minutes : ofDigits minute < 60
  seconds : ofDigits second ≤ 60

/-- Years of at most four digits are written without a sign. -/
theorem yearText_natCast {number : Nat} (short : number < 10000) :
    yearText .zeros number = padded 4 number := by
  have range : (decide (0 ≤ (number : Int)) && decide ((number : Int) < 10000)) = true := by
    rw [Bool.and_eq_true, decide_eq_true_eq, decide_eq_true_eq]
    omega
  have positive : ¬ (number : Int) < 0 := by omega
  rw [yearText, if_pos range]
  simp only [filled, if_neg positive]
  rfl

/-- Dates of some thousand years around 1970 lie in the range. -/
theorem Date.inRange_of_near {date : Date} (early : -1000000 < date.day)
    (late : date.day < 4000000) : date.inRange = true := by
  have first : Date.first.day ≤ -1000000 := by decide
  have last : 4000000 ≤ Date.last.day := by decide
  rw [Date.inRange, Bool.and_eq_true, decide_eq_true_eq, decide_eq_true_eq]
  omega

namespace Read

/-- Rows of digits with hyphens between them are a date, if there is one of these numbers. -/
theorem date_rows {year month day : List Char} (yearRow : Row 4 year) (monthRow : Row 2 month)
    (dayRow : Row 2 day) (rest : List Char) :
    date (year ++ '-' :: (month ++ '-' :: (day ++ rest))) =
      ofOption (Date.ofCivil? ⟨(ofDigits year : Int), ofDigits month, ofDigits day⟩) rest := by
  apply Eq.trans (bind_of_some (year_row yearRow _))
  apply Eq.trans (bind_of_some (literal_cons '-' _))
  apply Eq.trans (bind_of_some (upTo_row monthRow (by decide) _))
  apply Eq.trans (bind_of_some (literal_cons '-' _))
  exact bind_of_some (upTo_row dayRow (by decide) _)

/-- Rows of digits with colons between them are a time of day, if there is one of these numbers. -/
theorem time_rows {hour minute second : List Char} (hourRow : Row 2 hour) (minuteRow : Row 2 minute)
    (secondRow : Row 2 second) (rest : List Char) :
    time (hour ++ ':' :: (minute ++ ':' :: (second ++ rest))) =
      ofOption (TimeOfDay.ofClock? (ofDigits hour) (ofDigits minute) (ofDigits second) 0) rest := by
  apply Eq.trans (bind_of_some (upTo_row hourRow (by decide) _))
  apply Eq.trans (bind_of_some (literal_cons ':' _))
  apply Eq.trans (bind_of_some (upTo_row minuteRow (by decide) _))
  apply Eq.trans (bind_of_some (literal_cons ':' _))
  exact bind_of_some (upTo_row secondRow (by decide) _)

end Read

namespace IsoDate

variable (text : IsoDate)

def chars : List Char :=
  text.year ++ '-' :: text.month ++ '-' :: text.day

def civil : Civil :=
  ⟨ofDigits text.year, ofDigits text.month, ofDigits text.day⟩

def date : Date :=
  .ofCivil text.civil

theorem isoChars_date : text.date.isoChars = text.chars := by
  have shown : text.date.civil = text.civil := Date.civil_ofCivil text.valid
  have short : ofDigits text.year < 10000 := ofDigits_lt text.yearRow
  have year := padded_ofDigits text.yearRow (by decide)
  have month := padded_ofDigits text.monthRow (by decide)
  have day := padded_ofDigits text.dayRow (by decide)
  rw [Date.isoChars, shown]
  simp only [civil]
  rw [yearText_natCast short, year, month, day, chars]

theorem day_near : -900000 < text.date.day ∧ text.date.day < 3000000 := by
  have short : ofDigits text.year < 10000 := ofDigits_lt text.yearRow
  have days := Date.day_ofCivil text.civil
  have inEra := Civil.dayOfEra_lt text.valid
  change text.date.day + 719468 = _ at days
  change text.civil.dayOfEra < 146097 at inEra
  have year : text.civil.year = ofDigits text.year := rfl
  have years : -1 ≤ text.civil.marchYear ∧ text.civil.marchYear < 10000 := by
    unfold Civil.marchYear
    by_cases early : text.civil.month ≤ 2
    · rw [if_pos early]
      omega
    · rw [if_neg early]
      omega
  omega

theorem ofCivil?_civil : Date.ofCivil? text.civil = some text.date := by
  obtain ⟨early, late⟩ := text.day_near
  have inRange : text.date.inRange = true := Date.inRange_of_near (by omega) (by omega)
  have known : (text.civil.isValid && (Date.ofCivil text.civil).inRange) = true :=
    Bool.and_eq_true_iff.mpr ⟨text.valid, inRange⟩
  rw [Date.ofCivil?, if_pos known]
  rfl

/-- The text in front of any other. -/
theorem chars_append (rest : List Char) : text.chars ++ rest =
    text.year ++ '-' :: (text.month ++ '-' :: (text.day ++ rest)) := by
  simp only [chars, List.append_assoc, List.cons_append]

theorem read_date (rest : List Char) : Read.date (text.chars ++ rest) = some (text.date, rest) := by
  rw [chars_append, Read.date_rows text.yearRow text.monthRow text.dayRow]
  change Read.ofOption (Date.ofCivil? text.civil) rest = _
  rw [ofCivil?_civil]
  rfl

end IsoDate

theorem TimeOfDay.ofClock?_shown {hour minute second : Nat} (hours : hour < 24)
    (minutes : minute < 60) (seconds : second ≤ 60) :
    ∃ time, ofClock? hour minute second 0 = some time ∧ time.hour = hour ∧
      time.minute = minute ∧ time.second = second := by
  have inClock : hour < 24 ∧ minute < 60 ∧ second ≤ 60 ∧ 0 < 1000000000 :=
    ⟨hours, minutes, seconds, by decide⟩
  rw [ofClock?, dif_pos inClock]
  by_cases leap : second = 60
  · rw [if_pos leap]
    refine ⟨_, rfl, ?_⟩
    simp only [TimeOfDay.hour, TimeOfDay.minute, TimeOfDay.second]
    omega
  · rw [if_neg leap]
    refine ⟨_, rfl, ?_⟩
    simp only [TimeOfDay.hour, TimeOfDay.minute, TimeOfDay.second]
    omega

namespace IsoTime

variable (text : IsoTime)

def chars : List Char :=
  text.hour ++ ':' :: text.minute ++ ':' :: text.second

def time : TimeOfDay :=
  (TimeOfDay.ofClock? (ofDigits text.hour) (ofDigits text.minute) (ofDigits text.second) 0).getD
    .midnight

theorem ofClock?_time : TimeOfDay.ofClock? (ofDigits text.hour) (ofDigits text.minute)
    (ofDigits text.second) 0 = some text.time := by
  obtain ⟨clock, known, -⟩ := TimeOfDay.ofClock?_shown text.hours text.minutes text.seconds
  rw [time, known]
  rfl

theorem isoChars_time : text.time.isoChars = text.chars := by
  obtain ⟨clock, known, hour, minute, second⟩ :=
    TimeOfDay.ofClock?_shown text.hours text.minutes text.seconds
  obtain rfl : text.time = clock := Option.some.inj (text.ofClock?_time.symm.trans known)
  rw [TimeOfDay.isoChars, hour, minute, second, padded_ofDigits text.hourRow (by decide),
    padded_ofDigits text.minuteRow (by decide), padded_ofDigits text.secondRow (by decide), chars]

/-- The text in front of any other. -/
theorem chars_append (rest : List Char) : text.chars ++ rest =
    text.hour ++ ':' :: (text.minute ++ ':' :: (text.second ++ rest)) := by
  simp only [chars, List.append_assoc, List.cons_append]

theorem read_time (rest : List Char) : Read.time (text.chars ++ rest) = some (text.time, rest) := by
  rw [chars_append, Read.time_rows text.hourRow text.minuteRow text.secondRow, ofClock?_time]
  rfl

end IsoTime

namespace DateTime

theorem ofTimestamp_timestamp (moment : DateTime) :
    ofTimestamp moment.timestamp moment.time.nanos moment.time.nanosInSecond = moment := by
  obtain ⟨⟨day⟩, seconds, nanos, secondsInDay, nanosInSecond⟩ := moment
  have days : (day * 86400 + (seconds : Int)) / 86400 = day := by omega
  have rest : ((day * 86400 + (seconds : Int)) % 86400).toNat = seconds := by omega
  simp only [ofTimestamp, timestamp, TimeOfDay.wrapped, days, rest]

/-- The timestamp of a moment is that it was made of. -/
theorem timestamp_ofTimestamp (timestamp : Int) (nanos : Nat) (small : nanos < 2000000000) :
    (ofTimestamp timestamp nanos small).timestamp = timestamp := by
  simp only [ofTimestamp, DateTime.timestamp, TimeOfDay.wrapped]
  omega

/-- Going back and forth by a span of seconds ends where it began. -/
theorem shifted_back (moment : DateTime) (seconds : Int) :
    (moment.shifted (-seconds)).shifted seconds = moment := by
  have same : moment.timestamp + -seconds + seconds = moment.timestamp := by omega
  rw [shifted, shifted, timestamp_ofTimestamp, same]
  exact ofTimestamp_timestamp moment

/-- Less than a day of distance moves a date by one day at most. -/
theorem day_shifted (moment : DateTime) {seconds : Int} (inDay : -86400 < seconds ∧ seconds < 86400) :
    moment.date.day - 1 ≤ (moment.shifted seconds).date.day ∧
      (moment.shifted seconds).date.day ≤ moment.date.day + 1 := by
  have short := moment.time.secondsInDay
  simp only [shifted, ofTimestamp, timestamp]
  omega

end DateTime

end DashboardFilters.Calendar

namespace DashboardFilters.Timezone

variable {timezone : Timezone}

/-- A timezone is that of its distance. -/
theorem ofSeconds?_seconds (timezone : Timezone) :
    ofSeconds? timezone.seconds = some timezone := by
  rw [ofSeconds?, dif_pos timezone.inDay]

/-- The distance of a timezone is that it was made of. -/
theorem seconds_of_ofSeconds {seconds : Int} (known : ofSeconds? seconds = some timezone) :
    timezone.seconds = seconds := by
  unfold ofSeconds? at known
  split at known
  next => rw [← Option.some.inj known]
  next => exact absurd known.symm (Option.some_ne_none timezone)

theorem minutes_of_ofClock {negative : Bool} {clock : List Char}
    (known : ofClock? negative clock = some timezone) : timezone.seconds % 60 = 0 := by
  obtain ⟨⟨hours, minutes⟩, -, known⟩ := Option.bind_eq_some_iff.mp known
  dsimp only at known
  split at known
  next => exact absurd known.symm (Option.some_ne_none timezone)
  next =>
    split at known
    next => exact absurd known.symm (Option.some_ne_none timezone)
    next =>
      rw [seconds_of_ofSeconds known]
      cases negative
      · change ((_ : Nat) : Int) % 60 = 0
        omega
      · change -((_ : Nat) : Int) % 60 = 0
        omega

/-- A timezone that is read has a distance of full minutes. -/
theorem minutes_of_parse {name : String} (known : parse? name = some timezone) :
    timezone.seconds % 60 = 0 := by
  unfold parse? at known
  dsimp only at known
  split at known
  next => rw [← Option.some.inj known, utc]; rfl
  next =>
    split at known
    next => exact minutes_of_ofClock known
    next => exact minutes_of_ofClock known
    next => exact absurd known.symm (Option.some_ne_none timezone)

/-- A timezone of full minutes is told by sign, hours and minutes. -/
theorem toList_offsetText (full : timezone.seconds % 60 = 0) :
    timezone.offsetText.toList = (if timezone.seconds < 0 then '-' else '+') ::
      (Calendar.padded 2 (timezone.seconds.natAbs / 3600) ++
        ':' :: Calendar.padded 2 (timezone.seconds.natAbs / 60 % 60)) := by
  have none : timezone.seconds.natAbs % 60 = 0 := by omega
  rw [offsetText, String.toList_ofList, if_pos none, List.append_nil, List.cons_append]
  rfl

end DashboardFilters.Timezone

namespace DashboardFilters.Calendar

open Decimal

variable {timezone : Timezone}

/-- For full minutes, instants tell the distance from UTC in the same way as timezones. -/
theorem offsetText_minutes (full : timezone.seconds % 60 = 0) :
    offsetText .minutes true timezone = timezone.offsetText.toList := by
  have rounded : (timezone.seconds.natAbs + 30) / 60 = timezone.seconds.natAbs / 60 := by omega
  have hours : timezone.seconds.natAbs / 60 / 60 = timezone.seconds.natAbs / 3600 := by omega
  rw [Timezone.toList_offsetText full]
  simp only [offsetText, rounded, hours, if_true, List.append_assoc, List.cons_append,
    List.nil_append]

/-- The text of a timezone of full minutes begins with a sign and ends in two digits. -/
theorem offsetText_ends (full : timezone.seconds % 60 = 0) : ∃ sign hours minutes,
    (sign = '+' ∨ sign = '-') ∧ Row 2 minutes ∧
      timezone.offsetText.toList = sign :: (hours ++ minutes) := by
  have inHour : timezone.seconds.natAbs / 60 % 60 < 60 := Nat.mod_lt _ (by decide)
  obtain ⟨minutes, -⟩ := row_padded (by decide : 0 < 2) (Nat.lt_trans inHour (by decide))
  refine ⟨if timezone.seconds < 0 then '-' else '+',
    padded 2 (timezone.seconds.natAbs / 3600) ++ [':'], _, ?_, minutes, ?_⟩
  · by_cases west : timezone.seconds < 0
    · exact Or.inr (if_pos west)
    · exact Or.inl (if_neg west)
  · rw [Timezone.toList_offsetText full, List.append_assoc, List.singleton_append]

/-- A distance from UTC is read from a sign and two rows of digits. -/
theorem Read.zone_rows {sign : Char} {hours minutes : List Char}
    (signed : sign = '+' ∨ sign = '-' ∨ sign = '\u2212') (hourRow : Row 2 hours)
    (minuteRow : Row 2 minutes) (inDay : ofDigits hours < 24)
    (inHour : ofDigits minutes < 60) (known : Timezone.ofSeconds? (Decimal.signed (sign ≠ '+')
      (ofDigits hours * 3600 + ofDigits minutes * 60)) = some timezone) :
    zone (sign :: (hours ++ ':' :: minutes)) = some (timezone, []) := by
  have inRange : ¬ (decide (59 < ofDigits minutes) || decide (23 < ofDigits hours)) = true := by
    rw [Bool.or_eq_true, decide_eq_true_eq, decide_eq_true_eq]
    omega
  have last := exactly_row minuteRow []
  rw [List.append_nil] at last
  -- Past the sign, all directions are read in the same way.
  rcases signed with rfl | rfl | rfl
  all_goals
    apply Eq.trans (bind_of_some rfl)
    apply Eq.trans (bind_of_some (exactly_row hourRow _))
    apply Eq.trans (bind_of_some (literal_cons ':' _))
    apply Eq.trans (bind_of_some last)
    rw [if_neg inRange, known]
    rfl

/-- A timezone of full minutes is read from its own text. -/
theorem Read.zone_offsetText (full : timezone.seconds % 60 = 0) :
    zone timezone.offsetText.toList = some (timezone, []) := by
  have inDay := timezone.inDay
  have hours : timezone.seconds.natAbs / 3600 < 24 := by omega
  have minutes : timezone.seconds.natAbs / 60 % 60 < 60 := Nat.mod_lt _ (by decide)
  obtain ⟨hourRow, hour⟩ := row_padded (by decide : 0 < 2) (Nat.lt_trans hours (by decide))
  obtain ⟨minuteRow, minute⟩ := row_padded (by decide : 0 < 2) (Nat.lt_trans minutes (by decide))
  rw [Timezone.toList_offsetText full]
  by_cases west : timezone.seconds < 0
  · rw [if_pos west]
    apply zone_rows (Or.inr (Or.inl rfl)) hourRow minuteRow (by rwa [hour]) (by rwa [minute])
    have distance : Decimal.signed ('-' ≠ '+') (timezone.seconds.natAbs / 3600 * 3600 +
        timezone.seconds.natAbs / 60 % 60 * 60) = timezone.seconds := by
      change -((_ : Nat) : Int) = _
      omega
    rw [hour, minute, distance, Timezone.ofSeconds?_seconds]
  · rw [if_neg west]
    apply zone_rows (Or.inl rfl) hourRow minuteRow (by rwa [hour]) (by rwa [minute])
    have distance : Decimal.signed ('+' ≠ '+') (timezone.seconds.natAbs / 3600 * 3600 +
        timezone.seconds.natAbs / 60 % 60 * 60) = timezone.seconds := by
      change ((_ : Nat) : Int) = _
      omega
    rw [hour, minute, distance, Timezone.ofSeconds?_seconds]

/-- An instant at a time of a timezone is told in that timezone. -/
theorem Instant.eq_of_ofLocal? {moment : DateTime} {instant : Instant}
    (known : ofLocal? moment timezone = some instant) :
    instant = ⟨moment.shifted (-timezone.seconds), timezone⟩ := by
  unfold ofLocal? at known
  dsimp only at known
  split at known
  next => exact (Option.some.inj known).symm
  next => exact absurd known.symm (Option.some_ne_none instant)

/-- The instant at which it is the time of two texts in a timezone. -/
def IsoDate.instant (date : IsoDate) (time : IsoTime) (timezone : Timezone) : Instant :=
  ⟨DateTime.shifted ⟨date.date, time.time⟩ (-timezone.seconds), timezone⟩

namespace IsoDate

variable (date : IsoDate) (time : IsoTime)

/-- The date of a text is near enough that each of its times is an instant. -/
theorem ofLocal?_date (clock : TimeOfDay) (timezone : Timezone) :
    Instant.ofLocal? ⟨date.date, clock⟩ timezone =
      some ⟨DateTime.shifted ⟨date.date, clock⟩ (-timezone.seconds), timezone⟩ := by
  have inDay := timezone.inDay
  obtain ⟨early, late⟩ := date.day_near
  obtain ⟨before, behind⟩ := DateTime.day_shifted ⟨date.date, clock⟩
    (by omega : -86400 < -timezone.seconds ∧ -timezone.seconds < 86400)
  dsimp only at before behind
  have inRange := Date.inRange_of_near (Int.lt_of_lt_of_le (by omega) before)
    (Int.lt_of_le_of_lt behind (by omega))
  simp only [Instant.ofLocal?, inRange, if_true]

/-- The instant is told by the texts that it is read from. -/
theorem iso_instant (full : timezone.seconds % 60 = 0) : (date.instant time timezone).iso =
    String.ofList (date.chars ++ 'T' :: time.chars ++ timezone.offsetText.toList) := by
  have moment : (date.instant time timezone).localTime = ⟨date.date, time.time⟩ :=
    DateTime.shifted_back _ _
  rw [Instant.iso, moment]
  dsimp only [instant]
  rw [isoChars_date, IsoTime.isoChars_time, offsetText_minutes full]

/-- Behind a date, a separator, a time and a fraction the form for exchange goes on with the
distance from UTC; then the numbers have to make a time and an instant. -/
theorem exchange_chars {separator : Char} (separated : separator ∈ ['T', 't', ' '])
    {fraction zone : List Char} {nanos : Nat}
    (fractionRead : Read.fraction (fraction ++ zone) = some (nanos, zone)) :
    Read.exchange (date.chars ++ separator :: (time.chars ++ (fraction ++ zone))) =
      (Read.zone >>= fun timezone => Read.ofOption (TimeOfDay.ofClock? (ofDigits time.hour)
        (ofDigits time.minute) (ofDigits time.second) nanos) >>= fun clock =>
          Read.ofOption (Instant.ofLocal? ⟨date.date, clock⟩ timezone)) zone := by
  have valid : Date.ofCivil? ⟨(ofDigits date.year : Int), ofDigits date.month, ofDigits date.day⟩ =
      some date.date := date.ofCivil?_civil
  have begun (rest : List Char) :
      Read.oneOf ['T', 't', ' '] (separator :: rest) = some (separator, rest) := if_pos separated
  rw [IsoDate.chars_append, IsoTime.chars_append]
  apply Eq.trans (Read.bind_of_some (Read.exactly_row date.yearRow _))
  apply Eq.trans (Read.bind_of_some (Read.literal_cons '-' _))
  apply Eq.trans (Read.bind_of_some (Read.exactly_row date.monthRow _))
  apply Eq.trans (Read.bind_of_some (Read.literal_cons '-' _))
  apply Eq.trans (Read.bind_of_some (Read.exactly_row date.dayRow _))
  apply Eq.trans (Read.bind_of_some (begun _))
  apply Eq.trans (Read.bind_of_some (Read.exactly_row time.hourRow _))
  apply Eq.trans (Read.bind_of_some (Read.literal_cons ':' _))
  apply Eq.trans (Read.bind_of_some (Read.exactly_row time.minuteRow _))
  apply Eq.trans (Read.bind_of_some (Read.literal_cons ':' _))
  apply Eq.trans (Read.bind_of_some (Read.exactly_row time.secondRow _))
  apply Eq.trans (Read.bind_of_some fractionRead)
  rw [valid]
  rfl

/-- A date and a time are read in the form for exchange if the fraction and the distance from UTC
behind them are. -/
theorem read_exchange_of {separator : Char} (separated : separator ∈ ['T', 't', ' '])
    {fraction zone : List Char} {nanos : Nat} {clock : TimeOfDay}
    (fractionRead : Read.fraction (fraction ++ zone) = some (nanos, zone))
    (zoneRead : Read.zone zone = some (timezone, []))
    (known : TimeOfDay.ofClock? (ofDigits time.hour) (ofDigits time.minute) (ofDigits time.second)
      nanos = some clock) :
    Read.exchange (date.chars ++ separator :: (time.chars ++ (fraction ++ zone))) =
      some (⟨DateTime.shifted ⟨date.date, clock⟩ (-timezone.seconds), timezone⟩, []) := by
  rw [exchange_chars date time separated fractionRead, known]
  apply Eq.trans (Read.bind_of_some zoneRead)
  change Read.ofOption (Instant.ofLocal? _ _) [] = _
  rw [ofLocal?_date]
  rfl

theorem read_exchange (full : timezone.seconds % 60 = 0) :
    Read.exchange (date.chars ++ 'T' :: time.chars ++ timezone.offsetText.toList) =
      some (date.instant time timezone, []) := by
  have zone := Read.zone_offsetText full
  obtain ⟨sign, hours, minutes, signed, -, shape⟩ := offsetText_ends full
  -- No fraction follows, as a sign is no point.
  have fraction : Read.fraction ([] ++ timezone.offsetText.toList) =
      some (0, timezone.offsetText.toList) := by
    rw [shape]
    rcases signed with rfl | rfl <;> rfl
  have read := read_exchange_of date time (by decide : 'T' ∈ ['T', 't', ' ']) fraction zone
    time.ofClock?_time
  rw [List.append_assoc, List.cons_append]
  exact read

end IsoDate

end DashboardFilters.Calendar

namespace DashboardFilters

open Calendar Decimal

/-- A text from one row of digits to another has no blanks around it. -/
theorem Text.trim_between {before after : Nat} {front back : List Char} (first : Row before front)
    (last : Row after back) (some : 0 < before) (other : 0 < after) (middle : List Char) :
    trim (String.ofList (front ++ middle ++ back)) = String.ofList (front ++ middle ++ back) := by
  rw [trim, String.toList_ofList, trimChars_between first last some other]

/-- A reader that takes all characters reads the text. -/
theorem Calendar.Read.all?_of {α : Type} {read : Read α} {chars : List Char} {value : α}
    (reads : read chars = some (value, [])) : all? read (String.ofList chars) = some value := by
  rw [all?, String.toList_ofList, reads]

/-- The ISO texts of a kind: date, time, or both of them with the distance of a timezone. -/
def TemporalKind.IsIso (timezone : Timezone) : TemporalKind → String → Prop
  | .date, text => ∃ date : IsoDate, text = String.ofList date.chars
  | .time, text => ∃ time : IsoTime, text = String.ofList time.chars
  | .dateTime, text => ∃ (date : IsoDate) (time : IsoTime),
      text = String.ofList (date.chars ++ 'T' :: time.chars ++ timezone.offsetText.toList)

namespace TemporalValue

variable {timezone : Timezone}

/-- A date is written as the text it is read from. -/
theorem parse_isoDate (date : IsoDate) : parse (String.ofList date.chars) .date timezone =
    .ok (.date date.date) := by
  have shape : date.chars = date.year ++ ('-' :: date.month ++ ['-']) ++ date.day := by
    simp only [IsoDate.chars, List.append_assoc, List.cons_append, List.nil_append]
  have trimmed := Text.trim_between date.yearRow date.dayRow (by decide) (by decide)
    ('-' :: date.month ++ ['-'])
  have read := date.read_date []
  rw [← shape] at trimmed
  rw [List.append_nil] at read
  have known : parseDate? (String.ofList date.chars) = some date.date := by
    rw [parseDate?, Date.parse?, Read.all?_of read, Option.some_or]
  unfold parse
  dsimp only
  rw [trimmed, known, Option.map_some]

/-- The text of a time has no blanks around it. -/
theorem trim_isoTime (time : IsoTime) :
    Text.trim (String.ofList time.chars) = String.ofList time.chars := by
  have shape : time.chars = time.hour ++ (':' :: time.minute ++ [':']) ++ time.second := by
    simp only [IsoTime.chars, List.append_assoc, List.cons_append, List.nil_append]
  rw [shape, Text.trim_between time.hourRow time.secondRow (by decide) (by decide)]

/-- A time is written as the text it is read from. -/
theorem parse_isoTime (time : IsoTime) : parse (String.ofList time.chars) .time timezone =
    .ok (.time time.time) := by
  have trimmed := trim_isoTime time
  have read := time.read_time []
  rw [List.append_nil] at read
  have known : parseTime? (String.ofList time.chars) = some time.time := by
    rw [parseTime?, TimeOfDay.parse?, Read.all?_of read, Option.some_or, Option.some_or]
  unfold parse
  dsimp only
  rw [trimmed, known, Option.map_some]

/-- What is read for a kind is a value of that kind. -/
theorem cases_of_parse {text : String} {kind : TemporalKind} {value : TemporalValue}
    (known : parse text kind timezone = .ok value) :
    (kind = .date ∧ ∃ day, parseDate? (Text.trim text) = some day ∧ value = .date day) ∨
      (kind = .time ∧ ∃ clock, parseTime? (Text.trim text) = some clock ∧ value = .time clock) ∨
      (kind = .dateTime ∧ ∃ instant, parseInstant? (Text.trim text) timezone = some instant ∧
        value = .dateTime instant) := by
  unfold parse at known
  dsimp only at known
  split at known
  next found =>
    cases known
    cases kind with
    | date =>
        obtain ⟨day, read, same⟩ := Option.map_eq_some_iff.mp found
        exact Or.inl ⟨rfl, day, read, same.symm⟩
    | time =>
        obtain ⟨clock, read, same⟩ := Option.map_eq_some_iff.mp found
        exact Or.inr (Or.inl ⟨rfl, clock, read, same.symm⟩)
    | dateTime =>
        obtain ⟨instant, read, same⟩ := Option.map_eq_some_iff.mp found
        exact Or.inr (Or.inr ⟨rfl, instant, read, same.symm⟩)
  next => cases known

/-- An instant that is read for a timezone is told in it. -/
theorem zone_of_parseInstant {text : String} {instant : Instant}
    (known : parseInstant? text timezone = some instant) : instant.zone = timezone := by
  unfold parseInstant? at known
  rcases Option.or_eq_some_iff.mp known with exchanged | ⟨-, placed⟩
  · obtain ⟨other, -, rfl⟩ := Option.map_eq_some_iff.mp exchanged
    rfl
  · obtain ⟨moment, -, found⟩ := Option.bind_eq_some_iff.mp placed
    rw [Instant.eq_of_ofLocal? found]

/-- A text without blanks around it is read as an instant. -/
theorem parse_of_parseInstant {text : String} {instant : Instant} (trimmed : Text.trim text = text)
    (known : parseInstant? text timezone = some instant) :
    parse text .dateTime timezone = .ok (.dateTime instant) := by
  unfold parse
  dsimp only
  rw [trimmed, known, Option.map_some]

/-- An instant in a timezone is read from its text. -/
theorem parse_isoInstant (full : timezone.seconds % 60 = 0) (date : IsoDate) (time : IsoTime) :
    parse (String.ofList (date.chars ++ 'T' :: time.chars ++ timezone.offsetText.toList))
      .dateTime timezone = .ok (.dateTime (date.instant time timezone)) := by
  obtain ⟨sign, hours, minutes, -, minuteRow, ends⟩ := offsetText_ends full
  obtain ⟨middle, shape⟩ : ∃ middle, date.chars ++ 'T' :: time.chars ++
      timezone.offsetText.toList = date.year ++ middle ++ minutes := by
    refine ⟨('-' :: date.month ++ '-' :: date.day) ++ ('T' :: time.chars ++ sign :: hours), ?_⟩
    rw [ends, IsoDate.chars]
    simp only [List.append_assoc, List.cons_append]
  have trimmed := Text.trim_between date.yearRow minuteRow (by decide) (by decide) middle
  rw [← shape] at trimmed
  have known : parseInstant? (String.ofList (date.chars ++ 'T' :: time.chars ++
      timezone.offsetText.toList)) timezone = some (date.instant time timezone) := by
    rw [parseInstant?, Instant.parse?, Read.all?_of (date.read_exchange time full),
      Option.map_some, Option.some_or]
    rfl
  exact parse_of_parseInstant trimmed known

/-- A canonical text is read, and what is read from it is written as the same text. -/
theorem iso_of_isIso (full : timezone.seconds % 60 = 0) {kind : TemporalKind} {text : String}
    (canonical : kind.IsIso timezone text) :
    ∃ value, parse text kind timezone = .ok value ∧ value.iso = text := by
  cases kind with
  | date =>
      obtain ⟨date, rfl⟩ := canonical
      exact ⟨_, parse_isoDate date, congrArg String.ofList date.isoChars_date⟩
  | time =>
      obtain ⟨time, rfl⟩ := canonical
      exact ⟨_, parse_isoTime time, congrArg String.ofList time.isoChars_time⟩
  | dateTime =>
      obtain ⟨date, time, rfl⟩ := canonical
      exact ⟨_, parse_isoInstant full date time, date.iso_instant time full⟩

end TemporalValue

end DashboardFilters
