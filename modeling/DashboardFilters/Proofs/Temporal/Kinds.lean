import DashboardFilters.Proofs.Calendar.Spellings

namespace DashboardFilters.Calendar

open Decimal

/-- The form of a date and a time without a distance from UTC, of any numbers. -/
inductive LooksNaive : List Char → Prop
  | rows {year month day hour minute second : List Char} {separator : Char} (yearRow : Row 4 year)
      (monthRow : Row 2 month) (dayRow : Row 2 day) (separated : separator = 'T' ∨ separator = ' ')
      (hourRow : Row 2 hour) (minuteRow : Row 2 minute) (secondRow : Row 2 second) :
      LooksNaive (year ++ '-' :: (month ++ '-' :: (day ++ separator ::
        (hour ++ ':' :: (minute ++ ':' :: (second ++ []))))))

/-- A reader whose value may be missing reads that of the text. -/
theorem Read.all?_of_ofOption {α : Type} {read : Read α} {text : List Char} {value? : Option α}
    (reads : read text = ofOption value? []) : all? read (String.ofList text) = value? := by
  cases value? with
  | none => exact all?_of_none reads
  | some value => exact all?_of reads

/-- A date and a time are read from a text if both of its parts are. -/
theorem DateTime.parse?_parts {text back : List Char} {date : Date} {time? : Option TimeOfDay}
    {separator : Char} (separated : separator = 'T' ∨ separator = ' ')
    (dateRead : Read.date text = some (date, separator :: back))
    (timeRead : Read.time back = Read.ofOption time? []) (begun : Text.skipBlanks back = back) :
    parse? (String.ofList text) = time?.map fun time => ⟨date, time⟩ := by
  have joined : (Read.time >>= fun time => pure (⟨date, time⟩ : DateTime) : Read DateTime) back =
      Read.ofOption (time?.map fun time => ⟨date, time⟩) [] := by
    cases time? with
    | none => exact Read.bind_of_none timeRead
    | some time => exact Read.bind_of_some timeRead
  rw [parse?]
  rcases separated with rfl | rfl
  · have lettered : Read.lettered text = Read.ofOption (time?.map fun time => ⟨date, time⟩) [] := by
      apply Eq.trans (Read.bind_of_some dateRead)
      exact Eq.trans (Read.bind_of_some (Read.literal_cons 'T' back)) joined
    -- No time begins with the letter.
    have spaced : Read.spaced text = none := Eq.trans (Read.bind_of_some dateRead) rfl
    rw [Read.all?_of_ofOption lettered, Read.all?_of_none spaced, Option.or_none]
  · have lettered : Read.lettered text = none := Eq.trans (Read.bind_of_some dateRead) rfl
    have skipped : (modify Text.skipBlanks : Read PUnit) (' ' :: back) = some (PUnit.unit, back) :=
      congrArg (fun rest => some (PUnit.unit, rest)) begun
    have spaced : Read.spaced text = Read.ofOption (time?.map fun time => ⟨date, time⟩) [] := by
      apply Eq.trans (Read.bind_of_some dateRead)
      exact Eq.trans (Read.bind_of_some skipped) joined
    rw [Read.all?_of_none lettered, Read.all?_of_ofOption spaced, Option.none_or]

namespace Tells

variable {text : List Char} {moment : DateTime} {zone : Timezone}

/-- A text that tells a distance from UTC is read in the form for exchange. -/
theorem parse?_exchange (told : Tells text moment (some zone)) :
    Instant.parse? (String.ofList text) = some ⟨moment.shifted (-zone.seconds), zone⟩ := by
  cases told with
  | exchange date time separated behind away shown =>
      exact Read.all?_of (date.read_exchange_of time separated (behind.read away) away.read shown)

/-- A text without a distance from UTC is not in the form for exchange. -/
theorem parse?_naive (told : Tells text moment none) :
    Instant.parse? (String.ofList text) = none ∧
      DateTime.parse? (String.ofList text) = some moment := by
  cases told with
  | @naive date time separator separated =>
      have known : separator ∈ ['T', 't', ' '] := by rcases separated with rfl | rfl <;> decide
      have noFraction : Read.fraction ([] ++ []) = some (0, []) := rfl
      -- No distance from UTC follows.
      have noZone : Read.exchange (date.chars ++ separator :: (time.chars ++ ([] ++ []))) = none :=
        Eq.trans (date.exchange_chars time known noFraction) rfl
      have begun : Text.skipBlanks (time.chars ++ []) = time.chars ++ [] := by
        rw [time.chars_append, skipBlanks_row time.hourRow (by decide)]
      have timeRead : Read.time (time.chars ++ []) = Read.ofOption (some time.time) [] :=
        time.read_time []
      rw [List.append_nil] at begun timeRead
      rw [List.append_nil, List.append_nil] at noZone
      exact ⟨Read.all?_of_none noZone,
        DateTime.parse?_parts separated (date.read_date _) timeRead begun⟩

/-- A text with a date and a time is not one of these alone. -/
theorem parse?_alone {zone : Option Timezone} (told : Tells text moment zone) :
    Date.parse? (String.ofList text) = none ∧ TimeOfDay.parse? (String.ofList text) = none := by
  obtain ⟨date, next, rest, rfl⟩ : ∃ (date : Date) (next : Char) (rest : List Char),
      text = date.isoChars ++ next :: rest := by
    cases told with
    | exchange date => exact ⟨date.date, _, _, by rw [date.isoChars_date]⟩
    | naive date => exact ⟨date.date, _, _, by rw [date.isoChars_date]⟩
  exact ⟨date.parse?_isoChars_cons next rest, date.time_parse?_isoChars _⟩

/-- The moment of a text lies near enough to be one of each timezone. -/
theorem ofLocal?_moment {zone : Option Timezone} (told : Tells text moment zone)
    (timezone : Timezone) : Instant.ofLocal? moment timezone =
      some ⟨moment.shifted (-timezone.seconds), timezone⟩ := by
  cases told with
  | exchange date => exact date.ofLocal?_date _ timezone
  | naive date => exact date.ofLocal?_date _ timezone

end Tells

/-- What looks like a date and a time tells them, if it is read. -/
theorem LooksNaive.tells {text : List Char} {moment : DateTime} (looks : LooksNaive text)
    (known : TemporalValue.parseLocal? (String.ofList text) = some moment) :
    Tells text moment none := by
  cases looks with
  | @rows year month day hour minute second separator yearRow monthRow dayRow separated hourRow
      minuteRow secondRow =>
      have dateRead := Read.date_rows yearRow monthRow dayRow
        (separator :: (hour ++ ':' :: (minute ++ ':' :: (second ++ []))))
      have timeRead := Read.time_rows hourRow minuteRow secondRow []
      have begun := skipBlanks_row hourRow (by decide) (':' :: (minute ++ ':' :: (second ++ [])))
      rw [TemporalValue.parseLocal?] at known
      cases date? : Date.ofCivil? ⟨(ofDigits year : Int), ofDigits month, ofDigits day⟩ with
      | none =>
          rw [date?] at dateRead
          rw [DateTime.parse?_of_none dateRead, Date.parse?, Read.all?_of_none dateRead] at known
          cases known
      | some date =>
          rw [date?] at dateRead
          rw [DateTime.parse?_parts separated dateRead timeRead begun, Date.parse?,
            Read.all?_of_rest dateRead, Option.map_none, Option.or_none] at known
          obtain ⟨clock, shown, rfl⟩ := Option.map_eq_some_iff.mp known
          obtain ⟨dateText, rfl, dateChars⟩ :=
            Date.exists_isoDate_of_rows yearRow monthRow dayRow date?
          obtain ⟨timeText, same, timeChars⟩ :=
            TimeOfDay.exists_isoTime_of_rows hourRow minuteRow secondRow shown
          have told := Tells.naive dateText timeText separated
          obtain rfl : timeText.time = clock :=
            Option.some.inj (timeText.ofClock?_time.symm.trans same)
          rw [dateChars, timeChars] at told
          simpa only [List.append_assoc, List.cons_append, List.append_nil] using told

end DashboardFilters.Calendar

namespace DashboardFilters.TemporalValue

open Calendar

variable {text : String} {timezone : Timezone} {moment : DateTime} {zone : Option Timezone}

/-- A text with a date and a time tells an instant and a date, and a time if the distance from UTC
stands in it. -/
theorem parsed_of_tells (told : Tells text.toList moment zone) :
    parseInstant? text timezone =
        some ⟨moment.shifted (-(zone.getD timezone).seconds), timezone⟩ ∧
      parseDate? text = some moment.date ∧
      parseTime? text = if zone.isSome then some moment.time else none := by
  obtain ⟨noDate, noTime⟩ := told.parse?_alone
  have placed := told.ofLocal?_moment timezone
  rw [String.ofList_toList] at noDate noTime
  rw [parseInstant?, parseDate?, parseTime?, parseLocal?, noDate, noTime]
  cases zone with
  | some zone =>
      have read := told.parse?_exchange
      have back : Instant.localTime ⟨moment.shifted (-zone.seconds), zone⟩ = moment :=
        DateTime.shifted_back moment zone.seconds
      rw [String.ofList_toList] at read
      rw [read, Option.map_some, Option.map_some, Option.map_some, back]
      exact ⟨rfl, rfl, rfl⟩
  | none =>
      obtain ⟨noInstant, read⟩ := told.parse?_naive
      rw [String.ofList_toList] at noInstant read
      rw [noInstant, read, Option.map_none, Option.some_or, Option.none_or, Option.bind_some,
        placed]
      exact ⟨rfl, rfl, rfl⟩

/-- A text with a date and a time, blanks around it left out, is read as an instant and as a date;
it is read as a time if it tells a distance from UTC. -/
theorem parse_of_tells (told : Tells (Text.trim text).toList moment zone) :
    parse text .dateTime timezone =
        .ok (.dateTime ⟨moment.shifted (-(zone.getD timezone).seconds), timezone⟩) ∧
      parse text .date timezone = .ok (.date moment.date) ∧
      parse text .time timezone = if zone.isSome then .ok (.time moment.time)
        else .error (.malformedLiteral TemporalKind.time.expected (Text.trim text)) := by
  obtain ⟨instant, date, time⟩ := parsed_of_tells told
  unfold parse
  dsimp only
  rw [instant, date, time]
  cases zone with
  | some zone => exact ⟨rfl, rfl, rfl⟩
  | none => exact ⟨rfl, rfl, rfl⟩

/-- A text that is read as an instant, in the form for exchange or one that looks like a date and a
time, tells a date, a time and maybe a distance from UTC. The instant and the date that are read
from it are what it tells; so is the time in the form for exchange, and otherwise no time is
read. -/
theorem parse_kinds_of_dateTime {value : TemporalValue}
    (shaped : (∃ instant, Instant.parse? (Text.trim text) = some instant) ∨
      LooksNaive (Text.trim text).toList)
    (accepted : parse text .dateTime timezone = .ok value) :
    ∃ moment zone, Tells (Text.trim text).toList moment zone ∧
      value = .dateTime ⟨moment.shifted (-(zone.getD timezone).seconds), timezone⟩ ∧
      parse text .date timezone = .ok (.date moment.date) ∧
      parse text .time timezone = if zone.isSome then .ok (.time moment.time)
        else .error (.malformedLiteral TemporalKind.time.expected (Text.trim text)) := by
  have told : ∃ moment zone, Tells (Text.trim text).toList moment zone := by
    obtain ⟨⟨⟩, -⟩ | ⟨⟨⟩, -⟩ | ⟨-, instant, known, -⟩ := cases_of_parse accepted
    unfold parseInstant? at known
    rcases Option.or_eq_some_iff.mp known with exchanged | ⟨noInstant, placed⟩
    · obtain ⟨other, read, -⟩ := Option.map_eq_some_iff.mp exchanged
      exact ⟨_, _, Tells.exchange_read (Read.all?_eq_some_iff.mp read)⟩
    · obtain ⟨moment, read, -⟩ := Option.bind_eq_some_iff.mp placed
      rcases shaped with ⟨other, read⟩ | looks
      · rw [read] at noInstant
        cases noInstant
      · exact ⟨moment, none, looks.tells (by rwa [String.ofList_toList])⟩
  obtain ⟨moment, zone, told⟩ := told
  obtain ⟨dateTime, date, time⟩ := parse_of_tells told
  rw [dateTime] at accepted
  exact ⟨moment, zone, told, (Except.ok.inj accepted).symm, date, time⟩

end DashboardFilters.TemporalValue

namespace DashboardFilters

open Calendar
open Decimal (Row isDigit)

namespace Sample

/-- An eighth of a second past nine in the evening of the second day of 2024. -/
def pastNine : Instant where
  utc := ⟨.ofCivil ⟨2024, 1, 2⟩, { seconds := 75600, nanos := 125000000 }⟩
  zone := .utc

/-- The same, told two hours east of UTC in small letters, with blanks around it. -/
def pastElevenText : String :=
  " 2024-01-02t23:00:00.125+02:00 "

end Sample

open Sample

/-- The instant is read for all kinds, as a date and a time where it is told. -/
theorem TemporalValue.pastEleven_parse_kinds :
    parse pastElevenText .dateTime .utc = .ok (.dateTime pastNine) ∧
      ∃ moment zone, Tells (Text.trim pastElevenText).toList moment zone ∧
        .dateTime pastNine =
          TemporalValue.dateTime ⟨moment.shifted (-(zone.getD .utc).seconds), .utc⟩ ∧
        parse pastElevenText .date .utc = .ok (.date moment.date) ∧
        parse pastElevenText .time .utc = if zone.isSome then .ok (.time moment.time)
          else .error (.malformedLiteral "an ISO time (HH:MM:SS)" (Text.trim pastElevenText)) := by
  have accepted : parse pastElevenText .dateTime .utc = .ok (.dateTime pastNine) := by rfl
  have exchanged : Instant.parse? (Text.trim pastElevenText) =
      some ⟨pastNine.utc, ⟨7200, by decide⟩⟩ := by rfl
  exact ⟨accepted, TemporalValue.parse_kinds_of_dateTime (Or.inl ⟨_, exchanged⟩) accepted⟩

/-- A date and a time without a distance from UTC are read as an instant and as a date, but not as a
time. -/
theorem TemporalValue.naiveMorning_noTime : LooksNaive "2024-01-02T10:00:00".toList ∧
    parse "2024-01-02T10:00:00" .dateTime .utc =
      .ok (.dateTime ⟨⟨.ofCivil ⟨2024, 1, 2⟩, { seconds := 36000, nanos := 0 }⟩, .utc⟩) ∧
    parse "2024-01-02T10:00:00" .date .utc = .ok (.date (.ofCivil ⟨2024, 1, 2⟩)) ∧
    parse "2024-01-02T10:00:00" .time .utc =
      .error (.malformedLiteral "an ISO time (HH:MM:SS)" "2024-01-02T10:00:00") := by
  have row (width : Nat) (digits : List Char) (length : digits.length = width)
      (all : digits.all isDigit = true) : Row width digits := ⟨length, List.all_eq_true.mp all⟩
  have looks : LooksNaive ['2', '0', '2', '4', '-', '0', '1', '-', '0', '2', 'T', '1', '0', ':',
      '0', '0', ':', '0', '0'] :=
    .rows (row 4 ['2', '0', '2', '4'] rfl rfl) (row 2 ['0', '1'] rfl rfl)
      (row 2 ['0', '2'] rfl rfl) (Or.inl rfl) (row 2 ['1', '0'] rfl rfl)
      (row 2 ['0', '0'] rfl rfl) (row 2 ['0', '0'] rfl rfl)
  exact ⟨looks, rfl, rfl, rfl⟩

end DashboardFilters
