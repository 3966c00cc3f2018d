import DashboardFilters.Proofs.Calendar.Iso

namespace DashboardFilters.Calendar

open Decimal

def Date.HasFourDigits (date : Date) : Prop :=
  0 ≤ date.civil.year ∧ date.civil.year < 10000

instance (date : Date) : Decidable date.HasFourDigits :=
  inferInstanceAs (Decidable (_ ∧ _))

namespace Read

variable {α β : Type} {read : Read α} {text : List Char}

/-- Nothing follows a reader that fails. -/
theorem bind_of_none {next : α → Read β} (fails : read text = none) :
    (read >>= next) text = none := by
  change (read text >>= fun result => next result.1 result.2) = _
  rw [fails]
  rfl

/-- A reader that fails does not read the text. -/
theorem all?_of_none (fails : read text = none) : all? read (String.ofList text) = none := by
  rw [all?, String.toList_ofList, fails]

/-- A reader that leaves characters does not read the text. -/
theorem all?_of_rest {value : α} {character : Char} {rest : List Char}
    (reads : read text = some (value, character :: rest)) :
    all? read (String.ofList text) = none := by
  rw [all?, String.toList_ofList, reads]

end Read

namespace TimeOfDay

/-- Hour, minute and second of a time of day are rows of digits, which stand for them. -/
theorem exists_rows (time : TimeOfDay) : ∃ text : IsoTime, text.chars = time.isoChars ∧
    ofDigits text.hour = time.hour ∧ ofDigits text.minute = time.minute ∧
      ofDigits text.second = time.second := by
  have inDay := time.secondsInDay
  have inSecond := time.nanosInSecond
  have hours : time.hour < 24 := by
    unfold hour
    omega
  have minutes : time.minute < 60 := Nat.mod_lt _ (by decide)
  have seconds : time.second ≤ 60 := by
    unfold second
    omega
  obtain ⟨hourRow, hour⟩ := row_padded (by decide : 0 < 2) (Nat.lt_trans hours (by decide))
  obtain ⟨minuteRow, minute⟩ := row_padded (by decide : 0 < 2) (Nat.lt_trans minutes (by decide))
  obtain ⟨secondRow, second⟩ :=
    row_padded (by decide : 0 < 2) (Nat.lt_of_le_of_lt seconds (by decide))
  let text : IsoTime :=
    { hour := _, minute := _, second := _, hourRow, minuteRow, secondRow
      hours := by rwa [hour]
      minutes := by rwa [minute]
      seconds := by rwa [second] }
  exact ⟨text, rfl, hour, minute, second⟩

/-- The rows of a time of day stand for the time of its hour, minute and second. -/
theorem exists_isoTime (time : TimeOfDay) : ∃ text : IsoTime, text.chars = time.isoChars ∧
    ofClock? time.hour time.minute time.second 0 = some text.time := by
  obtain ⟨text, chars, hour, minute, second⟩ := time.exists_rows
  have known := text.ofClock?_time
  rw [hour, minute, second] at known
  exact ⟨text, chars, known⟩

end TimeOfDay

namespace Date

variable {date : Date}

/-- Month and day of a date have two digits. -/
theorem rows_civil (date : Date) :
    (Row 2 (padded 2 date.civil.month) ∧ ofDigits (padded 2 date.civil.month) = date.civil.month) ∧
      Row 2 (padded 2 date.civil.day) ∧ ofDigits (padded 2 date.civil.day) = date.civil.day := by
  obtain ⟨-, months, -, days⟩ := Civil.isValid_iff.mp date.ofCivil_civil.1
  have short : daysOfMonth date.civil.year date.civil.month ≤ 31 := by
    unfold daysOfMonth
    repeat' split
    all_goals decide
  exact ⟨row_padded (by decide) (by omega), row_padded (by decide) (by omega)⟩

/-- Year, month and day are rows of digits if the year has four. -/
theorem exists_isoDate (short : date.HasFourDigits) :
    ∃ text : IsoDate, text.date = date ∧ text.chars = date.isoChars := by
  obtain ⟨positive, below⟩ := short
  obtain ⟨number, year⟩ := Int.eq_ofNat_of_zero_le positive
  have inRow : number < 10 ^ 4 := by omega
  obtain ⟨yearRow, yearKnown⟩ := row_padded (by decide : 0 < 4) inRow
  obtain ⟨⟨monthRow, month⟩, dayRow, day⟩ := date.rows_civil
  obtain ⟨valid, known⟩ := date.ofCivil_civil
  have civil : (⟨ofDigits (padded 4 number), ofDigits (padded 2 date.civil.month),
      ofDigits (padded 2 date.civil.day)⟩ : Civil) = date.civil := by
    rw [yearKnown, month, day, ← year]
  let text : IsoDate :=
    { year := _, month := _, day := _, yearRow, monthRow, dayRow, valid := by rwa [civil] }
  have made : text.date = date := (congrArg ofCivil civil).trans known
  refine ⟨text, made, ?_⟩
  rw [← made, text.isoChars_date]

/-- A year of another length is written with a sign in front. -/
theorem isoChars_signed (long : ¬ date.HasFourDigits) :
    ∃ sign, (sign = '+' ∨ sign = '-') ∧
      Decimal.signed (sign = '-') date.civil.year.natAbs = date.civil.year ∧
      date.isoChars = sign :: (padded 4 date.civil.year.natAbs ++
        '-' :: (padded 2 date.civil.month ++ '-' :: padded 2 date.civil.day)) := by
  have other : ¬ (decide (0 ≤ date.civil.year) && decide (date.civil.year < 10000)) = true := by
    rw [Bool.and_eq_true, decide_eq_true_eq, decide_eq_true_eq]
    exact long
  by_cases negative : date.civil.year < 0
  · refine ⟨'-', Or.inr rfl, ?_, ?_⟩
    · change -((_ : Nat) : Int) = _
      omega
    · rw [isoChars, yearText, if_neg other]
      simp only [filled, if_pos negative, List.append_assoc, List.cons_append]
      rfl
  · refine ⟨'+', Or.inl rfl, ?_, ?_⟩
    · change ((_ : Nat) : Int) = _
      omega
    · rw [isoChars, yearText, if_neg other]
      simp only [filled, if_neg negative, List.append_assoc, List.cons_append]
      rfl

/-- Year, month and day of a date make it, if it lies in the range. -/
theorem ofCivil?_civil (date : Date) :
    ofCivil? date.civil = if date.inRange then some date else none := by
  obtain ⟨valid, known⟩ := date.ofCivil_civil
  rw [ofCivil?, valid, known, Bool.true_and]

theorem inRange_of_hasFourDigits (short : date.HasFourDigits) : date.inRange = true := by
  obtain ⟨text, rfl, -⟩ := exists_isoDate short
  obtain ⟨early, late⟩ := text.day_near
  exact inRange_of_near (by omega) (by omega)

/-- A date is read from the front of a text, if it lies in the range. -/
theorem read_isoChars (date : Date) (rest : List Char) :
    Read.date (date.isoChars ++ rest) = if date.inRange then some (date, rest) else none := by
  by_cases short : date.HasFourDigits
  · obtain ⟨text, rfl, chars⟩ := exists_isoDate short
    rw [← chars, text.read_date, if_pos (inRange_of_hasFourDigits short)]
  · obtain ⟨sign, signed, year, chars⟩ := isoChars_signed short
    obtain ⟨places, wide, yearRow, number⟩ :=
      exists_row_padded 4 date.civil.year.natAbs (by decide)
    obtain ⟨⟨monthRow, month⟩, dayRow, day⟩ := date.rows_civil
    have some : 0 < places := Nat.lt_of_lt_of_le (by decide) wide
    rw [chars]
    simp only [List.cons_append, List.append_assoc]
    apply Eq.trans (Read.bind_of_some (Read.year_signed signed yearRow some rfl _))
    apply Eq.trans (Read.bind_of_some (Read.literal_cons '-' _))
    apply Eq.trans (Read.bind_of_some (Read.upTo_row monthRow (by decide) _))
    apply Eq.trans (Read.bind_of_some (Read.literal_cons '-' _))
    apply Eq.trans (Read.bind_of_some (Read.upTo_row dayRow (by decide) _))
    rw [number, year, month, day, ofCivil?_civil]
    split
    next => rfl
    next => rfl

/-- No instant is read where a year has a sign in front. -/
theorem exchange_isoChars (long : ¬ date.HasFourDigits) (rest : List Char) :
    Read.exchange (date.isoChars ++ rest) = none := by
  obtain ⟨sign, signed, -, chars⟩ := isoChars_signed long
  have fails : ∀ others : List Char, Read.exactly 4 (sign :: others) = none := by
    intro others
    have noDigit : isDigit sign = false := by rcases signed with rfl | rfl <;> rfl
    change (if decide (((sign :: others).take 4).length = 4) && (isDigit sign && _) then _
      else failure : Read Nat) _ = _
    rw [noDigit, Bool.false_and, Bool.and_false]
    rfl
  rw [chars]
  exact Read.bind_of_none (fails _)

/-- A date with something behind it is no date. -/
theorem parse?_isoChars_cons (date : Date) (next : Char) (rest : List Char) :
    parse? (String.ofList (date.isoChars ++ next :: rest)) = none := by
  have read := date.read_isoChars (next :: rest)
  split at read
  next => exact Read.all?_of_rest read
  next => exact Read.all?_of_none read

/-- The text of a date has no blanks in front. -/
theorem skipBlanks_isoChars (date : Date) (rest : List Char) :
    Text.skipBlanks (date.isoChars ++ rest) = date.isoChars ++ rest := by
  by_cases short : date.HasFourDigits
  · obtain ⟨text, -, chars⟩ := exists_isoDate short
    rw [← chars, text.chars_append, skipBlanks_row text.yearRow (by decide)]
  · obtain ⟨sign, signed, -, chars⟩ := isoChars_signed short
    rw [chars]
    rcases signed with rfl | rfl <;> rfl

end Date

theorem DateTime.parse?_of_none {text : List Char} (noDate : Read.date text = none) :
    parse? (String.ofList text) = none := by
  have lettered : Read.lettered text = none := Read.bind_of_none noDate
  have spaced : Read.spaced text = none := Read.bind_of_none noDate
  rw [parse?, Read.all?_of_none lettered, Read.all?_of_none spaced, Option.or_none]

/-- A date and a time with something behind them are no date and time. -/
theorem DateTime.parse?_isoChars (date : Date) (time : IsoTime) (next : Char) (rest : List Char) :
    parse? (String.ofList (date.isoChars ++ 'T' :: (time.chars ++ next :: rest))) = none := by
  have read := date.read_isoChars ('T' :: (time.chars ++ next :: rest))
  split at read
  next =>
    have lettered : Read.lettered (date.isoChars ++ 'T' :: (time.chars ++ next :: rest)) =
        some (⟨date, time.time⟩, next :: rest) := by
      apply Eq.trans (Read.bind_of_some read)
      apply Eq.trans (Read.bind_of_some (Read.literal_cons 'T' _))
      exact Read.bind_of_some (time.read_time _)
    have noSpaced : Read.spaced (date.isoChars ++ 'T' :: (time.chars ++ next :: rest)) = none := by
      -- No time begins with the letter.
      apply Eq.trans (Read.bind_of_some read)
      rfl
    rw [parse?, Read.all?_of_rest lettered, Read.all?_of_none noSpaced, Option.or_none]
  next => exact parse?_of_none read

namespace Instant

variable {instant : Instant}

/-- The text of an instant is that of its date with time and distance behind it. -/
theorem iso_eq (full : instant.zone.seconds % 60 = 0) : ∃ time : IsoTime,
    instant.iso = String.ofList (instant.localTime.date.isoChars ++
      'T' :: time.chars ++ instant.zone.offsetText.toList) := by
  obtain ⟨time, chars, -⟩ := instant.localTime.time.exists_isoTime
  refine ⟨time, ?_⟩
  rw [chars, ← offsetText_minutes full]
  rfl

end Instant

end DashboardFilters.Calendar

namespace DashboardFilters

open Calendar Decimal

namespace TemporalKind

variable {timezone : Timezone}

theorem isIso_time (clock : TimeOfDay) : TemporalKind.time.IsIso timezone clock.iso := by
  obtain ⟨text, chars, -⟩ := clock.exists_isoTime
  exact ⟨text, congrArg String.ofList chars.symm⟩

/-- An instant whose year has four digits is written in ISO form. -/
theorem isIso_dateTime {instant : Instant} (full : timezone.seconds % 60 = 0)
    (told : instant.zone = timezone) (short : instant.localTime.date.HasFourDigits) :
    TemporalKind.dateTime.IsIso timezone instant.iso := by
  subst told
  obtain ⟨time, known⟩ := Instant.iso_eq full
  obtain ⟨date, -, chars⟩ := Date.exists_isoDate short
  exact ⟨date, time, by rw [known, chars]⟩

end TemporalKind

namespace TemporalValue

variable {timezone : Timezone}

/-- The text of a date has no blanks around it. -/
theorem trim_writtenDate (day : Date) : Text.trim day.iso = day.iso := by
  obtain ⟨-, dayRow, -⟩ := day.rows_civil
  have begun := day.skipBlanks_isoChars []
  have shape : day.isoChars = (yearText .zeros day.civil.year ++ '-' ::
      padded 2 day.civil.month ++ ['-']) ++ padded 2 day.civil.day := by
    simp only [Date.isoChars, List.append_assoc, List.cons_append, List.nil_append]
  rw [List.append_nil, shape] at begun
  rw [Text.trim, Date.iso, String.toList_ofList, shape, trimChars_behind begun dayRow (by decide)]

/-- A date is read from its own text, if it lies in the range. -/
theorem parse_writtenDate (day : Date) : parse day.iso .date timezone =
    if day.inRange then .ok (.date day)
    else .error (.malformedLiteral TemporalKind.date.expected day.iso) := by
  have trimmed := trim_writtenDate day
  have read := day.read_isoChars []
  rw [List.append_nil] at read
  unfold parse
  dsimp only
  rw [trimmed]
  by_cases inRange : day.inRange = true
  · rw [if_pos inRange] at read ⊢
    have known : parseDate? day.iso = some day := by
      rw [parseDate?, Date.parse?, Date.iso, Read.all?_of read, Option.some_or]
    rw [known, Option.map_some]
  · rw [if_neg inRange] at read ⊢
    have long : ¬ day.HasFourDigits := fun short => inRange (Date.inRange_of_hasFourDigits short)
    have noExchange := Date.exchange_isoChars long []
    rw [List.append_nil] at noExchange
    have unknown : parseDate? day.iso = none := by
      rw [parseDate?, Date.parse?, Instant.parse?, Date.iso, Read.all?_of_none read,
        Read.all?_of_none noExchange, DateTime.parse?_of_none read]
      rfl
    rw [unknown, Option.map_none]

/-- A date with time and something behind it is not told in the timezone of the display. -/
theorem parseLocal_isoChars (date : Date) (time : IsoTime) (next : Char) (rest : List Char) :
    parseLocal? (String.ofList (date.isoChars ++ 'T' :: (time.chars ++ next :: rest))) = none := by
  rw [parseLocal?, DateTime.parse?_isoChars, Date.parse?_isoChars_cons]
  rfl

/-- No instant is read from a text whose year has a sign in front. -/
theorem parse_signedYear {instant : Instant} (full : instant.zone.seconds % 60 = 0)
    (long : ¬ instant.localTime.date.HasFourDigits) : parse instant.iso .dateTime timezone =
      .error (.malformedLiteral TemporalKind.dateTime.expected instant.iso) := by
  obtain ⟨time, known⟩ := Instant.iso_eq full
  obtain ⟨sign, hours, minutes, -, minuteRow, ends⟩ := offsetText_ends full
  rw [ends, List.append_assoc, List.cons_append] at known
  have trimmed : Text.trim instant.iso = instant.iso := by
    have begun := instant.localTime.date.skipBlanks_isoChars
      ('T' :: (time.chars ++ sign :: (hours ++ minutes)))
    have shape : instant.localTime.date.isoChars ++ 'T' :: (time.chars ++ sign ::
        (hours ++ minutes)) = (instant.localTime.date.isoChars ++ 'T' :: (time.chars ++
          sign :: hours)) ++ minutes := by
      simp only [List.append_assoc, List.cons_append]
    rw [shape] at begun known
    rw [Text.trim, known, String.toList_ofList, trimChars_behind begun minuteRow (by decide)]
  have unknown : parseInstant? instant.iso timezone = none := by
    rw [parseInstant?, known, parseLocal_isoChars, Instant.parse?,
      Read.all?_of_none (Date.exchange_isoChars long _)]
    rfl
  unfold parse
  dsimp only
  rw [trimmed, unknown, Option.map_none]

end TemporalValue

end DashboardFilters
