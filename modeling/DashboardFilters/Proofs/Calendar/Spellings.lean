import DashboardFilters.Proofs.Calendar.Exchange

namespace DashboardFilters.Calendar

open Decimal

/-- A fraction of a second with its nanoseconds: nothing, or a point and digits. -/
inductive IsFraction : List Char → Nat → Prop
  | absent : IsFraction [] 0
  | places {width : Nat} {digits : List Char} (row : Row width digits) (some : 0 < width) :
      IsFraction ('.' :: digits) (Read.nanoseconds digits)

/-- A distance from UTC: a letter for none, or a sign, hours and minutes. -/
inductive IsDistance : List Char → Timezone → Prop
  | letter {letter : Char} (none : letter = 'Z' ∨ letter = 'z') : IsDistance [letter] .utc
  | figures {sign : Char} {hours minutes : List Char} {timezone : Timezone}
      (signed : sign = '+' ∨ sign = '-' ∨ sign = '\u2212') (hourRow : Row 2 hours)
      (minuteRow : Row 2 minutes) (inDay : ofDigits hours < 24) (inHour : ofDigits minutes < 60)
      (away : Timezone.ofSeconds? (Decimal.signed (sign ≠ '+')
        (ofDigits hours * 3600 + ofDigits minutes * 60)) = some timezone) :
      IsDistance (sign :: (hours ++ ':' :: minutes)) timezone

/-- The texts that tell a date and a time of day: in the form for exchange, where the distance from
UTC is told too, or without one, where the time has no fraction. -/
inductive Tells : List Char → DateTime → Option Timezone → Prop
  | exchange (date : IsoDate) (time : IsoTime) {separator : Char} {fraction distance : List Char}
      {nanos : Nat} {clock : TimeOfDay} {zone : Timezone} (separated : separator ∈ ['T', 't', ' '])
      (behind : IsFraction fraction nanos) (away : IsDistance distance zone)
      (shown : TimeOfDay.ofClock? (ofDigits time.hour) (ofDigits time.minute)
        (ofDigits time.second) nanos = some clock) :
      Tells (date.chars ++ separator :: (time.chars ++ (fraction ++ distance))) ⟨date.date, clock⟩
        (some zone)
  | naive (date : IsoDate) (time : IsoTime) {separator : Char}
      (separated : separator = 'T' ∨ separator = ' ') :
      Tells (date.chars ++ separator :: time.chars) ⟨date.date, time.time⟩ none

/-! What is written is read. -/

theorem IsDistance.read {distance : List Char} {zone : Timezone} (away : IsDistance distance zone) :
    Read.zone distance = some (zone, []) := by
  cases away with
  | letter none =>
      rcases none with rfl | rfl <;> rfl
  | figures signed hourRow minuteRow inDay inHour away =>
      exact Read.zone_rows signed hourRow minuteRow inDay inHour away

/-- A distance from UTC does not go on with a fraction. -/
theorem IsDistance.begins {distance : List Char} {zone : Timezone}
    (away : IsDistance distance zone) :
    ∃ next rest, distance = next :: rest ∧ isDigit next = false ∧ next ≠ '.' := by
  cases away with
  | letter none =>
      rcases none with rfl | rfl <;> exact ⟨_, _, rfl, by decide, by decide⟩
  | figures signed =>
      rcases signed with rfl | rfl | rfl <;> exact ⟨_, _, rfl, by decide, by decide⟩

theorem IsFraction.read {fraction distance : List Char} {nanos : Nat} {zone : Timezone}
    (behind : IsFraction fraction nanos) (away : IsDistance distance zone) :
    Read.fraction (fraction ++ distance) = some (nanos, distance) := by
  obtain ⟨next, rest, rfl, other, noPoint⟩ := away.begins
  cases behind with
  | absent => exact Read.fraction_of_ne_point noPoint rest
  | places row some => exact Read.fraction_row row some other rest

/-! What is read is written. -/

namespace Read

variable {α β : Type} {text rest : List Char} {value : β}

/-- A reader that goes on reads two parts of a text. -/
theorem exists_of_bind {read : Read α} {next : α → Read β}
    (known : (read >>= next) text = some (value, rest)) :
    ∃ middle between, read text = some (middle, between) ∧
      next middle between = some (value, rest) := by
  obtain ⟨⟨middle, between⟩, begun, goesOn⟩ := Option.bind_eq_some_iff.mp known
  exact ⟨middle, between, begun, goesOn⟩

theorem eq_some_of_ofOption {value? : Option β}
    (known : ofOption value? text = some (value, rest)) : value? = some value ∧ text = rest := by
  cases value? with
  | none => cases known
  | some other =>
      cases known
      exact ⟨rfl, rfl⟩

theorem exists_of_ofOption {value? : Option α} {next : α → Read β}
    (known : (ofOption value? >>= next) text = some (value, rest)) :
    ∃ middle, value? = some middle ∧ next middle text = some (value, rest) := by
  obtain ⟨middle, between, present, goesOn⟩ := exists_of_bind known
  obtain ⟨same, rfl⟩ := eq_some_of_ofOption present
  exact ⟨middle, same, goesOn⟩

theorem exists_of_literal {expected : Char} {next : Unit → Read β}
    (known : (literal expected >>= next) text = some (value, rest)) :
    ∃ behind, text = expected :: behind ∧ next () behind = some (value, rest) := by
  obtain ⟨_, between, begun, goesOn⟩ := exists_of_bind known
  unfold literal at begun
  split at begun
  next character behind =>
    split at begun
    next same =>
      cases begun
      exact ⟨_, by rw [same], goesOn⟩
    next => cases begun
  next => cases begun

theorem exists_of_oneOf {expected : List Char} {next : Char → Read β}
    (known : (oneOf expected >>= next) text = some (value, rest)) :
    ∃ character behind, character ∈ expected ∧ text = character :: behind ∧
      next character behind = some (value, rest) := by
  obtain ⟨character, between, begun, goesOn⟩ := exists_of_bind known
  unfold oneOf at begun
  split at begun
  next =>
    split at begun
    next member =>
      cases begun
      exact ⟨_, _, member, rfl, goesOn⟩
    next => cases begun
  next => cases begun

theorem exists_of_exactly {width : Nat} {next : Nat → Read β}
    (known : (exactly width >>= next) text = some (value, rest)) :
    ∃ digits behind, Row width digits ∧ text = digits ++ behind ∧
      next (ofDigits digits) behind = some (value, rest) := by
  obtain ⟨number, between, begun, goesOn⟩ := exists_of_bind known
  change (if decide ((text.take width).length = width) && (text.take width).all isDigit then
    pure (ofDigits (text.take width)) else failure : Read Nat) (text.drop width) = _ at begun
  split at begun
  next full =>
    rw [Bool.and_eq_true, decide_eq_true_eq, List.all_eq_true] at full
    cases begun
    exact ⟨_, _, ⟨full.1, full.2⟩, (List.take_append_drop width text).symm, goesOn⟩
  next => cases begun

theorem all?_eq_some_iff {read : Read α} {text : String} {value : α} :
    read.all? text = some value ↔ read text.toList = some (value, []) := by
  rw [all?]
  split
  next same => rw [same, Option.some.injEq, Option.some.injEq, Prod.mk.injEq, and_iff_left rfl]
  next other =>
    constructor
    · intro known
      cases known
    · intro known
      exact absurd known (other value)

theorem exists_of_fraction {next : Nat → Read β}
    (known : (fraction >>= next) text = some (value, rest)) :
    ∃ fraction nanos behind, IsFraction fraction nanos ∧ text = fraction ++ behind ∧
      next nanos behind = some (value, rest) := by
  obtain ⟨nanos, behind, begun, goesOn⟩ := exists_of_bind known
  obtain ⟨_, _, same, point⟩ := exists_of_bind begun
  cases same
  split at point
  next digits =>
    have front : spanDigits digits = (digits.takeWhile isDigit, digits.dropWhile isDigit) :=
      List.span_eq_takeWhile_dropWhile isDigit digits
    rw [front] at point
    obtain ⟨_, _, same, read⟩ := exists_of_bind point
    cases same
    split at read
    next => cases read
    next present =>
      cases read
      rw [List.isEmpty_iff, ← ne_eq, ← List.length_pos_iff] at present
      refine ⟨_, _, _, .places ⟨rfl, fun digit => List.mem_takeWhile_imp⟩ present, ?_, goesOn⟩
      rw [List.cons_append, List.takeWhile_append_dropWhile]
  next =>
    cases point
    exact ⟨[], _, _, .absent, rfl, goesOn⟩

/-- A distance from UTC that is read is one. -/
theorem exists_of_zone {timezone : Timezone} (known : zone text = some (timezone, rest)) :
    ∃ distance, IsDistance distance timezone ∧ text = distance ++ rest := by
  obtain ⟨sign, _, signed, rfl, fromSign⟩ := exists_of_oneOf known
  split at fromSign
  next =>
    cases fromSign
    exact ⟨_, .letter (Or.inl rfl), rfl⟩
  next =>
    cases fromSign
    exact ⟨_, .letter (Or.inr rfl), rfl⟩
  next upper lower =>
    obtain ⟨hours, _, hourRow, rfl, fromHours⟩ := exists_of_exactly fromSign
    obtain ⟨_, rfl, fromColon⟩ := exists_of_literal fromHours
    obtain ⟨minutes, _, minuteRow, rfl, fromMinutes⟩ := exists_of_exactly fromColon
    split at fromMinutes
    next => cases fromMinutes
    next inRange =>
      obtain ⟨away, rfl⟩ := eq_some_of_ofOption fromMinutes
      rw [Bool.or_eq_true, decide_eq_true_eq, decide_eq_true_eq] at inRange
      have figures : sign = '+' ∨ sign = '-' ∨ sign = '\u2212' := by
        simp only [List.mem_cons, List.not_mem_nil, or_false] at signed
        exact (signed.resolve_left upper).resolve_left lower
      refine ⟨_, .figures figures hourRow minuteRow (by omega) (by omega) away, ?_⟩
      simp only [List.append_assoc, List.cons_append]

end Read

theorem Date.exists_isoDate_of_rows {year month day : List Char} {date : Date}
    (yearRow : Row 4 year) (monthRow : Row 2 month) (dayRow : Row 2 day)
    (known : ofCivil? ⟨(ofDigits year : Int), ofDigits month, ofDigits day⟩ = some date) :
    ∃ text : IsoDate, text.date = date ∧ text.chars = year ++ '-' :: (month ++ '-' :: day) := by
  rw [ofCivil?] at known
  split at known
  next valid =>
    rw [Bool.and_eq_true] at valid
    cases known
    refine ⟨⟨year, month, day, yearRow, monthRow, dayRow, valid.1⟩, rfl, ?_⟩
    simp only [IsoDate.chars, List.append_assoc, List.cons_append]
  next => cases known

theorem TimeOfDay.exists_isoTime_of_rows {hour minute second : List Char} {nanos : Nat}
    {clock : TimeOfDay} (hourRow : Row 2 hour) (minuteRow : Row 2 minute)
    (secondRow : Row 2 second)
    (known : ofClock? (ofDigits hour) (ofDigits minute) (ofDigits second) nanos = some clock) :
    ∃ text : IsoTime, ofClock? (ofDigits text.hour) (ofDigits text.minute) (ofDigits text.second)
        nanos = some clock ∧ text.chars = hour ++ ':' :: (minute ++ ':' :: second) := by
  have shown := known
  rw [ofClock?] at known
  split at known
  next inClock =>
    obtain ⟨hours, minutes, seconds, -⟩ := inClock
    refine ⟨⟨hour, minute, second, hourRow, minuteRow, secondRow, hours, minutes, seconds⟩, shown,
      ?_⟩
    simp only [IsoTime.chars, List.append_assoc, List.cons_append]
  next => cases known

namespace Tells

variable {text : List Char} {moment : DateTime} {zone : Timezone}

/-- The form for exchange is read from the texts that tell a distance from UTC. -/
theorem exchange_read {instant : Instant} (read : Read.exchange text = some (instant, [])) :
    Tells text instant.localTime (some instant.zone) := by
  obtain ⟨year, _, yearRow, rfl, fromYear⟩ := Read.exists_of_exactly read
  obtain ⟨_, rfl, fromHyphen⟩ := Read.exists_of_literal fromYear
  obtain ⟨month, _, monthRow, rfl, fromMonth⟩ := Read.exists_of_exactly fromHyphen
  obtain ⟨_, rfl, fromSecondHyphen⟩ := Read.exists_of_literal fromMonth
  obtain ⟨day, _, dayRow, rfl, fromDay⟩ := Read.exists_of_exactly fromSecondHyphen
  obtain ⟨separator, _, separated, rfl, fromSeparator⟩ := Read.exists_of_oneOf fromDay
  obtain ⟨hour, _, hourRow, rfl, fromHour⟩ := Read.exists_of_exactly fromSeparator
  obtain ⟨_, rfl, fromColon⟩ := Read.exists_of_literal fromHour
  obtain ⟨minute, _, minuteRow, rfl, fromMinute⟩ := Read.exists_of_exactly fromColon
  obtain ⟨_, rfl, fromSecondColon⟩ := Read.exists_of_literal fromMinute
  obtain ⟨second, _, secondRow, rfl, fromSecond⟩ := Read.exists_of_exactly fromSecondColon
  obtain ⟨fraction, nanos, _, behind, rfl, fromFraction⟩ := Read.exists_of_fraction fromSecond
  obtain ⟨zone, _, zoneRead, fromZone⟩ := Read.exists_of_bind fromFraction
  obtain ⟨day, dayKnown, fromDate⟩ := Read.exists_of_ofOption fromZone
  obtain ⟨clock, clockKnown, placed⟩ := Read.exists_of_ofOption fromDate
  obtain ⟨known, rfl⟩ := Read.eq_some_of_ofOption placed
  obtain ⟨distance, away, rfl⟩ := Read.exists_of_zone zoneRead
  obtain ⟨date, rfl, dateChars⟩ := Date.exists_isoDate_of_rows yearRow monthRow dayRow dayKnown
  obtain ⟨time, shown, timeChars⟩ :=
    TimeOfDay.exists_isoTime_of_rows hourRow minuteRow secondRow clockKnown
  have told := exchange date time separated behind away shown
  have moment : instant.localTime = ⟨date.date, clock⟩ := by
    rw [Instant.eq_of_ofLocal? known]
    exact DateTime.shifted_back _ _
  rw [moment, Instant.eq_of_ofLocal? known]
  rw [dateChars, timeChars] at told
  simpa only [List.append_assoc, List.cons_append, List.append_nil] using told

end Tells

end DashboardFilters.Calendar
