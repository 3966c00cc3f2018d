import DashboardFilters.Proofs.Calendar.Reread
import DashboardFilters.Proofs.Calendar.Spans
import Mathlib.Data.List.Basic

namespace DashboardFilters.Calendar

open Decimal

namespace Read

/-- At most nine places behind the point count nanoseconds. -/
theorem nanoseconds_padded {places number : Nat} (some : 0 < places) (few : places ≤ 9)
    (small : number < 10 ^ places) : Row places (padded places number) ∧
      nanoseconds (padded places number) = number * 10 ^ (9 - places) := by
  obtain ⟨row, value⟩ := row_padded some small
  have used : (padded places number).take 9 = padded places number := by
    apply List.take_of_length_le
    rwa [row.length]
  refine ⟨row, ?_⟩
  rw [nanoseconds, used, value, row.length]
  rfl

theorem fraction_row {places : Nat} {digits : List Char} (row : Row places digits)
    (some : 0 < places) {next : Char} (other : isDigit next = false) (rest : List Char) :
    fraction ('.' :: (digits ++ next :: rest)) = .some (nanoseconds digits, next :: rest) := by
  have present : digits.isEmpty = false := by
    rw [List.isEmpty_eq_false_iff, ← List.length_pos_iff, row.length]
    exact some
  change (if (spanDigits (digits ++ next :: rest)).1.isEmpty then failure else
    return nanoseconds (spanDigits (digits ++ next :: rest)).1 : Read Nat)
      (spanDigits (digits ++ next :: rest)).2 = _
  rw [spanDigits_row row other rest, present]
  rfl

theorem fraction_of_ne_point {next : Char} (noPoint : next ≠ '.') (rest : List Char) :
    fraction (next :: rest) = some (0, next :: rest) := by
  generalize begun : next :: rest = text
  unfold fraction
  apply Eq.trans (bind_of_some rfl)
  split
  next => exact absurd (List.cons.inj begun).1 noPoint
  next => rfl

/-- A fraction is written as a point and a row of digits, unless there is none. -/
theorem exists_fraction {number : Nat} (small : number < 1000000000) :
    number = 0 ∧ fractionText number = [] ∨
      number ≠ 0 ∧ ∃ places digits, 0 < places ∧ Row places digits ∧
        nanoseconds digits = number ∧ fractionText number = '.' :: digits := by
  have written {places short : Nat} (some : 0 < places) (few : places ≤ 9)
      (inRow : short < 10 ^ places) (exact : short * 10 ^ (9 - places) = number) :
      ∃ width digits, 0 < width ∧ Row width digits ∧ nanoseconds digits = number ∧
        '.' :: padded places short = '.' :: digits := by
    obtain ⟨row, value⟩ := nanoseconds_padded some few inRow
    exact ⟨places, _, some, row, value.trans exact, rfl⟩
  unfold fractionText
  split
  next none => exact Or.inl ⟨none, rfl⟩
  next positive =>
    refine Or.inr ⟨positive, ?_⟩
    split
    next => exact written (by decide) (by decide) (by omega) (by omega)
    next =>
      split
      next => exact written (by decide) (by decide) (by omega) (by omega)
      next => exact written (by decide) (by decide) small (Nat.mul_one number)

/-- The fraction that is written is read, if something else follows. -/
theorem fraction_fractionText {number : Nat} (small : number < 1000000000) {next : Char}
    (other : isDigit next = false) (noPoint : next ≠ '.') (rest : List Char) :
    fraction (fractionText number ++ next :: rest) = some (number, next :: rest) := by
  obtain ⟨rfl, none⟩ | ⟨-, places, digits, some, row, value, shape⟩ := exists_fraction small
  · rw [none]
    exact fraction_of_ne_point noPoint rest
  · rw [shape, List.cons_append, fraction_row row some other, value]

end Read

/-- A leap second within a minute, which is shown and read as the next second of it. -/
def TimeOfDay.settled (time : TimeOfDay) : TimeOfDay :=
  if inMinute : 1000000000 ≤ time.nanos ∧ time.seconds % 60 ≠ 59 then
    { seconds := time.seconds + 1
      nanos := time.nanos - 1000000000
      secondsInDay := by
        have := time.secondsInDay
        omega
      nanosInSecond := Nat.lt_of_le_of_lt (Nat.sub_le _ _) time.nanosInSecond }
  else time

namespace TimeOfDay

theorem settled_clock (time : TimeOfDay) : time.settled.hour = time.hour ∧
    time.settled.minute = time.minute ∧ time.settled.second = time.second ∧
      time.settled.fraction = time.fraction := by
  have inSecond := time.nanosInSecond
  unfold settled hour minute second fraction
  split
  next inMinute =>
    dsimp only
    omega
  next => exact ⟨rfl, rfl, rfl, rfl⟩

/-- A leap second within a minute has no more nanoseconds than another second. -/
theorem nanos_settled (time : TimeOfDay) : time.settled.nanos =
    if 1000000000 ≤ time.nanos ∧ time.seconds % 60 ≠ 59 then time.nanos - 1000000000
    else time.nanos := by
  unfold settled
  split <;> rfl

theorem leapsAtEnd_settled (time : TimeOfDay) : time.settled.LeapsAtEnd := by
  have inSecond := time.nanosInSecond
  unfold LeapsAtEnd settled
  split
  next inMinute =>
    dsimp only
    omega
  next => omega

/-- Nothing but a leap second within a minute is changed. -/
theorem settled_eq_iff {time : TimeOfDay} : time.settled = time ↔ time.LeapsAtEnd := by
  constructor
  · intro same
    have leaps := time.leapsAtEnd_settled
    rwa [same] at leaps
  · intro leaps
    unfold LeapsAtEnd at leaps
    exact dif_neg (by omega)

/-- Hour, minute, second and fraction tell what is settled. -/
theorem ofClock?_settled (time : TimeOfDay) :
    ofClock? time.hour time.minute time.second time.fraction = some time.settled := by
  obtain ⟨hour, minute, second, fraction⟩ := time.settled_clock
  have known := ofClock?_clock time.leapsAtEnd_settled
  rwa [hour, minute, second, fraction] at known

/-- Hour, minute and second tell the beginning of the second that they show. -/
theorem ofClock?_shownSecond (time : TimeOfDay) :
    ofClock? time.hour time.minute time.second 0 = some time.settled.wholeSecond := by
  obtain ⟨hour, minute, second, -⟩ := time.settled_clock
  have known := ofClock?_wholeSecond time.leapsAtEnd_settled
  rwa [hour, minute, second] at known

/-- A fraction is less than a second. -/
theorem fraction_lt (time : TimeOfDay) : time.fraction < 1000000000 :=
  Nat.mod_lt _ (by decide)

/-- The exact text of a time of day is its ISO text with the fraction behind it. -/
theorem exists_exactChars (time : TimeOfDay) : ∃ text : IsoTime, text.chars = time.isoChars ∧
    time.exactChars = text.chars ++ fractionText time.fraction := by
  obtain ⟨text, chars, -⟩ := time.exists_rows
  refine ⟨text, chars, ?_⟩
  rw [chars]
  rfl

theorem isoChars_settled (time : TimeOfDay) : time.settled.isoChars = time.isoChars := by
  obtain ⟨hour, minute, second, -⟩ := time.settled_clock
  rw [isoChars, isoChars, hour, minute, second]

end TimeOfDay

def DateTime.settled (moment : DateTime) : DateTime :=
  ⟨moment.date, moment.time.settled⟩

/-- A leap second within a minute lies a second further. -/
theorem DateTime.timestamp_settled (moment : DateTime) : moment.settled.timestamp =
    moment.timestamp +
      if 1000000000 ≤ moment.time.nanos ∧ moment.time.seconds % 60 ≠ 59 then 1 else 0 := by
  change moment.date.day * 86400 + (moment.time.settled.seconds : Int) = _
  unfold TimeOfDay.settled timestamp
  split
  next =>
    push_cast
    exact (Int.add_assoc _ _ _).symm
  next => exact (Int.add_zero _).symm

/-- A moment that does not leap within a minute is settled. -/
theorem DateTime.settled_of_leapsAtEnd {moment : DateTime} (leaps : moment.time.LeapsAtEnd) :
    moment.settled = moment :=
  congrArg (DateTime.mk moment.date) (TimeOfDay.settled_eq_iff.mpr leaps)

/-- A leap second is within a minute in all timezones of full minutes. -/
theorem DateTime.settled_shifted {moment : DateTime} {seconds : Int} (full : seconds % 60 = 0) :
    (moment.shifted seconds).settled = moment.settled.shifted seconds := by
  have minute : (moment.shifted seconds).time.seconds % 60 = moment.time.seconds % 60 :=
    seconds_shifted full
  have timestamp := timestamp_shifted moment seconds
  have nanos : (moment.shifted seconds).time.nanos = moment.time.nanos := rfl
  apply eq_of_timestamp_of_nanos
  · rw [timestamp_shifted, timestamp_settled, timestamp_settled, timestamp, minute, nanos]
    omega
  · change (moment.shifted seconds).time.settled.nanos = moment.time.settled.nanos
    rw [TimeOfDay.nanos_settled, TimeOfDay.nanos_settled, minute, nanos]

def Instant.settled (instant : Instant) : Instant :=
  ⟨instant.utc.settled, instant.zone⟩

/-- The distance from UTC as form state shows it: a letter if there is none. -/
def zoneChars (zone : Timezone) : List Char :=
  if zone.isUtc then ['Z'] else offsetText .minutes true zone

/-- The distance from UTC is read from its text. -/
theorem Read.zone_zoneChars {timezone : Timezone} (full : timezone.seconds % 60 = 0) :
    zone (zoneChars timezone) = some (timezone, []) := by
  unfold zoneChars
  split
  next none =>
    have same : timezone = .utc := by
      obtain ⟨seconds, inDay⟩ := timezone
      cases (beq_iff_eq.mp none : seconds = 0)
      rfl
    rw [same]
    rfl
  next => rw [offsetText_minutes full, zone_offsetText full]

/-- The text of the distance from UTC begins with a letter or a sign, and no blank is at its end. -/
theorem zoneChars_ends {timezone : Timezone} (full : timezone.seconds % 60 = 0) :
    (∃ next rest, zoneChars timezone = next :: rest ∧ isDigit next = false ∧ next ≠ '.') ∧
      ∃ others last, zoneChars timezone = others ++ [last] ∧ Text.isBlank last = false := by
  unfold zoneChars
  split
  next => exact ⟨⟨'Z', [], rfl, by decide, by decide⟩, [], 'Z', rfl, by decide⟩
  next =>
    rw [offsetText_minutes full]
    obtain ⟨sign, hours, minutes, signed, row, shape⟩ := offsetText_ends full
    rw [shape]
    constructor
    · rcases signed with rfl | rfl
      all_goals exact ⟨_, _, rfl, by decide, by decide⟩
    · obtain ⟨others, last, rfl, digit⟩ := row.exists_last (by decide)
      refine ⟨sign :: (hours ++ others), last, ?_, not_isBlank_of_isDigit digit⟩
      rw [List.cons_append, List.append_assoc]

namespace Instant

variable {instant : Instant}

/-- The text of an instant in form state is its date, its time with the fraction and its distance
from UTC. -/
theorem exchangeText_eq (instant : Instant) :
    instant.exchangeText = String.ofList (instant.localTime.date.isoChars ++ 'T' ::
      (instant.localTime.time.isoChars ++
        (fractionText instant.localTime.time.fraction ++ zoneChars instant.zone))) := by
  have time : instant.localTime.time.exactChars =
      instant.localTime.time.isoChars ++ fractionText instant.localTime.time.fraction := rfl
  unfold exchangeText zoneChars
  dsimp only
  split
  all_goals simp only [DateTime.exchangeChars, time, List.append_assoc, List.cons_append]

/-- An instant is read from its text in form state if its year has four digits. -/
theorem parse?_exchangeText (full : instant.zone.seconds % 60 = 0) :
    parse? instant.exchangeText =
      if instant.localTime.date.HasFourDigits then some instant.settled else none := by
  rw [exchangeText_eq, parse?]
  split
  next short =>
    obtain ⟨time, timeChars, hour, minute, second⟩ := instant.localTime.time.exists_rows
    obtain ⟨date, made, dateChars⟩ := Date.exists_isoDate short
    obtain ⟨⟨next, rest, shape, other, noPoint⟩, -⟩ := zoneChars_ends full
    have zoneRead := Read.zone_zoneChars full
    rw [shape] at zoneRead ⊢
    have fractionRead :=
      Read.fraction_fractionText instant.localTime.time.fraction_lt other noPoint rest
    have known := instant.localTime.time.ofClock?_settled
    rw [← hour, ← minute, ← second] at known
    have settled : DateTime.shifted ⟨date.date, instant.localTime.time.settled⟩
        (-instant.zone.seconds) = instant.utc.settled := by
      rw [made, utc_eq_shifted instant, DateTime.settled_shifted (by omega)]
      rfl
    rw [← dateChars, ← timeChars,
      Read.all?_of (date.read_exchange_of time (by decide) fractionRead zoneRead known), settled]
    rfl
  next long => exact Read.all?_of_none (Date.exchange_isoChars long _)

theorem localTime_settled (full : instant.zone.seconds % 60 = 0) :
    instant.settled.localTime = instant.localTime.settled :=
  (DateTime.settled_shifted full).symm

theorem iso_settled (full : instant.zone.seconds % 60 = 0) :
    instant.settled.iso = instant.iso := by
  rw [iso, iso, localTime_settled full]
  dsimp only [DateTime.settled, settled]
  rw [TimeOfDay.isoChars_settled]

/-- What is settled is stored as the same text for columns of each kind. -/
theorem isoAs_settled {timezone : Timezone} (full : instant.zone.seconds % 60 = 0)
    (display : timezone.seconds % 60 = 0) (kind : TemporalKind) :
    instant.settled.isoAs kind timezone = instant.isoAs kind timezone := by
  cases kind with
  | date =>
      change instant.settled.localTime.date.iso = _
      rw [localTime_settled full]
      rfl
  | time =>
      change String.ofList instant.settled.localTime.time.isoChars = _
      rw [localTime_settled full]
      exact congrArg String.ofList (TimeOfDay.isoChars_settled _)
  | dateTime =>
      have shown : (instant.inZone timezone).settled.iso = (instant.inZone timezone).iso :=
        iso_settled display
      exact shown

end Instant

/-! Texts of dates begin with four digits or with a sign, those of times with two digits and a
colon. -/

namespace Read

/-- More digits are wanted than there are. -/
theorem exactly_row_before {width limit : Nat} {digits : List Char} (row : Row width digits)
    (few : width < limit) {next : Char} (other : isDigit next = false) (rest : List Char) :
    exactly limit (digits ++ next :: rest) = none := by
  obtain ⟨more, rfl⟩ := Nat.exists_eq_add_of_lt few
  have front : (digits ++ next :: rest).take (width + more + 1) =
      digits ++ next :: rest.take more := by
    rw [Nat.add_assoc, ← row.length, List.take_length_add_append, List.take_succ_cons]
  have noNumber : (digits ++ next :: rest.take more).all isDigit = false := by
    rw [List.all_append, List.all_cons, other, Bool.false_and, Bool.and_false]
  change (if decide (((digits ++ next :: rest).take (width + more + 1)).length = width + more + 1) &&
    ((digits ++ next :: rest).take (width + more + 1)).all isDigit then _ else _ : Read Nat) _ = _
  rw [front, noNumber, Bool.and_false]
  rfl

/-- No hour stands at the front of the text of a date. -/
theorem hour_isoChars {α : Type} (date : Date) (next : Nat → Unit → Read α) (rest : List Char) :
    (upTo 2 >>= fun hour => literal ':' >>= next hour) (date.isoChars ++ rest) = none := by
  by_cases short : date.HasFourDigits
  · obtain ⟨text, -, chars⟩ := Date.exists_isoDate short
    obtain ⟨a, b, c, d, year⟩ := List.length_eq_four.mp text.yearRow.length
    have all := text.yearRow.all
    rw [year] at all
    have front : Row 2 [a, b] :=
      ⟨rfl, fun digit member => all digit (List.mem_append_left [c, d] member)⟩
    have noColon : c ≠ ':' := by
      rintro rfl
      exact absurd (all ':' (List.mem_append_right [a, b] List.mem_cons_self)) (by decide)
    have hour := upTo_row front (by decide)
      (c :: d :: '-' :: (text.month ++ '-' :: (text.day ++ rest)))
    rw [← chars, text.chars_append, year]
    apply Eq.trans (bind_of_some hour)
    apply bind_of_none
    rw [literal, if_neg noColon]
  · obtain ⟨sign, signed, -, chars⟩ := Date.isoChars_signed short
    rw [chars]
    apply bind_of_none
    rcases signed with rfl | rfl <;> rfl

end Read

namespace Date

/-- The text of a date with anything behind it is no time of day. -/
theorem time_parse?_isoChars (date : Date) (rest : List Char) :
    TimeOfDay.parse? (String.ofList (date.isoChars ++ rest)) = none := by
  have seconds : Read.time (date.isoChars ++ rest) = none := Read.hour_isoChars date _ rest
  have minutes : Read.hourMinute (date.isoChars ++ rest) = none := Read.hour_isoChars date _ rest
  rw [TimeOfDay.parse?, Read.all?_of_none seconds, Read.all?_of_none minutes, Option.or_none]

/-- The text of a date is only read as a date. -/
theorem parse?_others (date : Date) : TimeOfDay.parse? date.iso = none ∧
    DateTime.parse? date.iso = none ∧ Instant.parse? date.iso = none := by
  have time := date.time_parse?_isoChars []
  have read := date.read_isoChars []
  have exchange : Read.exchange (date.isoChars ++ []) = none := by
    by_cases short : date.HasFourDigits
    · obtain ⟨text, -, chars⟩ := exists_isoDate short
      rw [← chars, text.chars_append]
      apply Eq.trans (Read.bind_of_some (Read.exactly_row text.yearRow _))
      apply Eq.trans (Read.bind_of_some (Read.literal_cons '-' _))
      apply Eq.trans (Read.bind_of_some (Read.exactly_row text.monthRow _))
      apply Eq.trans (Read.bind_of_some (Read.literal_cons '-' _))
      apply Eq.trans (Read.bind_of_some (Read.exactly_row text.dayRow _))
      rfl
    · exact exchange_isoChars short []
  rw [List.append_nil] at time read exchange
  refine ⟨time, ?_, Read.all?_of_none exchange⟩
  split at read
  next =>
    -- Neither a letter nor a time follows.
    have lettered : Read.lettered date.isoChars = none := Read.bind_of_some read
    have spaced : Read.spaced date.isoChars = none := Read.bind_of_some read
    rw [DateTime.parse?, iso, Read.all?_of_none lettered, Read.all?_of_none spaced, Option.or_none]
  next => exact DateTime.parse?_of_none read

end Date

namespace IsoTime

variable (time : IsoTime) (rest : List Char)

/-- No date stands at the front of the text of a time. -/
theorem read_date : Read.date (time.chars ++ rest) = none := by
  have number := Read.upTo_row_before time.hourRow (by decide) (by decide : 2 ≤ 4)
    (by decide : isDigit ':' = false) (time.minute ++ ':' :: (time.second ++ rest))
  rw [time.chars_append]
  apply Eq.trans (Read.bind_of_some (Read.year_digits time.hourRow (by decide) number))
  rfl

/-- The text of a time with anything behind it is neither a date nor a date and time. -/
theorem parse?_chars : Date.parse? (String.ofList (time.chars ++ rest)) = none ∧
    DateTime.parse? (String.ofList (time.chars ++ rest)) = none ∧
      Instant.parse? (String.ofList (time.chars ++ rest)) = none := by
  have date := time.read_date rest
  have exchange : Read.exchange (time.chars ++ rest) = none := by
    rw [time.chars_append]
    exact Read.bind_of_none (Read.exactly_row_before time.hourRow (by decide) (by decide) _)
  exact ⟨Read.all?_of_none date, DateTime.parse?_of_none date, Read.all?_of_none exchange⟩

/-- A time with something behind it is no time. -/
theorem time_parse?_cons (next : Char) :
    TimeOfDay.parse? (String.ofList (time.chars ++ next :: rest)) = none := by
  have minutes : Read.hourMinute.all? (String.ofList (time.chars ++ next :: rest)) = none := by
    have read : Read.hourMinute (time.chars ++ next :: rest) =
        Read.ofOption (TimeOfDay.ofClock? (ofDigits time.hour) (ofDigits time.minute) 0 0)
          (':' :: (time.second ++ next :: rest)) := by
      rw [time.chars_append]
      apply Eq.trans (Read.bind_of_some (Read.upTo_row time.hourRow (by decide) _))
      apply Eq.trans (Read.bind_of_some (Read.literal_cons ':' _))
      exact Read.bind_of_some (Read.upTo_row time.minuteRow (by decide) _)
    cases known : TimeOfDay.ofClock? (ofDigits time.hour) (ofDigits time.minute) 0 0 with
    | none =>
        rw [known] at read
        exact Read.all?_of_none read
    | some clock =>
        rw [known] at read
        exact Read.all?_of_rest read
  rw [TimeOfDay.parse?, Read.all?_of_rest (time.read_time _), minutes, Option.or_none]

end IsoTime

/-- The text of an instant is only read as an instant. -/
theorem Instant.parse?_others {instant : Instant} (full : instant.zone.seconds % 60 = 0) :
    Date.parse? instant.exchangeText = none ∧ TimeOfDay.parse? instant.exchangeText = none ∧
      DateTime.parse? instant.exchangeText = none := by
  obtain ⟨time, chars, -⟩ := instant.localTime.time.exists_rows
  obtain ⟨⟨next, rest, shape, -⟩, -⟩ := zoneChars_ends full
  obtain ⟨behind, others, follows⟩ : ∃ behind others,
      fractionText instant.localTime.time.fraction ++ zoneChars instant.zone =
        behind :: others := by
    rw [shape]
    cases fractionText instant.localTime.time.fraction with
    | nil => exact ⟨next, rest, rfl⟩
    | cons point digits => exact ⟨point, digits ++ next :: rest, rfl⟩
  rw [exchangeText_eq, ← chars, follows]
  exact ⟨Date.parse?_isoChars_cons _ _ _, Date.time_parse?_isoChars _ _,
    DateTime.parse?_isoChars _ _ _ _⟩

end DashboardFilters.Calendar
