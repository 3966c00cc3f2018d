import DashboardFilters.Proofs.Calendar.Exchange

/-!
Instants tell their distance from UTC in full minutes. So an ISO text denotes the second it shows,
at the distance it tells: that is the instant it was made from, up to the fraction, exactly if the
distance is one of full minutes. A distance that is rounded to a whole day is not read at all.
-/

namespace DashboardFilters.Timezone

/-- The distance from UTC as instants tell it: in full minutes, half a minute rounded away from
UTC. -/
def toldSeconds (timezone : Timezone) : Int :=
  Decimal.signed (timezone.seconds < 0) ((timezone.seconds.natAbs + 30) / 60 * 60)

variable (timezone : Timezone)

theorem toldSeconds_eq_iff :
    timezone.toldSeconds = timezone.seconds ↔ timezone.seconds % 60 = 0 := by
  unfold toldSeconds Decimal.signed
  by_cases west : timezone.seconds < 0 <;> simp only [west, decide_true, decide_false, if_true,
    Bool.false_eq_true, if_false] <;> omega

theorem natAbs_toldSeconds_le : timezone.toldSeconds.natAbs ≤ 86400 := by
  have inDay := timezone.inDay
  unfold toldSeconds Decimal.signed
  split <;> omega

/-- A told distance of less than a day is that of a timezone. -/
theorem ofSeconds?_toldSeconds (short : timezone.toldSeconds.natAbs < 86400) :
    ∃ told, ofSeconds? timezone.toldSeconds = some told ∧ told.seconds = timezone.toldSeconds := by
  have inDay : -86400 < timezone.toldSeconds ∧ timezone.toldSeconds < 86400 := by omega
  exact ⟨⟨_, inDay⟩, dif_pos inDay, rfl⟩

end DashboardFilters.Timezone

namespace DashboardFilters.Calendar

open Decimal

/-- A distance from UTC is told by a sign, hours and minutes, in two digits each. -/
theorem exists_offsetText (timezone : Timezone) : ∃ sign hours minutes,
    (sign = '+' ∨ sign = '-') ∧ (sign ≠ '+' ↔ timezone.seconds < 0) ∧ Row 2 hours ∧
      Row 2 minutes ∧ ofDigits minutes < 60 ∧
      ofDigits hours * 3600 + ofDigits minutes * 60 = (timezone.seconds.natAbs + 30) / 60 * 60 ∧
      offsetText .minutes true timezone = sign :: (hours ++ ':' :: minutes) := by
  have inDay := timezone.inDay
  have hours : (timezone.seconds.natAbs + 30) / 60 / 60 < 10 ^ 2 := by omega
  have minutes : (timezone.seconds.natAbs + 30) / 60 % 60 < 60 := Nat.mod_lt _ (by decide)
  obtain ⟨hourRow, hour⟩ := row_padded (by decide : 0 < 2) hours
  obtain ⟨minuteRow, minute⟩ := row_padded (by decide : 0 < 2) (Nat.lt_trans minutes (by decide))
  refine ⟨if timezone.seconds < 0 then '-' else '+', _, _, ?_, ?_, hourRow, minuteRow, ?_, ?_, ?_⟩
  · by_cases west : timezone.seconds < 0 <;> simp [west]
  · by_cases west : timezone.seconds < 0 <;> simp [west]
  · rwa [minute]
  · rw [hour, minute]
    omega
  · simp only [offsetText, if_true, List.append_assoc, List.cons_append, List.nil_append]

/-- The told distance is read, unless it is a whole day. -/
theorem Read.zone_offsetText_minutes (timezone : Timezone) :
    zone (offsetText .minutes true timezone) =
      (Timezone.ofSeconds? timezone.toldSeconds).map fun told => (told, []) := by
  obtain ⟨sign, hours, minutes, signed, west, hourRow, minuteRow, inHour, distance, shape⟩ :=
    exists_offsetText timezone
  have told : Decimal.signed (sign ≠ '+') (ofDigits hours * 3600 + ofDigits minutes * 60) =
      timezone.toldSeconds := by
    rw [distance, Timezone.toldSeconds, decide_eq_decide.mpr west]
  have bound := timezone.natAbs_toldSeconds_le
  have magnitude : timezone.toldSeconds.natAbs =
      ofDigits hours * 3600 + ofDigits minutes * 60 := by
    rw [← told, Decimal.signed]
    split <;> omega
  rw [shape]
  by_cases inDay : ofDigits hours < 24
  · obtain ⟨other, known, -⟩ := timezone.ofSeconds?_toldSeconds (by omega)
    rw [known]
    exact zone_rows (signed.imp_right Or.inl) hourRow minuteRow inDay inHour (by rw [told, known])
  · have outside : ¬ (-86400 < timezone.toldSeconds ∧ timezone.toldSeconds < 86400) := by omega
    have tooFar : (decide (59 < ofDigits minutes) || decide (23 < ofDigits hours)) = true := by
      rw [Bool.or_eq_true, decide_eq_true_eq, decide_eq_true_eq]
      omega
    have last := exactly_row minuteRow []
    rw [List.append_nil] at last
    rw [Timezone.ofSeconds?, dif_neg outside]
    rcases signed with rfl | rfl
    all_goals
      apply Eq.trans (bind_of_some rfl)
      apply Eq.trans (bind_of_some (exactly_row hourRow _))
      apply Eq.trans (bind_of_some (literal_cons ':' _))
      apply Eq.trans (bind_of_some last)
      rw [if_pos tooFar]
      rfl

namespace Instant

/-- The instant that the ISO text of an instant denotes: the second it shows, at the distance it
tells. -/
def told (instant : Instant) : Instant :=
  ⟨instant.localTime.settled.wholeSecond.shifted (-instant.zone.toldSeconds), instant.zone⟩

variable {instant : Instant}

/-- An instant whose year has four digits is read from its ISO text as what that denotes, unless the
distance from UTC is told as a whole day. -/
theorem parse?_iso_told (short : instant.localTime.date.HasFourDigits) :
    parse? instant.iso = (Timezone.ofSeconds? instant.zone.toldSeconds).map fun zone =>
      instant.told.inZone zone := by
  obtain ⟨time, timeChars, hour, minute, second⟩ := instant.localTime.time.exists_rows
  obtain ⟨date, made, dateChars⟩ := Date.exists_isoDate short
  have written : instant.iso = String.ofList (date.chars ++ 'T' :: (time.chars ++
      ([] ++ offsetText .minutes true instant.zone))) := by
    rw [dateChars, timeChars, List.nil_append]
    simp only [iso, List.append_assoc, List.cons_append]
  have known := instant.localTime.time.ofClock?_shownSecond
  rw [← hour, ← minute, ← second] at known
  -- No fraction follows, as a sign is no point.
  have fraction : Read.fraction ([] ++ offsetText .minutes true instant.zone) =
      some (0, offsetText .minutes true instant.zone) := by
    obtain ⟨sign, hours, minutes, signed, -, -, -, -, -, shape⟩ := exists_offsetText instant.zone
    rw [shape]
    rcases signed with rfl | rfl <;> rfl
  have zoneRead := Read.zone_offsetText_minutes instant.zone
  rw [written, parse?]
  cases distance : Timezone.ofSeconds? instant.zone.toldSeconds with
  | none =>
      rw [distance] at zoneRead
      apply Read.all?_of_none
      rw [date.exchange_chars time (by decide) fraction]
      exact Read.bind_of_none zoneRead
  | some zone =>
      rw [distance] at zoneRead
      rw [Read.all?_of (date.read_exchange_of time (by decide) fraction zoneRead known), made,
        Timezone.seconds_of_ofSeconds distance]
      rfl

/-- An instant denotes itself up to the fraction exactly if its distance from UTC is one of full
minutes and it does not leap within a minute. -/
theorem told_eq_wholeSecond_iff : instant.told = instant.wholeSecond ↔
    instant.zone.seconds % 60 = 0 ∧ instant.localTime.time.LeapsAtEnd := by
  have back : instant.wholeSecond = ⟨instant.localTime.wholeSecond.shifted (-instant.zone.seconds),
      instant.zone⟩ := by
    rw [← DateTime.wholeSecond_shifted, ← utc_eq_shifted]
    rfl
  rw [back, told, Instant.mk.injEq, and_iff_left rfl, ← Timezone.toldSeconds_eq_iff]
  constructor
  · intro same
    have nanos : instant.localTime.time.settled.wholeSecond.nanos =
        instant.localTime.time.wholeSecond.nanos :=
      congrArg (fun moment : DateTime => moment.time.nanos) same
    have leaps : instant.localTime.time.LeapsAtEnd := by
      obtain ⟨-, -, -, fraction⟩ := instant.localTime.time.settled_clock
      change instant.localTime.time.settled.nanos - instant.localTime.time.settled.fraction =
        instant.localTime.time.nanos - instant.localTime.time.fraction at nanos
      rw [fraction, TimeOfDay.nanos_settled, TimeOfDay.fraction] at nanos
      unfold TimeOfDay.LeapsAtEnd
      split at nanos <;> omega
    rw [DateTime.settled_of_leapsAtEnd leaps] at same
    have timestamp := congrArg DateTime.timestamp same
    rw [DateTime.timestamp_shifted, DateTime.timestamp_shifted] at timestamp
    exact ⟨by omega, leaps⟩
  · rintro ⟨full, leaps⟩
    rw [full, DateTime.settled_of_leapsAtEnd leaps]

end Instant

end DashboardFilters.Calendar

namespace DashboardFilters.TemporalValue

open Calendar Decimal

variable {timezone : Timezone} {instant : Instant}

/-- The ISO text of an instant has no blanks around it. -/
theorem trim_iso (instant : Instant) : Text.trim instant.iso = instant.iso := by
  obtain ⟨sign, hours, minutes, -, -, -, minuteRow, -, -, shape⟩ := exists_offsetText instant.zone
  have begun := instant.localTime.date.skipBlanks_isoChars
    ('T' :: (instant.localTime.time.isoChars ++ sign :: (hours ++ ':' :: minutes)))
  have ends : instant.localTime.date.isoChars ++ 'T' :: (instant.localTime.time.isoChars ++ sign ::
      (hours ++ ':' :: minutes)) = (instant.localTime.date.isoChars ++ 'T' ::
        (instant.localTime.time.isoChars ++ sign :: (hours ++ [':']))) ++ minutes := by
    simp only [List.append_assoc, List.cons_append, List.nil_append]
  have written : instant.iso = String.ofList (instant.localTime.date.isoChars ++ 'T' ::
      (instant.localTime.time.isoChars ++ sign :: (hours ++ ':' :: minutes))) := by
    rw [Instant.iso, shape]
    simp only [List.append_assoc, List.cons_append]
  rw [ends] at begun written
  rw [Text.trim, written, String.toList_ofList, trimChars_behind begun minuteRow (by decide)]

/-- An instant whose year has four digits is read from its ISO text as what that denotes; it is
refused if the distance from UTC is told as a whole day. -/
theorem parse_iso_told (short : instant.localTime.date.HasFourDigits) :
    parse instant.iso .dateTime timezone = if instant.zone.toldSeconds.natAbs < 86400 then
        .ok (.dateTime (instant.told.inZone timezone))
      else .error (.malformedLiteral TemporalKind.dateTime.expected instant.iso) := by
  have read := Instant.parse?_iso_told short
  split
  next inDay =>
    obtain ⟨zone, known, -⟩ := instant.zone.ofSeconds?_toldSeconds inDay
    rw [known, Option.map_some] at read
    apply parse_of_parseInstant (trim_iso instant)
    rw [parseInstant?, read, Option.map_some, Option.some_or]
    rfl
  next far =>
    have outside : Timezone.ofSeconds? instant.zone.toldSeconds = none := dif_neg (by omega)
    have noMoment : parseLocal? instant.iso = none := by
      obtain ⟨time, chars, -⟩ := instant.localTime.time.exists_isoTime
      obtain ⟨sign, hours, minutes, -, -, -, -, -, -, shape⟩ := exists_offsetText instant.zone
      have written : instant.iso = String.ofList (instant.localTime.date.isoChars ++ 'T' ::
          (time.chars ++ sign :: (hours ++ ':' :: minutes))) := by
        rw [Instant.iso, shape, chars]
        simp only [List.append_assoc, List.cons_append]
      rw [written, parseLocal_isoChars]
    rw [outside, Option.map_none] at read
    have unknown : parseInstant? instant.iso timezone = none := by
      rw [parseInstant?, read, noMoment]
      rfl
    unfold parse
    dsimp only
    rw [trim_iso, unknown, Option.map_none]

/-- In a timezone of any distance, the ISO text of an instant whose year has four digits there is
read as that instant without its fraction exactly if the distance is one of full minutes and the
instant does not leap within a minute. In all timezones it is read as the second it shows, at the
distance it tells, unless that is a whole day. -/
theorem parse_isoAs_eq_iff {seconds : Int} (built : Timezone.ofSeconds? seconds = some timezone)
    (short : (instant.inZone timezone).localTime.date.HasFourDigits) :
    (parse (instant.isoAs .dateTime timezone) .dateTime timezone =
        .ok (.dateTime (instant.inZone timezone).wholeSecond) ↔
      seconds % 60 = 0 ∧ (instant.inZone timezone).localTime.time.LeapsAtEnd) ∧
    parse (instant.isoAs .dateTime timezone) .dateTime timezone =
      if timezone.toldSeconds.natAbs < 86400 then .ok (.dateTime (instant.inZone timezone).told)
      else .error (.malformedLiteral "an ISO datetime" (instant.isoAs .dateTime timezone)) := by
  have read : parse (instant.isoAs .dateTime timezone) .dateTime timezone =
      if timezone.toldSeconds.natAbs < 86400 then .ok (.dateTime (instant.inZone timezone).told)
      else .error (.malformedLiteral "an ISO datetime" (instant.isoAs .dateTime timezone)) :=
    parse_iso_told short
  refine ⟨?_, read⟩
  rw [read, ← Timezone.seconds_of_ofSeconds built]
  constructor
  · intro same
    split at same
    · rw [Except.ok.injEq, dateTime.injEq] at same
      exact Instant.told_eq_wholeSecond_iff.mp same
    · cases same
  · rintro ⟨full, leaps⟩
    have inDay := timezone.inDay
    have told := timezone.toldSeconds_eq_iff.mpr full
    rw [if_pos (by omega), Instant.told_eq_wholeSecond_iff.mpr ⟨full, leaps⟩]

end DashboardFilters.TemporalValue

namespace DashboardFilters

open Calendar

namespace Sample

/-- Half of a leap second that ends the year nine and a half hours east of UTC. -/
def newYearsLeap : Instant where
  utc := ⟨.ofCivil ⟨2016, 12, 31⟩, { seconds := 52199, nanos := 1500000000 }⟩
  zone := .utc

def halfHourEast : Timezone where
  seconds := 34200

def secondEast : Timezone where
  seconds := 1

def almostDayEast : Timezone where
  seconds := 86399

end Sample

open Sample

/-- At a distance of full minutes even a leap second is read without its fraction. -/
theorem TemporalValue.newYearsLeap_parse_isoAs :
    Timezone.ofSeconds? 34200 = some halfHourEast ∧
      (newYearsLeap.inZone halfHourEast).localTime.date.HasFourDigits ∧
      newYearsLeap.isoAs .dateTime halfHourEast = "2016-12-31T23:59:60+09:30" ∧
      parse "2016-12-31T23:59:60+09:30" .dateTime halfHourEast =
        .ok (.dateTime (newYearsLeap.inZone halfHourEast).wholeSecond) := by
  have built : Timezone.ofSeconds? 34200 = some halfHourEast := by decide
  have short : (newYearsLeap.inZone halfHourEast).localTime.date.HasFourDigits := by decide
  have leaps : (newYearsLeap.inZone halfHourEast).localTime.time.LeapsAtEnd := fun _ => by decide
  exact ⟨built, short, rfl,
    (TemporalValue.parse_isoAs_eq_iff built short).1.mpr ⟨by decide, leaps⟩⟩

/-- A second east of UTC the epoch is read as the instant a second later; a second less than a day
east of UTC it is not read. -/
theorem TemporalValue.epoch_misread :
    Timezone.ofSeconds? 1 = some secondEast ∧
      (Instant.epoch.inZone secondEast).localTime.date.HasFourDigits ∧
      Instant.epoch.isoAs .dateTime secondEast = "1970-01-01T00:00:01+00:00" ∧
      parse "1970-01-01T00:00:01+00:00" .dateTime secondEast =
        .ok (.dateTime ⟨⟨⟨0⟩, { seconds := 1, nanos := 0 }⟩, secondEast⟩) ∧
      parse (Instant.epoch.isoAs .dateTime secondEast) .dateTime secondEast ≠
        .ok (.dateTime (Instant.epoch.inZone secondEast).wholeSecond) ∧
      Timezone.ofSeconds? 86399 = some almostDayEast ∧
      (Instant.epoch.inZone almostDayEast).localTime.date.HasFourDigits ∧
      Instant.epoch.isoAs .dateTime almostDayEast = "1970-01-01T23:59:59+24:00" ∧
      parse "1970-01-01T23:59:59+24:00" .dateTime almostDayEast =
        .error (.malformedLiteral "an ISO datetime" "1970-01-01T23:59:59+24:00") := by
  refine ⟨by decide, by decide, rfl, rfl, ?_, by decide, by decide, rfl, rfl⟩
  intro same
  have read : parse (Instant.epoch.isoAs .dateTime secondEast) .dateTime secondEast =
      .ok (.dateTime ⟨⟨⟨0⟩, { seconds := 1, nanos := 0 }⟩, secondEast⟩) := rfl
  rw [read] at same
  exact absurd same (by decide)

end DashboardFilters
