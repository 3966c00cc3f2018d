import DashboardFilters.Proofs.Calendar.Iso
import DashboardFilters.Proofs.Calendar.Months

namespace DashboardFilters.Calendar

namespace DateTime

variable {moment target further : DateTime} {span longer : Int}

theorem eq_of_timestamp_of_nanos {other : DateTime} (timestamp : moment.timestamp = other.timestamp)
    (nanos : moment.time.nanos = other.time.nanos) : moment = other := by
  rw [← ofTimestamp_timestamp moment, ← ofTimestamp_timestamp other]
  simp only [timestamp, nanos]

/-- Going by seconds changes the timestamp by as many. -/
theorem timestamp_shifted (moment : DateTime) (seconds : Int) :
    (moment.shifted seconds).timestamp = moment.timestamp + seconds :=
  timestamp_ofTimestamp _ _ _

/-- Whether a moment is a span of seconds from another one. A span of some length leaves a leap
second, at its end if it goes forward and at its beginning if it goes back. -/
structure IsSecondsFrom (target moment : DateTime) (span : Int) : Prop where
  timestamp : target.timestamp = moment.timestamp + span +
    if span < 0 ∧ 1000000000 ≤ moment.time.nanos then 1 else 0
  nanos : target.time.nanos =
    if span = 0 ∨ moment.time.nanos < 1000000000 then moment.time.nanos
    else moment.time.nanos - 1000000000

/-- A span leads to one moment. -/
theorem IsSecondsFrom.unique (there : target.IsSecondsFrom moment span)
    (again : further.IsSecondsFrom moment span) : target = further :=
  eq_of_timestamp_of_nanos (there.timestamp.trans again.timestamp.symm)
    (there.nanos.trans again.nanos.symm)

/-- A moment is no span from itself. -/
theorem isSecondsFrom_zero (moment : DateTime) : moment.IsSecondsFrom moment 0 where
  timestamp := by
    rw [if_neg (fun leap => absurd leap.1 (Int.lt_irrefl 0))]
    omega
  nanos := (if_pos (Or.inl rfl)).symm

/-- A span leads somewhere, which is given if it lies in the range of dates. -/
theorem exists_isSecondsFrom (moment : DateTime) (span : Int) :
    ∃ moved : DateTime, moved.IsSecondsFrom moment span ∧
      moment.advanced? span = if moved.date.inRange then some moved else none := by
  by_cases stays : span = 0 ∨ moment.time.nanos < 1000000000
  · have known : (decide (span = 0) || decide (moment.time.nanos < 1000000000)) = true := by
      rwa [Bool.or_eq_true, decide_eq_true_eq, decide_eq_true_eq]
    refine ⟨moment.shifted span, ⟨?_, ?_⟩, ?_⟩
    · rw [timestamp_shifted, if_neg (by omega), Int.add_zero]
    · rw [if_pos stays]
      rfl
    · simp only [advanced?, known, if_true]
  · have known : ¬ (decide (span = 0) || decide (moment.time.nanos < 1000000000)) = true := by
      rwa [Bool.or_eq_true, decide_eq_true_eq, decide_eq_true_eq]
    have inSecond : moment.time.nanos - 1000000000 < 2000000000 :=
      Nat.lt_of_le_of_lt (Nat.sub_le _ _) moment.time.nanosInSecond
    have leap : (span < 0 ∧ 1000000000 ≤ moment.time.nanos) ↔ span < 0 := by omega
    refine ⟨ofTimestamp (moment.timestamp + span + if span < 0 then 1 else 0)
      (moment.time.nanos - 1000000000) inSecond, ⟨?_, ?_⟩, ?_⟩
    · rw [timestamp_ofTimestamp]
      simp only [leap]
    · rw [if_neg stays]
      rfl
    · simp only [advanced?, if_neg known]

/-- A moment is given for a span when it is that span away and lies in the range of dates. -/
theorem advanced?_eq_some_iff : moment.advanced? span = some target ↔
    target.IsSecondsFrom moment span ∧ target.date.inRange = true := by
  obtain ⟨moved, there, known⟩ := exists_isSecondsFrom moment span
  rw [known]
  split
  next inRange =>
    rw [Option.some_inj]
    constructor
    · rintro rfl
      exact ⟨there, inRange⟩
    · exact fun found => there.unique found.1
  next outOfRange =>
    refine iff_of_false (Option.some_ne_none target).symm ?_
    rintro ⟨found, inRange⟩
    rw [← there.unique found] at inRange
    exact outOfRange inRange

end DateTime

namespace Instant

variable {instant bound further now : Instant}

/-- Whether an instant is the same as another one or lies before it. A leap second lies behind the
rest of its second. -/
def NotAfter (instant other : Instant) : Prop :=
  instant.utc.timestamp < other.utc.timestamp ∨
    instant.utc.timestamp = other.utc.timestamp ∧ instant.utc.time.nanos ≤ other.utc.time.nanos

/-- A longer span leads to a later instant. -/
theorem notAfter_of_isSecondsFrom {span longer : Int}
    (there : bound.utc.IsSecondsFrom now.utc span)
    (beyond : further.utc.IsSecondsFrom now.utc longer) (less : span ≤ longer) :
    bound.NotAfter further := by
  have inSecond := now.utc.time.nanosInSecond
  unfold NotAfter
  rw [there.timestamp, there.nanos, beyond.timestamp, beyond.nanos]
  -- From a leap second, spans back, of no length and forward have offsets of their own.
  repeat' split
  all_goals omega

/-- The local time of an instant is that of its timezone, and tells the instant. -/
theorem utc_eq_shifted (instant : Instant) :
    instant.utc = instant.localTime.shifted (-instant.zone.seconds) := by
  have back := DateTime.shifted_back instant.utc (-instant.zone.seconds)
  rw [Int.neg_neg] at back
  exact back.symm

/-- The local date of an instant is that in UTC or a day beside it. -/
theorem localTime_day (instant : Instant) : instant.utc.date.day - 1 ≤ instant.localTime.date.day ∧
    instant.localTime.date.day ≤ instant.utc.date.day + 1 := by
  have seconds := DateTime.timestamp_shifted instant.utc instant.zone.seconds
  change instant.localTime.timestamp = _ at seconds
  rw [DateTime.timestamp, DateTime.timestamp] at seconds
  have inDay := instant.zone.inDay
  have localSeconds := instant.localTime.time.secondsInDay
  have utcSeconds := instant.utc.time.secondsInDay
  omega

/-- An instant is that of its local time if it lies in the range of dates. -/
theorem ofLocal?_eq_some_iff {moment : DateTime} {zone : Timezone} :
    ofLocal? moment zone = some instant ↔
      instant.zone = zone ∧ instant.localTime = moment ∧ instant.utc.date.inRange = true := by
  unfold ofLocal?
  dsimp only
  constructor
  · intro known
    split at known
    next inRange =>
      rw [← Option.some.inj known]
      exact ⟨rfl, DateTime.shifted_back _ _, inRange⟩
    next => cases known
  · rintro ⟨rfl, rfl, inRange⟩
    rw [← utc_eq_shifted, if_pos inRange]

/-- Whether an instant is a number of months from another one: in its timezone it is the date that
many months from there, at the same time of day. -/
structure IsMonthsFrom (bound now : Instant) (months : Int) : Prop where
  zone : bound.zone = now.zone
  date : bound.localTime.date.IsMonthsFrom now.localTime.date months
  time : bound.localTime.time = now.localTime.time

/-- Whether the instant and its local date lie in the range, where the date of no months is not
looked at. -/
structure InRangeBy (bound : Instant) (months : Int) : Prop where
  date : months = 0 ∨ bound.localTime.date.inRange = true
  utc : bound.utc.date.inRange = true
  beforeEnd : ¬ bound.isAfterLast = true

/-- An instant is given for a number of months when it is that many months away and lies in the
range. -/
theorem addMonths?_eq_some_iff {months : Int} : now.addMonths? months = some bound ↔
    bound.IsMonthsFrom now months ∧ bound.InRangeBy months := by
  unfold addMonths?
  simp only [Option.bind_eq_bind, Option.bind_eq_some_iff, Date.addMonths?_eq_some_iff,
    ofLocal?_eq_some_iff]
  constructor
  · rintro ⟨date, ⟨there, inRange⟩, moved, ⟨zone, moment, utc⟩, known⟩
    split at known
    next => cases known
    next beforeEnd =>
      cases known
      have sameDate : bound.localTime.date = date := by rw [moment]
      have sameTime : bound.localTime.time = now.localTime.time := by rw [moment]
      rw [← sameDate] at there inRange
      exact ⟨⟨zone, there, sameTime⟩, ⟨inRange, utc, beforeEnd⟩⟩
  · rintro ⟨⟨zone, there, sameTime⟩, ⟨inRange, utc, beforeEnd⟩⟩
    refine ⟨bound.localTime.date, ⟨there, inRange⟩, bound, ⟨zone, ?_, utc⟩, if_neg beforeEnd⟩
    rw [← sameTime]

/-- An instant is no months from itself. -/
theorem isMonthsFrom_zero (now : Instant) : now.IsMonthsFrom now 0 :=
  ⟨rfl, now.localTime.date.isMonthsFrom_zero, rfl⟩

/-- The months between two instants of the range are those of its years at most. -/
theorem natAbs_le_of_isMonthsFrom {months : Int} (inRange : now.utc.date.inRange = true)
    (there : bound.IsMonthsFrom now months) (given : bound.InRangeBy months) :
    months.natAbs ≤ 12 * 524286 := by
  rcases given.date with none | localInRange
  · rw [none]
    exact Nat.zero_le _
  · have beside := now.localTime_day
    rw [Date.inRange, Bool.and_eq_true, decide_eq_true_eq, decide_eq_true_eq] at inRange
    exact Date.natAbs_le_of_isMonthsFrom there.date (by omega) (by omega) localInRange

/-- A number of months leads somewhere, in the range or not. -/
theorem exists_isMonthsFrom (now : Instant) (months : Int) :
    ∃ bound : Instant, bound.IsMonthsFrom now months := by
  let moment : DateTime :=
    ⟨.ofCivil (now.localTime.date.civil.addMonths months), now.localTime.time⟩
  have back : (⟨moment.shifted (-now.zone.seconds), now.zone⟩ : Instant).localTime = moment :=
    DateTime.shifted_back _ _
  refine ⟨⟨moment.shifted (-now.zone.seconds), now.zone⟩, rfl, ?_, ?_⟩
  · rw [back]
    exact Date.isMonthsFrom_iff.mpr rfl
  · rw [back]

/-- A number of months leads to one instant. -/
theorem IsMonthsFrom.unique {months : Int} (there : bound.IsMonthsFrom now months)
    (again : further.IsMonthsFrom now months) : bound = further := by
  have date : bound.localTime.date = further.localTime.date :=
    (Date.isMonthsFrom_iff.mp there.date).trans (Date.isMonthsFrom_iff.mp again.date).symm
  have time := there.time.trans again.time.symm
  have zone := there.zone.trans again.zone.symm
  have moment : bound.localTime = further.localTime := by
    calc bound.localTime = ⟨bound.localTime.date, bound.localTime.time⟩ := rfl
      _ = ⟨further.localTime.date, further.localTime.time⟩ := by rw [date, time]
  calc bound = ⟨bound.localTime.shifted (-bound.zone.seconds), bound.zone⟩ := by
        rw [← utc_eq_shifted]
    _ = further := by rw [moment, zone, ← utc_eq_shifted]

/-- More months lead to a later instant. -/
theorem notAfter_of_isMonthsFrom {months more : Int} (there : bound.IsMonthsFrom now months)
    (beyond : further.IsMonthsFrom now more) (less : months ≤ more) : bound.NotAfter further := by
  by_cases same : months = more
  · subst same
    rw [there.unique beyond]
    exact Or.inr ⟨rfl, Nat.le_refl _⟩
  · have days := Date.day_lt_of_isMonthsFrom there.date beyond.date (by omega)
    have early := DateTime.timestamp_shifted bound.utc bound.zone.seconds
    have late := DateTime.timestamp_shifted further.utc further.zone.seconds
    change bound.localTime.timestamp = _ at early
    change further.localTime.timestamp = _ at late
    rw [DateTime.timestamp, there.time, there.zone] at early
    rw [DateTime.timestamp, beyond.time, beyond.zone] at late
    exact Or.inl (by omega)

end Instant

end DashboardFilters.Calendar
