import DashboardFilters.Calendar.Instant
import DashboardFilters.Proofs.Calendar.Civil

namespace DashboardFilters.Calendar

namespace Civil

variable {civil : Civil}

/-- The months since January of the year zero. -/
def monthIndex (civil : Civil) : Int :=
  civil.year * 12 + (civil.month - 1 : Nat)

/-- Years that begin in March count the same months, from March on. -/
theorem monthIndex_eq (valid : civil.isValid = true) :
    civil.monthIndex = civil.marchYear * 12 + ((civil.month + 9) % 12 : Nat) + 2 := by
  obtain ⟨first, last, -, -⟩ := isValid_iff.mp valid
  unfold monthIndex marchYear
  split
  · omega
  · omega

/-- The leap day is the last day of a year that begins in March and has 366 days. -/
theorem isLeapYear_of_dayOfYear (valid : civil.isValid = true) (last : civil.dayOfYear = 365) :
    isLeapYear (civil.marchYear + 1) = true := by
  obtain ⟨february, twentyNinth⟩ := (dayOfYear_le valid).2 last
  have leap := (day_of_february valid february).2 twentyNinth
  rwa [marchYear, if_pos (by omega), Int.sub_add_cancel]

end Civil

/-- The days before a year that begins in March, from the first of March of the year zero on. -/
def daysBefore (year : Int) : Int :=
  365 * year + year / 4 - year / 100 + year / 400

/-- A date counts the days of full years and of the year it lies in. -/
theorem Date.day_eq_daysBefore (civil : Civil) :
    (Date.ofCivil civil).day + 719468 = daysBefore civil.marchYear + civil.dayOfYear := by
  rw [Date.day_ofCivil, daysBefore, Civil.dayOfEra, Civil.yearOfEra]
  omega

/-- A later year begins at least 365 days later, and 366 days if a leap year lies between. -/
theorem daysBefore_add_le {year later : Int} (less : year < later) :
    daysBefore year + (if isLeapYear (year + 1) then 366 else 365) ≤ daysBefore later := by
  unfold daysBefore
  split
  next leap =>
    have known := isLeapYear_iff.mp leap
    omega
  next => omega

/-- Dates of later months are later. -/
theorem Date.day_lt_of_monthIndex_lt {civil other : Civil} (valid : civil.isValid = true)
    (otherValid : other.isValid = true) (later : civil.monthIndex < other.monthIndex) :
    (Date.ofCivil civil).day < (Date.ofCivil other).day := by
  have day := Date.day_eq_daysBefore civil
  have otherDay := Date.day_eq_daysBefore other
  have month := (Civil.month_dayOfYear valid).1
  have otherMonth := (Civil.month_dayOfYear otherValid).1
  rw [Civil.monthIndex_eq valid, Civil.monthIndex_eq otherValid] at later
  rcases Int.lt_trichotomy civil.marchYear other.marchYear with before | same | behind
  · have inYear := (Civil.dayOfYear_le valid).1
    have years := daysBefore_add_le before
    by_cases last : civil.dayOfYear = 365
    · rw [if_pos (Civil.isLeapYear_of_dayOfYear valid last)] at years
      omega
    · split at years <;> omega
  · rw [same] at day
    omega
  · omega

/-- Whether a date is a number of months from another one: it lies in that month, on the same day
of it, or on the last one if the month is shorter. -/
structure Date.IsMonthsFrom (target date : Date) (months : Int) : Prop where
  month : target.civil.monthIndex = date.civil.monthIndex + months
  day : target.civil.day =
    min date.civil.day (daysOfMonth target.civil.year target.civil.month)

namespace Civil

variable {civil other : Civil}

theorem daysOfMonth_ge (year : Int) (month : Nat) : 28 ≤ daysOfMonth year month := by
  unfold daysOfMonth
  repeat' split
  all_goals decide

/-- Adding months leads to a valid date in the month that many months from there. -/
theorem addMonths_valid (valid : civil.isValid = true) (months : Int) :
    (civil.addMonths months).isValid = true ∧
      (civil.addMonths months).monthIndex = civil.monthIndex + months := by
  obtain ⟨-, -, positive, -⟩ := isValid_iff.mp valid
  have long := daysOfMonth_ge (civil.addMonths months).year (civil.addMonths months).month
  constructor
  · rw [isValid_iff]
    refine ⟨?_, ?_, ?_, Nat.min_le_right _ _⟩
    · exact Nat.le_add_left _ _
    · change ((civil.monthIndex + months) % 12).toNat + 1 ≤ 12
      omega
    · exact Nat.le_min.mpr ⟨positive, Nat.le_trans (by decide) long⟩
  · change (civil.monthIndex + months) / 12 * 12 +
      (((civil.monthIndex + months) % 12).toNat + 1 - 1 : Nat) = _
    omega

/-- Year, month and day are told by the count of months and the day. -/
theorem eq_of_monthIndex (valid : civil.isValid = true) (otherValid : other.isValid = true)
    (months : civil.monthIndex = other.monthIndex)
    (days : civil.year = other.year → civil.month = other.month → civil.day = other.day) :
    civil = other := by
  obtain ⟨first, last, -, -⟩ := isValid_iff.mp valid
  obtain ⟨otherFirst, otherLast, -, -⟩ := isValid_iff.mp otherValid
  obtain ⟨year, month, day⟩ := civil
  obtain ⟨otherYear, otherMonth, otherDay⟩ := other
  unfold monthIndex at months
  dsimp only at *
  have sameYear : year = otherYear := by omega
  have sameMonth : month = otherMonth := by omega
  rw [sameYear, sameMonth, days sameYear sameMonth]

end Civil

namespace Date

variable {date target : Date} {months : Int}

/-- There is one date a number of months from another one. -/
theorem isMonthsFrom_iff :
    target.IsMonthsFrom date months ↔ target = .ofCivil (date.civil.addMonths months) := by
  obtain ⟨addedValid, added⟩ := Civil.addMonths_valid date.ofCivil_civil.1 months
  constructor
  · rintro ⟨month, day⟩
    obtain ⟨valid, known⟩ := target.ofCivil_civil
    rw [← known]
    apply congrArg
    apply Civil.eq_of_monthIndex valid addedValid (month.trans added.symm)
    intro sameYear sameMonth
    rw [day, sameYear, sameMonth]
    rfl
  · rintro rfl
    constructor
    · rw [civil_ofCivil addedValid, added]
    · rw [civil_ofCivil addedValid]
      rfl

/-- A date is no month from itself. -/
theorem isMonthsFrom_zero (date : Date) : date.IsMonthsFrom date 0 := by
  obtain ⟨-, -, -, short⟩ := Civil.isValid_iff.mp date.ofCivil_civil.1
  exact ⟨(Int.add_zero _).symm, (Nat.min_eq_left short).symm⟩

/-- More months lead to later dates. -/
theorem day_lt_of_isMonthsFrom {further : Date} {more : Int} (there : target.IsMonthsFrom date months)
    (beyond : further.IsMonthsFrom date more) (less : months < more) : target.day < further.day := by
  obtain ⟨valid, known⟩ := target.ofCivil_civil
  obtain ⟨furtherValid, furtherKnown⟩ := further.ofCivil_civil
  have later : target.civil.monthIndex < further.civil.monthIndex := by
    rw [there.month, beyond.month]
    omega
  have days := day_lt_of_monthIndex_lt valid furtherValid later
  rwa [known, furtherKnown] at days

/-- A date that is no later lies in a month that is no later. -/
theorem monthIndex_le_of_day_le (early : date.day ≤ target.day) :
    date.civil.monthIndex ≤ target.civil.monthIndex := by
  obtain ⟨valid, known⟩ := date.ofCivil_civil
  obtain ⟨targetValid, targetKnown⟩ := target.ofCivil_civil
  by_contra late
  have days := day_lt_of_monthIndex_lt targetValid valid (Int.not_le.mp late)
  rw [known, targetKnown] at days
  exact Int.not_le.mpr days early

/-- The months between two dates of the range, or a day beside it, are those of its years at
most. -/
theorem natAbs_le_of_isMonthsFrom (there : target.IsMonthsFrom date months)
    (begun : first.day - 1 ≤ date.day) (notOver : date.day ≤ last.day + 1)
    (inRange : target.inRange = true) : months.natAbs ≤ 12 * 524286 := by
  rw [Date.inRange, Bool.and_eq_true, decide_eq_true_eq, decide_eq_true_eq] at inRange
  have begins : (-3145717 : Int) ≤ date.civil.monthIndex := monthIndex_le_of_day_le begun
  have ends : date.civil.monthIndex ≤ 3145716 := monthIndex_le_of_day_le notOver
  have targetBegins : (-3145716 : Int) ≤ target.civil.monthIndex := monthIndex_le_of_day_le inRange.1
  have targetEnds : target.civil.monthIndex ≤ 3145715 := monthIndex_le_of_day_le inRange.2
  have month := there.month
  omega

/-- Adding months to a date gives the date that many months from it, if there is one in the range or
the date stays where it is. -/
theorem addMonths?_eq_some_iff : date.addMonths? months = some target ↔
    target.IsMonthsFrom date months ∧ (months = 0 ∨ target.inRange = true) := by
  unfold addMonths?
  split
  next none =>
    subst none
    have here := isMonthsFrom_iff.mp date.isMonthsFrom_zero
    rw [isMonthsFrom_iff, ← here, Option.some_inj]
    exact ⟨fun same => ⟨same.symm, Or.inl rfl⟩, fun known => known.1.symm⟩
  next some =>
    have valid := (Civil.addMonths_valid date.ofCivil_civil.1 months).1
    rw [isMonthsFrom_iff, ofCivil?, valid, Bool.true_and]
    split
    next inRange =>
      rw [Option.some_inj]
      constructor
      · rintro rfl
        exact ⟨rfl, Or.inr inRange⟩
      · exact fun known => known.1.symm
    next outOfRange =>
      refine iff_of_false (Option.some_ne_none target).symm ?_
      rintro ⟨rfl, stays | inRange⟩
      · exact some stays
      · exact outOfRange inRange

end Date

end DashboardFilters.Calendar
