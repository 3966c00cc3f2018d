import DashboardFilters.Calendar.Date
import Mathlib.Tactic.IntervalCases

/-!
Year, month and day of a date are those it was made of, and each date is made of some. Years that
begin in March fall into centuries, cycles of four years and single years; each of these has a fixed
length but for the last one of its kind, which the corrections by single days make up for.
-/

namespace DashboardFilters.Calendar

theorem yearOfEra_spread {century cycle last day dayOfEra : Nat} (centuries : century < 4)
    (cycles : cycle < 25) (years : last < 4) (inYear : day ≤ 365)
    (leap : day = 365 → last = 3 ∧ (cycle ≠ 24 ∨ century = 3))
    (spread : dayOfEra = 36524 * century + (1461 * cycle + 365 * last + day)) :
    (dayOfEra - dayOfEra / 1460 + dayOfEra / 36524 - dayOfEra / 146096) / 365 =
      100 * century + 4 * cycle + last := by
  -- Only the last day of the era lies behind its four centuries.
  have byCentury : dayOfEra / 36524 = century + dayOfEra / 146096 := by
    obtain inside | ⟨rfl, full⟩ : 1461 * cycle + 365 * last + day < 36524 ∨
        century = 3 ∧ 1461 * cycle + 365 * last + day = 36524 := by omega
    · rw [spread, Nat.mul_add_div (by decide), Nat.div_eq_of_lt inside,
        Nat.div_eq_of_lt (by omega)]
    · rw [spread, full]
  have byCycle : dayOfEra / 1460 = 25 * century + cycle +
      (24 * century + cycle + 365 * last + day) / 1460 := by
    have regrouped : dayOfEra = 1460 * (25 * century + cycle) +
        (24 * century + cycle + 365 * last + day) := by omega
    rw [regrouped, Nat.mul_add_div (by decide)]
  omega

theorem yearOfEra_dayOfEra {year day dayOfEra : Nat} (inEra : year < 400) (inYear : day ≤ 365)
    (leap : day = 365 → year % 4 = 3 ∧ (year % 100 ≠ 99 ∨ year = 399))
    (known : dayOfEra = year * 365 + year / 4 - year / 100 + day) :
    (dayOfEra - dayOfEra / 1460 + dayOfEra / 36524 - dayOfEra / 146096) / 365 = year := by
  obtain ⟨century, rest, rfl, small⟩ : ∃ century rest, year = 100 * century + rest ∧ rest < 100 :=
    ⟨year / 100, year % 100, by omega, by omega⟩
  obtain ⟨cycle, last, rfl, short⟩ : ∃ cycle last, rest = 4 * cycle + last ∧ last < 4 :=
    ⟨rest / 4, rest % 4, by omega, by omega⟩
  have parts : (100 * century + (4 * cycle + last)) / 4 = 25 * century + cycle := by omega
  have wholes : (100 * century + (4 * cycle + last)) / 100 = century := by omega
  have spread : dayOfEra = 36524 * century + (1461 * cycle + 365 * last + day) := by
    rw [known, parts, wholes]
    omega
  rw [yearOfEra_spread (by omega) (by omega) short inYear (by omega) spread]
  omega

/-- Each day of an era lies in one of its years; only leap years have the last one of 366 days. -/
theorem exists_yearOfEra {dayOfEra : Nat} (inEra : dayOfEra < 146097) :
    ∃ year day, year < 400 ∧ day ≤ 365 ∧
      (day = 365 → year % 4 = 3 ∧ (year % 100 ≠ 99 ∨ year = 399)) ∧
      dayOfEra = year * 365 + year / 4 - year / 100 + day := by
  obtain ⟨century, inCentury, spread, centuries, full⟩ : ∃ century rest,
      dayOfEra = 36524 * century + rest ∧ century < 4 ∧
        (rest < 36524 ∨ rest = 36524 ∧ century = 3) := by
    by_cases last : dayOfEra = 146096
    · exact ⟨3, 36524, by omega⟩
    · exact ⟨dayOfEra / 36524, dayOfEra % 36524, by omega⟩
  obtain ⟨cycle, inCycle, rfl, short⟩ : ∃ cycle rest,
      inCentury = 1461 * cycle + rest ∧ rest < 1461 :=
    ⟨inCentury / 1461, inCentury % 1461, by omega⟩
  obtain ⟨last, day, rfl, years, inYear, leap⟩ : ∃ last day,
      inCycle = 365 * last + day ∧ last < 4 ∧ day ≤ 365 ∧ (day = 365 → last = 3) := by
    by_cases leapDay : inCycle = 1460
    · exact ⟨3, 365, by omega⟩
    · exact ⟨inCycle / 365, inCycle % 365, by omega⟩
  have parts : (100 * century + 4 * cycle + last) / 4 = 25 * century + cycle := by omega
  have wholes : (100 * century + 4 * cycle + last) / 100 = century := by omega
  refine ⟨100 * century + 4 * cycle + last, day, ?_⟩
  rw [parts, wholes]
  omega

/-- The day of a year that begins in March. -/
def Civil.dayOfYear (civil : Civil) : Nat :=
  (153 * ((civil.month + 9) % 12) + 2) / 5 + civil.day - 1

namespace Civil

variable {civil : Civil}

/-- The parts of a valid year, month and day. -/
theorem isValid_iff : civil.isValid = true ↔ 1 ≤ civil.month ∧ civil.month ≤ 12 ∧ 1 ≤ civil.day ∧
    civil.day ≤ daysOfMonth civil.year civil.month := by
  simp only [isValid, Bool.and_eq_true, decide_eq_true_eq, and_assoc]

/-- February has at most 29 days, and 29 only in a leap year. -/
theorem day_of_february (valid : civil.isValid = true) (february : civil.month = 2) :
    civil.day ≤ 29 ∧ (civil.day = 29 → isLeapYear civil.year = true) := by
  obtain ⟨_, _, _, short⟩ := isValid_iff.mp valid
  rw [daysOfMonth, if_pos february] at short
  split at short
  next leap => exact ⟨short, fun _ => leap⟩
  next => omega

/-- The month is that of the day of the year, and the day is what the earlier months leave of it. -/
theorem month_dayOfYear (valid : civil.isValid = true) :
    (5 * civil.dayOfYear + 2) / 153 = (civil.month + 9) % 12 ∧
      civil.dayOfYear - (153 * ((civil.month + 9) % 12) + 2) / 5 + 1 = civil.day := by
  have february := day_of_february valid
  obtain ⟨first, last, positive, short⟩ := isValid_iff.mp valid
  obtain ⟨year, month, day⟩ := civil
  dsimp only [dayOfYear] at *
  interval_cases month
  case «2» => omega
  all_goals
    unfold daysOfMonth at short
    simp at short
    omega

/-- A year has at most 366 days, the last of which is the leap day. -/
theorem dayOfYear_le (valid : civil.isValid = true) :
    civil.dayOfYear ≤ 365 ∧ (civil.dayOfYear = 365 → civil.month = 2 ∧ civil.day = 29) := by
  have february := day_of_february valid
  obtain ⟨first, last, positive, short⟩ := isValid_iff.mp valid
  obtain ⟨year, month, day⟩ := civil
  dsimp only [dayOfYear] at *
  interval_cases month
  case «2» => omega
  all_goals
    unfold daysOfMonth at short
    simp at short
    omega

end Civil

/-- Years are divisible by four, and by a hundred only if by four hundred, when they are leap
years. -/
theorem isLeapYear_iff {year : Int} :
    isLeapYear year = true ↔ year % 4 = 0 ∧ (year % 100 ≠ 0 ∨ year % 400 = 0) := by
  simp [isLeapYear]

def Civil.marchYear (civil : Civil) : Int :=
  if civil.month ≤ 2 then civil.year - 1 else civil.year

/-- The year of the era, for years that begin in March. -/
def Civil.yearOfEra (civil : Civil) : Nat :=
  (civil.marchYear % 400).toNat

def Civil.dayOfEra (civil : Civil) : Nat :=
  civil.yearOfEra * 365 + civil.yearOfEra / 4 - civil.yearOfEra / 100 + civil.dayOfYear

/-- A date counts the days of full eras and of the era it lies in. -/
theorem Date.day_ofCivil (civil : Civil) :
    (Date.ofCivil civil).day + 719468 = civil.marchYear / 400 * 146097 + civil.dayOfEra := by
  have year : (civil.yearOfEra : Int) = civil.marchYear % 400 := by
    unfold Civil.yearOfEra
    omega
  have days : (civil.dayOfEra : Int) = civil.marchYear % 400 * 365 + civil.marchYear % 400 / 4 -
      civil.marchYear % 400 / 100 + civil.dayOfYear := by
    rw [Civil.dayOfEra, ← year]
    omega
  rw [days]
  change civil.marchYear / 400 * 146097 + (civil.marchYear % 400 * 365 +
    civil.marchYear % 400 / 4 - civil.marchYear % 400 / 100 + (civil.dayOfYear : Int)) - 719468 +
    719468 = _
  omega

namespace Civil

variable {civil : Civil}

/-- The day of the era is one of the 146097 days of an era. -/
theorem dayOfEra_lt (valid : civil.isValid = true) : civil.dayOfEra < 146097 := by
  have inYear := (dayOfYear_le valid).1
  have inEra : civil.yearOfEra < 400 := by
    unfold yearOfEra
    omega
  unfold dayOfEra
  omega

theorem yearOfEra_eq (valid : civil.isValid = true) :
    (civil.dayOfEra - civil.dayOfEra / 1460 + civil.dayOfEra / 36524 - civil.dayOfEra / 146096) /
      365 = civil.yearOfEra := by
  obtain ⟨inYear, leapDay⟩ := dayOfYear_le valid
  have inEra : civil.yearOfEra < 400 := by
    unfold yearOfEra
    omega
  apply yearOfEra_dayOfEra inEra inYear ?_ rfl
  intro lastDay
  obtain ⟨february, twentyNinth⟩ := leapDay lastDay
  have leap := isLeapYear_iff.mp ((day_of_february valid february).2 twentyNinth)
  rw [yearOfEra, marchYear, if_pos (by omega)]
  omega

end Civil

/-- Year, month and day of a date are those it was made of. -/
theorem Date.civil_ofCivil {civil : Civil} (valid : civil.isValid = true) :
    (Date.ofCivil civil).civil = civil := by
  obtain ⟨monthKnown, dayKnown⟩ := Civil.month_dayOfYear valid
  obtain ⟨first, last, positive, short⟩ := Civil.isValid_iff.mp valid
  have below := Civil.dayOfEra_lt valid
  have era : (civil.marchYear / 400 * 146097 + (civil.dayOfEra : Int)) / 146097 =
      civil.marchYear / 400 := by omega
  have inEra : ((civil.marchYear / 400 * 146097 + (civil.dayOfEra : Int)) % 146097).toNat =
      civil.dayOfEra := by omega
  have inYear : civil.dayOfEra - (365 * civil.yearOfEra + civil.yearOfEra / 4 -
      civil.yearOfEra / 100) = civil.dayOfYear := by
    unfold Civil.dayOfEra
    omega
  have month : (if (civil.month + 9) % 12 < 10 then (civil.month + 9) % 12 + 3
      else (civil.month + 9) % 12 - 9) = civil.month := by
    split <;> omega
  have year : civil.marchYear / 400 * 400 + (civil.yearOfEra : Int) +
      (if civil.month ≤ 2 then 1 else 0) = civil.year := by
    rw [Civil.yearOfEra, Civil.marchYear]
    split <;> omega
  rw [Date.civil, Date.day_ofCivil, era, inEra, Civil.yearOfEra_eq valid, inYear, monthKnown,
    dayKnown, month, year]

/-- Each day of a year from March on lies in one of its months. -/
theorem Civil.exists_of_dayOfYear {year : Int} {day : Nat} (inYear : day ≤ 365)
    (leap : day = 365 → isLeapYear (year + 1) = true) :
    ∃ civil : Civil, civil.isValid = true ∧ civil.marchYear = year ∧ civil.dayOfYear = day := by
  obtain ⟨month, inMonths, begun, ended⟩ : ∃ month, month < 12 ∧ (153 * month + 2) / 5 ≤ day ∧
      day < (153 * (month + 1) + 2) / 5 :=
    ⟨(5 * day + 2) / 153, by omega⟩
  refine ⟨⟨if month < 10 then year else year + 1, if month < 10 then month + 3 else month - 9,
    day - (153 * month + 2) / 5 + 1⟩, isValid_iff.mpr ?_, ?_, ?_⟩
  · interval_cases month
    case «11» =>
      by_cases leapDay : day = 365
      · simp [daysOfMonth, leap leapDay, leapDay]
      · simp [daysOfMonth]
        split <;> omega
    all_goals
      simp [daysOfMonth]
      omega
  · unfold marchYear
    dsimp only
    split <;> split <;> omega
  · have back : ((if month < 10 then month + 3 else month - 9) + 9) % 12 = month := by
      split <;> omega
    unfold dayOfYear
    dsimp only
    rw [back]
    omega

/-- Each date is made of a valid year, month and day. -/
theorem Date.exists_civil (date : Date) :
    ∃ civil : Civil, civil.isValid = true ∧ Date.ofCivil civil = date := by
  have inEra : ((date.day + 719468) % 146097).toNat < 146097 := by omega
  obtain ⟨year, day, years, inYear, leap, spread⟩ := exists_yearOfEra inEra
  have leapYear : day = 365 → isLeapYear ((date.day + 719468) / 146097 * 400 + year + 1) = true := by
    intro last
    apply isLeapYear_iff.mpr
    omega
  obtain ⟨civil, valid, march, known⟩ := Civil.exists_of_dayOfYear inYear leapYear
  refine ⟨civil, valid, ?_⟩
  have days := Date.day_ofCivil civil
  have yearKnown : civil.yearOfEra = year := by
    rw [Civil.yearOfEra, march]
    omega
  have same : (Date.ofCivil civil).day = date.day := by
    rw [march, Civil.dayOfEra, yearKnown, known, ← spread] at days
    omega
  obtain ⟨_⟩ := date
  exact congrArg Date.mk same

/-- Year, month and day of a date are valid, and make the date. -/
theorem Date.ofCivil_civil (date : Date) :
    date.civil.isValid = true ∧ Date.ofCivil date.civil = date := by
  obtain ⟨civil, valid, rfl⟩ := date.exists_civil
  rw [Date.civil_ofCivil valid]
  exact ⟨valid, rfl⟩

end DashboardFilters.Calendar
