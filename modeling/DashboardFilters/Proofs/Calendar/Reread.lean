import DashboardFilters.Proofs.Calendar.Written

namespace DashboardFilters.Calendar

namespace TimeOfDay

/-- Whether a leap second comes at the end of a minute. -/
def LeapsAtEnd (time : TimeOfDay) : Prop :=
  1000000000 ≤ time.nanos → time.seconds % 60 = 59

theorem leapsAtEnd_of_ofClock {hour minute second fraction : Nat} {time : TimeOfDay}
    (known : ofClock? hour minute second fraction = some time) : time.LeapsAtEnd := by
  unfold ofClock? at known
  split at known
  next inClock =>
    split at known
    next =>
      rw [← Option.some.inj known]
      intro _
      change (hour * 3600 + minute * 60 + 59) % 60 = 59
      omega
    next =>
      rw [← Option.some.inj known]
      intro leap
      exact absurd leap (Nat.not_le.mpr inClock.2.2.2)
  next => exact absurd known.symm (Option.some_ne_none time)

theorem leapsAtEnd_midnight : midnight.LeapsAtEnd :=
  fun leap => absurd leap (by decide)

/-- Times are the same if their seconds and nanoseconds are. -/
theorem eq_of_seconds_of_nanos {time other : TimeOfDay} (seconds : time.seconds = other.seconds)
    (nanos : time.nanos = other.nanos) : time = other := by
  cases time
  cases other
  cases seconds
  cases nanos
  rfl

/-- Hour, minute, second and fraction tell a time that leaps at the end of a minute. -/
theorem ofClock?_clock {time : TimeOfDay} (leaps : time.LeapsAtEnd) :
    ofClock? time.hour time.minute time.second time.fraction = some time := by
  have inDay := time.secondsInDay
  have inSecond := time.nanosInSecond
  unfold LeapsAtEnd at leaps
  have inClock : time.hour < 24 ∧ time.minute < 60 ∧ time.second ≤ 60 ∧
      time.fraction < 1000000000 := by
    unfold hour minute second fraction
    omega
  have minutes : time.hour * 3600 + time.minute * 60 + time.seconds % 60 = time.seconds := by
    unfold hour minute
    omega
  rw [ofClock?, dif_pos inClock]
  by_cases leap : 1000000000 ≤ time.nanos
  · have last := leaps leap
    have sixty : time.second = 60 := by
      unfold second
      omega
    rw [if_pos sixty, Option.some_inj]
    apply eq_of_seconds_of_nanos
    · rwa [last] at minutes
    · change 1000000000 + time.nanos % 1000000000 = time.nanos
      omega
  · have usual : time.second = time.seconds % 60 := by
      unfold second
      omega
    have short : min time.second 59 = time.seconds % 60 := by omega
    rw [if_neg (by omega), Option.some_inj]
    apply eq_of_seconds_of_nanos
    · rwa [← short] at minutes
    · change time.nanos % 1000000000 = time.nanos
      omega

/-- The beginning of the second. -/
def wholeSecond (time : TimeOfDay) : TimeOfDay where
  seconds := time.seconds
  nanos := time.nanos - time.fraction
  secondsInDay := time.secondsInDay
  nanosInSecond := Nat.lt_of_le_of_lt (Nat.sub_le _ _) time.nanosInSecond

/-- Hour, minute and second tell a time to the second. -/
theorem ofClock?_wholeSecond {time : TimeOfDay} (leaps : time.LeapsAtEnd) :
    ofClock? time.hour time.minute time.second 0 = some time.wholeSecond := by
  have still : time.wholeSecond.LeapsAtEnd := fun leap =>
    leaps (Nat.le_trans leap (Nat.sub_le _ _))
  have known := ofClock?_clock still
  have second : time.wholeSecond.second = time.second := by
    change time.seconds % 60 + (time.nanos - time.nanos % 1000000000) / 1000000000 = _
    unfold TimeOfDay.second
    omega
  have fraction : time.wholeSecond.fraction = 0 := by
    change (time.nanos - time.nanos % 1000000000) % 1000000000 = 0
    omega
  rwa [second, fraction] at known

theorem wholeSecond_of_fraction {time : TimeOfDay} (whole : time.fraction = 0) :
    time.wholeSecond = time := by
  have nanos : time.nanos - time.fraction = time.nanos := by rw [whole, Nat.sub_zero]
  exact eq_of_seconds_of_nanos rfl nanos

end TimeOfDay

/-- A date that is made of year, month and day lies in the range. -/
theorem Date.inRange_of_ofCivil {civil : Civil} {date : Date} (known : ofCivil? civil = some date) :
    date.inRange = true := by
  unfold ofCivil? at known
  split at known
  next valid =>
    rw [← Option.some.inj known]
    exact (Bool.and_eq_true_iff.mp valid).2
  next => exact absurd known.symm (Option.some_ne_none date)

/-- Full minutes do not move the seconds of a minute. -/
theorem DateTime.seconds_shifted {moment : DateTime} {seconds : Int} (full : seconds % 60 = 0) :
    (moment.shifted seconds).time.seconds % 60 = moment.time.seconds % 60 := by
  change ((moment.date.day * 86400 + moment.time.seconds + seconds) % 86400).toNat % 60 = _
  omega

/-- Full minutes do not move the end of a minute. -/
theorem DateTime.leapsAtEnd_shifted {moment : DateTime} {seconds : Int} (full : seconds % 60 = 0) :
    (moment.shifted seconds).time.LeapsAtEnd ↔ moment.time.LeapsAtEnd := by
  unfold TimeOfDay.LeapsAtEnd
  rw [seconds_shifted full]
  exact Iff.rfl

def DateTime.wholeSecond (moment : DateTime) : DateTime :=
  ⟨moment.date, moment.time.wholeSecond⟩

/-- The beginning of a second is that in every timezone. -/
theorem DateTime.wholeSecond_shifted (moment : DateTime) (seconds : Int) :
    (moment.shifted seconds).wholeSecond = moment.wholeSecond.shifted seconds :=
  rfl

/-- The beginning of the second, told in the same timezone. -/
def Instant.wholeSecond (instant : Instant) : Instant :=
  ⟨instant.utc.wholeSecond, instant.zone⟩

/-- The ISO text of an instant whose year has four digits is that of the beginning of its second. -/
theorem Instant.exists_iso {instant : Instant} (full : instant.zone.seconds % 60 = 0)
    (leaps : instant.localTime.time.LeapsAtEnd) (short : instant.localTime.date.HasFourDigits) :
    ∃ (date : IsoDate) (time : IsoTime), instant.iso = String.ofList (date.chars ++
        'T' :: time.chars ++ instant.zone.offsetText.toList) ∧
      date.instant time instant.zone = instant.wholeSecond := by
  obtain ⟨time, timeChars, known⟩ := instant.localTime.time.exists_isoTime
  obtain ⟨date, made, dateChars⟩ := Date.exists_isoDate short
  rw [TimeOfDay.ofClock?_wholeSecond leaps, Option.some_inj] at known
  refine ⟨date, time, ?_, ?_⟩
  · rw [dateChars, timeChars, ← offsetText_minutes full]
    rfl
  · have back : instant.localTime.wholeSecond.shifted (-instant.zone.seconds) =
        instant.utc.wholeSecond := by
      have moment := DateTime.shifted_back instant.utc.wholeSecond (-instant.zone.seconds)
      rwa [Int.neg_neg, ← DateTime.wholeSecond_shifted] at moment
    rw [IsoDate.instant, made, ← known]
    exact congrArg (fun utc => (⟨utc, instant.zone⟩ : Instant)) back

/-- The ISO text of an instant is read as the beginning of its second, if its year has four
digits. -/
theorem Instant.parse?_iso {instant : Instant} (full : instant.zone.seconds % 60 = 0)
    (leaps : instant.localTime.time.LeapsAtEnd) (short : instant.localTime.date.HasFourDigits) :
    parse? instant.iso = some instant.wholeSecond := by
  obtain ⟨date, time, written, same⟩ := exists_iso full leaps short
  rw [written, parse?, Read.all?_of (date.read_exchange time full), same]

/-- Whether a moment can be that of a text: its date lies in the range, and a leap second comes at
the end of a minute. -/
structure DateTime.Legible (moment : DateTime) : Prop where
  inRange : moment.date.inRange = true
  leaps : moment.time.LeapsAtEnd

namespace Read

variable {α β : Type}

/-- Whether all that a reader reads has a property. -/
def Yields (property : α → Prop) (read : Read α) : Prop :=
  ∀ text value rest, read text = some (value, rest) → property value

theorem yields_pure {property : α → Prop} {value : α} (holds : property value) :
    Yields property (pure value) := by
  intro text other rest reads
  cases reads
  exact holds

theorem yields_failure {property : α → Prop} : Yields property (failure : Read α) := by
  intro text value rest reads
  cases reads

/-- A step that follows a reader uses what the reader yields. -/
theorem yields_bind {property : α → Prop} {result : β → Prop} {read : Read α} {next : α → Read β}
    (reads : Yields property read) (continues : ∀ value, property value → Yields result (next value)) :
    Yields result (read >>= next) := by
  intro text value rest known
  obtain ⟨⟨middle, behind⟩, first, second⟩ := Option.bind_eq_some_iff.mp known
  exact continues middle (reads text middle behind first) behind value rest second

/-- A step after which nothing is known. -/
theorem yields_step {result : β → Prop} {read : Read α} {next : α → Read β}
    (continues : ∀ value, Yields result (next value)) : Yields result (read >>= next) :=
  yields_bind (fun _ _ _ _ => trivial) fun value _ => continues value

theorem yields_ofOption {property : α → Prop} {value? : Option α}
    (holds : ∀ value ∈ value?, property value) : Yields property (ofOption value?) := by
  cases value? with
  | none => exact yields_failure
  | some value => exact yields_pure (holds value rfl)

/-- What is read of a whole text has the property too. -/
theorem Yields.all? {property : α → Prop} {read : Read α} (yields : Yields property read)
    {text : String} {value : α} (known : read.all? text = some value) : property value := by
  unfold Read.all? at known
  split at known
  next reads =>
    cases known
    exact yields _ _ _ reads
  next => cases known

/-- Dates lie in the range. -/
theorem yields_date : Yields (fun date => date.inRange = true) date := by
  iterate 5 refine yields_step fun _ => ?_
  exact yields_ofOption fun _ => Date.inRange_of_ofCivil

theorem yields_hourMinute : Yields TimeOfDay.LeapsAtEnd hourMinute := by
  iterate 3 refine yields_step fun _ => ?_
  exact yields_ofOption fun _ => TimeOfDay.leapsAtEnd_of_ofClock

theorem yields_time : Yields TimeOfDay.LeapsAtEnd time := by
  iterate 5 refine yields_step fun _ => ?_
  exact yields_ofOption fun _ => TimeOfDay.leapsAtEnd_of_ofClock

theorem yields_lettered : Yields DateTime.Legible lettered := by
  refine yields_bind yields_date fun date inRange => yields_step fun _ => ?_
  exact yields_bind yields_time fun time leaps => yields_pure ⟨inRange, leaps⟩

theorem yields_spaced : Yields DateTime.Legible spaced := by
  refine yields_bind yields_date fun date inRange => yields_step fun _ => ?_
  exact yields_bind yields_time fun time leaps => yields_pure ⟨inRange, leaps⟩

/-- Distances from UTC are full minutes. -/
theorem yields_zone : Yields (fun timezone => timezone.seconds % 60 = 0) zone := by
  refine yields_step fun sign => ?_
  split
  · exact yields_pure rfl
  · exact yields_pure rfl
  · iterate 3 refine yields_step fun _ => ?_
    split
    · exact yields_failure
    · apply yields_ofOption
      intro timezone known
      rw [Timezone.seconds_of_ofSeconds known]
      unfold Decimal.signed
      split
      · omega
      · omega

/-- Instants in the form for exchange have a distance of full minutes. -/
theorem yields_exchange : Yields (fun instant => instant.localTime.Legible ∧
    instant.zone.seconds % 60 = 0) exchange := by
  -- The numbers, the signs between them and the fraction may be any; what is made of them counts.
  iterate 12 refine yields_step fun _ => ?_
  refine yields_bind yields_zone fun zone full => ?_
  refine yields_bind (yields_ofOption fun _ => Date.inRange_of_ofCivil) fun date inRange => ?_
  refine yields_bind (yields_ofOption fun _ => TimeOfDay.leapsAtEnd_of_ofClock) fun time leaps => ?_
  apply yields_ofOption
  intro instant known
  obtain rfl := Instant.eq_of_ofLocal? known
  rw [Instant.localTime, DateTime.shifted_back]
  exact ⟨⟨inRange, leaps⟩, full⟩

end Read

theorem DateTime.legible_of_parse {text : String} {moment : DateTime}
    (known : parse? text = some moment) : moment.Legible := by
  rcases Option.or_eq_some_iff.mp known with lettered | ⟨-, spaced⟩
  · exact Read.yields_lettered.all? lettered
  · exact Read.yields_spaced.all? spaced

end DashboardFilters.Calendar

namespace DashboardFilters.TemporalValue

open Calendar

variable {timezone : Timezone} {text : String}

/-- Whether the ISO text of a value tells all of it: times have no fraction, and the years of
instants have four digits. -/
def Whole : TemporalValue → Prop
  | .date _ => True
  | .time clock => clock.fraction = 0
  | .dateTime instant =>
      instant.localTime.time.fraction = 0 ∧ instant.localTime.date.HasFourDigits

/-- Dates that are read lie in the range. -/
theorem inRange_of_parseDate {day : Date} (known : parseDate? text = some day) :
    day.inRange = true := by
  unfold parseDate? at known
  rcases Option.or_eq_some_iff.mp known with alone | ⟨-, other⟩
  · exact Read.yields_date.all? alone
  · rcases Option.or_eq_some_iff.mp other with exchanged | ⟨-, placed⟩
    · obtain ⟨instant, read, rfl⟩ := Option.map_eq_some_iff.mp exchanged
      exact (Read.yields_exchange.all? read).1.inRange
    · obtain ⟨moment, read, rfl⟩ := Option.map_eq_some_iff.mp placed
      exact (DateTime.legible_of_parse read).inRange

theorem leapsAtEnd_of_parseTime {clock : TimeOfDay} (known : parseTime? text = some clock) :
    clock.LeapsAtEnd := by
  unfold parseTime? at known
  rcases Option.or_eq_some_iff.mp known with alone | ⟨-, other⟩
  · rcases Option.or_eq_some_iff.mp alone with seconds | ⟨-, minutes⟩
    · exact Read.yields_time.all? seconds
    · exact Read.yields_hourMinute.all? minutes
  · obtain ⟨instant, read, rfl⟩ := Option.map_eq_some_iff.mp other
    exact (Read.yields_exchange.all? read).1.leaps

/-- Date and time, or the midnight of a date, leap at the end of a minute. -/
theorem leapsAtEnd_of_parseLocal {moment : DateTime} (known : parseLocal? text = some moment) :
    moment.time.LeapsAtEnd := by
  unfold parseLocal? at known
  rcases Option.or_eq_some_iff.mp known with read | ⟨-, begun⟩
  · exact (DateTime.legible_of_parse read).leaps
  · obtain ⟨day, -, rfl⟩ := Option.map_eq_some_iff.mp begun
    exact TimeOfDay.leapsAtEnd_midnight

theorem leapsAtEnd_of_parseInstant (full : timezone.seconds % 60 = 0) {instant : Instant}
    (known : parseInstant? text timezone = some instant) :
    instant.localTime.time.LeapsAtEnd := by
  unfold parseInstant? at known
  rcases Option.or_eq_some_iff.mp known with exchanged | ⟨-, placed⟩
  · obtain ⟨other, read, rfl⟩ := Option.map_eq_some_iff.mp exchanged
    obtain ⟨legible, there⟩ := Read.yields_exchange.all? read
    have leaps := (DateTime.leapsAtEnd_shifted there).mp legible.leaps
    exact (DateTime.leapsAtEnd_shifted full).mpr leaps
  · obtain ⟨moment, read, found⟩ := Option.bind_eq_some_iff.mp placed
    obtain rfl := Instant.eq_of_ofLocal? found
    rw [Instant.localTime, DateTime.shifted_back]
    exact leapsAtEnd_of_parseLocal read

/-- The ISO text of a time without a fraction is read as that time. -/
theorem parse_writtenTime {clock : TimeOfDay} (leaps : clock.LeapsAtEnd)
    (whole : clock.fraction = 0) : parse clock.iso .time timezone = .ok (.time clock) := by
  obtain ⟨text, chars, known⟩ := clock.exists_isoTime
  have same := TimeOfDay.ofClock?_clock leaps
  rw [whole, known, Option.some_inj] at same
  rw [TimeOfDay.iso, ← chars, parse_isoTime, same]

/-- The ISO text of an instant without a fraction is read as that instant, if its year has four
digits. -/
theorem parse_writtenInstant {instant : Instant} (full : instant.zone.seconds % 60 = 0)
    (leaps : instant.localTime.time.LeapsAtEnd) (whole : instant.localTime.time.fraction = 0)
    (short : instant.localTime.date.HasFourDigits) :
    parse instant.iso .dateTime instant.zone = .ok (.dateTime instant) := by
  obtain ⟨date, time, written, same⟩ := Instant.exists_iso full leaps short
  -- Nanoseconds are the same in every timezone.
  have begun : instant.utc.time.wholeSecond = instant.utc.time :=
    TimeOfDay.wholeSecond_of_fraction whole
  rw [written, parse_isoInstant full, same, Instant.wholeSecond, DateTime.wholeSecond, begun]

/-- What is read is read again from its ISO text, if the text tells all of it. -/
theorem parse_iso (full : timezone.seconds % 60 = 0) {kind : TemporalKind} {value : TemporalValue}
    (known : parse text kind timezone = .ok value) (whole : value.Whole) :
    parse value.iso kind timezone = .ok value := by
  obtain ⟨rfl, day, read, rfl⟩ | ⟨rfl, clock, read, rfl⟩ | ⟨rfl, instant, read, rfl⟩ :=
    cases_of_parse known
  · exact (parse_writtenDate day).trans (if_pos (inRange_of_parseDate read))
  · exact parse_writtenTime (leapsAtEnd_of_parseTime read) whole
  · have leaps := leapsAtEnd_of_parseInstant full read
    obtain rfl := zone_of_parseInstant read
    exact parse_writtenInstant full leaps whole.1 whole.2

end DashboardFilters.TemporalValue
