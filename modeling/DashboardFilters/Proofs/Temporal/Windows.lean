import DashboardFilters.Compile
import DashboardFilters.Proofs.Calendar.Distances
import DashboardFilters.Proofs.Outcome
import DashboardFilters.Proofs.Temporal.Intervals

namespace DashboardFilters

open Calendar (DateTime Instant)

namespace Calendar.Instant

variable {instant other : Instant}

/-- At a distance of full minutes an instant denotes the beginning of the second that it shows. -/
theorem told_of_minutes (full : instant.zone.seconds % 60 = 0) :
    instant.told = instant.settled.wholeSecond := by
  have distance := instant.zone.toldSeconds_eq_iff.mpr full
  have moment : instant.localTime.settled = instant.utc.settled.shifted instant.zone.seconds :=
    DateTime.settled_shifted full
  have back := DateTime.shifted_back instant.utc.settled.wholeSecond (-instant.zone.seconds)
  rw [Int.neg_neg, ← DateTime.wholeSecond_shifted, ← moment] at back
  rw [told, distance, back]
  rfl

/-- Of two instants the earlier one shows no later second. -/
theorem NotAfter.settled_wholeSecond (before : instant.NotAfter other) :
    instant.settled.wholeSecond.NotAfter other.settled.wholeSecond := by
  have shown (instant : Instant) :
      instant.settled.wholeSecond.utc.timestamp = instant.utc.settled.timestamp ∧
        instant.settled.wholeSecond.utc.time.nanos =
          instant.utc.time.settled.nanos - instant.utc.time.settled.fraction :=
    ⟨rfl, rfl⟩
  have seconds (moment : DateTime) :
      moment.timestamp = moment.date.day * 86400 + (moment.time.seconds : Int) := rfl
  have first := seconds instant.utc
  have second := seconds other.utc
  unfold NotAfter at before ⊢
  rw [(shown instant).1, (shown instant).2, (shown other).1, (shown other).2,
    DateTime.timestamp_settled, DateTime.timestamp_settled, TimeOfDay.fraction, TimeOfDay.fraction,
    TimeOfDay.nanos_settled, TimeOfDay.nanos_settled]
  have inFirst := instant.utc.time.nanosInSecond
  have inSecond := other.utc.time.nanosInSecond
  split <;> split <;> omega

/-- In one timezone, the earlier of two instants has no later date. -/
theorem NotAfter.day_le (before : instant.NotAfter other) (same : instant.zone = other.zone) :
    instant.localTime.date.day ≤ other.localTime.date.day := by
  have first := DateTime.timestamp_shifted instant.utc instant.zone.seconds
  have second := DateTime.timestamp_shifted other.utc other.zone.seconds
  change instant.localTime.timestamp = _ at first
  change other.localTime.timestamp = _ at second
  have inFirst := instant.localTime.time.secondsInDay
  have inSecond := other.localTime.time.secondsInDay
  rw [DateTime.timestamp, same] at first
  rw [DateTime.timestamp] at second
  unfold NotAfter at before
  omega

/-- Whether texts for the kinds of columns show an instant in a timezone. -/
structure ShownBy (instant : Instant) (timezone : Timezone) (texts : TemporalKind → String) :
    Prop where
  joined : texts .dateTime = texts .date ++ "T" ++ texts .time ++ timezone.offsetText
  /-- What is read is the second that is shown. -/
  read : instant.localTime.date.HasFourDigits →
    TemporalValue.parse (texts .dateTime) .dateTime timezone = .ok (.dateTime instant.told)
  /-- That is the second of the instant, unless the instant leaps within a minute. -/
  readWhole_iff : instant.localTime.date.HasFourDigits →
    (TemporalValue.parse (texts .dateTime) .dateTime timezone =
      .ok (.dateTime instant.wholeSecond) ↔ instant.utc.time.LeapsAtEnd)
  dateRead : instant.localTime.date.HasFourDigits →
    TemporalValue.parse (texts .date) .date timezone = .ok (.date instant.localTime.date)

/-- The texts that columns compare with show the instant. -/
theorem shownBy_isoAs (full : instant.zone.seconds % 60 = 0) :
    instant.ShownBy instant.zone fun kind => instant.isoAs kind instant.zone := by
  have read (short : instant.localTime.date.HasFourDigits) :
      TemporalValue.parse instant.iso .dateTime instant.zone = .ok (.dateTime instant.told) := by
    have inDay := instant.zone.inDay
    have distance := instant.zone.toldSeconds_eq_iff.mpr full
    rw [TemporalValue.parse_iso_told short, if_pos (by omega)]
    rfl
  refine { joined := ?_, read, readWhole_iff := fun short => ?_, dateRead := fun short => ?_ }
  · have letter : "T".toList = ['T'] := rfl
    apply String.toList_injective
    simp only [isoAs, inZone, iso, Date.iso, TimeOfDay.iso, String.toList_append,
      String.toList_ofList, ← offsetText_minutes full, letter, List.append_assoc,
      List.cons_append, List.nil_append]
  · have leaps : instant.localTime.time.LeapsAtEnd ↔ instant.utc.time.LeapsAtEnd :=
      DateTime.leapsAtEnd_shifted full
    change TemporalValue.parse instant.iso .dateTime instant.zone = _ ↔ _
    rw [read short, Except.ok.injEq, TemporalValue.dateTime.injEq, told_eq_wholeSecond_iff, leaps,
      and_iff_right full]
  · have read : TemporalValue.parse instant.localTime.date.iso .date instant.zone = _ :=
      TemporalValue.parse_writtenDate _
    rwa [if_pos (Date.inRange_of_hasFourDigits short)] at read

end Calendar.Instant

namespace TimeUnit

variable {unit : TimeUnit} {count : Int} {now bound : Instant}

/-- Units lead to an instant of the same timezone. -/
theorem Leads.zone (leads : unit.Leads count now bound) : bound.zone = now.zone := by
  unfold Leads at leads
  split at leads
  next => exact leads.1
  next => exact leads.zone

/-- Units do not lead to leap seconds within a minute, unless now is one. -/
theorem Leads.leapsAtEnd (leads : unit.Leads count now bound) (full : now.zone.seconds % 60 = 0)
    (leaps : now.utc.time.LeapsAtEnd) : bound.utc.time.LeapsAtEnd := by
  have zone := leads.zone
  unfold Leads at leads
  split at leads
  next length _ =>
    obtain ⟨-, timestamp, nanos⟩ := leads
    have inSecond := now.utc.time.nanosInSecond
    rw [DateTime.timestamp, DateTime.timestamp] at timestamp
    unfold Calendar.TimeOfDay.LeapsAtEnd at leaps ⊢
    split at nanos <;> omega
  next =>
    have nowLeaps := (DateTime.leapsAtEnd_shifted full).mpr leaps
    change now.localTime.time.LeapsAtEnd at nowLeaps
    rw [← leads.time] at nowLeaps
    rw [← zone] at full
    exact (DateTime.leapsAtEnd_shifted full).mp nowLeaps

/-- Units of a fixed length lead to the same instant from all timezones. -/
theorem shift?_inZone {length : Nat} (known : unit.length = .seconds length) (amount : UInt32)
    (forward : Bool) (now : Instant) (zone : Timezone) :
    unit.shift? amount forward (now.inZone zone) =
      (unit.shift? amount forward now).map (·.inZone zone) := by
  unfold shift?
  rw [span?_of_seconds known]
  dsimp only [Instant.advanced?, Instant.inZone]
  rw [Option.map_map]
  rfl

end TimeUnit

namespace RelativePeriod

variable {relative : RelativePeriod} {context : Context} {now : Instant} {interval : Interval}

/-- An arbitrary period is not resolved. -/
theorem directed_of_resolve (resolved : relative.resolve now = .ok interval) :
    relative.period ≠ .arbitrary := by
  intro arbitrary
  rw [resolve, arbitrary] at resolved
  cases resolved

/-- Units lead from now to both ends of an interval, and no further to its beginning. -/
theorem exists_leads_of_resolve (inRange : now.utc.date.inRange = true)
    (resolved : relative.resolve now = .ok interval) :
    ∃ early late, early ≤ late ∧ relative.unit.Leads early now interval.start ∧
      relative.unit.Leads late now interval.finish := by
  have directed := directed_of_resolve resolved
  obtain ⟨bound, rfl, leads, -⟩ := (resolve_eq_ok_iff directed inRange).mp resolved
  have still := relative.unit.leads_zero now
  unfold count at leads
  unfold spanning
  split at leads
  next => exact ⟨_, 0, by omega, leads, still⟩
  next => exact ⟨0, _, by omega, still, leads⟩

/-- Units of a fixed length have the same interval in all timezones. -/
theorem resolve_inZone {length : Nat} (known : relative.unit.length = .seconds length)
    (resolved : relative.resolve now = .ok interval) (zone : Timezone) :
    relative.resolve (now.inZone zone) =
      .ok ⟨interval.start.inZone zone, interval.finish.inZone zone⟩ := by
  have directed := directed_of_resolve resolved
  rw [resolve_eq directed] at resolved ⊢
  rw [TimeUnit.shift?_inZone known]
  cases shifted : relative.unit.shift? relative.amount relative.forward now with
  | none =>
      rw [shifted] at resolved
      cases resolved
  | some bound =>
      rw [shifted] at resolved
      cases resolved
      simp only [Option.map_some, spanning]
      split <;> rfl

/-- The interval of a period as the columns of a dataset see it: the texts for the kinds of columns
show its ends. -/
structure Window (relative : RelativePeriod) (context : Context) (interval : Interval)
    (start finish : TemporalKind → String) : Prop where
  resolved : relative.resolve context.localNow = .ok interval
  columns : ∀ (column : Column) kind, column.temporalKind? = some kind →
    ((Predicate.between (.relative relative)).resolve column context).result =
      .ok (.list [.text (start kind), .text (finish kind)])
  startShown : interval.start.ShownBy context.timezone start
  finishShown : interval.finish.ShownBy context.timezone finish
  /-- Unless now leaps within a minute, both ends are read again without their fractions. -/
  readWhole : context.now.utc.time.LeapsAtEnd →
    (interval.start.localTime.date.HasFourDigits →
      TemporalValue.parse (start .dateTime) .dateTime context.timezone =
        .ok (.dateTime interval.start.wholeSecond)) ∧
    (interval.finish.localTime.date.HasFourDigits →
      TemporalValue.parse (finish .dateTime) .dateTime context.timezone =
        .ok (.dateTime interval.finish.wholeSecond))
  /-- The seconds that are read are in order, whenever now is. -/
  ordered : interval.start.told.NotAfter interval.finish.told
  daysOrdered : interval.start.localTime.date.day ≤ interval.finish.localTime.date.day
  /-- Units of a fixed length have the same interval in all timezones. -/
  zones : ∀ length, relative.unit.length = .seconds length → ∀ zone : Timezone,
    relative.resolve (context.now.inZone zone) =
      .ok ⟨interval.start.inZone zone, interval.finish.inZone zone⟩

/-- If a period is resolved for a column of instants, columns of all kinds see one window. -/
theorem exists_window {name : String} (known : Timezone.parse? name = some context.timezone)
    (inRange : context.now.utc.date.inRange = true) {column : Column} {value : Value}
    (instants : column.temporalKind? = some .dateTime)
    (seen : ((Predicate.between (.relative relative)).resolve column context).result =
      .ok value) : ∃ interval start finish, relative.Window context interval start finish := by
  have viewed (column : Column) {kind : TemporalKind}
      (temporal : column.temporalKind? = some kind) :
      ((Predicate.between (.relative relative)).resolve column context).result =
        relative.resolve context.localNow >>= fun interval =>
          .ok (.list [.text (interval.start.isoAs kind context.timezone),
            .text (interval.finish.isoAs kind context.timezone)]) := by
    change column.resolvePeriod relative context = _
    rw [Column.resolvePeriod, temporal]
    rfl
  rw [viewed column instants] at seen
  obtain ⟨interval, resolved, -⟩ := Outcome.bind_eq_ok_iff.mp seen
  have full : context.localNow.zone.seconds % 60 = 0 := Timezone.minutes_of_parse known
  have localInRange : context.localNow.utc.date.inRange = true := inRange
  obtain ⟨early, late, less, starts, ends⟩ := exists_leads_of_resolve localInRange resolved
  have before := TimeUnit.notAfter_of_leads starts ends less
  have startFull : interval.start.zone.seconds % 60 = 0 := by rwa [starts.zone]
  have finishFull : interval.finish.zone.seconds % 60 = 0 := by rwa [ends.zone]
  have startShown := Instant.shownBy_isoAs startFull
  have finishShown := Instant.shownBy_isoAs finishFull
  rw [starts.zone] at startShown
  rw [ends.zone] at finishShown
  refine ⟨interval, _, _, {
    resolved
    columns := ?_
    startShown
    finishShown
    readWhole := ?_
    ordered := ?_
    daysOrdered := before.day_le (starts.zone.trans ends.zone.symm)
    zones := ?_ }⟩
  · intro column kind temporal
    rw [viewed column temporal, resolved]
    rfl
  · intro leaps
    exact ⟨fun short => (startShown.readWhole_iff short).mpr (starts.leapsAtEnd full leaps),
      fun short => (finishShown.readWhole_iff short).mpr (ends.leapsAtEnd full leaps)⟩
  · rw [Instant.told_of_minutes startFull, Instant.told_of_minutes finishFull]
    exact before.settled_wholeSecond
  · intro length known zone
    exact resolve_inZone known resolved zone

end RelativePeriod

namespace Sample

/-- The last of March, seen by a display in Nepal. -/
def inNepal : Context where
  timezone := marchEnd.zone
  now := marchEnd

def visitedAt : Column where
  name := "visited"
  type := .timestamp

/-- A quarter of a leap second behind a second of the first minute of 1970. -/
def leaping (second : Fin 60) : Context where
  now := ⟨⟨⟨0⟩, {
    seconds := second.val
    nanos := 1250000000
    secondsInDay := Nat.lt_trans second.isLt (by decide) }⟩, .utc⟩

end Sample

open Sample

/-- Columns of all kinds see one last month in Nepal, and its last instant is read again. -/
theorem RelativePeriod.lastMonth_window : Timezone.parse? "+05:45" = some inNepal.timezone ∧
    inNepal.now.utc.date.inRange = true ∧ visitedAt.temporalKind? = some .dateTime ∧
      ((Predicate.between (.relative lastMonth)).resolve visitedAt inNepal).result =
        .ok (.list [.text "2024-02-29T00:30:00+05:45", .text "2024-03-31T00:30:00+05:45"]) ∧
      ∃ interval start finish, lastMonth.Window inNepal interval start finish ∧
        interval.finish = marchEnd ∧ TemporalValue.parse (finish .dateTime) .dateTime
          inNepal.timezone = .ok (.dateTime marchEnd.wholeSecond) := by
  have known : Timezone.parse? "+05:45" = some inNepal.timezone := by decide
  have inRange : marchEnd.utc.date.inRange = true := by decide
  have instants : visitedAt.temporalKind? = some .dateTime := rfl
  have seen : ((Predicate.between (.relative lastMonth)).resolve visitedAt inNepal).result =
      .ok (.list [.text "2024-02-29T00:30:00+05:45", .text "2024-03-31T00:30:00+05:45"]) := by
    rfl
  obtain ⟨interval, start, finish, window⟩ :=
    RelativePeriod.exists_window known inRange instants seen
  have last : interval.finish = marchEnd := by
    have resolved := window.resolved
    cases resolved
    rfl
  have calm : marchEnd.utc.time.LeapsAtEnd := fun leaps => absurd leaps (by decide)
  have short : marchEnd.localTime.date.HasFourDigits := by decide
  have read := (window.readWhole calm).2
  rw [last] at read
  exact ⟨known, inRange, instants, seen, interval, start, finish, window, last, read short⟩

/-- A leap second within a minute is read as the second behind it. One that ends a minute is read as
itself, with a thousand million nanoseconds left. -/
theorem RelativePeriod.lastMonth_misread :
    Timezone.parse? "UTC" = some (leaping 30).timezone ∧
      (leaping 30).now.utc.date.inRange = true ∧ visitedAt.temporalKind? = some .dateTime ∧
      ((Predicate.between (.relative lastMonth)).resolve visitedAt (leaping 30)).result =
        .ok (.list [.text "1969-12-01T00:00:31+00:00", .text "1970-01-01T00:00:31+00:00"]) ∧
      (∃ interval, lastMonth.resolve (leaping 30).localNow = .ok interval ∧
        interval.finish.localTime.date.HasFourDigits ∧
        interval.finish.wholeSecond.utc.time = { seconds := 30, nanos := 1000000000 } ∧
        TemporalValue.parse "1970-01-01T00:00:31+00:00" .dateTime (leaping 30).timezone =
          .ok (.dateTime ⟨⟨⟨0⟩, { seconds := 31, nanos := 0 }⟩, .utc⟩) ∧
        TemporalValue.parse "1970-01-01T00:00:31+00:00" .dateTime (leaping 30).timezone ≠
          .ok (.dateTime interval.finish.wholeSecond)) ∧
      ((Predicate.between (.relative lastMonth)).resolve visitedAt (leaping 59)).result =
        .ok (.list [.text "1969-12-01T00:00:60+00:00", .text "1970-01-01T00:00:60+00:00"]) ∧
      TemporalValue.parse "1970-01-01T00:00:60+00:00" .dateTime (leaping 59).timezone =
        .ok (.dateTime ⟨⟨⟨0⟩, { seconds := 59, nanos := 1000000000 }⟩, .utc⟩) := by
  refine ⟨by decide, by decide, rfl, rfl, ⟨_, rfl, by decide, rfl, rfl, ?_⟩, rfl, rfl⟩
  intro same
  have read : TemporalValue.parse "1970-01-01T00:00:31+00:00" .dateTime (leaping 30).timezone =
      .ok (.dateTime ⟨⟨⟨0⟩, { seconds := 31, nanos := 0 }⟩, .utc⟩) := rfl
  rw [read] at same
  exact absurd same (by decide)

end DashboardFilters
