import DashboardFilters.Proofs.Calendar.Spans
import DashboardFilters.Temporal.Period

namespace DashboardFilters

open Calendar (DateTime Instant)

namespace TimeUnit

variable {unit : TimeUnit} {count more : Int} {now bound further : Instant}

/-- Whether an instant is so many units after now, or before now if the count is negative. -/
def Leads (unit : TimeUnit) (count : Int) (now bound : Instant) : Prop :=
  match unit.length with
  | .seconds length => bound.zone = now.zone ∧ bound.utc.IsSecondsFrom now.utc (length * count)
  | .months length => bound.IsMonthsFrom now (length * count)

/-- Whether an instant so many units from now lies in the range. By months, its local date has to lie
there as well. -/
def Within (unit : TimeUnit) (count : Int) (bound : Instant) : Prop :=
  match unit.length with
  | .seconds _ => bound.utc.date.inRange = true
  | .months length => bound.InRangeBy (length * count)

/-- Units lead somewhere, in the range or not. -/
theorem exists_leads (unit : TimeUnit) (count : Int) (now : Instant) :
    ∃ bound, unit.Leads count now bound := by
  unfold Leads
  split
  next length _ =>
    obtain ⟨moved, there, -⟩ := DateTime.exists_isSecondsFrom now.utc (length * count)
    exact ⟨⟨moved, now.zone⟩, rfl, there⟩
  next length _ => exact now.exists_isMonthsFrom (length * count)

/-- Units lead to one instant. -/
theorem Leads.unique (there : unit.Leads count now bound) (again : unit.Leads count now further) :
    bound = further := by
  unfold Leads at there again
  cases known : unit.length with
  | seconds length =>
      rw [known] at there again
      obtain ⟨utc, zone⟩ := bound
      obtain ⟨furtherUtc, furtherZone⟩ := further
      rw [Instant.mk.injEq]
      exact ⟨there.2.unique again.2, there.1.trans again.1.symm⟩
  | months length =>
      rw [known] at there again
      exact there.unique again

/-- No units lead nowhere. -/
theorem leads_zero (unit : TimeUnit) (now : Instant) : unit.Leads 0 now now := by
  unfold Leads
  split
  next length _ =>
    rw [Int.mul_zero]
    exact ⟨rfl, now.utc.isSecondsFrom_zero⟩
  next length _ =>
    rw [Int.mul_zero]
    exact now.isMonthsFrom_zero

/-- More units lead to a later instant. -/
theorem notAfter_of_leads (there : unit.Leads count now bound)
    (beyond : unit.Leads more now further) (less : count ≤ more) : bound.NotAfter further := by
  have longer (length : Nat) : (length : Int) * count ≤ length * more :=
    Int.mul_le_mul_of_nonneg_left less (Int.natCast_nonneg length)
  unfold Leads at there beyond
  cases known : unit.length with
  | seconds length =>
      rw [known] at there beyond
      exact Instant.notAfter_of_isSecondsFrom there.2 beyond.2 (longer length)
  | months length =>
      rw [known] at there beyond
      exact Instant.notAfter_of_isMonthsFrom there beyond (longer length)

/-- A year is twelve months. -/
theorem leads_year : TimeUnit.year.Leads count now bound ↔
    TimeUnit.month.Leads (12 * count) now bound := by
  change bound.IsMonthsFrom now (12 * count) ↔ bound.IsMonthsFrom now (1 * (12 * count))
  rw [Int.one_mul]

/-- Years lie in the range as twelve times as many months do. -/
theorem within_year : TimeUnit.year.Within count bound ↔
    TimeUnit.month.Within (12 * count) bound := by
  change bound.InRangeBy (12 * count) ↔ bound.InRangeBy (1 * (12 * count))
  rw [Int.one_mul]

/-- No amount is too much for a span. -/
theorem span?_of_seconds {length : Nat} (known : unit.length = .seconds length) (amount : UInt32) :
    unit.span? amount = some (length * amount.toNat) := by
  have short : length ≤ 604800 := by
    cases unit <;> cases known <;> decide
  have few : amount.toNat ≤ 2 ^ 32 := Nat.le_of_lt amount.toNat_lt
  have fits : length * amount.toNat ≤ longestSpan :=
    calc length * amount.toNat ≤ 604800 * 2 ^ 32 := Nat.mul_le_mul short few
      _ ≤ longestSpan := by decide
  rw [span?, known]
  exact if_pos fits

/-- A shift gives the instant where the units lead if it lies in the range: an amount that has more
months than a machine number leaves the range as well. -/
theorem shift?_eq_some_iff {amount : UInt32} {forward : Bool}
    (inRange : now.utc.date.inRange = true)
    (counted : count = if forward then (amount.toNat : Int) else -(amount.toNat : Int)) :
    unit.shift? amount forward now = some bound ↔
      unit.Leads count now bound ∧ unit.Within count bound := by
  have signed (length : Nat) : (if forward then ((length * amount.toNat : Nat) : Int)
      else -((length * amount.toNat : Nat) : Int)) = length * count := by
    rw [counted, Int.natCast_mul]
    split
    · rfl
    · rw [Int.mul_neg]
  unfold shift? Leads Within
  cases known : unit.length with
  | seconds length =>
      rw [span?_of_seconds known]
      dsimp only
      rw [signed, Instant.advanced?]
      simp only [Option.map_eq_some_iff, DateTime.advanced?_eq_some_iff]
      constructor
      · rintro ⟨utc, ⟨there, utcInRange⟩, rfl⟩
        exact ⟨⟨rfl, there⟩, utcInRange⟩
      · rintro ⟨⟨zone, there⟩, utcInRange⟩
        refine ⟨bound.utc, ⟨there, utcInRange⟩, ?_⟩
        rw [← zone]
  | months length =>
      rw [span?, months?, known]
      by_cases fits : length * amount.toNat < UInt32.size
      · simp only [if_pos fits]
        rw [signed, Instant.addMonths?_eq_some_iff]
      · simp only [if_neg fits]
        refine iff_of_false (Option.some_ne_none bound).symm ?_
        rintro ⟨there, given⟩
        have few := Instant.natAbs_le_of_isMonthsFrom inRange there given
        have size : UInt32.size = 4294967296 := rfl
        rw [← signed] at few
        split at few <;> omega

end TimeUnit

namespace RelativePeriod

variable {relative : RelativePeriod} {now bound : Instant} {interval : Interval}

/-- The units from now to the other end, a negative number if that lies before now. -/
def count (relative : RelativePeriod) : Int :=
  match relative.period with
  | .last => -(relative.amount.toNat : Int)
  | _ => relative.amount.toNat

/-- The interval from now to the other end, or from there to now. -/
def spanning (relative : RelativePeriod) (now bound : Instant) : Interval :=
  match relative.period with
  | .last => ⟨bound, now⟩
  | _ => ⟨now, bound⟩

def forward (relative : RelativePeriod) : Bool :=
  relative.period != .last

/-- The other end is shifted by the whole amount. -/
theorem shift?_eq_some_iff (inRange : now.utc.date.inRange = true) :
    relative.unit.shift? relative.amount relative.forward now = some bound ↔
      relative.unit.Leads relative.count now bound ∧
        relative.unit.Within relative.count bound := by
  refine TimeUnit.shift?_eq_some_iff inRange ?_
  unfold count forward
  cases relative.period <;> rfl

/-- A period that ends or begins now is resolved by shifting its other end. -/
theorem resolve_eq (directed : relative.period ≠ .arbitrary) (now : Instant) :
    relative.resolve now =
      match relative.unit.shift? relative.amount relative.forward now with
      | some bound => .ok (relative.spanning now bound)
      | none => .error relative.outOfRange := by
  obtain ⟨period, unit, amount⟩ := relative
  cases period with
  | arbitrary => exact absurd rfl directed
  | last =>
      unfold resolve shifted
      change _ = match unit.shift? amount false now with
        | some bound => _
        | none => _
      cases unit.shift? amount false now <;> rfl
  | next =>
      unfold resolve shifted
      change _ = match unit.shift? amount true now with
        | some bound => _
        | none => _
      cases unit.shift? amount true now <;> rfl

/-- A period spans the time between now and where its units lead, if that lies in the range. -/
theorem resolve_eq_ok_iff (directed : relative.period ≠ .arbitrary)
    (inRange : now.utc.date.inRange = true) :
    relative.resolve now = .ok interval ↔
      ∃ bound, interval = relative.spanning now bound ∧
        relative.unit.Leads relative.count now bound ∧
          relative.unit.Within relative.count bound := by
  rw [resolve_eq directed]
  simp only [← shift?_eq_some_iff inRange]
  cases relative.unit.shift? relative.amount relative.forward now with
  | some bound => simp only [Except.ok.injEq, Option.some.injEq, exists_eq_right', eq_comm]
  | none => simp only [reduceCtorEq, and_false, exists_false]

/-- A period has no interval if its units lead out of the range. -/
theorem resolve_eq_error_iff {failure : Failure} (directed : relative.period ≠ .arbitrary)
    (inRange : now.utc.date.inRange = true) :
    relative.resolve now = .error failure ↔
      failure = relative.outOfRange ∧
        ∃ bound, relative.unit.Leads relative.count now bound ∧
          ¬ relative.unit.Within relative.count bound := by
  obtain ⟨target, leads⟩ := relative.unit.exists_leads relative.count now
  have only : (∃ bound, relative.unit.Leads relative.count now bound ∧
      ¬ relative.unit.Within relative.count bound) ↔
        ∀ bound, relative.unit.shift? relative.amount relative.forward now ≠ some bound := by
    simp only [ne_eq, shift?_eq_some_iff inRange, not_and]
    constructor
    · rintro ⟨bound, there, outside⟩ other again
      rwa [again.unique there]
    · exact fun outside => ⟨target, leads, outside target leads⟩
  rw [only, resolve_eq directed]
  cases relative.unit.shift? relative.amount relative.forward now with
  | some bound =>
      refine iff_of_false (fun same => nomatch same) ?_
      exact fun none => none.2 bound rfl
  | none =>
      rw [Except.error.injEq, eq_comm]
      exact (and_iff_left fun bound same => nomatch same).symm

/-- The other end of a resolved period is where its units lead. -/
theorem leads_of_resolve (directed : relative.period ≠ .arbitrary)
    (inRange : now.utc.date.inRange = true)
    (resolved : relative.resolve now = .ok (relative.spanning now bound)) :
    relative.unit.Leads relative.count now bound := by
  obtain ⟨other, same, leads, -⟩ := (resolve_eq_ok_iff directed inRange).mp resolved
  unfold spanning at same
  split at same <;> cases same <;> exact leads

/-- Of two periods the one whose other end lies further from now contains the other one. -/
theorem notAfter_of_leads {larger : RelativePeriod} {further : Instant}
    (period : larger.period = relative.period) (unit : larger.unit = relative.unit)
    (amount : relative.amount.toNat ≤ larger.amount.toNat)
    (there : relative.unit.Leads relative.count now bound)
    (beyond : larger.unit.Leads larger.count now further) :
    (larger.spanning now further).start.NotAfter (relative.spanning now bound).start ∧
      (relative.spanning now bound).finish.NotAfter (larger.spanning now further).finish := by
  have here : now.NotAfter now := Or.inr ⟨rfl, Nat.le_refl _⟩
  rw [unit] at beyond
  have amounts : (relative.amount.toNat : Int) ≤ larger.amount.toNat := Int.ofNat_le.mpr amount
  unfold count at there beyond
  unfold spanning
  rw [period] at beyond ⊢
  cases known : relative.period with
  | last =>
      rw [known] at there beyond
      exact ⟨TimeUnit.notAfter_of_leads beyond there (Int.neg_le_neg amounts), here⟩
  | arbitrary | next =>
      rw [known] at there beyond
      exact ⟨here, TimeUnit.notAfter_of_leads there beyond amounts⟩

/-- Whether a period is resolved exactly, as seen from a moment. -/
structure ExactFrom (relative : RelativePeriod) (now : Instant) : Prop where
  /-- The interval ends now or begins now. -/
  anchored : ∀ interval, relative.resolve now = .ok interval →
    ∃ bound, interval = relative.spanning now bound
  ordered : ∀ interval, relative.resolve now = .ok interval →
    interval.start.NotAfter interval.finish
  /-- Outside of leap seconds, Unix time differs by the length of the units. -/
  seconds : ∀ bound length, relative.resolve now = .ok (relative.spanning now bound) →
    relative.unit.length = .seconds length → now.utc.time.nanos < 1000000000 →
      bound.zone = now.zone ∧
        bound.utc.timestamp = now.utc.timestamp + length * relative.count ∧
          bound.utc.time.nanos = now.utc.time.nanos
  /-- In the timezone of now, months and years lead to the same day and time of day of their
  month, or to its last day. -/
  months : ∀ bound length, relative.resolve now = .ok (relative.spanning now bound) →
    relative.unit.length = .months length → bound.IsMonthsFrom now (length * relative.count)
  years : ∀ monthly : RelativePeriod, relative.unit = .year → monthly.unit = .month →
    monthly.period = relative.period → monthly.amount.toNat = 12 * relative.amount.toNat →
      ∀ interval, relative.resolve now = .ok interval ↔ monthly.resolve now = .ok interval
  /-- A larger amount reaches no less far. -/
  farther : ∀ larger : RelativePeriod, larger.period = relative.period →
    larger.unit = relative.unit → relative.amount ≤ larger.amount →
      ∀ interval wider, relative.resolve now = .ok interval → larger.resolve now = .ok wider →
        wider.start.NotAfter interval.start ∧ interval.finish.NotAfter wider.finish
  /-- The only failure is that the other end lies out of the range. -/
  fails_iff : ∀ failure, relative.resolve now = .error failure ↔
    failure = relative.outOfRange ∧
      ∃ bound, relative.unit.Leads relative.count now bound ∧
        ¬ relative.unit.Within relative.count bound

/-- A period that ends or begins now is resolved exactly. -/
theorem resolve_is_exact (directed : relative.period ≠ .arbitrary)
    (inRange : now.utc.date.inRange = true) : relative.ExactFrom now where
  anchored interval resolved := by
    obtain ⟨bound, spans, -⟩ := (resolve_eq_ok_iff directed inRange).mp resolved
    exact ⟨bound, spans⟩
  ordered interval resolved := by
    obtain ⟨bound, rfl, leads, -⟩ := (resolve_eq_ok_iff directed inRange).mp resolved
    have still := relative.unit.leads_zero now
    unfold count at leads
    unfold spanning
    cases known : relative.period with
    | arbitrary => exact absurd known directed
    | last =>
        rw [known] at leads
        exact TimeUnit.notAfter_of_leads leads still
          (Int.neg_nonpos_of_nonneg (Int.natCast_nonneg _))
    | next =>
        rw [known] at leads
        exact TimeUnit.notAfter_of_leads still leads (Int.natCast_nonneg _)
  seconds bound length resolved known outside := by
    have leads := leads_of_resolve directed inRange resolved
    rw [TimeUnit.Leads, known] at leads
    obtain ⟨zone, timestamp, nanos⟩ := leads
    rw [if_neg (by omega), Int.add_zero] at timestamp
    rw [if_pos (Or.inr outside)] at nanos
    exact ⟨zone, timestamp, nanos⟩
  months bound length resolved known := by
    have leads := leads_of_resolve directed inRange resolved
    rwa [TimeUnit.Leads, known] at leads
  years monthly yearly unit period amount interval := by
    have count : monthly.count = 12 * relative.count := by
      unfold count
      rw [period]
      split <;> omega
    have spans (bound : Instant) : monthly.spanning now bound = relative.spanning now bound := by
      rw [spanning, period, spanning]
    rw [resolve_eq_ok_iff directed inRange,
      resolve_eq_ok_iff (fun arbitrary => directed (period.symm.trans arbitrary)) inRange, yearly,
      unit, count]
    simp only [spans, TimeUnit.leads_year, TimeUnit.within_year]
  farther larger period unit amount interval wider resolved widerResolved := by
    obtain ⟨bound, rfl, there, -⟩ := (resolve_eq_ok_iff directed inRange).mp resolved
    have largerDirected : larger.period ≠ .arbitrary :=
      fun arbitrary => directed (period.symm.trans arbitrary)
    obtain ⟨further, rfl, beyond, -⟩ := (resolve_eq_ok_iff largerDirected inRange).mp widerResolved
    exact notAfter_of_leads period unit (UInt32.le_iff_toNat_le.mp amount) there beyond
  fails_iff := fun failure => resolve_eq_error_iff directed inRange

end RelativePeriod

namespace Sample

/-- Half past midnight on the last of March 2024 in Nepal, where it is still the thirtieth in UTC. -/
def marchEnd : Instant where
  utc := ⟨.ofCivil ⟨2024, 3, 30⟩, { seconds := 67500, nanos := 250000000 }⟩
  zone := { seconds := 20700 }

def lastMonth : RelativePeriod where
  period := .last
  unit := .month
  amount := 1

end Sample

open Sample

/-- A month before the last of March is the leap day, by the date in Nepal. -/
theorem RelativePeriod.lastMonth_exactFrom_marchEnd :
    lastMonth.period ≠ .arbitrary ∧ marchEnd.utc.date.inRange = true ∧
      lastMonth.ExactFrom marchEnd ∧
        ∃ bound, lastMonth.resolve marchEnd = .ok ⟨bound, marchEnd⟩ ∧
          bound.localTime.date.civil = ⟨2024, 2, 29⟩ :=
  have directed : lastMonth.period ≠ .arbitrary := by decide
  have inRange : marchEnd.utc.date.inRange = true := by decide
  ⟨directed, inRange, RelativePeriod.resolve_is_exact directed inRange, _, rfl, by decide⟩

end DashboardFilters
