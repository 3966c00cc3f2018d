import DashboardFilters.Proofs.Calendar.Written
import DashboardFilters.Proofs.Form.RoundTrip

namespace DashboardFilters

open Outcome Calendar

variable {timezone : Timezone} {dataset : Dataset}

/-- Whether the stored text of a picked value is read again: a date has to lie in the range of
years, and the year of an instant has to have four digits in the timezone of the display. -/
def TemporalValue.Reopens (timezone : Timezone) : TemporalKind → TemporalValue → Prop
  | .date, .date day => day.inRange = true
  | .date, .dateTime instant => instant.localTime.date.inRange = true
  | .dateTime, .date day => day.HasFourDigits
  | .dateTime, .dateTime instant => (instant.inZone timezone).localTime.date.HasFourDigits
  | _, _ => True

/-- A text in a form is stored as what is read from it. -/
def FormValue.Reopens (timezone : Timezone) (kind : TemporalKind) : FormValue → Prop
  | .picked value => value.Reopens timezone kind
  | .plain (.text text) =>
      ∀ value, TemporalValue.parse text kind timezone = .ok value → value.Reopens timezone kind
  | .plain _ => True

/-- Expressions and values without a kind are stored as they are. -/
def Operand.Reopens (timezone : Timezone) : Option TemporalKind → Operand FormValue → Prop
  | some kind, .value picked => picked.Reopens timezone kind
  | _, _ => True

/-- Whether the stored texts of the compared operands are read again. -/
def Filter.Reopens (dataset : Dataset) (timezone : Timezone) (filter : Filter FormValue) : Prop :=
  ∀ operand ∈ filter.predicate.comparedOperands,
    operand.Reopens timezone (dataset.kindOf? filter.column)

/-- Whether the stored texts of a whole form are read again. -/
def Block.Reopens (dataset : Dataset) (timezone : Timezone) (form : Block FormValue) : Prop :=
  ∀ filter ∈ form.allFilters, filter.Reopens dataset timezone

namespace TemporalValue

/-- A text is either read again as a value with the same text, or not at all. -/
def ReadBack (timezone : Timezone) (kind : TemporalKind) (text : String) (expected : Prop) : Prop :=
  (expected ∧ ∃ value, parse text kind timezone = .ok value ∧ value.iso = text) ∨
    (¬ expected ∧ ∃ failure, parse text kind timezone = .error failure)

/-- The stored text of a date is read if it lies in the range. -/
theorem readBack_date (day : Date) :
    ReadBack timezone .date day.iso (day.inRange = true) := by
  have read : parse day.iso .date timezone = _ := parse_writtenDate day
  by_cases inRange : day.inRange = true
  · rw [if_pos inRange] at read
    exact Or.inl ⟨inRange, _, read, rfl⟩
  · rw [if_neg inRange] at read
    exact Or.inr ⟨inRange, _, read⟩

theorem readBack_time (clock : TimeOfDay) (full : timezone.seconds % 60 = 0) :
    ReadBack timezone .time clock.iso True :=
  Or.inl ⟨trivial, iso_of_isIso full (TemporalKind.isIso_time clock)⟩

/-- The stored text of an instant is read if its year has four digits. -/
theorem readBack_dateTime (instant : Instant) (full : instant.zone.seconds % 60 = 0) :
    ReadBack instant.zone .dateTime instant.iso instant.localTime.date.HasFourDigits := by
  by_cases short : instant.localTime.date.HasFourDigits
  · exact Or.inl ⟨short, iso_of_isIso full (TemporalKind.isIso_dateTime full rfl short)⟩
  · exact Or.inr ⟨short, _, parse_signedYear full short⟩

/-- The midnight of a date in a timezone belongs to that date there. -/
theorem localTime_midnight {day : Date} {midnight : Instant}
    (known : Instant.ofLocal? ⟨day, .midnight⟩ timezone = some midnight) :
    (midnight.inZone timezone).localTime.date = day := by
  obtain rfl := Instant.eq_of_ofLocal? known
  exact congrArg DateTime.date (DateTime.shifted_back _ _)

/-- What is stored for a picked value is read again under the condition on the value. -/
theorem readBack_storedAs (full : timezone.seconds % 60 = 0) {kind : TemporalKind}
    {value : TemporalValue} {text : String} (stored : value.storedAs timezone kind = .ok text) :
    ReadBack timezone kind text (value.Reopens timezone kind) := by
  cases value with
  | date day =>
      cases kind with
      | date =>
          cases stored
          exact readBack_date day
      | time => cases stored
      | dateTime =>
          cases begun : Instant.ofLocal? ⟨day, .midnight⟩ timezone with
          | none => simp [storedAs, storedAs?, begun] at stored
          | some midnight =>
              have same : (midnight.inZone timezone).iso = text := by
                simpa [storedAs, storedAs?, begun, Instant.isoAs] using stored
              have read := readBack_dateTime (midnight.inZone timezone) full
              rw [localTime_midnight begun, same] at read
              exact read
  | time clock =>
      cases kind with
      | time =>
          cases stored
          exact readBack_time clock full
      | date | dateTime => cases stored
  | dateTime instant =>
      cases kind with
      | date =>
          cases stored
          exact readBack_date instant.localTime.date
      | time =>
          cases stored
          exact readBack_time instant.localTime.time full
      | dateTime =>
          cases stored
          exact readBack_dateTime (instant.inZone timezone) full

/-- A text that is read back has the ISO text of what it stands for, and can be put in a form under
the same condition. -/
theorem ReadBack.toForm {kind : TemporalKind} {text : String} {expected : Prop}
    (back : ReadBack timezone kind text expected) :
    ((∃ picked, (Codec.toForm timezone).temporal (.text text) kind = .ok picked) ↔ expected) ∧
      (Value.text text).inIso timezone (some kind) = .text text := by
  rcases back with ⟨holds, value, read, same⟩ | ⟨fails, failure, unread⟩
  · refine ⟨iff_of_true ⟨.picked value, ?_⟩ holds, ?_⟩
    · exact map_eq_ok_iff.mpr ⟨value, read, rfl⟩
    · rw [Value.inIso, read]
      exact congrArg Value.text same
  · refine ⟨iff_of_false ?_ fails, ?_⟩
    · rintro ⟨picked, made⟩
      obtain ⟨value, read, -⟩ := map_eq_ok_iff.mp made
      rw [unread] at read
      cases read
    · rw [Value.inIso, unread]

end TemporalValue

/-- A value that was made of a form value has the ISO text of what it stands for, and can be put in a
form under the condition on the form value. -/
theorem FormValue.reopens_iff (full : timezone.seconds % 60 = 0) {kind : TemporalKind}
    {picked : FormValue} {stored : Value}
    (made : (Codec.fromForm timezone).temporal picked kind = .ok stored) :
    ((∃ again, (Codec.toForm timezone).temporal stored kind = .ok again) ↔
      picked.Reopens timezone kind) ∧ stored.inIso timezone (some kind) = stored := by
  cases picked with
  | picked value =>
      obtain ⟨text, known, rfl⟩ := map_eq_ok_iff.mp made
      exact (TemporalValue.readBack_storedAs full known).toForm
  | plain value =>
      cases value with
      | null =>
          cases made
          exact ⟨iff_of_true ⟨_, rfl⟩ trivial, rfl⟩
      | text written =>
          obtain ⟨value, read, made⟩ := bind_eq_ok_iff.mp made
          obtain ⟨text, known, ⟨⟩⟩ := bind_eq_ok_iff.mp made
          have condition : (FormValue.plain (.text written)).Reopens timezone kind ↔
              value.Reopens timezone kind := by
            constructor
            · intro all
              exact all value read
            · intro holds other readOther
              cases read.symm.trans readOther
              exact holds
          rw [condition]
          exact (TemporalValue.readBack_storedAs full known).toForm
      | bool | int | float | list | json | withheld => cases made

theorem Operand.reopens_iff (full : timezone.seconds % 60 = 0) {kind : Option TemporalKind}
    {operand : Operand FormValue} {stored : Operand Value}
    (made : operand.convert (.fromForm timezone) kind = .ok stored) :
    ((∃ again, stored.convert (.toForm timezone) kind = .ok again) ↔
      operand.Reopens timezone kind) ∧ stored.inIso timezone kind = stored := by
  cases operand with
  | manual expression =>
      cases made
      have condition : (Operand.manual expression).Reopens timezone kind := by
        cases kind <;> trivial
      exact ⟨iff_of_true ⟨_, rfl⟩ condition, rfl⟩
  | value picked =>
      cases kind with
      | none =>
          cases made
          exact ⟨iff_of_true ⟨_, rfl⟩ trivial, inIso_none _⟩
      | some kind =>
          obtain ⟨value, step, rfl⟩ := map_eq_ok_iff.mp made
          obtain ⟨opens, same⟩ := FormValue.reopens_iff full step
          constructor
          · exact exists_map_eq_ok_iff.trans opens
          · rw [inIso, same]

theorem Predicate.reopens_iff (full : timezone.seconds % 60 = 0) {column : Column}
    {predicate : Predicate FormValue} {stored : Predicate Value}
    (made : predicate.convert (.fromForm timezone) column = .ok stored) :
    ((∃ again, stored.convert (.toForm timezone) column = .ok again) ↔
      ∀ operand ∈ predicate.comparedOperands, operand.Reopens timezone column.temporalKind?) ∧
      stored.inIso timezone column.temporalKind? = stored := by
  cases predicate with
  | isNull | isNotNull | list =>
      cases made
      exact ⟨iff_of_true ⟨_, rfl⟩ (List.forall_mem_nil _), rfl⟩
  | compare op operand =>
      obtain ⟨target, step, rfl⟩ := map_eq_ok_iff.mp made
      obtain ⟨opens, same⟩ := Operand.reopens_iff full step
      have again : (∃ again, (Predicate.compare op target).convert (.toForm timezone) column =
          .ok again) ↔ operand.Reopens timezone
            (if op.isSingleValueComparison then column.temporalKind? else none) :=
        exists_map_eq_ok_iff.trans opens
      rw [again, comparedOperands, inIso]
      split
      next single =>
        rw [if_pos single] at same
        rw [List.forall_mem_singleton, same]
        exact ⟨Iff.rfl, rfl⟩
      next => exact ⟨iff_of_true trivial (List.forall_mem_nil _), rfl⟩
  | between range =>
      cases range with
      | relative span =>
          cases made
          exact ⟨iff_of_true ⟨_, rfl⟩ (List.forall_mem_nil _), rfl⟩
      | fixed left right =>
          obtain ⟨low, first, made⟩ := bind_eq_ok_iff.mp made
          obtain ⟨high, second, ⟨⟩⟩ := bind_eq_ok_iff.mp made
          obtain ⟨lowOpens, lowSame⟩ := Operand.reopens_iff full first
          obtain ⟨highOpens, highSame⟩ := Operand.reopens_iff full second
          rw [comparedOperands, List.forall_mem_cons, List.forall_mem_singleton, ← lowOpens,
            ← highOpens, inIso, lowSame, highSame]
          refine ⟨⟨?_, ?_⟩, rfl⟩
          · rintro ⟨again, made⟩
            obtain ⟨low, first, made⟩ := bind_eq_ok_iff.mp made
            obtain ⟨high, second, -⟩ := bind_eq_ok_iff.mp made
            exact ⟨⟨low, first⟩, high, second⟩
          · rintro ⟨⟨low, first⟩, high, second⟩
            exact ⟨_, bind_eq_ok_iff.mpr ⟨low, first, bind_eq_ok_iff.mpr ⟨high, second, rfl⟩⟩⟩

theorem Filter.reopens_iff (full : timezone.seconds % 60 = 0) {filter : Filter FormValue}
    {stored : Filter Value} (made : filter.convert (.fromForm timezone) dataset = .ok stored) :
    ((∃ again, stored.convert (.toForm timezone) dataset = .ok again) ↔
      filter.Reopens dataset timezone) ∧ stored.inIso dataset timezone = stored := by
  obtain ⟨column, predicate, found, step, rfl⟩ := convert_eq_ok_iff.mp made
  obtain ⟨opens, same⟩ := Predicate.reopens_iff full step
  have kind := Dataset.kindOf?_of_column found
  rw [Reopens, kind, ← opens, inIso, kind, same]
  refine ⟨⟨?_, ?_⟩, rfl⟩
  · rintro ⟨again, converted⟩
    obtain ⟨other, predicate, known, step, -⟩ := convert_eq_ok_iff.mp converted
    cases found.symm.trans known
    exact ⟨predicate, step⟩
  · rintro ⟨predicate, step⟩
    exact ⟨_, convert_eq_ok_iff.mpr ⟨column, predicate, found, step, rfl⟩⟩

namespace Block

/-- What a form has stored can be opened again exactly when its dates lie in the range of years and
the local years of its instants have four digits; and whenever it is opened, the form that it gives
is stored as the same tree. -/
theorem opens_iff_reopens {name : String} (named : Timezone.parse? name = some timezone)
    {form : Block FormValue} {stored : Block Value}
    (saved : form.fromForm dataset timezone = .ok stored) :
    ((∃ again, stored.toForm dataset timezone = .ok again) ↔ form.Reopens dataset timezone) ∧
      ∀ again, stored.toForm dataset timezone = .ok again →
        again.fromForm dataset timezone = .ok stored := by
  have full := Timezone.minutes_of_parse named
  have pairs := forall₂_of_convert form stored saved
  constructor
  · have same := pairs.imp fun filter edited made => (Filter.reopens_iff full made).1.symm
    rw [Reopens, forall_mem_iff same]
    constructor
    · rintro ⟨again, opened⟩
      exact exists_of_forall₂ (forall₂_of_convert stored again opened)
    · exact exists_convert stored
  · intro again opened
    have back : again.fromForm dataset timezone = .ok (stored.inIso dataset timezone) :=
      convert_convert Filter.fromForm_convert stored again opened
    have unchanged : stored.inIso dataset timezone = stored := by
      apply mapFilters_of_fixed stored
      intro edited member
      obtain ⟨filter, made⟩ := exists_of_forall₂ (List.Forall₂.flip pairs) edited member
      exact (Filter.reopens_iff full made).2
    rw [back, unchanged]

end Block

namespace Sample

/-- A full hour of the last day of the year 9999 in UTC. -/
def lastDay (hour : Nat) : Instant where
  utc := DateTime.shifted ⟨.ofCivil ⟨9999, 12, 31⟩, .midnight⟩ (hour * 3600)
  zone := .utc

end Sample

open Sample

/-- At six in the evening of the last day it is still the same year in India, and what is stored is
opened again. -/
theorem Block.evening_opens :
    (∃ again, (arrivals (.text "9999-12-31T23:30:00+05:30")).toForm visits india = .ok again) ∧
      ∀ again, (arrivals (.text "9999-12-31T23:30:00+05:30")).toForm visits india = .ok again →
        again.fromForm visits india = .ok (arrivals (.text "9999-12-31T23:30:00+05:30")) := by
  have named : Timezone.parse? "+05:30" = some india := by decide
  have saved : (arrivals (.picked (.dateTime (lastDay 18)))).fromForm visits india =
      .ok (arrivals (.text "9999-12-31T23:30:00+05:30")) := rfl
  have known := Block.opens_iff_reopens named saved
  refine ⟨known.1.mpr ?_, known.2⟩
  intro filter member operand compared
  have short : ((lastDay 18).inZone india).localTime.date.HasFourDigits := by decide
  cases List.mem_singleton.mp member
  rcases List.mem_pair.mp compared with rfl | rfl
  · exact short
  · trivial

/-- At eight in the evening it is the year 10000 in India; what is stored cannot be opened. -/
theorem Block.night_fails : Timezone.parse? "+05:30" = some india ∧
    (arrivals (.picked (.dateTime (lastDay 20)))).fromForm visits india =
      .ok (arrivals (.text "+10000-01-01T01:30:00+05:30")) ∧
    (arrivals (.text "+10000-01-01T01:30:00+05:30")).toForm visits india =
      .error ((Failure.malformedLiteral "an ISO datetime"
        "+10000-01-01T01:30:00+05:30").withColumn "arrival") :=
  ⟨by decide, rfl, rfl⟩

end DashboardFilters
