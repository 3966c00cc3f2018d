import DashboardFilters.Proofs.Calendar.Reread
import DashboardFilters.Proofs.Form.RoundTrip

namespace DashboardFilters

open Calendar Outcome

variable {opened saved : Timezone} {dataset : Dataset}

namespace TemporalValue

/-- Whether a text denotes a moment in UTC: by its own distance from UTC or, where it has none, by
date and time in a timezone. -/
def Denotes (timezone : Timezone) (text : String) (utc : DateTime) : Prop :=
  (∃ told, Instant.parse? (Text.trim text) = some told ∧ told.utc = utc) ∨
    Instant.parse? (Text.trim text) = none ∧
      parseLocal? (Text.trim text) = some (utc.shifted timezone.seconds)

/-- The instant that is read from a text is at the moment that the text denotes. -/
theorem denotes_of_parseInstant {text : String} {instant : Instant}
    (known : parseInstant? (Text.trim text) opened = some instant) :
    Denotes opened text instant.utc := by
  unfold parseInstant? at known
  rcases Option.or_eq_some_iff.mp known with exchanged | ⟨unread, placed⟩
  · obtain ⟨told, read, rfl⟩ := Option.map_eq_some_iff.mp exchanged
    exact Or.inl ⟨told, read, rfl⟩
  · obtain ⟨moment, read, found⟩ := Option.bind_eq_some_iff.mp placed
    obtain rfl := Instant.eq_of_ofLocal? found
    refine Or.inr ⟨Option.map_eq_none_iff.mp unread, ?_⟩
    rw [DateTime.shifted_back, read]

/-- Whether a text tells in one timezone, to the second, of the moment that another text denotes in
another timezone. Only years of four digits can be read again. -/
def KeepsMoment (opened saved : Timezone) (text moved : String) : Prop :=
  ∃ instant : Instant, instant.zone = saved ∧ Denotes opened text instant.utc ∧
    moved = instant.iso ∧
    (instant.localTime.date.HasFourDigits →
      TemporalKind.dateTime.IsIso saved moved ∧ Instant.parse? moved = some instant.wholeSecond)

/-- What is read in one timezone and told in another one keeps its moment. -/
theorem keepsMoment_of_parse (there : opened.seconds % 60 = 0) (full : saved.seconds % 60 = 0)
    {text : String} {value : TemporalValue} (known : parse text .dateTime opened = .ok value) :
    KeepsMoment opened saved text (value.toldIn saved).iso := by
  obtain ⟨⟨⟩, -⟩ | ⟨⟨⟩, -⟩ | ⟨-, instant, read, rfl⟩ := cases_of_parse known
  have denoted := denotes_of_parseInstant read
  refine ⟨instant.inZone saved, rfl, denoted, rfl, fun short => ?_⟩
  -- Leap seconds end a minute in every timezone, as all are whole minutes away from UTC.
  have leaps : (instant.inZone saved).localTime.time.LeapsAtEnd := by
    have zone := zone_of_parseInstant read
    have told := leapsAtEnd_of_parseInstant there read
    rw [Instant.localTime, zone, DateTime.leapsAtEnd_shifted there] at told
    exact (DateTime.leapsAtEnd_shifted full).mpr told
  exact ⟨TemporalKind.isIso_dateTime full rfl short, Instant.parse?_iso full leaps short⟩

/-- Only instants are read in a timezone. -/
theorem parse_congr {kind : TemporalKind} (other : kind ≠ .dateTime) (text : String)
    (timezone another : Timezone) : parse text kind timezone = parse text kind another := by
  unfold parse
  cases kind with
  | date | time => dsimp only
  | dateTime => exact absurd rfl other

/-- Only instants are stored in a timezone. -/
theorem storedAs_congr {kind : TemporalKind} (other : kind ≠ .dateTime) (value : TemporalValue)
    (timezone another : Timezone) : value.storedAs timezone kind = value.storedAs another kind := by
  cases kind with
  | date | time => cases value <;> rfl
  | dateTime => exact absurd rfl other

end TemporalValue

section

variable {V W : Type} {codec another : Codec V W}

/-- Whether two directions convert the values that belong to a column of a kind alike. -/
structure Codec.Agree (codec another : Codec V W) (kind : Option TemporalKind) : Prop where
  plain : codec.plain = another.plain
  temporal : ∀ known ∈ kind, ∀ value, codec.temporal value known = another.temporal value known

/-- Values of columns without instants have the same form in all timezones. -/
theorem Codec.toForm_agree {kind : Option TemporalKind} (other : kind ≠ some .dateTime)
    (timezone elsewhere : Timezone) : (Codec.toForm timezone).Agree (.toForm elsewhere) kind := by
  refine ⟨rfl, fun known same value => ?_⟩
  have single : known ≠ .dateTime := fun moment => other (moment ▸ same)
  cases value with
  | text written =>
      simp only [toForm, TemporalValue.parse_congr single written timezone elsewhere]
  | null | bool | int | float | list | json | withheld => simp only [toForm]

/-- Form values of columns without instants are stored alike in all timezones. -/
theorem Codec.fromForm_agree {kind : Option TemporalKind} (other : kind ≠ some .dateTime)
    (timezone elsewhere : Timezone) :
    (Codec.fromForm timezone).Agree (.fromForm elsewhere) kind := by
  refine ⟨rfl, fun known same value => ?_⟩
  have single : known ≠ .dateTime := fun moment => other (moment ▸ same)
  have stored := fun value => TemporalValue.storedAs_congr single value timezone elsewhere
  cases value with
  | picked value => simp only [fromForm, stored]
  | plain value =>
      cases value with
      | text written =>
          simp only [fromForm, stored,
            TemporalValue.parse_congr single written timezone elsewhere]
      | null | bool | int | float | list | json | withheld => simp only [fromForm]

/-- Directions that agree convert operands alike. -/
theorem Operand.convert_congr {kind : Option TemporalKind} (agree : codec.Agree another kind)
    (operand : Operand V) : operand.convert codec kind = operand.convert another kind := by
  cases operand with
  | manual => rfl
  | value picked =>
      cases kind with
      | none => simp only [convert, agree.plain]
      | some kind => simp only [convert, agree.temporal kind rfl]

/-- Directions that agree on the kind of a column convert predicates alike. -/
theorem Predicate.convert_congr {column : Column} (predicate : Predicate V)
    (agree : codec.Agree another column.temporalKind?) :
    predicate.convert codec column = predicate.convert another column := by
  have compared := Operand.convert_congr agree
  have others : ∀ operand : Operand V, operand.convert codec none = operand.convert another none :=
    Operand.convert_congr ⟨agree.plain, nofun⟩
  cases predicate with
  | isNull | isNotNull | list => rfl
  | compare op operand =>
      simp only [convert]
      split
      · rw [compared]
      · rw [others]
  | between range =>
      cases range with
      | relative => rfl
      | fixed left right => simp only [convert, compared]

/-- Directions that agree on the kind of its column convert a filter alike. -/
theorem Filter.convert_congr {filter : Filter V}
    (agree : codec.Agree another (dataset.kindOf? filter.column)) :
    filter.convert codec dataset = filter.convert another dataset := by
  unfold Filter.convert Dataset.lookup
  cases found : dataset.column? filter.column with
  | none => rfl
  | some column =>
      rw [Dataset.kindOf?_of_column found] at agree
      simp only [bind, Except.bind, filter.predicate.convert_congr agree]

end

/-- The tree whose compared texts are told in another timezone. -/
def Block.retold (dataset : Dataset) (opened saved : Timezone) (block : Block Value) :
    Block Value :=
  block.mapFilters (List.map (Filter.retold dataset opened saved))

/-- A form that was opened in one timezone can be saved in any other one. Nothing but the texts that
are compared with temporal columns changes: each text that is compared with instants keeps its
moment, and the filters on columns without instants come out as in any other timezones. -/
theorem Block.fromForm_relocated {openedName savedName : String}
    (openedNamed : Timezone.parse? openedName = some opened)
    (savedNamed : Timezone.parse? savedName = some saved) {block : Block Value}
    {form : Block FormValue} (made : block.toForm dataset opened = .ok form) :
    form.fromForm dataset saved = .ok (block.retold dataset opened saved) ∧
      (∀ text, block.Compares dataset .dateTime text → ∃ moved,
        (Value.text text).retold opened saved (some .dateTime) = .text moved ∧
          TemporalValue.KeepsMoment opened saved text moved) ∧
      ∀ filter ∈ block.allFilters, dataset.kindOf? filter.column ≠ some .dateTime →
        ∀ elsewhere another : Timezone, ∃ edited,
          filter.convert (.toForm elsewhere) dataset = .ok edited ∧
            edited.convert (.fromForm another) dataset =
              .ok (filter.retold dataset opened saved) := by
  have pairs := forall₂_of_convert block form made
  refine ⟨convert_convert Filter.fromForm_retold block form made, ?_, ?_⟩
  · rintro text ⟨filter, member, compared⟩
    obtain ⟨edited, converted⟩ := exists_of_forall₂ pairs filter member
    obtain ⟨value, read⟩ := Filter.parse_of_convert converted compared
    refine ⟨(value.toldIn saved).iso, by rw [Value.retold, read], ?_⟩
    exact TemporalValue.keepsMoment_of_parse (Timezone.minutes_of_parse openedNamed)
      (Timezone.minutes_of_parse savedNamed) read
  · intro filter member other elsewhere another
    obtain ⟨edited, converted⟩ := exists_of_forall₂ pairs filter member
    refine ⟨edited, ?_, ?_⟩
    · rw [← converted]
      exact Filter.convert_congr (Codec.toForm_agree other elsewhere opened)
    · rw [← Filter.fromForm_retold filter edited converted]
      obtain ⟨_, _, -, -, rfl⟩ := Filter.convert_eq_ok_iff.mp converted
      exact Filter.convert_congr (Codec.fromForm_agree other another saved)

namespace Sample

/-- Three hours west of UTC. -/
def brasilia : Timezone where
  seconds := -10800

/-- Three quarters of a second past half past one in the morning of the first of January 2026 in
UTC, told in India. -/
def newYear : Instant where
  utc := ⟨.ofCivil ⟨2026, 1, 1⟩, { seconds := 5400, nanos := 750000000 }⟩
  zone := india

end Sample

open Sample

/-- A moment of the old year in the Azores is one of the new year in India, where the form is opened,
and is stored as one of the old year in Brasilia. -/
theorem Block.newYear_relocated :
    (arrivals (.text "2025-12-31T23:30:00.75-02:00")).toForm visits india =
        .ok (arrivals (.picked (.dateTime newYear))) ∧
      (arrivals (.picked (.dateTime newYear))).fromForm visits brasilia =
        .ok (arrivals (.text "2025-12-31T22:30:00-03:00")) ∧
      TemporalValue.KeepsMoment india brasilia "2025-12-31T23:30:00.75-02:00"
        "2025-12-31T22:30:00-03:00" := by
  have openedNamed : Timezone.parse? "+05:30" = some india := by decide
  have savedNamed : Timezone.parse? "-03:00" = some brasilia := by decide
  have made : (arrivals (.text "2025-12-31T23:30:00.75-02:00")).toForm visits india =
      .ok (arrivals (.picked (.dateTime newYear))) := rfl
  have retold : (Value.text "2025-12-31T23:30:00.75-02:00").retold india brasilia
      (some .dateTime) = .text "2025-12-31T22:30:00-03:00" := rfl
  obtain ⟨stored, moments, -⟩ := Block.fromForm_relocated openedNamed savedNamed made
  refine ⟨made, stored.trans rfl, ?_⟩
  have compared : (arrivals (.text "2025-12-31T23:30:00.75-02:00")).Compares visits .dateTime
      "2025-12-31T23:30:00.75-02:00" :=
    ⟨_, List.mem_cons_self, rfl, List.mem_cons_self⟩
  obtain ⟨moved, same, keeps⟩ := moments _ compared
  rw [retold] at same
  cases same
  exact keeps

end DashboardFilters
