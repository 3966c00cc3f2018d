import DashboardFilters.Proofs.Calendar.Exchange
import DashboardFilters.Proofs.Form.RoundTrip

namespace DashboardFilters

open Calendar Decimal Outcome

namespace TemporalValue

variable {timezone : Timezone} {kind : TemporalKind} {text : String} {value : TemporalValue}

/-- The text of a time with its fraction has no blanks around it. -/
theorem trim_exactChars (clock : TimeOfDay) :
    Text.trim (String.ofList clock.exactChars) = String.ofList clock.exactChars := by
  obtain ⟨time, -, written⟩ := clock.exists_exactChars
  rw [written]
  obtain ⟨-, none⟩ | ⟨-, places, digits, some, row, -, shape⟩ :=
    Read.exists_fraction clock.fraction_lt
  · rw [none, List.append_nil, trim_isoTime]
  · have ends : time.chars ++ '.' :: digits =
        time.hour ++ (':' :: (time.minute ++ ':' :: (time.second ++ ['.']))) ++ digits := by
      rw [time.chars_append]
      simp only [List.append_assoc, List.cons_append, List.nil_append]
    rw [shape, ends, Text.trim_between time.hourRow row (by decide) some]

/-- The text of an instant has no blanks around it. -/
theorem trim_exchangeText {instant : Instant} (full : instant.zone.seconds % 60 = 0) :
    Text.trim instant.exchangeText = instant.exchangeText := by
  obtain ⟨-, others, last, shape, visible⟩ := zoneChars_ends full
  have begun := instant.localTime.date.skipBlanks_isoChars ('T' ::
    (instant.localTime.time.isoChars ++
      (fractionText instant.localTime.time.fraction ++ zoneChars instant.zone)))
  rw [shape] at begun
  simp only [← List.append_assoc, ← List.cons_append] at begun
  rw [Instant.exchangeText_eq, shape, Text.trim, String.toList_ofList]
  simp only [← List.append_assoc, ← List.cons_append]
  rw [trimChars_concat begun visible]

/-- The value of a text without blanks at its ends. -/
def parse? (text : String) (kind : TemporalKind) (timezone : Timezone) : Option TemporalValue :=
  match kind with
  | .date => (parseDate? text).map .date
  | .time => (parseTime? text).map .time
  | .dateTime => (parseInstant? text timezone).map .dateTime

/-- A picked value is stored if there is a text for it. -/
theorem toOption_picked : ((Codec.fromForm timezone).temporal (.picked value) kind).toOption =
    (value.storedAs? timezone kind).map .text := by
  change ((value.storedAs timezone kind).map Value.text).toOption = _
  unfold storedAs
  cases value.storedAs? timezone kind <;> rfl

/-- A typed text is stored if it is read as a value and there is a text for that. -/
theorem toOption_typed (trimmed : Text.trim text = text) :
    ((Codec.fromForm timezone).temporal (.plain (.text text)) kind).toOption =
      ((parse? text kind timezone).bind (·.storedAs? timezone kind)).map .text := by
  have parsed : parse text kind timezone =
      match parse? text kind timezone with
      | some value => .ok value
      | none => .error (.malformedLiteral kind.expected text) := by
    unfold parse
    rw [trimmed]
    rfl
  change (do
    let parsed ← parse text kind timezone
    return Value.text (← parsed.storedAs timezone kind) : Except Failure Value).toOption = _
  rw [parsed]
  cases parse? text kind timezone with
  | none => rfl
  | some value =>
      change (do return Value.text (← value.storedAs timezone kind) :
        Except Failure Value).toOption = _
      rw [Option.bind_some]
      unfold storedAs
      cases value.storedAs? timezone kind <;> rfl

/-- The text of an instant is stored for each kind of column as what is read from it. -/
theorem bind_parse?_exchangeText {instant : Instant} (full : instant.zone.seconds % 60 = 0) :
    (parse? instant.exchangeText kind timezone).bind (·.storedAs? timezone kind) =
      (Instant.parse? instant.exchangeText).map fun read => read.isoAs kind timezone := by
  obtain ⟨noDate, noTime, noMoment⟩ := Instant.parse?_others full
  unfold parse?
  cases kind with
  | date =>
      dsimp only
      rw [parseDate?, noDate, noMoment]
      cases Instant.parse? instant.exchangeText <;> rfl
  | time =>
      dsimp only
      rw [parseTime?, noTime]
      cases Instant.parse? instant.exchangeText <;> rfl
  | dateTime =>
      dsimp only
      rw [parseInstant?, parseLocal?, noMoment, noDate]
      cases Instant.parse? instant.exchangeText <;> rfl

/-- The text of a date in the range is stored as the date is. -/
theorem bind_parse?_date {day : Date} (inRange : day.inRange = true) :
    (parse? day.iso kind timezone).bind (·.storedAs? timezone kind) =
      (date day).storedAs? timezone kind := by
  obtain ⟨noTime, noMoment, noInstant⟩ := day.parse?_others
  have read := day.read_isoChars []
  rw [if_pos inRange, List.append_nil] at read
  have known : Date.parse? day.iso = some day := Read.all?_of read
  unfold parse?
  cases kind with
  | date =>
      dsimp only
      rw [parseDate?, known]
      rfl
  | time =>
      dsimp only
      rw [parseTime?, noTime, noInstant]
      rfl
  | dateTime =>
      dsimp only
      rw [parseInstant?, parseLocal?, noInstant, noMoment, known]
      change ((Instant.ofLocal? ⟨day, .midnight⟩ timezone).map TemporalValue.dateTime).bind _ =
        (Instant.ofLocal? ⟨day, .midnight⟩ timezone).map _
      cases Instant.ofLocal? ⟨day, .midnight⟩ timezone <;> rfl

/-- The text of a time is only stored in a column of times, and only without a fraction. -/
theorem bind_parse?_time (clock : TimeOfDay) :
    (parse? (String.ofList clock.exactChars) kind timezone).bind (·.storedAs? timezone kind) =
      if kind = .time ∧ clock.fraction = 0 then some clock.iso else none := by
  obtain ⟨time, chars, written⟩ := clock.exists_exactChars
  obtain ⟨noDate, noMoment, noInstant⟩ := time.parse?_chars (fractionText clock.fraction)
  unfold parse?
  cases kind with
  | date =>
      dsimp only
      rw [written, parseDate?, noDate, noMoment, noInstant]
      rfl
  | dateTime =>
      dsimp only
      rw [written, parseInstant?, parseLocal?, noDate, noMoment, noInstant]
      rfl
  | time =>
      dsimp only
      rw [written, parseTime?, noInstant]
      obtain ⟨whole, none⟩ | ⟨positive, places, digits, -, -, -, shape⟩ :=
        Read.exists_fraction clock.fraction_lt
      · have read := time.read_time []
        have same : time.time.iso = clock.iso :=
          congrArg String.ofList (time.isoChars_time.trans chars)
        rw [List.append_nil] at read
        rw [if_pos ⟨rfl, whole⟩, none, List.append_nil, TimeOfDay.parse?, Read.all?_of read, ← same]
        rfl
      · rw [if_neg (fun fits => positive fits.2), shape, time.time_parse?_cons]
        rfl

/-- The values that can be picked: dates lie in the range, and distances from UTC are full
minutes. -/
def Pickable : TemporalValue → Prop
  | .date day => day.inRange = true
  | .time _ => True
  | .dateTime instant => instant.zone.seconds % 60 = 0

/-- Whether the text of a value is as good as the value for columns of a kind: times must not have a
fraction where times are stored, and the years of instants must have four digits. -/
def Typeable (kind : TemporalKind) : TemporalValue → Prop
  | .date _ => True
  | .time clock => kind = .time → clock.fraction = 0
  | .dateTime instant => instant.localTime.date.HasFourDigits

/-- Whether a picked value and a typed text are stored as the same text, or both are refused. -/
def StoredAlike (timezone : Timezone) (kind : TemporalKind) (value : TemporalValue)
    (text : String) : Prop :=
  (∃ stored, (Codec.fromForm timezone).temporal (.picked value) kind = .ok stored ∧
      (Codec.fromForm timezone).temporal (.plain (.text text)) kind = .ok stored) ∨
    ((∃ failure, (Codec.fromForm timezone).temporal (.picked value) kind = .error failure) ∧
      ∃ failure, (Codec.fromForm timezone).temporal (.plain (.text text)) kind = .error failure)

/-- A text that is as good as the value is stored as the value is. -/
theorem bind_parse?_of_typeable (full : timezone.seconds % 60 = 0) (pickable : value.Pickable)
    (typeable : value.Typeable kind) :
    (parse? value.exactText kind timezone).bind (·.storedAs? timezone kind) =
      value.storedAs? timezone kind := by
  cases value with
  | date day => exact bind_parse?_date pickable
  | time clock =>
      refine (bind_parse?_time clock).trans ?_
      cases kind with
      | date | dateTime => exact if_neg fun fits => nomatch fits.1
      | time => exact if_pos ⟨rfl, typeable rfl⟩
  | dateTime instant =>
      have short : instant.localTime.date.HasFourDigits := typeable
      refine (bind_parse?_exchangeText pickable).trans ?_
      rw [Instant.parse?_exchangeText pickable, if_pos short, Option.map_some,
        Instant.isoAs_settled pickable full]
      rfl

/-- Another text is refused where the value is stored. -/
theorem bind_parse?_of_not_typeable (pickable : value.Pickable)
    (refused : ¬ value.Typeable kind) :
    (parse? value.exactText kind timezone).bind (·.storedAs? timezone kind) = none ∧
      ∃ stored, value.storedAs? timezone kind = some stored := by
  cases value with
  | date day => exact absurd trivial refused
  | time clock =>
      obtain ⟨rfl, fraction⟩ := Classical.not_imp.mp refused
      exact ⟨(bind_parse?_time clock).trans (if_neg fun fits => fraction fits.2), _, rfl⟩
  | dateTime instant =>
      have long : ¬ instant.localTime.date.HasFourDigits := refused
      refine ⟨(bind_parse?_exchangeText pickable).trans ?_, _, rfl⟩
      rw [Instant.parse?_exchangeText pickable, if_neg long, Option.map_none]

/-- The texts of all picked values have no blanks around them. -/
theorem trim_exactText (pickable : value.Pickable) :
    Text.trim value.exactText = value.exactText := by
  cases value with
  | date day => exact trim_writtenDate day
  | time clock => exact trim_exactChars clock
  | dateTime instant => exact trim_exchangeText pickable

/-- Two outcomes agree when both are the same value or both are failures. -/
theorem storedAlike_iff : value.StoredAlike timezone kind text ↔
    ((Codec.fromForm timezone).temporal (.plain (.text text)) kind).toOption =
      ((Codec.fromForm timezone).temporal (.picked value) kind).toOption := by
  unfold StoredAlike
  cases (Codec.fromForm timezone).temporal (.picked value) kind <;>
    cases (Codec.fromForm timezone).temporal (.plain (.text text)) kind <;>
      simp [Except.toOption, eq_comm]

/-- The text that a form document shows for a picked value is stored as the value is exactly if it
is as good as the value; and if it is stored at all, it is stored as the value is. -/
theorem storedAlike_iff_typeable {name : String} (named : Timezone.parse? name = some timezone)
    (pickable : value.Pickable) (shown : (FormValue.picked value).toJson = .string text)
    (kind : TemporalKind) :
    (value.StoredAlike timezone kind text ↔ value.Typeable kind) ∧
      ∀ stored, (Codec.fromForm timezone).temporal (.plain (.text text)) kind = .ok stored →
        (Codec.fromForm timezone).temporal (.picked value) kind = .ok stored := by
  have full := Timezone.minutes_of_parse named
  cases (Json.string.inj shown : value.exactText = text)
  rw [storedAlike_iff, toOption_typed (trim_exactText pickable), toOption_picked]
  simp only [← toOption_eq_some_iff, toOption_typed (trim_exactText pickable), toOption_picked]
  by_cases typeable : value.Typeable kind
  · rw [bind_parse?_of_typeable full pickable typeable]
    exact ⟨iff_of_true rfl typeable, fun stored => id⟩
  · obtain ⟨refused, stored, known⟩ := bind_parse?_of_not_typeable pickable typeable
    rw [refused, known]
    constructor
    · refine iff_of_false ?_ typeable
      rintro ⟨⟩
    · rintro other ⟨⟩

end TemporalValue

namespace Sample

def halfSecond : TimeOfDay where
  seconds := 45296
  nanos := 500000000

def beforeMidnight : Instant where
  utc := ⟨.ofCivil ⟨2024, 3, 9⟩, { seconds := 66599, nanos := 500000000 }⟩
  zone := india

end Sample

open Sample

/-- The fraction of an instant does not keep its text from being stored, here as a date, a time and
an instant in UTC. -/
theorem TemporalValue.beforeMidnight_storedAlike :
    Timezone.parse? "UTC" = some .utc ∧ (dateTime beforeMidnight).Pickable ∧
      (FormValue.picked (.dateTime beforeMidnight)).toJson =
        .string "2024-03-09T23:59:59.500+05:30" ∧
      ∀ kind, (dateTime beforeMidnight).StoredAlike .utc kind "2024-03-09T23:59:59.500+05:30" := by
  have named : Timezone.parse? "UTC" = some .utc := by decide
  have pickable : (dateTime beforeMidnight).Pickable :=
    (by decide : beforeMidnight.zone.seconds % 60 = 0)
  have shown : (FormValue.picked (.dateTime beforeMidnight)).toJson =
      .string "2024-03-09T23:59:59.500+05:30" := rfl
  have typeable : beforeMidnight.localTime.date.HasFourDigits := by decide
  exact ⟨named, pickable, shown, fun kind =>
    (TemporalValue.storedAlike_iff_typeable named pickable shown kind).1.mpr typeable⟩

/-- The fraction of a time does: what is stored without it if it is picked is refused if it is
typed. -/
theorem TemporalValue.halfSecond_refused :
    Timezone.parse? "UTC" = some .utc ∧ (time halfSecond).Pickable ∧
      (FormValue.picked (.time halfSecond)).toJson = .string "12:34:56.500" ∧
      (Codec.fromForm .utc).temporal (.picked (.time halfSecond)) .time = .ok (.text "12:34:56") ∧
      (Codec.fromForm .utc).temporal (.plain (.text "12:34:56.500")) .time =
        .error (.malformedLiteral "an ISO time (HH:MM:SS)" "12:34:56.500") ∧
      ¬ (time halfSecond).StoredAlike .utc .time "12:34:56.500" := by
  have typed : (Codec.fromForm .utc).temporal (.plain (.text "12:34:56.500")) .time =
      .error (.malformedLiteral "an ISO time (HH:MM:SS)" "12:34:56.500") := rfl
  have picked : (Codec.fromForm .utc).temporal (.picked (.time halfSecond)) .time =
      .ok (.text "12:34:56") := rfl
  refine ⟨by decide, trivial, rfl, picked, typed, ?_⟩
  rw [storedAlike_iff, typed, picked]
  rintro ⟨⟩

end DashboardFilters
