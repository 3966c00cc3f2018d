import DashboardFilters.Proofs.Calendar.Reread
import DashboardFilters.Proofs.Form.RoundTrip
import DashboardFilters.Summary

namespace DashboardFilters

variable {timezone : Timezone} {dataset : Dataset} {display : Display}

/-- Whether the ISO text of what a text stands for tells all of it. -/
def TemporalKind.ReadsWhole (timezone : Timezone) (kind : TemporalKind) (text : String) : Prop :=
  ∀ value, TemporalValue.parse text kind timezone = .ok value → value.Whole

/-- A value and its ISO text look the same. -/
theorem Value.summary_inIso (full : display.timezone.seconds % 60 = 0) {column : Column}
    {value : Value} (whole : ∀ kind text, column.temporalKind? = some kind → value = .text text →
      kind.ReadsWhole display.timezone text) :
    (value.inIso display.timezone column.temporalKind?).summary column display =
      value.summary column display := by
  cases known : column.temporalKind? with
  | none => cases value <;> rfl
  | some kind =>
      cases value with
      | text written =>
          cases read : TemporalValue.parse written kind display.timezone with
          | error failure => simp only [inIso, read]
          | ok parsed =>
              have again := TemporalValue.parse_iso full read (whole kind written known rfl parsed read)
              simp only [inIso, summary, known, read, again]
      | null | bool | int | float | list | json | withheld => rfl

theorem Operand.summary_inIso (full : display.timezone.seconds % 60 = 0) {column : Column}
    {operand : Operand Value} (whole : ∀ kind text, column.temporalKind? = some kind →
      operand = .value (.text text) → kind.ReadsWhole display.timezone text) :
    (operand.inIso display.timezone column.temporalKind?).summary column display =
      operand.summary column display := by
  cases operand with
  | manual expression => rfl
  | value picked =>
      apply Value.summary_inIso full
      rintro kind text known rfl
      exact whole kind text known rfl

/-- A predicate looks the same when its compared operands do. -/
theorem Predicate.summary_inIso {kind : Option TemporalKind} {column : Column}
    {predicate : Predicate Value}
    (same : ∀ operand ∈ predicate.comparedOperands,
      (operand.inIso timezone kind).summary column display = operand.summary column display) :
    (predicate.inIso timezone kind).summary column display = predicate.summary column display := by
  cases predicate with
  | isNull | isNotNull | list => rfl
  | compare op operand =>
      rw [inIso]
      split
      next single =>
        rw [comparedOperands, if_pos single, List.forall_mem_singleton] at same
        rw [summary, summary, same]
        rfl
      next => rfl
  | between range =>
      cases range with
      | relative => rfl
      | fixed left right =>
          rw [comparedOperands, List.forall_mem_cons, List.forall_mem_singleton] at same
          rw [inIso, summary, summary, same.1, same.2]
          rfl

namespace Filter

/-- The summary of a filter, if its column is known. -/
def line (dataset : Dataset) (display : Display) (filter : Filter Value) : Except Failure String :=
  do return filter.summary (← dataset.lookup filter.column) display

/-- A filter looks the same when its predicate does. -/
theorem summary_inIso {column : Column} {filter : Filter Value}
    (same : (filter.predicate.inIso timezone (dataset.kindOf? filter.column)).summary column
      display = filter.predicate.summary column display) :
    (filter.inIso dataset timezone).summary column display = filter.summary column display := by
  obtain ⟨id, name, shown, predicate⟩ := filter
  unfold summary inIso
  dsimp only at same ⊢
  rw [same]
  -- What is read of the predicate itself is whether it is a relative range, and ranges stay that.
  cases predicate with
  | isNull | isNotNull | compare | list => rfl
  | between range => cases range <;> rfl

/-- A filter and the one with its ISO texts look the same. -/
theorem line_inIso (full : display.timezone.seconds % 60 = 0) {filter : Filter Value}
    (whole : ∀ kind text, filter.Compares dataset kind text →
      kind.ReadsWhole display.timezone text) :
    (filter.inIso dataset display.timezone).line dataset display = filter.line dataset display := by
  have name : (filter.inIso dataset display.timezone).column = filter.column := rfl
  unfold line Dataset.lookup
  rw [name]
  cases found : dataset.column? filter.column with
  | none => rfl
  | some column =>
      have kind := Dataset.kindOf?_of_column found
      apply congrArg Except.ok
      apply summary_inIso
      apply Predicate.summary_inIso
      intro operand member
      rw [kind]
      apply Operand.summary_inIso full
      rintro form text known rfl
      exact whole form text ⟨kind.trans known, member⟩

end Filter

namespace Block

theorem summary_eq (id : String) (op : LogicalOp) (filters : List (Filter Value))
    (blocks : List (Block Value)) : summary dataset display ⟨id, op, filters, blocks⟩ = do
      let own ← (filters.filter Filter.shown).mapM (Filter.line dataset display)
      let nested ← nestedSummaries dataset display blocks
      return joinItems op (own ++ nested) := by
  rw [summary]
  rfl

/-- Filters that look the same give the same items. -/
theorem lines_map {change : Filter Value → Filter Value} {filters : List (Filter Value)}
    (same : ∀ filter ∈ filters, (change filter).shown = filter.shown ∧
      (change filter).line dataset display = filter.line dataset display) :
    ((filters.map change).filter Filter.shown).mapM (Filter.line dataset display) =
      (filters.filter Filter.shown).mapM (Filter.line dataset display) := by
  induction filters with
  | nil => rfl
  | cons filter rest ih =>
      rw [List.forall_mem_cons] at same
      rw [List.map_cons, List.filter_cons, List.filter_cons, same.1.1]
      split
      · rw [List.mapM_cons, List.mapM_cons, same.1.2, ih same.2]
      · exact ih same.2

mutual

/-- A tree looks the same when its filters do. -/
theorem summary_mapFilters {change : Filter Value → Filter Value} : ∀ block : Block Value,
    (∀ filter ∈ block.allFilters, (change filter).shown = filter.shown ∧
      (change filter).line dataset display = filter.line dataset display) →
    (block.mapFilters (List.map change)).summary dataset display = block.summary dataset display
  | ⟨id, op, filters, blocks⟩, same => by
      rw [allFilters, List.forall_mem_append] at same
      rw [mapFilters, summary_eq, summary_eq, lines_map same.1,
        nestedSummaries_mapFiltersIn blocks same.2]

theorem nestedSummaries_mapFiltersIn {change : Filter Value → Filter Value} :
    ∀ blocks : List (Block Value), (∀ filter ∈ allFiltersIn blocks,
      (change filter).shown = filter.shown ∧
        (change filter).line dataset display = filter.line dataset display) →
    nestedSummaries dataset display (mapFiltersIn (List.map change) blocks) =
      nestedSummaries dataset display blocks
  | [], _ => rfl
  | block :: rest, same => by
      rw [allFiltersIn, List.forall_mem_append] at same
      rw [mapFiltersIn, nestedSummaries, nestedSummaries, summary_mapFilters block same.1,
        nestedSummaries_mapFiltersIn rest same.2]

end

/-- Opening a form and storing it untouched changes no summary, if the compared times have no
fraction and the local years of the compared instants have four digits. -/
theorem summary_fromForm_toForm {name : String} (named : Timezone.parse? name = some timezone)
    {block : Block Value} {form : Block FormValue}
    (made : block.toForm dataset timezone = .ok form)
    (whole : ∀ kind text, block.Compares dataset kind text → kind.ReadsWhole timezone text)
    (formats : Formats) :
    ∃ stored, form.fromForm dataset timezone = .ok stored ∧
      stored.summary dataset ⟨timezone, formats⟩ = block.summary dataset ⟨timezone, formats⟩ := by
  have full := Timezone.minutes_of_parse named
  refine ⟨block.inIso dataset timezone, convert_convert Filter.fromForm_convert block form made, ?_⟩
  apply summary_mapFilters
  intro filter member
  refine ⟨rfl, Filter.line_inIso full ?_⟩
  intro kind text compared
  exact whole kind text ⟨filter, member, compared⟩

end Block

namespace Sample

/-- The leap second at the end of the year 2016, told in India. -/
def leapSecond : Calendar.Instant where
  utc := ⟨.ofCivil ⟨2016, 12, 31⟩, { seconds := 86399, nanos := 1000000000 }⟩
  zone := india

/-- Arrivals from a moment on. -/
def since {V : Type} (moment : V) : Block V where
  id := "root"
  filters := [{ id := "since", column := "arrival", predicate := .compare .gte (.value moment) }]

end Sample

open Sample

/-- A leap second that is told in UTC looks the same after it was stored in the time of India. -/
theorem Block.leapSecond_looks_same :
    (since (.text "2016-12-31t23:59:60z")).toForm visits india =
        .ok (since (.picked (.dateTime leapSecond))) ∧
      ∃ stored, (since (.picked (.dateTime leapSecond))).fromForm visits india = .ok stored ∧
        stored.summary visits ⟨india, {}⟩ =
          (since (.text "2016-12-31t23:59:60z")).summary visits ⟨india, {}⟩ := by
  have named : Timezone.parse? "+05:30" = some india := by decide
  have made : (since (.text "2016-12-31t23:59:60z")).toForm visits india =
      .ok (since (.picked (.dateTime leapSecond))) := rfl
  have read : TemporalValue.parse "2016-12-31t23:59:60z" .dateTime india =
      .ok (.dateTime leapSecond) := rfl
  refine ⟨made, summary_fromForm_toForm named made ?_ {}⟩
  rintro kind text ⟨filter, inside, known, operand⟩ value parsed
  cases List.mem_singleton.mp inside
  cases known
  cases List.mem_singleton.mp operand
  cases read.symm.trans parsed
  constructor <;> decide

end DashboardFilters
