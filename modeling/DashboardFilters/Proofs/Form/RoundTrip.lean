import DashboardFilters.Proofs.Calendar.Iso
import DashboardFilters.Proofs.Form.Leaves
import DashboardFilters.Tree.Edit

namespace DashboardFilters

open Outcome

variable {timezone opened saved : Timezone} {dataset : Dataset}

/-- A text that is compared as a date or time becomes the ISO text of what it stands for. -/
def Value.inIso (timezone : Timezone) : Option TemporalKind → Value → Value
  | some kind, .text written =>
      match TemporalValue.parse written kind timezone with
      | .ok parsed => .text parsed.iso
      | .error _ => .text written
  | _, value => value

/-- Expressions stay as they are. -/
def Operand.inIso (timezone : Timezone) (kind : Option TemporalKind) :
    Operand Value → Operand Value
  | .value picked => .value (picked.inIso timezone kind)
  | .manual expression => .manual expression

/-- Operands of comparisons for equality and order and the bounds of fixed ranges change; lists,
relative periods and the other comparisons stay as they are. -/
def Predicate.inIso (timezone : Timezone) (kind : Option TemporalKind) :
    Predicate Value → Predicate Value
  | .compare op operand =>
      .compare op (if op.isSingleValueComparison then operand.inIso timezone kind else operand)
  | .between (.fixed left right) =>
      .between (.fixed (left.inIso timezone kind) (right.inIso timezone kind))
  | predicate => predicate

/-- The form in which the column of a name is compared, if it is temporal. -/
def Dataset.kindOf? (dataset : Dataset) (name : String) : Option TemporalKind :=
  (dataset.column? name).bind Column.temporalKind?

theorem Dataset.kindOf?_of_column {name : String} {column : Column}
    (found : dataset.column? name = some column) : dataset.kindOf? name = column.temporalKind? := by
  rw [kindOf?, found, Option.bind_some]

/-- Nothing but the predicate of a filter changes. -/
def Filter.inIso (dataset : Dataset) (timezone : Timezone) (filter : Filter Value) : Filter Value :=
  { filter with predicate := filter.predicate.inIso timezone (dataset.kindOf? filter.column) }

/-- The tree with the ISO texts of its dates and times. -/
def Block.inIso (dataset : Dataset) (timezone : Timezone) (block : Block Value) : Block Value :=
  block.mapFilters (List.map (Filter.inIso dataset timezone))

/-- The operands that are compared with the column of the predicate. -/
def Predicate.comparedOperands {V : Type} : Predicate V → List (Operand V)
  | .compare op operand => if op.isSingleValueComparison then [operand] else []
  | .between (.fixed left right) => [left, right]
  | _ => []

/-- Whether a picked text is compared with the temporal column of a filter. -/
def Filter.Compares (dataset : Dataset) (filter : Filter Value) (kind : TemporalKind)
    (text : String) : Prop :=
  dataset.kindOf? filter.column = some kind ∧
    .value (.text text) ∈ filter.predicate.comparedOperands

/-- Whether a picked text is compared with a temporal column in a tree. -/
def Block.Compares (dataset : Dataset) (block : Block Value) (kind : TemporalKind)
    (text : String) : Prop :=
  ∃ filter ∈ block.allFilters, filter.Compares dataset kind text

/-- The value with its instant told in a timezone; dates and times belong to none. -/
def TemporalValue.toldIn (timezone : Timezone) : TemporalValue → TemporalValue
  | .dateTime instant => .dateTime (instant.inZone timezone)
  | value => value

/-- A text that is compared as a date or time and read in one timezone becomes the ISO text of what
it stands for, told in another one. -/
def Value.retold (opened saved : Timezone) : Option TemporalKind → Value → Value
  | some kind, .text written =>
      match TemporalValue.parse written kind opened with
      | .ok parsed => .text (parsed.toldIn saved).iso
      | .error _ => .text written
  | _, value => value

/-- Expressions stay as they are. -/
def Operand.retold (opened saved : Timezone) (kind : Option TemporalKind) :
    Operand Value → Operand Value
  | .value picked => .value (picked.retold opened saved kind)
  | .manual expression => .manual expression

/-- The operands that are compared with the column of the predicate change. -/
def Predicate.mapCompared {V : Type} (change : Operand V → Operand V) : Predicate V → Predicate V
  | .compare op operand =>
      .compare op (if op.isSingleValueComparison then change operand else operand)
  | .between (.fixed left right) => .between (.fixed (change left) (change right))
  | predicate => predicate

/-- Nothing but the compared operands of a filter changes. -/
def Filter.retold (dataset : Dataset) (opened saved : Timezone) (filter : Filter Value) :
    Filter Value :=
  { filter with
    predicate := filter.predicate.mapCompared
      (Operand.retold opened saved (dataset.kindOf? filter.column)) }

namespace TemporalValue

/-- What is read in a timezone is told in it. -/
theorem toldIn_of_parse {text : String} {kind : TemporalKind} {value : TemporalValue}
    (known : parse text kind timezone = .ok value) : value.toldIn timezone = value := by
  obtain ⟨-, day, -, rfl⟩ | ⟨-, clock, -, rfl⟩ | ⟨-, instant, read, rfl⟩ := cases_of_parse known
  · rfl
  · rfl
  · obtain rfl := zone_of_parseInstant read
    rfl

/-- What is read for a column is stored in it as its ISO text in the timezone at that time. -/
theorem storedAs_of_parse {text : String} {kind : TemporalKind} {value : TemporalValue}
    (known : parse text kind opened = .ok value) :
    value.storedAs saved kind = .ok (value.toldIn saved).iso := by
  obtain ⟨rfl, day, -, rfl⟩ | ⟨rfl, clock, -, rfl⟩ | ⟨rfl, instant, -, rfl⟩ := cases_of_parse known
  · rfl
  · rfl
  · rfl

end TemporalValue

/-- A value that was made for a form is stored as its ISO text. -/
theorem Codec.fromForm_temporal {kind : TemporalKind} {value : Value} {picked : FormValue}
    (made : (Codec.toForm opened).temporal value kind = .ok picked) :
    (Codec.fromForm saved).temporal picked kind =
      .ok (value.retold opened saved (some kind)) := by
  cases value with
  | null =>
      cases made
      rfl
  | text written =>
      obtain ⟨parsed, read, rfl⟩ := map_eq_ok_iff.mp made
      have stored : parsed.storedAs saved kind = .ok (parsed.toldIn saved).iso :=
        TemporalValue.storedAs_of_parse read
      simp only [Codec.fromForm, stored, Value.retold, read]
      rfl
  | bool | int | float | list | json | withheld => cases made

/-- Without a kind nothing changes. -/
theorem Operand.inIso_none (operand : Operand Value) : operand.inIso timezone none = operand := by
  cases operand <;> rfl

/-- Without a kind nothing changes. -/
theorem Operand.retold_none (operand : Operand Value) :
    operand.retold opened saved none = operand := by
  cases operand <;> rfl

/-- An operand that was made for a form is stored with its ISO text. -/
theorem Operand.fromForm_convert {kind : Option TemporalKind} {operand : Operand Value}
    {edited : Operand FormValue} (made : operand.convert (.toForm opened) kind = .ok edited) :
    edited.convert (.fromForm saved) kind = .ok (operand.retold opened saved kind) := by
  cases operand with
  | manual expression =>
      cases made
      rfl
  | value picked =>
      cases kind with
      | none =>
          cases made
          rfl
      | some kind =>
          obtain ⟨value, step, rfl⟩ := map_eq_ok_iff.mp made
          exact map_eq_ok_iff.mpr ⟨_, Codec.fromForm_temporal step, rfl⟩

/-- A predicate that was made for a form is stored with its ISO texts. -/
theorem Predicate.fromForm_convert {column : Column} {predicate : Predicate Value}
    {edited : Predicate FormValue} (made : predicate.convert (.toForm opened) column = .ok edited) :
    edited.convert (.fromForm saved) column =
      .ok (predicate.mapCompared (Operand.retold opened saved column.temporalKind?)) := by
  cases predicate with
  | isNull | isNotNull =>
      cases made
      rfl
  | list op values =>
      cases made
      rfl
  | compare op operand =>
      obtain ⟨target, step, rfl⟩ := map_eq_ok_iff.mp made
      refine map_eq_ok_iff.mpr ⟨_, Operand.fromForm_convert step, ?_⟩
      rw [Predicate.mapCompared]
      split
      next => rfl
      next => rw [Operand.retold_none]
  | between range =>
      cases range with
      | relative span =>
          cases made
          rfl
      | fixed left right =>
          obtain ⟨low, first, made⟩ := bind_eq_ok_iff.mp made
          obtain ⟨high, second, ⟨⟩⟩ := bind_eq_ok_iff.mp made
          refine bind_eq_ok_iff.mpr ⟨_, Operand.fromForm_convert first, ?_⟩
          exact bind_eq_ok_iff.mpr ⟨_, Operand.fromForm_convert second, rfl⟩

/-- Where the timezone does not change, a text becomes the ISO text of what it stands for in it. -/
theorem Value.retold_self (kind : Option TemporalKind) (value : Value) :
    value.retold timezone timezone kind = value.inIso timezone kind := by
  cases kind with
  | none => rfl
  | some kind =>
      cases value with
      | text written =>
          rw [retold, inIso]
          split
          next read => rw [TemporalValue.toldIn_of_parse read]
          next => rfl
      | null | bool | int | float | list | json | withheld => rfl

theorem Operand.retold_self (kind : Option TemporalKind) :
    Operand.retold timezone timezone kind = Operand.inIso timezone kind := by
  funext operand
  cases operand with
  | manual => rfl
  | value picked => rw [retold, inIso, Value.retold_self]

/-- The compared operands of a predicate get the ISO texts of their kind. -/
theorem Predicate.mapCompared_inIso (kind : Option TemporalKind) (predicate : Predicate Value) :
    predicate.mapCompared (Operand.inIso timezone kind) = predicate.inIso timezone kind := by
  cases predicate with
  | isNull | isNotNull | compare | list => rfl
  | between range => cases range <;> rfl

namespace Filter

/-- A filter that was made for a form in one timezone is stored in another one with its ISO texts
there. -/
theorem fromForm_retold (filter : Filter Value) (edited : Filter FormValue)
    (made : filter.convert (.toForm opened) dataset = .ok edited) :
    edited.convert (.fromForm saved) dataset = .ok (filter.retold dataset opened saved) := by
  obtain ⟨column, predicate, found, step, rfl⟩ := convert_eq_ok_iff.mp made
  apply convert_eq_ok_iff.mpr
  refine ⟨column, _, found, Predicate.fromForm_convert step, ?_⟩
  rw [retold, Dataset.kindOf?_of_column found]

/-- A filter that was made for a form is stored with its ISO texts. -/
theorem fromForm_convert (filter : Filter Value) (edited : Filter FormValue)
    (made : filter.convert (.toForm timezone) dataset = .ok edited) :
    edited.convert (.fromForm timezone) dataset = .ok (filter.inIso dataset timezone) := by
  rw [fromForm_retold filter edited made, retold, Operand.retold_self, Predicate.mapCompared_inIso,
    inIso]

end Filter

namespace Block

variable {V W : Type}

mutual

/-- Converting every filter there and back converts the tree there and back. -/
theorem convert_convert {there : Codec V W} {back : Codec W V} {change : Filter V → Filter V}
    (follows : ∀ (filter : Filter V) (edited : Filter W),
      filter.convert there dataset = .ok edited →
        edited.convert back dataset = .ok (change filter)) :
    ∀ (block : Block V) (edited : Block W), block.convert there dataset = .ok edited →
      edited.convert back dataset = .ok (block.mapFilters (List.map change))
  | ⟨id, op, filters, blocks⟩, edited, made => by
      unfold convert at made
      obtain ⟨editedFilters, ownMade, made⟩ := bind_eq_ok_iff.mp made
      obtain ⟨editedBlocks, blocksMade, ⟨⟩⟩ := bind_eq_ok_iff.mp made
      rw [convert, mapFilters]
      refine bind_eq_ok_iff.mpr ⟨_, mapM_mapM follows ownMade, ?_⟩
      exact bind_eq_ok_iff.mpr ⟨_, convertList_convertList follows blocks _ blocksMade, rfl⟩

theorem convertList_convertList {there : Codec V W} {back : Codec W V}
    {change : Filter V → Filter V}
    (follows : ∀ (filter : Filter V) (edited : Filter W),
      filter.convert there dataset = .ok edited →
        edited.convert back dataset = .ok (change filter)) :
    ∀ (blocks : List (Block V)) (edited : List (Block W)),
      convertList there dataset blocks = .ok edited →
        convertList back dataset edited = .ok (mapFiltersIn (List.map change) blocks)
  | [], edited, made => by
      unfold convertList at made
      cases made
      rfl
  | block :: rest, edited, made => by
      unfold convertList at made
      obtain ⟨first, firstMade, made⟩ := bind_eq_ok_iff.mp made
      obtain ⟨others, othersMade, ⟨⟩⟩ := bind_eq_ok_iff.mp made
      rw [convertList, mapFiltersIn]
      refine bind_eq_ok_iff.mpr ⟨_, convert_convert follows block first firstMade, ?_⟩
      exact bind_eq_ok_iff.mpr ⟨_, convertList_convertList follows rest others othersMade, rfl⟩

end

mutual

/-- A tree stays as it is when its filters do. -/
theorem mapFilters_of_fixed {change : Filter V → Filter V} : ∀ block : Block V,
    (∀ filter ∈ block.allFilters, change filter = filter) → block.mapFilters (List.map change) = block
  | ⟨id, op, filters, blocks⟩, fixed => by
      rw [allFilters, List.forall_mem_append] at fixed
      rw [mapFilters, List.map_congr_left fixed.1, List.map_id',
        mapFiltersIn_of_fixed blocks fixed.2]

theorem mapFiltersIn_of_fixed {change : Filter V → Filter V} : ∀ blocks : List (Block V),
    (∀ filter ∈ allFiltersIn blocks, change filter = filter) →
      mapFiltersIn (List.map change) blocks = blocks
  | [], _ => rfl
  | block :: rest, fixed => by
      rw [allFiltersIn, List.forall_mem_append] at fixed
      rw [mapFiltersIn, mapFilters_of_fixed block fixed.1, mapFiltersIn_of_fixed rest fixed.2]

end

end Block

namespace Predicate

variable {V W : Type} {codec : Codec V W} {column : Column}

/-- The compared operands of a predicate that is converted are converted. -/
theorem exists_of_convert {predicate : Predicate V} {target : Predicate W}
    (made : predicate.convert codec column = .ok target) :
    ∀ operand ∈ predicate.comparedOperands,
      ∃ edited, operand.convert codec column.temporalKind? = .ok edited := by
  intro operand member
  cases predicate with
  | isNull | isNotNull | list => exact absurd member List.not_mem_nil
  | compare op other =>
      obtain ⟨edited, step, -⟩ := map_eq_ok_iff.mp made
      rw [comparedOperands] at member
      split at member
      next single =>
        obtain rfl := List.mem_singleton.mp member
        rw [if_pos single] at step
        exact ⟨edited, step⟩
      next => exact absurd member List.not_mem_nil
  | between range =>
      cases range with
      | relative => exact absurd member List.not_mem_nil
      | fixed left right =>
          obtain ⟨low, first, made⟩ := bind_eq_ok_iff.mp made
          obtain ⟨high, second, -⟩ := bind_eq_ok_iff.mp made
          rcases List.mem_pair.mp member with rfl | rfl
          · exact ⟨low, first⟩
          · exact ⟨high, second⟩

/-- A predicate stays as it is when its compared operands do. -/
theorem inIso_of_fixed {kind : Option TemporalKind} {predicate : Predicate Value}
    (fixed : ∀ operand ∈ predicate.comparedOperands, operand.inIso timezone kind = operand) :
    predicate.inIso timezone kind = predicate := by
  cases predicate with
  | isNull | isNotNull | list => rfl
  | compare op operand =>
      rw [inIso]
      split
      next single =>
        rw [comparedOperands, if_pos single] at fixed
        rw [fixed operand List.mem_cons_self]
      next => rfl
  | between range =>
      cases range with
      | relative => rfl
      | fixed left right =>
          have low := fixed left List.mem_cons_self
          have high := fixed right (List.mem_cons_of_mem left List.mem_cons_self)
          rw [inIso, low, high]

end Predicate

namespace Filter

/-- The compared texts of a filter that is converted to a form are read. -/
theorem parse_of_convert {filter : Filter Value} {edited : Filter FormValue} {kind : TemporalKind}
    {text : String} (made : filter.convert (.toForm timezone) dataset = .ok edited)
    (compared : filter.Compares dataset kind text) :
    ∃ value, TemporalValue.parse text kind timezone = .ok value := by
  obtain ⟨known, member⟩ := compared
  obtain ⟨column, predicate, found, step, -⟩ := convert_eq_ok_iff.mp made
  rw [Dataset.kindOf?_of_column found] at known
  obtain ⟨operand, converted⟩ := Predicate.exists_of_convert step _ member
  rw [known] at converted
  obtain ⟨picked, read, -⟩ := map_eq_ok_iff.mp converted
  obtain ⟨value, parsed, -⟩ := map_eq_ok_iff.mp read
  exact ⟨value, parsed⟩

/-- A filter stays as it is when its compared texts are ISO texts. -/
theorem inIso_of_isIso {filter : Filter Value} (full : timezone.seconds % 60 = 0)
    (canonical : ∀ kind text, filter.Compares dataset kind text → kind.IsIso timezone text) :
    filter.inIso dataset timezone = filter := by
  have fixed : ∀ operand ∈ filter.predicate.comparedOperands,
      operand.inIso timezone (dataset.kindOf? filter.column) = operand := by
    intro operand member
    cases known : dataset.kindOf? filter.column with
    | none => exact operand.inIso_none
    | some kind =>
        cases operand with
        | manual => rfl
        | value picked =>
            cases picked with
            | text written =>
                have isIso := canonical kind written ⟨known, member⟩
                obtain ⟨value, read, same⟩ := TemporalValue.iso_of_isIso full isIso
                simp only [Operand.inIso, Value.inIso, read, same]
            | null | bool | int | float | list | json | withheld => rfl
  rw [inIso, Predicate.inIso_of_fixed fixed]

end Filter

/-- Storing the form of a stored tree succeeds and changes nothing but the texts that are compared
with temporal columns: all of them are read, and each becomes the ISO text of what it stands for.
Where they are ISO texts before, the tree itself is stored. -/
theorem Block.fromForm_toForm {name : String} (named : Timezone.parse? name = some timezone)
    {block : Block Value} {form : Block FormValue}
    (made : block.toForm dataset timezone = .ok form) :
    form.fromForm dataset timezone = .ok (block.inIso dataset timezone) ∧
      (∀ kind text, block.Compares dataset kind text →
        ∃ value, TemporalValue.parse text kind timezone = .ok value) ∧
      ((∀ kind text, block.Compares dataset kind text → kind.IsIso timezone text) →
        form.fromForm dataset timezone = .ok block) := by
  have stored : form.fromForm dataset timezone = .ok (block.inIso dataset timezone) :=
    convert_convert Filter.fromForm_convert block form made
  refine ⟨stored, ?_, ?_⟩
  · rintro kind text ⟨filter, member, compared⟩
    obtain ⟨edited, converted⟩ :=
      exists_of_forall₂ (forall₂_of_convert block form made) filter member
    exact Filter.parse_of_convert converted compared
  · intro canonical
    have full := Timezone.minutes_of_parse named
    have same : block.inIso dataset timezone = block := by
      apply mapFilters_of_fixed block
      intro filter member
      apply Filter.inIso_of_isIso full
      intro kind text compared
      exact canonical kind text ⟨filter, member, compared⟩
    rw [stored, same]

namespace Sample

/-- Visits with the moment of the arrival. -/
def visits : Dataset where
  name := "visits"
  columns := [{ name := "arrival", type := .timestamp }]
  distinct := by decide

/-- Five hours and a half east of UTC. -/
def india : Timezone where
  seconds := 19800

def tenth : Calendar.IsoDate where
  year := ['2', '0', '2', '4']
  month := ['0', '3']
  day := ['1', '0']
  yearRow := ⟨rfl, List.all_eq_true.mp rfl⟩
  monthRow := ⟨rfl, List.all_eq_true.mp rfl⟩
  dayRow := ⟨rfl, List.all_eq_true.mp rfl⟩
  valid := by decide

def midnight : Calendar.IsoTime where
  hour := ['0', '0']
  minute := ['0', '0']
  second := ['0', '0']
  hourRow := ⟨rfl, List.all_eq_true.mp rfl⟩
  minuteRow := ⟨rfl, List.all_eq_true.mp rfl⟩
  secondRow := ⟨rfl, List.all_eq_true.mp rfl⟩
  hours := by decide
  minutes := by decide
  seconds := by decide

/-- Arrivals between a moment and an expression, below a block without filters. -/
def arrivals {V : Type} (moment : V) : Block V where
  id := "root"
  blocks := [{
    id := "stay"
    op := .or
    filters := [⟨"range", "arrival", false, .between (.fixed (.value moment) (.manual "now"))⟩] }]

/-- The sample is converted when its text is read. -/
theorem toForm_arrivals {text : String} {value : TemporalValue}
    (read : TemporalValue.parse text .dateTime india = .ok value) :
    (arrivals (.text text)).toForm visits india = .ok (arrivals (.picked value)) := by
  have operand : Operand.convert (.toForm india) (some .dateTime) (.value (.text text)) =
      .ok (.value (.picked value)) := by
    simp only [Operand.convert, Codec.toForm, read]
    rfl
  have predicate : Predicate.convert (.toForm india) { name := "arrival", type := .timestamp }
      (.between (.fixed (.value (.text text)) (.manual "now"))) =
        .ok (.between (.fixed (.value (.picked value)) (.manual "now"))) := by
    simp only [Predicate.convert, Column.temporalKind?, Option.getD_none, operand]
    rfl
  have filter : Filter.convert (.toForm india) visits ⟨"range", "arrival", false,
      .between (.fixed (.value (.text text)) (.manual "now"))⟩ = .ok ⟨"range", "arrival", false,
      .between (.fixed (.value (.picked value)) (.manual "now"))⟩ :=
    Filter.convert_eq_ok_iff.mpr ⟨_, _, rfl, predicate, rfl⟩
  simp only [arrivals, Block.toForm, Block.convert, Block.convertList, List.mapM_cons, filter]
  rfl

end Sample

open Sample

/-- A date is stored as the instant of its midnight, and the text of that instant comes back. -/
theorem Block.arrivals_fromForm :
    (∃ form, (arrivals (.text "2024-03-10")).toForm visits india = .ok form ∧
      form.fromForm visits india = .ok (arrivals (.text "2024-03-10T00:00:00+05:30"))) ∧
    ∃ form, (arrivals (.text "2024-03-10T00:00:00+05:30")).toForm visits india = .ok form ∧
      form.fromForm visits india = .ok (arrivals (.text "2024-03-10T00:00:00+05:30")) := by
  have named : Timezone.parse? "+05:30" = some india := by decide
  have full : india.seconds % 60 = 0 := rfl
  have kind : visits.kindOf? "arrival" = some .dateTime := rfl
  have written : "2024-03-10T00:00:00+05:30" =
      String.ofList (tenth.chars ++ 'T' :: midnight.chars ++ india.offsetText.toList) := rfl
  constructor
  · have found : TemporalValue.parseInstant? "2024-03-10" india =
        some (tenth.instant midnight india) := by decide
    have trimmed : Text.trim "2024-03-10" = "2024-03-10" := by decide
    have read := TemporalValue.parse_of_parseInstant trimmed found
    have stored := (Block.fromForm_toForm named (toForm_arrivals read)).1
    refine ⟨_, toForm_arrivals read, stored.trans ?_⟩
    simp only [arrivals, inIso, mapFilters, mapFiltersIn, List.map_cons, List.map_nil,
      Filter.inIso, kind, Predicate.inIso, Operand.inIso, Value.inIso, read, TemporalValue.iso,
      Calendar.IsoDate.iso_instant tenth midnight full, written]
  · have read : TemporalValue.parse "2024-03-10T00:00:00+05:30" .dateTime india =
        .ok (.dateTime (tenth.instant midnight india)) := by
      rw [written]
      exact TemporalValue.parse_isoInstant full tenth midnight
    refine ⟨_, toForm_arrivals read, ?_⟩
    apply (Block.fromForm_toForm named (toForm_arrivals read)).2.2
    rintro other text ⟨filter, inside, known, operand⟩
    cases List.mem_singleton.mp inside
    cases kind.symm.trans known
    rcases List.mem_pair.mp operand with same | expression
    · cases same
      exact ⟨tenth, midnight, written⟩
    · cases expression

end DashboardFilters
