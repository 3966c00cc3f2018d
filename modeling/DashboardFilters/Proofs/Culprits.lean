import DashboardFilters.Proofs.Compile.Isolation
import DashboardFilters.Proofs.Form.Editing

namespace DashboardFilters

open Outcome (bind_eq_error_iff exists_of_mapM_eq_error)

/-- A missing column is named by the failure to find it. -/
theorem Dataset.column_of_lookup_error {dataset : Dataset} {name : String} {failure : Failure}
    (fails : dataset.lookup name = .error failure) : failure.column = some name := by
  unfold lookup at fails
  split at fails
  · cases fails
  · cases fails
    rfl

section Forms

variable {V W : Type} {codec : Codec V W} {dataset : Dataset} {failure : Failure}

/-- Whatever keeps the value of a selector from being converted, the failure names its column. -/
theorem Selector.column_of_convert_error {selector : Selector V}
    (fails : selector.convert codec dataset = .error failure) :
    failure.column = some selector.column := by
  rcases bind_eq_error_iff.mp fails with missing | ⟨column, -, refused⟩
  · exact Dataset.column_of_lookup_error missing
  · split at refused
    · cases refused
    · cases refused
      rfl

end Forms

/-- A period without an interval fails without a column. -/
theorem RelativePeriod.column_of_resolve_error {relative : RelativePeriod} {now : Calendar.Instant}
    {failure : Failure} (fails : relative.resolve now = .error failure) :
    failure.column = none := by
  have shifting {forward : Bool} {other : Failure}
      (refused : relative.shifted forward now = .error other) : other.column = none := by
    unfold shifted at refused
    split at refused
    · cases refused
    · cases refused
      rfl
  unfold resolve at fails
  split at fails
  · rcases bind_eq_error_iff.mp fails with refused | ⟨_, -, ⟨⟩⟩
    exact shifting refused
  · rcases bind_eq_error_iff.mp fails with refused | ⟨_, -, ⟨⟩⟩
    exact shifting refused
  · cases fails
    rfl

/-- A list with an item that is no number fails with the name of its column. -/
theorem Column.column_of_splitList_error {column : Column} {typed : String} {failure : Failure}
    (fails : column.splitList typed = .error failure) : failure.column = some column.name := by
  unfold splitList at fails
  split at fails
  · rcases bind_eq_error_iff.mp fails with items | ⟨_, -, ⟨⟩⟩
    obtain ⟨item, -, refused⟩ := exists_of_mapM_eq_error items
    unfold numericItem at refused
    split at refused
    · cases refused
    · cases refused
      rfl
  · cases fails

/-- Whether a predicate asks, of a temporal column, for a period that has no interval as seen from
now: it leaves the range of dates, or has no relation to now. -/
def Predicate.lacksInterval (column : Column) (context : Context) : Predicate Value → Bool
  | .between (.relative relative) =>
      column.temporalKind?.isSome && !(relative.resolve context.localNow).isOk
  | _ => false

/-- Whether a filter is on a column of the dataset and asks there for a period without an
interval. -/
def Filter.lacksInterval (dataset : Dataset) (context : Context) (filter : Filter Value) : Bool :=
  (dataset.column? filter.column).any (filter.predicate.lacksInterval · context)

variable {dataset : Dataset} {context : Context} {failure : Failure}

/-- The bounds of a period fail with the name of the column where periods make no sense, and without
a name where the period has no interval. -/
theorem Column.column_of_resolvePeriod_error {column : Column} {relative : RelativePeriod}
    (fails : column.resolvePeriod relative context = .error failure) :
    failure.column =
      if Predicate.lacksInterval column context (.between (.relative relative)) then none
      else some column.name := by
  unfold resolvePeriod at fails
  cases temporal : column.temporalKind? with
  | none =>
      rw [temporal] at fails
      cases fails
      rw [Predicate.lacksInterval, temporal]
      rfl
  | some kind =>
      rw [temporal] at fails
      rcases bind_eq_error_iff.mp fails with refused | ⟨_, -, ⟨⟩⟩
      rw [Predicate.lacksInterval, temporal, refused]
      exact RelativePeriod.column_of_resolve_error refused

/-- The value of a predicate fails with the name of the column, unless a period has no interval. -/
theorem Predicate.column_of_resolve_error {column : Column} {predicate : Predicate Value}
    (fails : (predicate.resolve column context).result = .error failure) :
    failure.column =
      if predicate.lacksInterval column context then none else some column.name := by
  cases predicate with
  | isNull | isNotNull => cases fails
  | compare op operand =>
      rw [resolve, operand.resolve_eq] at fails
      cases fails
  | list op typed => exact Column.column_of_splitList_error fails
  | between range =>
      cases range with
      | relative => exact Column.column_of_resolvePeriod_error fails
      | fixed left right =>
          rw [resolve, left.resolve_eq, right.resolve_eq] at fails
          cases fails

/-- A filter on its own fails with the name of its column, unless its period has no interval. -/
theorem Filter.column_of_outcome_error {filter : Filter Value}
    (fails : (filter.outcome dataset context).result = .error failure) :
    failure.column =
      if filter.lacksInterval dataset context then none else some filter.column := by
  unfold Filter.lacksInterval
  cases found : dataset.column? filter.column with
  | none =>
      have missing : dataset.lookup filter.column = .error (.columnNotFound filter.column) := by
        rw [Dataset.lookup, found]
      rw [outcome, missing] at fails
      cases fails
      rfl
  | some column =>
      have known : dataset.lookup filter.column = .ok column := by
        rw [Dataset.lookup, found]
      rw [outcome_of_lookup known] at fails
      rw [Option.any_some, ← Dataset.name_of_column? found]
      exact Predicate.column_of_resolve_error fails

namespace Block

/-- Every failure of a tree is that of one of its filters on its own. Where the values of a tree are
converted, it names the column of that filter. Where a tree is compiled, it does so too, but for a
filter that asks for a relative period without an interval: then it names no column. -/
theorem failure_names_column (dataset : Dataset) (timezone : Timezone) (context : Context) :
    (∀ block failure, toForm dataset timezone block = .error failure →
      ∃ filter ∈ block.allFilters,
        filter.selector.convert (.toForm timezone) dataset = .error failure ∧
        failure.column = some filter.column) ∧
    (∀ block failure, fromForm dataset timezone block = .error failure →
      ∃ filter ∈ block.allFilters,
        filter.selector.convert (.fromForm timezone) dataset = .error failure ∧
        failure.column = some filter.column) ∧
    ∀ block failure, (compile dataset context block).result = .error failure →
      ∃ filter ∈ block.allFilters, filter.alone dataset context = .error failure ∧
        failure.column =
          if filter.lacksInterval dataset context then none else some filter.column := by
  refine ⟨?toForm, ?fromForm, ?compile⟩
  case toForm =>
    intro block failure fails
    obtain ⟨filter, inside, alone⟩ := exists_of_convert_error block fails
    exact ⟨filter, inside, alone, Selector.column_of_convert_error alone⟩
  case fromForm =>
    intro block failure fails
    obtain ⟨filter, inside, alone⟩ := exists_of_convert_error block fails
    exact ⟨filter, inside, alone, Selector.column_of_convert_error alone⟩
  case compile =>
    intro block failure fails
    obtain ⟨before, filter, after, split, -, alone⟩ := result_compile_eq_error_iff.mp fails
    have inside : filter ∈ block.allFilters := by
      rw [← (compileOrder_perm block).mem_iff, split]
      exact List.mem_append_right _ List.mem_cons_self
    exact ⟨filter, inside, Filter.alone_error_iff.mpr alone, Filter.column_of_outcome_error alone⟩

end Block

namespace Sample

/-- A tree with a text that is no instant, below a filter that resolves. -/
def undated : Block Value where
  id := "root"
  filters := [{ id := "any", column := "arrival", predicate := .isNotNull }]
  blocks := [{
    id := "inner"
    filters := [
      { id := "soon", column := "arrival", predicate := .compare .eq (.value (.text "soon")) }] }]

/-- The form of a tree with a time where an instant is stored. -/
def untimely : Block FormValue where
  id := "root"
  filters := [
    { id := "noon", column := "arrival",
      predicate := .compare .eq (.value (.picked (.time .midnight))) }]

/-- A tree that asks for more years than there are. -/
def distant : Block Value where
  id := "root"
  filters := [
    { id := "ever", column := "arrival",
      predicate := .between (.relative ⟨.last, .year, 4294967295⟩) }]

end Sample

open Sample

/-- A text that is no instant, a time where an instant is stored, and a period on a column of numbers are
failures that name the column. -/
theorem Block.samples_name_column :
    (∃ failure, toForm visits .utc undated = .error failure ∧
      ∃ filter ∈ undated.allFilters, failure.column = some filter.column) ∧
    (∃ failure, fromForm visits .utc untimely = .error failure ∧
      ∃ filter ∈ untimely.allFilters, failure.column = some filter.column) ∧
    ∃ failure, (compile orders {} jumbled).result = .error failure ∧
      ∃ filter ∈ jumbled.allFilters, filter.alone orders {} = .error failure ∧
        failure.column = if filter.lacksInterval orders {} then none else some filter.column := by
  obtain ⟨opens, saves, -⟩ := failure_names_column visits .utc {}
  obtain ⟨-, -, compiles⟩ := failure_names_column orders .utc {}
  refine ⟨⟨_, rfl, ?_⟩, ⟨_, rfl, ?_⟩, ⟨_, rfl, compiles jumbled _ rfl⟩⟩
  · obtain ⟨filter, inside, -, named⟩ := opens undated _ rfl
    exact ⟨filter, inside, named⟩
  · obtain ⟨filter, inside, -, named⟩ := saves untimely _ rfl
    exact ⟨filter, inside, named⟩

/-- More years than there are make a tree fail without a column. -/
theorem Block.distant_names_none :
    (distant.compile visits {}).result = .error (Failure.illegalArgument
        "last 4294967295 Year is out of range") ∧
      (Failure.illegalArgument "last 4294967295 Year is out of range").column = none :=
  ⟨rfl, rfl⟩

end DashboardFilters
