import DashboardFilters.Proofs.Compile.Layout
import DashboardFilters.Proofs.Compile.Reported

/-!
Compiling a tree is computing the value of each of its filters on its own and laying the values
out. Only the values can fail or report, in the order of the groups, a block before its sub-blocks.
-/

namespace DashboardFilters

def Filter.outcome (dataset : Dataset) (context : Context) (filter : Filter Value) :
    Reported Value := do
  let column ← .ofExcept (dataset.lookup filter.column)
  filter.predicate.resolve column context

/-- The value of a filter, or why there is none. -/
def Filter.resolved (dataset : Dataset) (context : Context) (filter : Filter Value) :
    Except Failure Value :=
  (filter.outcome dataset context).result

/-- The value of a filter where it has one. -/
def Filter.valueIn (dataset : Dataset) (context : Context) (filter : Filter Value) : Value :=
  (filter.outcome dataset context).value

/-- What computing the value of a filter fails with and reports. -/
def Filter.attempt (dataset : Dataset) (context : Context) (filter : Filter Value) :
    Reported PUnit :=
  (filter.outcome dataset context).effect

namespace Block

mutual

/-- The filters of a tree in the order in which their values are computed. -/
def compileOrder : Block Value → List (Filter Value)
  | ⟨_, _, filters, blocks⟩ => Groups.inOrder filters ++ compileOrderIn blocks

/-- The filters of some blocks in the order in which their values are computed. -/
def compileOrderIn : List (Block Value) → List (Filter Value)
  | [] => []
  | block :: rest => compileOrder block ++ compileOrderIn rest

end

/-- The filters of some blocks are computed block after block. -/
theorem compileOrderIn_eq (blocks : List (Block Value)) :
    compileOrderIn blocks = blocks.flatMap compileOrder := by
  induction blocks with
  | nil => rfl
  | cons block rest ih => rw [compileOrderIn, ih, List.flatMap_cons]

end Block

variable {dataset : Dataset} {context : Context}

/-- On a column of the dataset the value of a filter is that of its predicate. -/
theorem Filter.outcome_of_lookup {filter : Filter Value} {column : Column}
    (found : dataset.lookup filter.column = .ok column) :
    filter.outcome dataset context = filter.predicate.resolve column context := by
  rw [Filter.outcome, found]
  exact pure_bind column fun column => filter.predicate.resolve column context

/-- A filter on a missing column has no value and reports nothing. -/
theorem Filter.attempt_of_missing {filter : Filter Value} {failure : Failure}
    (missing : dataset.lookup filter.column = .error failure) :
    filter.attempt dataset context = ⟨.error failure, []⟩ := by
  rw [Filter.attempt, Filter.outcome, missing]
  rfl

theorem Filter.valueIn_of_resolved {filter : Filter Value} {value : Value}
    (resolved : filter.resolved dataset context = .ok value) :
    filter.valueIn dataset context = value :=
  Reported.value_of_result resolved

theorem Filter.resolved_ok_iff {filter : Filter Value} :
    filter.resolved dataset context = .ok (filter.valueIn dataset context) ↔
      ∃ value, (filter.outcome dataset context).result = .ok value := by
  constructor
  · intro resolved
    exact ⟨_, resolved⟩
  · rintro ⟨value, resolved⟩
    rw [Filter.valueIn_of_resolved resolved]
    exact resolved

namespace Expression

variable (filters : List (Filter Value))

theorem addOperator_eq {name : String} {column : Column} (operator : Operator)
    (found : dataset.lookup name = .ok column) (expression : Expression) :
    expression.addOperator column name context (operator, Groups.members name operator filters) =
      (do
        forM (Groups.members name operator filters) (Filter.attempt dataset context)
        return expression.addValues name operator
          ((Groups.members name operator filters).map (Filter.valueIn dataset context))) := by
  have own : ∀ filter ∈ Groups.members name operator filters,
      filter.predicate.resolve column context = filter.outcome dataset context := by
    intro filter inside
    have same := (Groups.mem_members.mp inside).2.1
    exact (Filter.outcome_of_lookup (same ▸ found)).symm
  have effects : forM (Groups.members name operator filters)
      (fun filter => (filter.predicate.resolve column context).effect) =
      forM (Groups.members name operator filters) (Filter.attempt dataset context) :=
    Reported.forM_congr fun filter inside => congrArg Reported.effect (own filter inside)
  have values : (Groups.members name operator filters).map
      (fun filter => (filter.predicate.resolve column context).value) =
      (Groups.members name operator filters).map (Filter.valueIn dataset context) :=
    List.map_congr_left fun filter inside => congrArg Reported.value (own filter inside)
  rw [addOperator, Reported.mapM_eq_forM_effect, effects, values]
  simp

theorem addColumn_eq {name : String} (inside : name ∈ Groups.columns filters)
    (expression : Expression) :
    expression.addColumn dataset context (name, (Groups.operatorsOn name filters).map
        fun operator => (operator, Groups.members name operator filters)) =
      (do
        forM (Groups.inColumn name filters) (Filter.attempt dataset context)
        return ((Groups.operatorsOn name filters).map fun operator =>
            (operator, Groups.members name operator filters)).foldl
          (fun expression group => expression.addValues name group.1
            (group.2.map (Filter.valueIn dataset context))) expression) := by
  cases found : dataset.lookup name with
  | error failure =>
      -- The first filter of the column already fails, for want of the column.
      obtain ⟨first, rest, filtersOn⟩ := List.exists_cons_of_ne_nil (Groups.inColumn_ne_nil inside)
      have missing : dataset.lookup first.column = .error failure := by
        rw [Groups.column_of_mem_inColumn (filtersOn ▸ List.mem_cons_self), found]
      rw [addColumn, found, filtersOn, List.forM_cons, Filter.attempt_of_missing missing]
      rfl
  | ok column =>
      have splits : ∀ group ∈ (Groups.operatorsOn name filters).map fun operator =>
          (operator, Groups.members name operator filters), ∀ expression : Expression,
          expression.addOperator column name context group = (do
            forM group.2 (Filter.attempt dataset context)
            return expression.addValues name group.1
              (group.2.map (Filter.valueIn dataset context))) := by
        intro group present expression
        obtain ⟨operator, _, rfl⟩ := List.mem_map.mp present
        exact addOperator_eq filters operator found expression
      rw [addColumn, found, Groups.inColumn, Reported.forM_flatMap]
      change List.foldlM _ _ _ = _
      rw [Reported.foldlM_eq_forM _ _ _ _ splits, List.forM_map]

end Expression

namespace Block

/-- Adding the filters of a block computes their values and lays them out. -/
theorem foldlM_addColumn (filters : List (Filter Value)) :
    (Groups.ofFilters filters).foldlM (Expression.addColumn dataset context) .start =
      (do
        forM (Groups.inOrder filters) (Filter.attempt dataset context)
        return Expression.level
          ((Groups.displaced filters).map (Filter.entry (Filter.valueIn dataset context)))
          (Expression.topConditions (Filter.valueIn dataset context) filters)) := by
  let group (name : String) : String × List (Operator × List (Filter Value)) :=
    (name, (Groups.operatorsOn name filters).map fun operator =>
      (operator, Groups.members name operator filters))
  have splits : ∀ name ∈ Groups.columns filters, ∀ expression : Expression,
      expression.addColumn dataset context (group name) = (do
        forM (Groups.inColumn name filters) (Filter.attempt dataset context)
        return (group name).2.foldl (fun expression group => expression.addValues name group.1
          (group.2.map (Filter.valueIn dataset context))) expression) :=
    fun name inside expression => Expression.addColumn_eq filters inside expression
  have laid := Expression.foldl_columns_level (Filter.valueIn dataset context) filters
    (Groups.nodup_columns filters) (fun _ present => present) [] [] (fun _ _ => List.not_mem_nil)
  rw [Groups.ofFilters_eq, List.foldlM_map, Reported.foldlM_eq_forM _ _ _ _ splits,
    Groups.inOrder, Reported.forM_flatMap]
  exact congrArg (fun built => do
    forM (Groups.columns filters) fun name =>
      forM (Groups.inColumn name filters) (Filter.attempt dataset context)
    return built) laid

mutual

/-- Compiling a block computes the values of its filters and lays them out. -/
theorem compile_eq (dataset : Dataset) (context : Context) : ∀ block : Block Value,
    block.compile dataset context = (do
      forM block.compileOrder (Filter.attempt dataset context)
      return block.layout (Filter.valueIn dataset context))
  | ⟨id, op, filters, blocks⟩ => by
      rw [compile, foldlM_addColumn, compileOrder, layout, List.forM_append]
      simp [compileInto_eq dataset context _ _ blocks]

/-- Compiling sub-blocks computes the values of their filters and adds what they come to. -/
theorem compileInto_eq (dataset : Dataset) (context : Context) (conjuncts : List Expression)
    (columns : List (String × Conditions)) : ∀ blocks : List (Block Value),
    compileInto dataset context (.level conjuncts columns) blocks = (do
      forM (compileOrderIn blocks) (Filter.attempt dataset context)
      return Expression.level
        (conjuncts ++ layoutMembers (Filter.valueIn dataset context) blocks) columns)
  | [] => by simp [compileInto, compileOrderIn, layoutMembers]
  | block :: rest => by
      have pushed (compiled : Expression) :
          (Expression.level conjuncts columns).pushAll (compiled.asMember block.op) =
            .level (conjuncts ++ [compiled.asMember block.op]) columns := rfl
      rw [compileInto, compile_eq dataset context block, compileOrderIn, List.forM_append,
        layoutMembers]
      simp [pushed, compileInto_eq dataset context _ _ rest]

end

mutual

/-- The filters whose values are computed are all filters of the tree, each once. -/
theorem compileOrder_perm : ∀ block : Block Value, block.compileOrder.Perm block.allFilters
  | ⟨id, op, filters, blocks⟩ => by
      rw [compileOrder, allFilters]
      exact (Groups.inOrder_perm filters).append (compileOrderIn_perm blocks)

theorem compileOrderIn_perm : ∀ blocks : List (Block Value),
    (compileOrderIn blocks).Perm (allFiltersIn blocks)
  | [] => .nil
  | block :: rest => by
      rw [compileOrderIn, allFiltersIn]
      exact (compileOrder_perm block).append (compileOrderIn_perm rest)

end

/-- Compiling succeeds exactly when every filter has a value, with the layout of the values. -/
theorem result_compile_eq_ok_iff {block : Block Value} {compiled : Expression} :
    (block.compile dataset context).result = .ok compiled ↔
      (∀ filter ∈ block.allFilters,
        filter.resolved dataset context = .ok (filter.valueIn dataset context)) ∧
      compiled = block.layout (Filter.valueIn dataset context) := by
  have succeeds := Reported.result_forM_effect_ok_iff (Filter.outcome dataset context)
    block.compileOrder
  simp only [← Filter.resolved_ok_iff, (compileOrder_perm block).mem_iff] at succeeds
  rw [compile_eq, Reported.result_bind, ← succeeds]
  change (forM block.compileOrder fun filter : Filter Value =>
    (filter.outcome dataset context).effect).result >>= _ = _ ↔ _
  cases (forM block.compileOrder fun filter : Filter Value =>
      (filter.outcome dataset context).effect).result with
  | error failure => simp [bind, Except.bind]
  | ok done => simp [bind, Except.bind, eq_comm]

end Block

end DashboardFilters
