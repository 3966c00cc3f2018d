import DashboardFilters.Proofs.Compile.Arrangement

namespace DashboardFilters

/-- The expression of a filter on its own, outside of its tree. -/
def Filter.alone (dataset : Dataset) (context : Context) (filter : Filter Value) :
    Except Failure Expression :=
  (filter.selector.compile dataset context).result

namespace Expression

mutual

/-- The conditions of an expression at every depth, its own before those of nested expressions. -/
def allConditions : Expression → List (String × Operator × Value)
  | ⟨all, any, negated, columns⟩ =>
      conditions ⟨none, none, none, columns⟩ ++ memberConditions all ++ memberConditions any ++
        negatedConditions negated

/-- The conditions of nested expressions, if there are any. -/
def memberConditions : Option (List Expression) → List (String × Operator × Value)
  | none => []
  | some members => listConditions members

def listConditions : List Expression → List (String × Operator × Value)
  | [] => []
  | member :: rest => allConditions member ++ listConditions rest

def negatedConditions : Option Expression → List (String × Operator × Value)
  | none => []
  | some inner => allConditions inner

end

theorem listConditions_append (first second : List Expression) :
    listConditions (first ++ second) = listConditions first ++ listConditions second := by
  induction first with
  | nil => simp [listConditions]
  | cons member rest ih => simp [listConditions, ih]

/-- The conditions of a block are its own and those of its conjuncts. -/
theorem allConditions_level (conjuncts : List Expression) (columns : List (String × Conditions)) :
    (level conjuncts columns).allConditions =
      (level conjuncts columns).conditions ++ listConditions conjuncts := by
  simp only [level, allConditions, memberConditions, negatedConditions, List.append_nil]
  rfl

/-- Being the only member of a `$or` keeps the conditions. -/
theorem allConditions_asMember (op : LogicalOp) (compiled : Expression) :
    (compiled.asMember op).allConditions = compiled.allConditions := by
  cases op with
  | and => rfl
  | or =>
      simp only [asMember, anyOf, allConditions, memberConditions, negatedConditions,
        listConditions, List.append_nil]
      rfl

/-- The conditions of single filters. -/
theorem listConditions_entries (value : Filter Value → Value) (filters : List (Filter Value)) :
    listConditions (filters.map (Filter.entry value)) = filters.map (Filter.condition value) := by
  induction filters with
  | nil => rfl
  | cons filter rest ih =>
      rw [List.map_cons, listConditions, ih, List.map_cons]
      rfl

end Expression

namespace Block

variable (value : Filter Value → Value)

mutual

/-- The layout of a tree has the condition of each filter once and no other condition. -/
theorem allConditions_layout_perm : ∀ block : Block Value,
    (block.layout value).allConditions.Perm (block.allFilters.map (Filter.condition value))
  | ⟨id, op, filters, blocks⟩ => by
      have own := (Groups.displaced_append_remaining_perm filters).map (Filter.condition value)
      have below := listConditions_layoutMembers_perm blocks
      rw [List.map_append] at own
      rw [layout, Expression.allConditions_level, Expression.conditions_level,
        Expression.listConditions_append, Expression.listConditions_entries, allFilters,
        List.map_append, ← List.append_assoc]
      exact (List.perm_append_comm.trans own).append below

/-- The layouts of some trees have the conditions of their filters. -/
theorem listConditions_layoutMembers_perm : ∀ blocks : List (Block Value),
    (Expression.listConditions (layoutMembers value blocks)).Perm
      ((allFiltersIn blocks).map (Filter.condition value))
  | [] => by
      rw [layoutMembers, Expression.listConditions, allFiltersIn, List.map_nil]
  | block :: rest => by
      rw [layoutMembers, Expression.listConditions, Expression.allConditions_asMember, allFiltersIn,
        List.map_append]
      exact (allConditions_layout_perm block).append (listConditions_layoutMembers_perm rest)

end

end Block

variable {dataset : Dataset} {context : Context}

/-- On its own, a filter comes to the expression of its condition, if it has a value. -/
theorem Filter.alone_eq (filter : Filter Value) :
    filter.alone dataset context =
      (filter.resolved dataset context).map (.entry filter.column filter.operator) := by
  rw [Filter.alone, Selector.compile, Filter.resolved, Filter.outcome, Reported.result_bind,
    Reported.result_bind]
  change (dataset.lookup filter.column >>= _) = _
  cases dataset.lookup filter.column with
  | error failure => rfl
  | ok column =>
      change ((filter.predicate.resolve column context) >>= _).result =
        Except.map _ (filter.predicate.resolve column context).result
      rw [Reported.result_bind]
      cases (filter.predicate.resolve column context).result with
      | error failure => rfl
      | ok value => rfl

/-- A filter compiles on its own exactly when it has a value. -/
theorem Filter.alone_ok_iff {filter : Filter Value} :
    (∃ entry, filter.alone dataset context = .ok entry) ↔
      ∃ value, (filter.outcome dataset context).result = .ok value := by
  rw [Filter.alone_eq]
  change _ ↔ ∃ value, filter.resolved dataset context = .ok value
  cases filter.resolved dataset context with
  | error failure => simp [Except.map]
  | ok value => simp [Except.map]

/-- A filter fails on its own exactly when it has no value, for the same reason. -/
theorem Filter.alone_error_iff {filter : Filter Value} {failure : Failure} :
    filter.alone dataset context = .error failure ↔
      (filter.outcome dataset context).result = .error failure := by
  rw [Filter.alone_eq]
  change _ ↔ filter.resolved dataset context = .error failure
  cases filter.resolved dataset context with
  | error other => simp [Except.map]
  | ok value => simp [Except.map]

namespace Block

/-- The result of compiling a tree is that of the pass over its filters. -/
theorem result_compile (block : Block Value) :
    (block.compile dataset context).result =
      (forM block.compileOrder (Filter.attempt dataset context)).result.map fun _ =>
        block.layout (Filter.valueIn dataset context) := by
  rw [compile_eq, Reported.result_bind]
  cases (forM block.compileOrder (Filter.attempt dataset context)).result with
  | error failure => rfl
  | ok done => rfl

/-- A tree fails to compile exactly when some filter has no value, for the reason of the first. -/
theorem result_compile_eq_error_iff {block : Block Value} {failure : Failure} :
    (block.compile dataset context).result = .error failure ↔
      ∃ before filter after, block.compileOrder = before ++ filter :: after ∧
        (∀ earlier ∈ before, ∃ value, (earlier.outcome dataset context).result = .ok value) ∧
        (filter.outcome dataset context).result = .error failure := by
  rw [← Reported.result_forM_effect_error_iff, result_compile]
  change _ ↔ (forM block.compileOrder (Filter.attempt dataset context)).result = _
  cases (forM block.compileOrder (Filter.attempt dataset context)).result with
  | error other => simp [Except.map]
  | ok done => simp [Except.map]

/-- A compiled tree has the condition of each filter once and no other condition. -/
theorem allConditions_compiled_perm {block : Block Value} {compiled : Expression}
    (compiles : (block.compile dataset context).result = .ok compiled) :
    compiled.allConditions.Perm
      (block.allFilters.map (Filter.condition (Filter.valueIn dataset context))) := by
  obtain ⟨-, rfl⟩ := result_compile_eq_ok_iff.mp compiles
  exact allConditions_layout_perm _ block

/-- Compiling a tree agrees with compiling its filters on their own. It succeeds exactly when each of
them does, with the condition that each comes to on its own and no other condition; it fails for the
reason of the first filter that fails on its own, in the order of columns, operators and filters, and
a block before its sub-blocks. -/
theorem compile_follows_alone (dataset : Dataset) (context : Context) (block : Block Value) :
    ((∃ compiled, (block.compile dataset context).result = .ok compiled) ↔
      ∀ filter ∈ block.allFilters, ∃ entry, filter.alone dataset context = .ok entry) ∧
    (∀ compiled, (block.compile dataset context).result = .ok compiled →
      ∃ value : Filter Value → Value,
        (∀ filter ∈ block.allFilters, filter.alone dataset context =
          .ok (.entry filter.column filter.operator (value filter))) ∧
        compiled.allConditions.Perm (block.allFilters.map fun filter =>
          (filter.column, filter.operator, value filter))) ∧
    block.compileOrder.Perm block.allFilters ∧
    ∀ failure, (block.compile dataset context).result = .error failure ↔
      ∃ before filter after, block.compileOrder = before ++ filter :: after ∧
        (∀ earlier ∈ before, ∃ entry, earlier.alone dataset context = .ok entry) ∧
        filter.alone dataset context = .error failure := by
  refine ⟨?succeeds, ?entries, compileOrder_perm block, ?fails⟩
  case succeeds =>
    simp only [Filter.alone_ok_iff, ← Filter.resolved_ok_iff]
    constructor
    · rintro ⟨compiled, compiles⟩
      exact (result_compile_eq_ok_iff.mp compiles).1
    · intro resolved
      exact ⟨_, result_compile_eq_ok_iff.mpr ⟨resolved, rfl⟩⟩
  case entries =>
    intro compiled compiles
    refine ⟨Filter.valueIn dataset context, ?_, allConditions_compiled_perm compiles⟩
    intro filter inside
    rw [Filter.alone_eq, (result_compile_eq_ok_iff.mp compiles).1 filter inside]
    rfl
  case fails =>
    intro failure
    rw [result_compile_eq_error_iff]
    simp only [Filter.alone_ok_iff, Filter.alone_error_iff]

end Block

namespace Sample

/-- A filter that resolves. -/
def positive : Filter Value where
  id := "positive"
  column := "id"
  predicate := .compare .gt (.value (.int 0))

/-- A filter on a column that is not there. -/
def stray : Filter Value where
  id := "stray"
  column := "ghost"
  predicate := .isNull

/-- A filter that makes no sense on a column of numbers. -/
def recently : Filter Value where
  id := "recently"
  column := "id"
  predicate := .between (.relative ⟨.last, .day, 1⟩)

/-- A tree in which the missing column comes before the senseless filter. -/
def jumbled : Block Value where
  id := "root"
  filters := [positive, stray, recently]

end Sample

open Sample

/-- Two filters of one group keep their conditions, and of two filters that fail the one whose column
comes first tells the failure. -/
theorem Block.jumbled_follows_alone :
    ((crowded.compile orders {}).result = .ok crowdedExpression ∧
      ∃ value : Filter Value → Value,
        (∀ filter ∈ crowded.allFilters, filter.alone orders {} =
          .ok (.entry filter.column filter.operator (value filter))) ∧
        crowdedExpression.allConditions.Perm (crowded.allFilters.map fun filter =>
          (filter.column, filter.operator, value filter))) ∧
    (jumbled.compile orders {}).result = .error ((Failure.illegalArgument
      "relative period on non-temporal column of type int").withColumn "id") := by
  have compiles : (crowded.compile orders {}).result = .ok crowdedExpression := rfl
  refine ⟨⟨compiles, (compile_follows_alone orders {} crowded).2.1 _ compiles⟩, ?_⟩
  apply ((compile_follows_alone orders {} jumbled).2.2.2 _).mpr
  exact ⟨[positive], recently, [stray], rfl, List.forall_mem_singleton.mpr ⟨_, rfl⟩, rfl⟩

end DashboardFilters
