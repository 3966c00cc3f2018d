import DashboardFilters.Proofs.Compile.Evaluation
import Mathlib.Data.List.Forall2

namespace DashboardFilters

/-- The conditions on columns, one after the other, nested expressions left aside. -/
def Expression.conditions (expression : Expression) : List (String × Operator × Value) :=
  expression.columns.flatMap fun entry =>
    entry.2.map fun condition => (entry.1, condition.1, condition.2)

/-- The condition that a filter with the given value stands for. -/
def Filter.condition (value : Filter Value → Value) (filter : Filter Value) :
    String × Operator × Value :=
  (filter.column, filter.operator, value filter)

theorem Expression.entry_eq (column : String) (operator : Operator) (value : Value) :
    entry column operator value = { columns := [(column, [(operator, value)])] } := rfl

/-- An expression that carries the filters of one block, whose sub-blocks come to the nested
expressions. -/
structure LaidOut (value : Filter Value → Value) (block : Block Value) (nested : List Expression)
    (compiled : Expression) : Prop where
  noDisjuncts : compiled.any = none
  noNegation : compiled.negated = none
  /-- The columns come in the order in which the filters first mention them. -/
  columns : compiled.columns.map Prod.fst = Groups.columns block.filters
  /-- So do the operators on each of them. -/
  operators : ∀ entry ∈ compiled.columns,
    entry.2.map Prod.fst = Groups.operatorsOn entry.1 block.filters
  /-- The last filter of a column and an operator gives the value. -/
  values : ∀ entry ∈ compiled.columns, ∀ condition ∈ entry.2, ∃ last,
    (Groups.members entry.1 condition.1 block.filters).getLast? = some last ∧
      condition.2 = value last
  /-- The filters before it come among the conjuncts, and the sub-blocks come behind them. -/
  conjuncts : compiled.all = some (
    ((Groups.displaced block.filters).map fun filter =>
      { columns := [(filter.column, [(filter.operator, value filter)])] }) ++
    List.zipWith (fun below inner =>
      match below.op with
      | .and => inner
      | .or => { any := some [inner] }) block.blocks nested)
  /-- No filter is lost and none comes twice. -/
  kept : (compiled.conditions ++
      (Groups.displaced block.filters).map (Filter.condition value)).Perm
    (block.filters.map (Filter.condition value))

/-- An expression that carries a tree: at every depth the filters of a block have values and are
laid out at the expression that the block comes to. -/
inductive Arranged (dataset : Dataset) (context : Context) : Block Value → Expression → Prop where
  | intro {block : Block Value} {compiled : Expression} (value : Filter Value → Value)
      (nested : List Expression)
      (resolved : ∀ filter ∈ block.filters, filter.resolved dataset context = .ok (value filter))
      (laidOut : LaidOut value block nested compiled)
      (compiles : List.Forall₂ (fun below inner =>
        (Block.compile dataset context below).result = .ok inner) block.blocks nested)
      (arranged : List.Forall₂ (Arranged dataset context) block.blocks nested) :
      Arranged dataset context block compiled

section
variable (value : Filter Value → Value)

/-- The conditions that stay at the columns are those of the filters that come last. -/
theorem Expression.conditions_level (filters : List (Filter Value)) (conjuncts : List Expression) :
    (level conjuncts (topConditions value filters)).conditions =
      (Groups.remaining filters).map (Filter.condition value) := by
  rw [conditions, level, topConditions, List.flatMap_map, Groups.remaining, List.map_flatMap]
  apply List.flatMap_congr
  intro column _
  rw [columnConditions, List.map_map, Groups.remainingOn, List.map_flatMap, List.map_eq_flatMap]
  apply List.flatMap_congr
  intro operator present
  have occupied := Groups.members_ne_nil present
  have last := List.getLast?_eq_getLast_of_ne_nil occupied
  have own := (Groups.mem_members.mp (List.getLast_mem occupied)).2
  rw [last, Function.comp_apply, lastCondition, last, Option.toList_some, List.map_singleton,
    Filter.condition, own.1, own.2]
  rfl

/-- The conjuncts of sub-blocks are what they come to, bare or under a `$or`. -/
theorem Block.layoutMembers_eq (blocks : List (Block Value)) :
    layoutMembers value blocks =
      List.zipWith (fun below inner => inner.asMember below.op) blocks
        (blocks.map (layout value)) := by
  induction blocks with
  | nil => rw [layoutMembers, List.map_nil, List.zipWith_nil_left]
  | cons block rest ih => rw [layoutMembers, ih, List.map_cons, List.zipWith_cons_cons]

/-- The layout of a block carries its filters. -/
theorem Block.laidOut_layout (block : Block Value) :
    LaidOut value block (block.blocks.map (layout value)) (block.layout value) := by
  obtain ⟨id, op, filters, blocks⟩ := block
  refine ⟨rfl, rfl, ?_, ?_, ?_, ?_, ?_⟩
  · simp [layout, Expression.level, Expression.topConditions, Expression.columnConditions,
      Function.comp_def]
  · intro entry inside
    obtain ⟨column, _, rfl⟩ := List.mem_map.mp inside
    simp [Expression.columnConditions, Expression.lastCondition, Function.comp_def]
  · intro entry inside condition present
    obtain ⟨column, _, rfl⟩ := List.mem_map.mp inside
    obtain ⟨operator, known, rfl⟩ := List.mem_map.mp present
    have last := List.getLast?_eq_getLast_of_ne_nil (Groups.members_ne_nil known)
    refine ⟨_, last, ?_⟩
    rw [Expression.lastCondition, last]
    rfl
  · rw [layout, layoutMembers_eq]
    rfl
  · rw [layout, Expression.conditions_level, ← List.map_append]
    exact ((List.perm_append_comm).trans
      (Groups.displaced_append_remaining_perm filters)).map _

end

namespace Block

variable {dataset : Dataset} {context : Context}

mutual

/-- The layout of a tree whose filters all have values carries the tree. -/
theorem arranged_layout : ∀ block : Block Value,
    (∀ filter ∈ block.allFilters,
      filter.resolved dataset context = .ok (filter.valueIn dataset context)) →
    Arranged dataset context block (block.layout (Filter.valueIn dataset context))
  | ⟨id, op, filters, blocks⟩, resolved => by
      unfold allFilters at resolved
      have own := fun filter inside => resolved filter (List.mem_append_left _ inside)
      have below := fun filter inside => resolved filter (List.mem_append_right _ inside)
      obtain ⟨compiles, arranged⟩ := arranged_layoutIn blocks below
      exact .intro (Filter.valueIn dataset context) (blocks.map (layout _)) own
        (laidOut_layout _ ⟨id, op, filters, blocks⟩) compiles arranged

/-- The layouts of some trees carry them and are what the trees compile to. -/
theorem arranged_layoutIn : ∀ blocks : List (Block Value),
    (∀ filter ∈ allFiltersIn blocks,
      filter.resolved dataset context = .ok (filter.valueIn dataset context)) →
    List.Forall₂ (fun below inner => (compile dataset context below).result = .ok inner) blocks
        (blocks.map (layout (Filter.valueIn dataset context))) ∧
      List.Forall₂ (Arranged dataset context) blocks
        (blocks.map (layout (Filter.valueIn dataset context)))
  | [], _ => ⟨.nil, .nil⟩
  | block :: rest, resolved => by
      unfold allFiltersIn at resolved
      have first := fun filter inside => resolved filter (List.mem_append_left _ inside)
      have others := fun filter inside => resolved filter (List.mem_append_right _ inside)
      obtain ⟨compiles, arranged⟩ := arranged_layoutIn rest others
      exact ⟨.cons (result_compile_eq_ok_iff.mpr ⟨first, rfl⟩) compiles,
        .cons (arranged_layout block first) arranged⟩

end

/-- A tree that compiles is carried by what it compiles to: at every depth the filters stay at
their block, the columns and operators come in the order of the filters, the last filter of a group
gives its condition, the earlier ones come among the conjuncts, and the sub-blocks follow. -/
theorem arranged_of_compile {block : Block Value} {compiled : Expression}
    (compiles : (block.compile dataset context).result = .ok compiled) :
    Arranged dataset context block compiled := by
  obtain ⟨resolved, rfl⟩ := result_compile_eq_ok_iff.mp compiles
  exact arranged_layout block resolved

end Block

namespace Sample

def orders : Dataset :=
  (Dataset.empty "orders").withColumn { name := "id", type := .int }

/-- A tree with two filters in one group and a sub-block that asks for any of its parts. -/
def crowded : Block Value where
  id := "root"
  filters := [
    { id := "first", column := "id", predicate := .compare .ne (.value (.int 1)) },
    { id := "present", column := "id", predicate := .isNotNull },
    { id := "second", column := "id", predicate := .compare .ne (.value (.int 2)) }]
  blocks := [{
    id := "inner"
    op := .or
    filters := [
      { id := "large", column := "id", predicate := .compare .gt (.value (.int 5)) }] }]

def crowdedExpression : Expression where
  all := some [
    { columns := [("id", [(.ne, .int 1)])] },
    { any := some [{ all := some [], columns := [("id", [(.gt, .int 5)])] }] }]
  columns := [("id", [(.ne, .int 2), (.isNotNull, .bool true)])]

end Sample

/-- The tree with two filters in one group keeps both of them. -/
theorem Block.arranged_crowded :
    (Sample.crowded.compile Sample.orders {}).result = .ok Sample.crowdedExpression ∧
      Arranged Sample.orders {} Sample.crowded Sample.crowdedExpression :=
  ⟨rfl, arranged_of_compile rfl⟩

end DashboardFilters
