import DashboardFilters.Proofs.Compile.Isolation

namespace DashboardFilters

/-- Whether trees of one shape test the same: their filters have the same columns and predicates, and
their sub-blocks combine their parts in the same way. Identifiers, what summaries mention and how the
root combines its parts may differ. -/
inductive Block.SameTests {V : Type} : Block V → Block V → Prop where
  | intro {id otherId : String} {op otherOp : LogicalOp} {filters others : List (Filter V)}
      {blocks otherBlocks : List (Block V)}
      (tests : filters.map Filter.selector = others.map Filter.selector)
      (ops : blocks.map Block.op = otherBlocks.map Block.op)
      (below : List.Forall₂ SameTests blocks otherBlocks) :
      SameTests ⟨id, op, filters, blocks⟩ ⟨otherId, otherOp, others, otherBlocks⟩

/-- Whether datasets agree on the type and the format of a column, or both do not have it. -/
def Dataset.SameColumn (first second : Dataset) (name : String) : Prop :=
  (first.column? name).map (fun column => (column.type, column.format)) =
    (second.column? name).map fun column => (column.type, column.format)

/-- The label of a column does not matter to the value of a predicate. -/
theorem Predicate.resolve_congr {column other : Column} (name : column.name = other.name)
    (type : column.type = other.type) (format : column.format = other.format) (context : Context)
    (predicate : Predicate Value) :
    predicate.resolve column context = predicate.resolve other context := by
  obtain ⟨_, _, _, _⟩ := column
  obtain ⟨_, _, _, _⟩ := other
  cases name
  cases type
  cases format
  cases predicate with
  | isNull | isNotNull | compare | list => rfl
  | between range => cases range <;> rfl

/-- Datasets that agree on the column of a filter give it the same value, failure and reports. -/
theorem Filter.outcome_congr {first second : Dataset} {filter : Filter Value}
    (same : first.SameColumn second filter.column) (context : Context) :
    filter.outcome first context = filter.outcome second context := by
  unfold Dataset.SameColumn at same
  unfold Filter.outcome Dataset.lookup
  cases found : first.column? filter.column with
  | none =>
      rw [found] at same
      rw [Option.map_eq_none_iff.mp same.symm]
  | some column =>
      rw [found] at same
      obtain ⟨other, foundToo, parts⟩ := Option.map_eq_some_iff.mp same.symm
      obtain ⟨type, format⟩ := Prod.mk.inj parts
      have name : column.name = other.name :=
        (Dataset.name_of_column? found).trans (Dataset.name_of_column? foundToo).symm
      rw [foundToo]
      exact filter.predicate.resolve_congr name type.symm format.symm context

namespace Groups

variable {first second : List (Filter Value)}
  (same : first.map Filter.selector = second.map Filter.selector)

include same

/-- Filters that test the same are on the same columns. -/
theorem columns_congr : columns first = columns second := by
  have mapped := congrArg (List.map Selector.column) same
  rw [List.map_map, List.map_map] at mapped
  exact congrArg List.eraseDups mapped

/-- Filters that test the same pass the same tests of their columns and predicates. -/
theorem map_filter_congr (test : Selector Value → Bool) :
    (first.filter fun filter => test filter.selector).map Filter.selector =
      (second.filter fun filter => test filter.selector).map Filter.selector := by
  have kept := congrArg (List.filter test) same
  rwa [List.filter_map, List.filter_map] at kept

/-- Filters that test the same have the same operators on a column. -/
theorem operatorsOn_congr (column : String) :
    operatorsOn column first = operatorsOn column second := by
  have mapped := congrArg (List.map fun selector => selector.predicate.operator)
    (map_filter_congr same fun selector => selector.column = column)
  rw [List.map_map, List.map_map] at mapped
  exact congrArg List.eraseDups mapped

/-- Filters that test the same test the same in each group. -/
theorem members_congr (column : String) (operator : Operator) :
    (members column operator first).map Filter.selector =
      (members column operator second).map Filter.selector :=
  map_filter_congr (map_filter_congr same fun selector => selector.column = column)
    fun selector => selector.predicate.operator = operator

/-- Filters that test the same test the same group after group. -/
theorem inOrder_congr :
    (inOrder first).map Filter.selector = (inOrder second).map Filter.selector := by
  simp only [inOrder, inColumn, List.map_flatMap, columns_congr same, operatorsOn_congr same,
    members_congr same]

/-- Filters that test the same displace filters that test the same. -/
theorem displaced_congr :
    (displaced first).map Filter.selector = (displaced second).map Filter.selector := by
  simp only [displaced, displacedOn, List.map_flatMap, List.map_dropLast, columns_congr same,
    operatorsOn_congr same, members_congr same]

/-- Filters that test the same leave the same conditions at the columns. -/
theorem topConditions_congr (value : Selector Value → Value) :
    Expression.topConditions (fun filter => value filter.selector) first =
      Expression.topConditions (fun filter => value filter.selector) second := by
  rw [Expression.topConditions, Expression.topConditions, columns_congr same]
  apply List.map_congr_left
  intro column _
  rw [Expression.columnConditions, Expression.columnConditions, operatorsOn_congr same]
  congr 1
  apply List.map_congr_left
  intro operator _
  have last (filters : List (Filter Value)) :
      filters.getLast?.map (fun filter => value filter.selector) =
        (filters.map Filter.selector).getLast?.map value := by
    rw [List.getLast?_map, Option.map_map]
    rfl
  rw [Expression.lastCondition, Expression.lastCondition, last, last, members_congr same]

end Groups

/-- The value of a test, outside of any tree. -/
def Selector.outcome (dataset : Dataset) (context : Context) (selector : Selector Value) :
    Reported Value := do
  let column ← .ofExcept (dataset.lookup selector.column)
  selector.predicate.resolve column context

namespace Block

section
variable {value other : Filter Value → Value}

/-- Values that are the same for the filters of a block leave the same conditions at its columns. -/
theorem topConditions_of_values {filters : List (Filter Value)}
    (same : ∀ filter ∈ filters, value filter = other filter) :
    Expression.topConditions value filters = Expression.topConditions other filters := by
  apply List.map_congr_left
  intro column _
  rw [Expression.columnConditions, Expression.columnConditions]
  congr 1
  apply List.map_congr_left
  intro operator _
  have last : (Groups.members column operator filters).getLast?.map value =
      (Groups.members column operator filters).getLast?.map other :=
    Option.map_congr fun filter comesLast =>
      same filter (Groups.mem_members.mp (List.mem_of_getLast? comesLast)).1
  rw [Expression.lastCondition, Expression.lastCondition, last]

/-- Values that are the same for all filters of a tree lay it out in the same way. -/
theorem layout_of_values (block : Block Value) :
    (∀ filter ∈ block.allFilters, value filter = other filter) →
      block.layout value = block.layout other := by
  induction block using of_blocks with
  | step block below =>
      obtain ⟨id, op, filters, blocks⟩ := block
      intro same
      rw [allFilters, allFiltersIn_eq] at same
      have own := fun filter inside => same filter (List.mem_append_left _ inside)
      have entries : (Groups.displaced filters).map (Filter.entry value) =
          (Groups.displaced filters).map (Filter.entry other) := by
        apply List.map_congr_left
        intro filter displaced
        have inside := (Groups.displaced_append_remaining_perm filters).mem_iff.mp
          (List.mem_append_left _ displaced)
        rw [Filter.entry, Filter.entry, own filter inside]
      have members : layoutMembers value blocks = layoutMembers other blocks := by
        rw [layoutMembers_eq_map, layoutMembers_eq_map]
        apply List.map_congr_left
        intro inner inside
        rw [below inner inside fun filter present => same filter
          (List.mem_append_right _ (List.mem_flatMap.mpr ⟨inner, inside, present⟩))]
      rw [layout, layout, entries, members, topConditions_of_values own]

end

/-- Datasets that agree on the columns of a tree compile it in the same way. -/
theorem compile_of_columns {first second : Dataset} (context : Context) {block : Block Value}
    (columns : ∀ filter ∈ block.allFilters, first.SameColumn second filter.column) :
    block.compile first context = block.compile second context := by
  have outcomes (filter : Filter Value) (inside : filter ∈ block.allFilters) :
      filter.outcome first context = filter.outcome second context :=
    Filter.outcome_congr (columns filter inside) context
  have pass : forM block.compileOrder (Filter.attempt first context) =
      forM block.compileOrder (Filter.attempt second context) :=
    Reported.forM_congr fun filter ordered =>
      congrArg Reported.effect (outcomes filter ((compileOrder_perm block).mem_iff.mp ordered))
  have laid : block.layout (Filter.valueIn first context) =
      block.layout (Filter.valueIn second context) :=
    layout_of_values block fun filter inside => congrArg Reported.value (outcomes filter inside)
  rw [compile_eq, compile_eq, pass, laid]

/-- What is made in the same way of trees that test the same comes in the same order. -/
theorem map_congr {α : Type} {make : Block Value → α} {blocks others : List (Block Value)}
    (same : List.Forall₂ SameTests blocks others)
    (made : ∀ block ∈ blocks, ∀ other, SameTests block other → make block = make other) :
    blocks.map make = others.map make := by
  induction same with
  | nil => rfl
  | cons first _ ih =>
      rw [List.forall_mem_cons] at made
      rw [List.map_cons, List.map_cons, made.1 _ first, ih made.2]

/-- Trees that test the same compute the values of the same tests, in the same order. -/
theorem compileOrder_congr (first : Block Value) : ∀ second, SameTests first second →
    first.compileOrder.map Filter.selector = second.compileOrder.map Filter.selector := by
  induction first using of_blocks with
  | step first below =>
      rintro _ ⟨tests, -, same⟩
      rw [compileOrder, compileOrder, compileOrderIn_eq, compileOrderIn_eq, List.map_append,
        List.map_append, Groups.inOrder_congr tests, List.map_flatMap, List.map_flatMap,
        List.flatMap_def, List.flatMap_def, map_congr same below]

/-- Trees that test the same are laid out in the same way by values that depend on the tests. -/
theorem layout_congr (value : Selector Value → Value) (first : Block Value) :
    ∀ second, SameTests first second →
      first.layout (fun filter => value filter.selector) =
        second.layout fun filter => value filter.selector := by
  induction first using of_blocks with
  | step first below =>
      rintro _ ⟨tests, ops, same⟩
      have entries (filters : List (Filter Value)) :
          filters.map (Filter.entry fun filter => value filter.selector) =
            (filters.map Filter.selector).map fun selector =>
              .entry selector.column selector.predicate.operator (value selector) := by
        rw [List.map_map]
        rfl
      have members (blocks : List (Block Value)) :
          layoutMembers (fun filter => value filter.selector) blocks =
            List.zipWith (fun op inner => inner.asMember op) (blocks.map Block.op)
              (blocks.map (layout fun filter => value filter.selector)) := by
        rw [layoutMembers_eq, List.zipWith_map_left]
      rw [layout, layout, entries, entries, Groups.displaced_congr tests, members, members, ops,
        map_congr same below, Groups.topConditions_congr tests value]

/-- Trees that test the same compile in the same way. -/
theorem compile_of_tests (dataset : Dataset) (context : Context) {first second : Block Value}
    (same : SameTests first second) :
    first.compile dataset context = second.compile dataset context := by
  -- Both the pass of effects and the layout see a filter through its selector alone.
  have pass (block : Block Value) : forM block.compileOrder (Filter.attempt dataset context) =
      forM (block.compileOrder.map Filter.selector)
        fun selector => (selector.outcome dataset context).effect := by
    rw [List.forM_map]
    rfl
  have laid : first.layout (Filter.valueIn dataset context) =
      second.layout (Filter.valueIn dataset context) :=
    layout_congr (fun selector => (selector.outcome dataset context).value) first second same
  rw [compile_eq, compile_eq, pass, pass, compileOrder_congr first second same, laid]

/-- Compiling sees the tests of a tree and the types and formats of the columns that they are on, and
nothing else. Trees that test the same, on datasets that agree on the columns of the tree, compile to
the same expression or fail in the same way, and report the same failures in the same order. -/
theorem compile_congr {first second : Block Value} {dataset other : Dataset} (context : Context)
    (same : SameTests first second)
    (columns : ∀ filter ∈ first.allFilters, dataset.SameColumn other filter.column) :
    first.compile dataset context = second.compile other context :=
  (compile_of_columns context columns).trans (compile_of_tests other context same)

end Block

namespace Sample

/-- A dataset with a column like that of the orders, behind another one and under a label. -/
def ledger : Dataset :=
  ((Dataset.empty "ledger").withColumn { name := "note", type := .text }).withColumn
    { name := "id", type := .int, label := some "Number" }

/-- The guesses under other identifiers, one of them not mentioned, at a root that asks for any. -/
def guessedAgain : Block Value where
  id := "top"
  op := .or
  filters := [
    { id := "a", column := "id", shown := false, predicate := .compare .gt (.manual "start") },
    { id := "b", column := "id", predicate := .compare .gt (.manual "one") }]
  blocks := [{
    id := "below"
    op := .or
    filters := [
      { id := "c", column := "id",
        predicate := .between (.fixed (.manual "from") (.manual "to")) }] }]

end Sample

open Sample

/-- The guesses compile to the same expression with the same reports under other names. -/
theorem Block.compile_guessed_eq_guessedAgain :
    SameTests guessed guessedAgain ∧
      (∀ filter ∈ guessed.allFilters, orders.SameColumn ledger filter.column) ∧
      guessed.compile orders knowsOne = guessedAgain.compile ledger knowsOne ∧
      (guessedAgain.compile ledger knowsOne).result = .ok guessedExpression ∧
      (guessedAgain.compile ledger knowsOne).notices.length = 3 := by
  have tests : SameTests guessed guessedAgain :=
    .intro rfl rfl (.cons (.intro rfl rfl .nil) .nil)
  have columns : ∀ filter ∈ guessed.allFilters, orders.SameColumn ledger filter.column := by
    intro filter inside
    simp [guessed, allFilters, allFiltersIn] at inside
    rcases inside with rfl | rfl | rfl <;> rfl
  exact ⟨tests, columns, compile_congr knowsOne tests columns, rfl, rfl⟩

end DashboardFilters
