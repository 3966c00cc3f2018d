import DashboardFilters.Proofs.Compile.Entries
import DashboardFilters.Proofs.Outcome
import DashboardFilters.Proofs.Tree.Operands

namespace DashboardFilters

namespace Expression

/-- Adds the column of a condition whose value is withheld, unless it is listed. -/
def noteWithheld (found : List String) (condition : String × Operator × Value) : List String :=
  if condition.2.2.containsWithheld && condition.1 ∉ found then found ++ [condition.1] else found

/-- A column that is listed is not listed again. -/
theorem foldl_noteWithheld_of_mem {column : String} {found : List String}
    (listed : column ∈ found) (entries : Conditions) :
    (entries.map fun condition => (column, condition.1, condition.2)).foldl noteWithheld found =
      found := by
  induction entries with
  | nil => rfl
  | cons condition rest ih =>
      have same : noteWithheld found (column, condition.1, condition.2) = found := by
        simp [noteWithheld, listed]
      rw [List.map_cons, List.foldl_cons, same, ih]

/-- The conditions of one column list it if one of their values is withheld. -/
theorem foldl_noteWithheld_column (column : String) (found : List String) (entries : Conditions) :
    (entries.map fun condition => (column, condition.1, condition.2)).foldl noteWithheld found =
      if (entries.any fun condition => condition.2.containsWithheld) && column ∉ found then
        found ++ [column]
      else found := by
  by_cases listed : column ∈ found
  · simp [foldl_noteWithheld_of_mem listed, listed]
  · induction entries with
    | nil => simp
    | cons condition rest ih =>
        rw [List.map_cons, List.foldl_cons, List.any_cons]
        cases withheld : condition.2.containsWithheld with
        | true =>
            have last : column ∈ found ++ [column] := by simp
            simp [noteWithheld, withheld, listed, foldl_noteWithheld_of_mem last]
        | false =>
            have same : noteWithheld found (column, condition.1, condition.2) = found := by
              simp [noteWithheld, withheld]
            rw [same, ih, Bool.false_or]

/-- Listing the columns of an expression goes through its conditions. -/
theorem listWithheld_eq (columns : List (String × Conditions)) (found : List String) :
    listWithheld columns found =
      (conditions ⟨none, none, none, columns⟩).foldl noteWithheld found := by
  rw [listWithheld, conditions, List.foldl_flatMap]
  congr 1
  funext found entry
  rw [foldl_noteWithheld_column]

mutual

/-- Listing withheld columns goes through all conditions of an expression. -/
theorem collectWithheld_eq : ∀ (expression : Expression) (found : List String),
    expression.collectWithheld found = expression.allConditions.foldl noteWithheld found
  | ⟨all, any, negated, columns⟩, found => by
      rw [collectWithheld, allConditions, List.foldl_append, List.foldl_append, List.foldl_append,
        listWithheld_eq, collectMembers_eq all, collectMembers_eq any, collectNegated_eq negated]

theorem collectMembers_eq : ∀ (members : Option (List Expression)) (found : List String),
    collectMembers members found = (memberConditions members).foldl noteWithheld found
  | none, found => by rw [collectMembers, memberConditions, List.foldl_nil]
  | some members, found => by rw [collectMembers, memberConditions, collectList_eq members]

theorem collectList_eq : ∀ (members : List Expression) (found : List String),
    collectList members found = (listConditions members).foldl noteWithheld found
  | [], found => by rw [collectList, listConditions, List.foldl_nil]
  | member :: rest, found => by
      rw [collectList, listConditions, List.foldl_append, collectWithheld_eq member,
        collectList_eq rest]

theorem collectNegated_eq : ∀ (negated : Option Expression) (found : List String),
    collectNegated negated found = (negatedConditions negated).foldl noteWithheld found
  | none, found => by rw [collectNegated, negatedConditions, List.foldl_nil]
  | some inner, found => by rw [collectNegated, negatedConditions, collectWithheld_eq inner]

end

/-- Listed columns are distinct, and a column is listed for the conditions on it. -/
theorem foldl_noteWithheld (entries : List (String × Operator × Value)) {found : List String}
    (distinct : found.Nodup) :
    (entries.foldl noteWithheld found).Nodup ∧
      ∀ column, column ∈ entries.foldl noteWithheld found ↔ column ∈ found ∨
        ∃ condition ∈ entries, condition.1 = column ∧ condition.2.2.containsWithheld = true := by
  induction entries generalizing found with
  | nil => simp [distinct]
  | cons condition rest ih =>
      rw [List.foldl_cons]
      by_cases listed : condition.2.2.containsWithheld = true ∧ condition.1 ∉ found
      · have grown : noteWithheld found condition = found ++ [condition.1] := by
          simp [noteWithheld, listed]
        have extended : (found ++ [condition.1]).Nodup := by
          rw [List.nodup_append]
          refine ⟨distinct, by simp, ?_⟩
          intro column inside other last same
          rw [List.mem_singleton] at last
          exact listed.2 (last ▸ same ▸ inside)
        obtain ⟨separate, members⟩ := ih extended
        rw [grown]
        refine ⟨separate, fun column => ?_⟩
        rw [members, List.mem_append, List.mem_singleton, List.exists_mem_cons_iff, or_assoc]
        simp only [listed.1, and_true, eq_comm]
      · have same : noteWithheld found condition = found := by
          rw [noteWithheld, if_neg]
          simpa using listed
        obtain ⟨separate, members⟩ := ih distinct
        rw [same]
        refine ⟨separate, fun column => ?_⟩
        rw [members, List.exists_mem_cons_iff]
        constructor
        · exact Or.imp_right .inr
        · rintro (before | ⟨rfl, withheld⟩ | later)
          · exact .inl before
          · exact .inl (by_contra fun absent => listed ⟨withheld, absent⟩)
          · exact .inr later

end Expression

/-- The report of an operand whose expression cannot be evaluated. -/
def Operand.failure? (context : Context) : Operand Value → Option Failure
  | .value _ => none
  | .manual expression =>
      match context.evaluate expression with
      | .ok _ => none
      | .error message => some ((Failure.evaluatorFailure expression message).withCause message)

/-- The reports of the operands of a filter whose expressions cannot be evaluated. -/
def Filter.failures (context : Context) (filter : Filter Value) : List Failure :=
  filter.predicate.operands.filterMap (Operand.failure? context)

/-- Whether no value in a tree contains a withheld one. -/
def Block.Unwithheld (block : Block Value) : Prop :=
  ∀ filter ∈ block.allFilters, ∀ value, .value value ∈ filter.predicate.operands →
    value.containsWithheld = false

/-- Whether no value of an expression contains a withheld one. -/
def Context.Unwithheld (context : Context) : Prop :=
  ∀ expression value, context.evaluate expression = .ok value → value.containsWithheld = false

variable {dataset : Dataset} {context : Context}

def Operand.valueIn (context : Context) (operand : Operand Value) : Value :=
  (operand.resolve context).value

/-- An operand always has a value, and reports its expression if that fails. -/
theorem Operand.resolve_eq (context : Context) (operand : Operand Value) :
    operand.resolve context = ⟨.ok (operand.valueIn context), (operand.failure? context).toList⟩ := by
  cases operand with
  | value picked => rfl
  | manual expression =>
      rw [valueIn, resolve, Context.evaluateManual, failure?]
      cases context.evaluate expression with
      | error message => rfl
      | ok value => rfl

/-- The value of an operand is withheld when its expression fails, and not otherwise. -/
theorem Operand.containsWithheld_valueIn (operand : Operand Value) (evaluator : context.Unwithheld)
    (picked : ∀ value, .value value = operand → value.containsWithheld = false) :
    (operand.valueIn context).containsWithheld = true ↔ operand.failure? context ≠ none := by
  cases operand with
  | value given =>
      have kept : (Operand.value given).valueIn context = given := rfl
      simp [failure?, kept, picked given rfl]
  | manual expression =>
      rw [valueIn, resolve, Context.evaluateManual, failure?]
      cases evaluated : context.evaluate expression with
      | error message => simp [Reported.value, Value.containsWithheld]
      | ok given =>
          change given.containsWithheld = true ↔ _
          simp [evaluator expression given evaluated]

/-- A list is withheld in part when one of its items is. -/
theorem Value.anyWithheld_eq_false {items : List Value}
    (whole : ∀ item ∈ items, item.containsWithheld = false) : anyWithheld items = false := by
  induction items with
  | nil => rfl
  | cons item rest ih =>
      rw [List.forall_mem_cons] at whole
      rw [anyWithheld, whole.1, ih whole.2, Bool.false_or]

theorem Column.containsWithheld_numericItem {column : Column} {item : String} {value : Value}
    (known : column.numericItem item = .ok value) : value.containsWithheld = false := by
  unfold numericItem at known
  split at known
  next number read =>
    cases known
    rw [Value.ofNumber?, Option.or_eq_some_iff] at read
    rcases read with whole | ⟨-, fraction⟩
    · obtain ⟨number, -, fits⟩ := Option.bind_eq_some_iff.mp whole
      obtain ⟨bits, -, rfl⟩ := Option.map_eq_some_iff.mp fits
      rfl
    · obtain ⟨number, -, rfl⟩ := Option.map_eq_some_iff.mp fraction
      rfl
  next => cases known

/-- A list as the user typed it comes to texts or numbers. -/
theorem Column.containsWithheld_splitList {column : Column} {typed : String} {value : Value}
    (known : column.splitList typed = .ok value) : value.containsWithheld = false := by
  unfold splitList at known
  dsimp only at known
  split at known
  next =>
    obtain ⟨items, read, ⟨⟩⟩ := Outcome.bind_eq_ok_iff.mp known
    rw [Value.containsWithheld]
    apply Value.anyWithheld_eq_false
    intro item inside
    obtain ⟨text, number⟩ := Outcome.exists_of_mem_mapM read item inside
    exact containsWithheld_numericItem number
  next =>
    cases known
    rw [Value.containsWithheld]
    apply Value.anyWithheld_eq_false
    rw [List.forall_mem_map]
    intro text _
    rfl

/-- The bounds of a period are texts. -/
theorem Column.containsWithheld_resolvePeriod {column : Column} {relative : RelativePeriod}
    {value : Value} (known : column.resolvePeriod relative context = .ok value) :
    value.containsWithheld = false := by
  unfold resolvePeriod at known
  split at known
  next => cases known
  next =>
    obtain ⟨interval, -, ⟨⟩⟩ := Outcome.bind_eq_ok_iff.mp known
    rfl

namespace Predicate

variable {column : Column} {predicate : Predicate Value}

/-- Whether a predicate has a value, and why not, is the same for every evaluator. -/
theorem verdict_resolve (evaluate : Evaluator) :
    (predicate.resolve column { context with evaluate }).effect.result =
      (predicate.resolve column context).effect.result := by
  rw [Reported.result_effect, Reported.result_effect]
  cases predicate with
  | isNull | isNotNull | list => rfl
  | compare op operand =>
      rw [resolve, resolve, Operand.resolve_eq, Operand.resolve_eq]
      rfl
  | between range =>
      cases range with
      | relative => rfl
      | fixed left right =>
          rw [resolve, resolve, left.resolve_eq, left.resolve_eq, right.resolve_eq, right.resolve_eq]
          rfl

/-- A predicate reports its expressions that fail, from left to right. -/
theorem notices_resolve : (predicate.resolve column context).notices =
    predicate.operands.filterMap (Operand.failure? context) := by
  cases predicate with
  | isNull | isNotNull | list => rfl
  | compare op operand =>
      rw [resolve, Operand.resolve_eq, operands, List.filterMap_cons]
      cases operand.failure? context with
      | none => rfl
      | some failure => rfl
  | between range =>
      cases range with
      | relative => rfl
      | fixed left right =>
          rw [resolve, left.resolve_eq, right.resolve_eq, operands, List.filterMap_cons,
            List.filterMap_cons]
          cases left.failure? context with
          | none => cases right.failure? context <;> rfl
          | some failure => cases right.failure? context <;> rfl

/-- The value of a predicate is withheld in part when one of its expressions fails. -/
theorem containsWithheld_resolve {value : Value} (evaluator : context.Unwithheld)
    (picked : ∀ value, .value value ∈ predicate.operands → value.containsWithheld = false)
    (resolved : (predicate.resolve column context).result = .ok value) :
    value.containsWithheld = true ↔
      predicate.operands.filterMap (Operand.failure? context) ≠ [] := by
  cases predicate with
  | isNull | isNotNull =>
      cases resolved
      simp [operands, Value.containsWithheld]
  | list op typed => simp [operands, Column.containsWithheld_splitList resolved]
  | compare op operand =>
      rw [resolve, Operand.resolve_eq] at resolved
      cases resolved
      have own := operand.containsWithheld_valueIn evaluator
        fun value same => picked value (List.mem_singleton.mpr same)
      rw [own, operands]
      cases known : operand.failure? context <;> simp [known]
  | between range =>
      cases range with
      | relative => simp [operands, Column.containsWithheld_resolvePeriod resolved]
      | fixed left right =>
          rw [resolve, left.resolve_eq, right.resolve_eq] at resolved
          cases resolved
          have low := left.containsWithheld_valueIn evaluator
            fun value same => picked value (List.mem_pair.mpr (.inl same))
          have high := right.containsWithheld_valueIn evaluator
            fun value same => picked value (List.mem_pair.mpr (.inr same))
          rw [operands, Value.containsWithheld, Value.anyWithheld, Value.anyWithheld,
            Value.anyWithheld, Bool.or_false, Bool.or_eq_true, low, high]
          cases lowKnown : left.failure? context <;> cases highKnown : right.failure? context <;>
            simp [lowKnown, highKnown]

end Predicate

namespace Filter

variable {filter : Filter Value}

/-- A filter with a value is on a column of the dataset, and its value is that of its predicate. -/
theorem exists_outcome_eq {value : Value} (resolved : filter.resolved dataset context = .ok value) :
    ∃ column, filter.outcome dataset context = filter.predicate.resolve column context := by
  cases found : dataset.lookup filter.column with
  | error failure =>
      rw [Filter.resolved, Filter.outcome, found] at resolved
      cases resolved
  | ok column => exact ⟨column, outcome_of_lookup found⟩

/-- Whether a filter has a value, and why not, is the same for every evaluator. -/
theorem verdict_outcome (evaluate : Evaluator) :
    (filter.outcome dataset { context with evaluate }).effect.result =
      (filter.outcome dataset context).effect.result := by
  cases found : dataset.lookup filter.column with
  | error failure =>
      rw [outcome, outcome, found]
      rfl
  | ok column =>
      rw [outcome_of_lookup found, outcome_of_lookup found]
      exact filter.predicate.verdict_resolve evaluate

/-- A filter with a value reports its expressions that fail. -/
theorem notices_outcome {value : Value} (resolved : filter.resolved dataset context = .ok value) :
    (filter.outcome dataset context).notices = filter.failures context := by
  obtain ⟨column, same⟩ := exists_outcome_eq resolved
  rw [same, Predicate.notices_resolve]
  rfl

/-- The value of a filter is withheld in part when one of its expressions fails. -/
theorem containsWithheld_of_resolved {value : Value} (evaluator : context.Unwithheld)
    (picked : ∀ value, .value value ∈ filter.predicate.operands → value.containsWithheld = false)
    (resolved : filter.resolved dataset context = .ok value) :
    value.containsWithheld = true ↔ filter.failures context ≠ [] := by
  obtain ⟨column, same⟩ := exists_outcome_eq resolved
  rw [Filter.resolved, same] at resolved
  exact Predicate.containsWithheld_resolve evaluator picked resolved

end Filter

namespace Block

variable {block : Block Value}

/-- Whether a tree compiles, and why not, is the same for every evaluator. -/
theorem verdict_compile (evaluate : Evaluator) :
    (block.compile dataset { context with evaluate }).result.map (fun _ => ()) =
      (block.compile dataset context).result.map fun _ => () := by
  have same : (forM block.compileOrder (Filter.attempt dataset { context with evaluate })).result =
      (forM block.compileOrder (Filter.attempt dataset context)).result :=
    Reported.result_forM_effect_congr fun filter _ => filter.verdict_outcome evaluate
  rw [result_compile, result_compile, same]
  cases (forM block.compileOrder (Filter.attempt dataset context)).result with
  | error failure => rfl
  | ok done => rfl

/-- A tree that compiles reports each expression that fails. -/
theorem notices_compile {compiled : Expression}
    (compiles : (block.compile dataset context).result = .ok compiled) :
    (block.compile dataset context).notices =
      block.compileOrder.flatMap (Filter.failures context) := by
  have resolved := (result_compile_eq_ok_iff.mp compiles).1
  have ordered (filter : Filter Value) (inside : filter ∈ block.compileOrder) :=
    resolved filter ((compileOrder_perm block).mem_iff.mp inside)
  have succeed : ∀ filter ∈ block.compileOrder, ∃ value,
      (filter.outcome dataset context).result = .ok value :=
    fun filter inside => ⟨_, ordered filter inside⟩
  have pass : (block.compile dataset context).notices =
      (forM block.compileOrder fun filter : Filter Value =>
        (filter.outcome dataset context).effect).notices := by
    rw [compile_eq]
    exact Reported.notices_bind_pure _ _
  rw [pass, Reported.notices_forM_effect _ _ succeed]
  apply List.flatMap_congr
  intro filter inside
  exact filter.notices_outcome (ordered filter inside)

/-- The columns of a compiled tree that are told to be withheld, none of them twice, are those of
filters with an expression that fails. -/
theorem withheldColumns_of_compile {compiled : Expression} (whole : block.Unwithheld)
    (evaluator : context.Unwithheld)
    (compiles : (block.compile dataset context).result = .ok compiled) :
    compiled.withheldColumns.Nodup ∧ ∀ column, column ∈ compiled.withheldColumns ↔
      ∃ filter ∈ block.allFilters, filter.column = column ∧ filter.failures context ≠ [] := by
  have resolved := (result_compile_eq_ok_iff.mp compiles).1
  have kept := allConditions_compiled_perm compiles
  obtain ⟨distinct, listed⟩ := Expression.foldl_noteWithheld compiled.allConditions List.nodup_nil
  rw [Expression.withheldColumns, Expression.collectWithheld_eq]
  refine ⟨distinct, fun column => ?_⟩
  rw [listed]
  simp only [List.not_mem_nil, false_or, kept.mem_iff, List.mem_map, exists_exists_and_eq_and]
  apply exists_congr
  intro filter
  apply and_congr_right
  intro inside
  have withheld := Filter.containsWithheld_of_resolved evaluator (whole filter inside)
    (resolved filter inside)
  exact and_congr_right fun _ => withheld

/-- Nothing is told to be withheld when no expression fails. -/
theorem withheldColumns_eq_nil_iff {compiled : Expression} (whole : block.Unwithheld)
    (evaluator : context.Unwithheld)
    (compiles : (block.compile dataset context).result = .ok compiled) :
    compiled.withheldColumns = [] ↔ ∀ filter ∈ block.allFilters, filter.failures context = [] := by
  have listed := (withheldColumns_of_compile whole evaluator compiles).2
  rw [List.eq_nil_iff_forall_not_mem]
  constructor
  · intro none filter member
    by_contra fails
    exact none filter.column ((listed _).mpr ⟨filter, member, rfl, fails⟩)
  · intro none column member
    obtain ⟨filter, inside, -, fails⟩ := (listed column).mp member
    exact fails (none filter inside)

/-- An expression that fails is isolated to its own value. Whether a tree compiles, and why not, does
not depend on the evaluator. A tree that compiles reports each operand whose expression fails once and
nothing else, and the columns of the compiled tree that are told to be withheld, none of them twice,
are those of the filters with such an operand. -/
theorem failures_isolated (dataset : Dataset) (context : Context) (block : Block Value)
    (whole : block.Unwithheld) (evaluator : context.Unwithheld) :
    (∀ evaluate, (block.compile dataset { context with evaluate }).result.map (fun _ => ()) =
      (block.compile dataset context).result.map fun _ => ()) ∧
    ∀ compiled, (block.compile dataset context).result = .ok compiled →
      (block.compile dataset context).notices.Perm
        (block.allFilters.flatMap (Filter.failures context)) ∧
      compiled.withheldColumns.Nodup ∧
      ∀ column, column ∈ compiled.withheldColumns ↔
        ∃ filter ∈ block.allFilters, filter.column = column ∧ filter.failures context ≠ [] := by
  refine ⟨fun evaluate => verdict_compile evaluate, fun compiled compiles => ⟨?_, ?_⟩⟩
  · rw [notices_compile compiles]
    exact (compileOrder_perm block).flatMap_right _
  · exact withheldColumns_of_compile whole evaluator compiles

end Block

namespace Sample

/-- Evaluates one expression and no other. -/
def knowsOne : Context where
  evaluate expression := if expression = "one" then .ok (.int 1) else .error "unknown"

/-- Four expressions, three of which are unknown, two of them in one range. -/
def guessed : Block Value where
  id := "root"
  filters := [
    { id := "early", column := "id", predicate := .compare .gt (.manual "start") },
    { id := "late", column := "id", predicate := .compare .gt (.manual "one") }]
  blocks := [{
    id := "inner"
    op := .or
    filters := [
      { id := "span", column := "id",
        predicate := .between (.fixed (.manual "from") (.manual "to")) }] }]

/-- What the tree compiles to when three values are withheld. -/
def guessedExpression : Expression where
  all := some [
    { columns := [("id", [(.gt, .withheld)])] },
    { any := some [{
      all := some []
      columns := [("id", [(.between, .list [.withheld, .withheld])])] }] }]
  columns := [("id", [(.gt, .int 1)])]

end Sample

open Sample

/-- Three unknown expressions are reported and leave one column withheld. -/
theorem Block.guessed_isolated :
    guessed.Unwithheld ∧ knowsOne.Unwithheld ∧
    (guessed.compile orders {}).result.map (fun _ => ()) =
      (guessed.compile orders knowsOne).result.map (fun _ => ()) ∧
    (guessed.compile orders knowsOne).result = .ok guessedExpression ∧
    (guessed.compile orders knowsOne).notices.Perm
      (guessed.allFilters.flatMap (Filter.failures knowsOne)) ∧
    ("id" ∈ guessedExpression.withheldColumns ↔ ∃ filter ∈ guessed.allFilters,
      filter.column = "id" ∧ filter.failures knowsOne ≠ []) := by
  have whole : guessed.Unwithheld := by
    intro filter inside value operand
    simp [guessed, allFilters, allFiltersIn] at inside
    rcases inside with rfl | rfl | rfl <;> simp [Predicate.operands] at operand
  have evaluator : knowsOne.Unwithheld := by
    intro expression value known
    simp only [knowsOne] at known
    split at known
    next => cases known; rfl
    next => cases known
  have compiles : (guessed.compile orders knowsOne).result = .ok guessedExpression := rfl
  obtain ⟨same, isolated⟩ := failures_isolated orders knowsOne guessed whole evaluator
  obtain ⟨reported, -, columns⟩ := isolated _ compiles
  exact ⟨whole, evaluator, same .literals, compiles, reported, columns "id"⟩

end DashboardFilters
