import DashboardFilters.Proofs.Compile.Arrangement
import DashboardFilters.Proofs.Json.Canonical

namespace DashboardFilters

namespace Expression

/-- The keys of an expression: a reserved one for each part that is present, then the columns. -/
def keys (expression : Expression) : List String :=
  (expression.all.map fun _ => "$and").toList ++ (expression.any.map fun _ => "$or").toList ++
    (expression.negated.map fun _ => "$not").toList ++ expression.columns.map Prod.fst

mutual

/-- An expression and all expressions nested in it. -/
def levels : Expression → List Expression
  | ⟨all, any, negated, columns⟩ =>
      ⟨all, any, negated, columns⟩ ::
        (memberLevels all ++ memberLevels any ++ negatedLevels negated)

/-- Nested expressions with all that are nested in them, if there are any. -/
def memberLevels : Option (List Expression) → List Expression
  | none => []
  | some members => listLevels members

/-- Some expressions with all that are nested in them. -/
def listLevels : List Expression → List Expression
  | [] => []
  | member :: rest => levels member ++ listLevels rest

/-- A negated expression with all that are nested in it, if there is one. -/
def negatedLevels : Option Expression → List Expression
  | none => []
  | some inner => levels inner

end

/-- Whether no member of the document of an expression is overwritten: there is one member for each
part and each column, their keys are distinct, and the canonical form, which has one member for a
key, has every one of them. -/
structure WrittenWhole (expression : Expression) (members : List (String × Json)) : Prop where
  written : expression.toJson = .object members
  keys : members.map Prod.fst = expression.keys
  distinct : expression.keys.Nodup
  kept : ∀ member ∈ members,
    expression.toJson.sorted.member? member.1 = some member.2.sorted

/-- The document of an expression has a member for each of its keys, in their order. -/
theorem exists_members (expression : Expression) :
    ∃ members, expression.toJson = .object members ∧ members.map Prod.fst = expression.keys := by
  obtain ⟨all, any, negated, columns⟩ := expression
  refine ⟨_, by rw [toJson], ?_⟩
  rw [List.map_append, List.map_append, List.map_append, List.map_map, keys]
  congr 1
  congr 1
  · congr 1
    · cases all <;> rfl
    · cases any <;> rfl
  · cases negated <;> rfl

/-- An expression is written whole when its keys are distinct. -/
theorem exists_writtenWhole_iff (expression : Expression) :
    (∃ members, expression.WrittenWhole members) ↔ expression.keys.Nodup := by
  constructor
  · rintro ⟨members, whole⟩
    exact whole.distinct
  · intro distinct
    obtain ⟨members, written, keys⟩ := expression.exists_members
    refine ⟨members, written, keys, distinct, fun member present => ?_⟩
    rw [written]
    exact Json.member?_sorted (keys ▸ distinct) present

/-- Whether all levels of some expressions have distinct keys. -/
def DistinctKeys (levels : List Expression) : Prop :=
  ∀ level ∈ levels, level.keys.Nodup

theorem distinctKeys_append {first second : List Expression} :
    DistinctKeys (first ++ second) ↔ DistinctKeys first ∧ DistinctKeys second :=
  List.forall_mem_append

theorem distinctKeys_cons {level : Expression} {rest : List Expression} :
    DistinctKeys (level :: rest) ↔ level.keys.Nodup ∧ DistinctKeys rest :=
  List.forall_mem_cons

theorem listLevels_append (first second : List Expression) :
    listLevels (first ++ second) = listLevels first ++ listLevels second := by
  induction first with
  | nil => rfl
  | cons member rest ih => rw [List.cons_append, listLevels, listLevels, ih, List.append_assoc]

/-- The levels of a block are its own and those of its conjuncts. -/
theorem levels_level (conjuncts : List Expression) (columns : List (String × Conditions)) :
    (level conjuncts columns).levels = level conjuncts columns :: listLevels conjuncts := by
  simp only [level, levels, memberLevels, negatedLevels, List.append_nil]

theorem distinctKeys_entries (value : Filter Value → Value) (filters : List (Filter Value)) :
    DistinctKeys (listLevels (filters.map (Filter.entry value))) := by
  induction filters with
  | nil => exact List.forall_mem_nil _
  | cons filter rest ih =>
      rw [List.map_cons, listLevels, distinctKeys_append]
      refine ⟨?_, ih⟩
      simp only [Filter.entry, entry_eq, levels, memberLevels, negatedLevels]
      exact distinctKeys_cons.mpr ⟨List.pairwise_singleton _ _, List.forall_mem_nil _⟩

/-- Being the only member of a `$or` adds a level of one key. -/
theorem distinctKeys_asMember {op : LogicalOp} {compiled : Expression} :
    DistinctKeys (compiled.asMember op).levels ↔ DistinctKeys compiled.levels := by
  cases op with
  | and => rfl
  | or =>
      simp only [asMember, anyOf, levels, memberLevels, negatedLevels, listLevels,
        List.nil_append, List.append_nil, distinctKeys_cons]
      exact and_iff_right (List.pairwise_singleton _ "$or")

/-- The keys of a block are distinct when none of its columns has the name of its conjuncts. -/
theorem nodup_keys_level (value : Filter Value → Value) (filters : List (Filter Value))
    (conjuncts : List Expression) :
    (level conjuncts (topConditions value filters)).keys.Nodup ↔
      ∀ filter ∈ filters, filter.column ≠ "$and" := by
  have columns : (topConditions value filters).map Prod.fst = Groups.columns filters := by
    simp [topConditions, columnConditions, Function.comp_def]
  have own : (level conjuncts (topConditions value filters)).keys =
      "$and" :: Groups.columns filters := by
    rw [keys, level, columns]
    rfl
  rw [own, List.nodup_cons, and_iff_left (Groups.nodup_columns filters), Groups.mem_columns]
  simp

end Expression

namespace Block

open Expression

variable (value : Filter Value → Value)

mutual

/-- The keys of all levels of a layout are distinct when no filter is on a column with the name of
the conjuncts. -/
theorem distinctKeys_layout : ∀ block : Block Value,
    DistinctKeys (block.layout value).levels ↔
      ∀ filter ∈ block.allFilters, filter.column ≠ "$and"
  | ⟨id, op, filters, blocks⟩ => by
      rw [layout, levels_level, distinctKeys_cons, nodup_keys_level, listLevels_append,
        distinctKeys_append, and_iff_right (distinctKeys_entries value _),
        distinctKeys_layoutMembers blocks, allFilters, List.forall_mem_append]

theorem distinctKeys_layoutMembers : ∀ blocks : List (Block Value),
    DistinctKeys (listLevels (layoutMembers value blocks)) ↔
      ∀ filter ∈ allFiltersIn blocks, filter.column ≠ "$and"
  | [] => iff_of_true (List.forall_mem_nil _) (List.forall_mem_nil _)
  | block :: rest => by
      rw [layoutMembers, listLevels, distinctKeys_append, distinctKeys_asMember,
        distinctKeys_layout block, distinctKeys_layoutMembers rest, allFiltersIn,
        List.forall_mem_append]

end

variable {dataset : Dataset} {context : Context}

/-- A compiled tree is written whole at every level exactly when no filter of the tree is on a column
of the name `$and`: the other reserved names stand in the place of nothing that a compiled tree has
beside columns. -/
theorem writtenWhole_iff {block : Block Value} {compiled : Expression}
    (compiles : (block.compile dataset context).result = .ok compiled) :
    (∀ level ∈ compiled.levels, ∃ members, level.WrittenWhole members) ↔
      ∀ filter ∈ block.allFilters, filter.column ≠ "$and" := by
  obtain ⟨-, rfl⟩ := result_compile_eq_ok_iff.mp compiles
  simp only [exists_writtenWhole_iff]
  exact distinctKeys_layout _ block

end Block

namespace Sample

/-- A dataset that has a column of the name `$and`, as it is stored. -/
def reservedText : String :=
  "\x7b\"name\":\"orders\",\"columns\":[\x7b\"name\":\"id\",\"type\":\"int\"\x7d," ++
    "\x7b\"name\":\"$and\",\"type\":\"int\"\x7d]\x7d"

def reserved : Dataset :=
  orders.withColumn { name := "$and", type := .int }

/-- A tree with two filters in one group and a third one on the column `$and`. -/
def shadowed : Block Value where
  id := "root"
  filters := [
    { id := "first", column := "id", predicate := .compare .ne (.value (.int 1)) },
    { id := "second", column := "id", predicate := .compare .ne (.value (.int 2)) },
    { id := "third", column := "$and", predicate := .compare .eq (.value (.int 3)) }]

def shadowedExpression : Expression where
  all := some [{ columns := [("id", [(.ne, .int 1)])] }]
  columns := [("id", [(.ne, .int 2)]), ("$and", [(.eq, .int 3)])]

end Sample

open Sample

set_option maxRecDepth 4000 in
/-- A dataset with a reserved name among those of its columns is accepted. -/
theorem Dataset.ofJsonText_reserved : ofJsonText reservedText = .ok reserved := rfl

/-- The tree on one column is written whole, its conjuncts and its member of a `$or` included. -/
theorem Block.crowded_writtenWhole :
    (crowded.compile orders {}).result = .ok crowdedExpression ∧
      ((∀ level ∈ crowdedExpression.levels, ∃ members, level.WrittenWhole members) ↔
        ∀ filter ∈ crowded.allFilters, filter.column ≠ "$and") := by
  have compiles : (crowded.compile orders {}).result = .ok crowdedExpression := rfl
  exact ⟨compiles, writtenWhole_iff compiles⟩

/-- The condition on the column `$and` is written under the key of the conjuncts, and the canonical
form has lost the first of the filters. -/
theorem Block.shadowed_loses_conjunct :
    Dataset.ofJsonText reservedText = .ok reserved ∧
      (shadowed.compile reserved {}).result = .ok shadowedExpression ∧
      shadowedExpression ∈ shadowedExpression.levels ∧
      shadowedExpression.keys = ["$and", "id", "$and"] ∧
      shadowedExpression.toJson.sorted =
        .object [("$and", .object [("$eq", .int 3)]), ("id", .object [("$ne", .int 2)])] := by
  refine ⟨Dataset.ofJsonText_reserved, rfl, ?_, rfl, rfl⟩
  rw [shadowedExpression, Expression.levels]
  exact List.mem_cons_self

end DashboardFilters
