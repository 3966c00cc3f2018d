import DashboardFilters.Proofs.Compile.Grouping

namespace DashboardFilters

/-- The expression of a single filter with the given value. -/
def Filter.entry (value : Filter Value → Value) (filter : Filter Value) : Expression :=
  .entry filter.column filter.operator (value filter)

namespace Expression

/-- An expression of conjuncts and conditions on columns, as compiled blocks are. -/
def level (conjuncts : List Expression) (columns : List (String × Conditions)) : Expression :=
  { all := some conjuncts, columns }

/-- The condition that stays at a column for an operator: the value of the last filter. -/
def lastCondition (value : Filter Value → Value) (filters : List (Filter Value)) (column : String)
    (operator : Operator) : Operator × Value :=
  (operator, ((Groups.members column operator filters).getLast?.map value).getD .null)

def columnConditions (value : Filter Value → Value) (filters : List (Filter Value))
    (column : String) : String × Conditions :=
  (column, (Groups.operatorsOn column filters).map (lastCondition value filters column))

/-- The conditions that stay at the columns of some filters. -/
def topConditions (value : Filter Value → Value) (filters : List (Filter Value)) :
    List (String × Conditions) :=
  (Groups.columns filters).map (columnConditions value filters)

end Expression

namespace Block

mutual

/-- The expression that a block comes to when its filters have the given values. -/
def layout (value : Filter Value → Value) : Block Value → Expression
  | ⟨_, _, filters, blocks⟩ =>
      .level ((Groups.displaced filters).map (Filter.entry value) ++ layoutMembers value blocks)
        (Expression.topConditions value filters)

/-- The conjuncts that sub-blocks come to. -/
def layoutMembers (value : Filter Value → Value) : List (Block Value) → List Expression
  | [] => []
  | block :: rest => (layout value block).asMember block.op :: layoutMembers value rest

end

/-- The conjuncts of sub-blocks are made of one sub-block each. -/
theorem layoutMembers_eq_map (value : Filter Value → Value) (blocks : List (Block Value)) :
    layoutMembers value blocks = blocks.map fun block => (block.layout value).asMember block.op := by
  induction blocks with
  | nil => rw [layoutMembers, List.map_nil]
  | cons block rest ih => rw [layoutMembers, ih, List.map_cons]

end Block

namespace Expression

variable (value : Filter Value → Value) (filters : List (Filter Value))

/-- Conjuncts that are pushed come last, in their order. -/
theorem foldl_pushAll_level (column : String) (operator : Operator) (earlier : List Value)
    (conjuncts : List Expression) (columns : List (String × Conditions)) :
    earlier.foldl (fun (built : Expression) given => built.pushAll (.entry column operator given))
        (level conjuncts columns) =
      level (conjuncts ++ earlier.map (.entry column operator)) columns := by
  induction earlier generalizing conjuncts with
  | nil => simp
  | cons given rest ih =>
      rw [List.foldl_cons]
      change rest.foldl _ (level (conjuncts ++ [_]) columns) = _
      rw [ih, List.map_cons, List.append_assoc, List.singleton_append]

/-- A group leaves its last value at its column and its earlier filters among the conjuncts. -/
theorem addValues_members {column : String} {operator : Operator}
    (present : operator ∈ Groups.operatorsOn column filters)
    (conjuncts : List Expression) (columns : List (String × Conditions)) :
    (level conjuncts columns).addValues column operator
        ((Groups.members column operator filters).map value) =
      level (conjuncts ++
          (Groups.members column operator filters).dropLast.map (Filter.entry value))
        (Keyed.change column [] (Keyed.put operator
          (lastCondition value filters column operator).2) columns) := by
  have occupied := Groups.members_ne_nil present
  have last := List.getLast?_eq_getLast_of_ne_nil occupied
  have entries : (Groups.members column operator filters).dropLast.map (Filter.entry value) =
      ((Groups.members column operator filters).dropLast.map value).map
        (.entry column operator) := by
    rw [List.map_map]
    apply List.map_congr_left
    intro filter inside
    have own := (Groups.mem_members.mp (List.dropLast_subset _ inside)).2
    rw [Filter.entry, own.1, own.2, Function.comp_apply]
  rw [addValues, List.getLast?_map, last, Option.map_some, ← List.map_dropLast]
  dsimp only
  rw [foldl_pushAll_level, entries, lastCondition, last]
  rfl

/-- Some groups of one column change the conditions on it and add to the conjuncts. -/
theorem foldl_addValues_level {column : String} {operators : List Operator}
    (present : ∀ operator ∈ operators, operator ∈ Groups.operatorsOn column filters)
    (conjuncts : List Expression) (columns : List (String × Conditions)) :
    (operators.map fun operator => (operator, Groups.members column operator filters)).foldl
        (fun expression group => expression.addValues column group.1 (group.2.map value))
        (level conjuncts columns) =
      level (conjuncts ++ (operators.flatMap fun operator =>
          (Groups.members column operator filters).dropLast).map (Filter.entry value))
        ((operators.map (lastCondition value filters column)).foldl (fun built condition =>
          Keyed.change column [] (Keyed.put condition.1 condition.2) built) columns) := by
  induction operators generalizing conjuncts columns with
  | nil => simp
  | cons operator rest ih =>
      rw [List.forall_mem_cons] at present
      rw [List.map_cons, List.foldl_cons, addValues_members value filters present.1,
        ih present.2, List.flatMap_cons, List.map_append, List.append_assoc, List.map_cons,
        List.foldl_cons]
      rfl

/-- The filters of a new column leave its conditions behind those of the columns before. -/
theorem foldl_column_level {column : String} (inside : column ∈ Groups.columns filters)
    (conjuncts : List Expression) {columns : List (String × Conditions)}
    (fresh : column ∉ columns.map Prod.fst) :
    ((Groups.operatorsOn column filters).map fun operator =>
        (operator, Groups.members column operator filters)).foldl
        (fun expression group => expression.addValues column group.1 (group.2.map value))
        (level conjuncts columns) =
      level (conjuncts ++ (Groups.displacedOn filters column).map (Filter.entry value))
        (columns ++ [columnConditions value filters column]) := by
  have occupied : (Groups.operatorsOn column filters).map (lastCondition value filters column) ≠ [] := by
    simpa using Groups.operatorsOn_ne_nil inside
  have separate : (((Groups.operatorsOn column filters).map
      (lastCondition value filters column)).map Prod.fst).Nodup := by
    simpa [lastCondition, Function.comp_def] using Groups.nodup_operatorsOn column filters
  have kept := Keyed.ofList_self separate
  rw [Keyed.ofList] at kept
  rw [foldl_addValues_level value filters (fun _ present => present),
    Keyed.foldl_change_fresh column [] (fun condition : Operator × Value =>
      Keyed.put condition.1 condition.2) occupied fresh, kept]
  rfl

/-- The filters of a block leave the conditions of all its columns and nothing else. -/
theorem foldl_columns_level {columns : List String} (distinct : columns.Nodup)
    (inside : ∀ column ∈ columns, column ∈ Groups.columns filters)
    (conjuncts : List Expression) (before : List (String × Conditions))
    (fresh : ∀ column ∈ columns, column ∉ before.map Prod.fst) :
    columns.foldl (fun expression column =>
        ((Groups.operatorsOn column filters).map fun operator =>
          (operator, Groups.members column operator filters)).foldl
          (fun expression group => expression.addValues column group.1 (group.2.map value))
          expression) (level conjuncts before) =
      level (conjuncts ++ (columns.flatMap (Groups.displacedOn filters)).map (Filter.entry value))
        (before ++ columns.map (columnConditions value filters)) := by
  induction columns generalizing conjuncts before with
  | nil => simp
  | cons column rest ih =>
      rw [List.nodup_cons] at distinct
      rw [List.forall_mem_cons] at inside fresh
      have later : ∀ other ∈ rest, other ∉
          (before ++ [columnConditions value filters column]).map Prod.fst := by
        intro other present
        rw [List.map_append, List.mem_append, not_or]
        refine ⟨fresh.2 other present, ?_⟩
        rw [List.map_singleton, List.mem_singleton]
        rintro rfl
        exact distinct.1 present
      rw [List.foldl_cons, foldl_column_level value filters inside.1 conjuncts fresh.1,
        ih distinct.2 inside.2 _ _ later, List.flatMap_cons, List.map_append, List.map_cons]
      simp only [List.append_assoc, List.singleton_append]

end Expression

end DashboardFilters
