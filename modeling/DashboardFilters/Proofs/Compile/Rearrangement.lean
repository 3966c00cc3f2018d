import DashboardFilters.Proofs.Compile.Entries
import DashboardFilters.Proofs.Tree.Rearrangement

namespace DashboardFilters

namespace Filter.Rearranged

variable {first second : List (Filter Value)} (rearranged : Filter.Rearranged first second)

include rearranged

/-- Rearranged filters have the same groups. -/
theorem members_eq (column : String) (operator : Operator) :
    Groups.members column operator first = Groups.members column operator second := by
  simpa [Groups.members, List.filter_filter, Bool.and_comm] using rearranged.kept column operator

theorem mem_columns_iff (column : String) :
    column ∈ Groups.columns first ↔ column ∈ Groups.columns second := by
  simp only [Groups.mem_columns, rearranged.moved.mem_iff]

/-- Rearranged filters have the same operators on each column. -/
theorem mem_operatorsOn_iff (column : String) (operator : Operator) :
    operator ∈ Groups.operatorsOn column first ↔ operator ∈ Groups.operatorsOn column second := by
  simp only [Groups.mem_operatorsOn, rearranged.moved.mem_iff]

/-- The same filters of a group are displaced, as the same filter comes last in it. -/
theorem displaced_perm : (Groups.displaced first).Perm (Groups.displaced second) := by
  have columns : (Groups.columns first).Perm (Groups.columns second) :=
    (List.perm_ext_iff_of_nodup (Groups.nodup_columns first) (Groups.nodup_columns second)).mpr
      rearranged.mem_columns_iff
  apply columns.flatMap
  intro column _
  have operators : (Groups.operatorsOn column first).Perm (Groups.operatorsOn column second) :=
    (List.perm_ext_iff_of_nodup (Groups.nodup_operatorsOn column first)
      (Groups.nodup_operatorsOn column second)).mpr (rearranged.mem_operatorsOn_iff column)
  apply operators.flatMap
  intro operator _
  rw [rearranged.members_eq]

end Filter.Rearranged

namespace Expression

/-- Whether conditions on columns are the same as maps: the same columns with the same operators,
each with the same value. -/
def SameColumns (first second : List (String × Conditions)) : Prop :=
  ∀ column, Option.Rel (fun one other => ∀ operator,
    Keyed.get? operator one = Keyed.get? operator other)
    (Keyed.get? column first) (Keyed.get? column second)

/-- Whether expressions are the same up to the order of columns, operators and conjuncts, at every
level. -/
inductive Alike : Expression → Expression → Prop where
  | intro {first second : Expression} (columns : SameColumns first.columns second.columns)
      (all : Option.Rel (UpToOrder Alike) first.all second.all)
      (any : Option.Rel (List.Forall₂ Alike) first.any second.any)
      (negated : Option.Rel Alike first.negated second.negated) : Alike first second

/-- Conditions are the same as themselves. -/
theorem sameColumns_self (columns : List (String × Conditions)) : SameColumns columns columns := by
  intro column
  cases Keyed.get? column columns with
  | none => exact .none
  | some own => exact .some fun _ => rfl

/-- Rearranged filters leave the same conditions at the columns. -/
theorem sameColumns_topConditions (value : Filter Value → Value) {first second : List (Filter Value)}
    (rearranged : Filter.Rearranged first second) :
    SameColumns (topConditions value first) (topConditions value second) := by
  intro column
  have under (filters : List (Filter Value)) : Keyed.get? column (topConditions value filters) =
      if column ∈ Groups.columns filters then
        some ((Groups.operatorsOn column filters).map (lastCondition value filters column))
      else none :=
    Keyed.get?_map column (Groups.columns filters) fun column =>
      (Groups.operatorsOn column filters).map (lastCondition value filters column)
  rw [under, under]
  by_cases present : column ∈ Groups.columns first
  · rw [if_pos present, if_pos ((rearranged.mem_columns_iff column).mp present)]
    refine .some fun operator => ?_
    have on (filters : List (Filter Value)) :
        Keyed.get? operator ((Groups.operatorsOn column filters).map
          (lastCondition value filters column)) =
        if operator ∈ Groups.operatorsOn column filters then
          some (lastCondition value filters column operator).2 else none :=
      Keyed.get?_map operator (Groups.operatorsOn column filters) fun operator =>
        (lastCondition value filters column operator).2
    rw [on, on, lastCondition, lastCondition, rearranged.members_eq]
    simp only [rearranged.mem_operatorsOn_iff]
  · rw [if_neg present, if_neg (mt (rearranged.mem_columns_iff column).mpr present)]
    exact .none

/-- A single condition is like itself. -/
theorem alike_entry (column : String) (operator : Operator) (value : Value) :
    Alike (entry column operator value) (entry column operator value) :=
  .intro (sameColumns_self _) .none .none .none

theorem Alike.asMember {first second : Expression} (alike : Alike first second) (op : LogicalOp) :
    Alike (first.asMember op) (second.asMember op) := by
  cases op with
  | and => exact alike
  | or => exact .intro (sameColumns_self []) .none (.some (.cons alike .nil)) .none

end Expression

namespace Block

open Expression

variable (value : Filter Value → Value)

/-- The layout of a rearranged tree is like that of the tree. -/
theorem alike_layout (first : Block Value) :
    ∀ second, Rearranged first second → Alike (first.layout value) (second.layout value) := by
  induction first using of_blocks with
  | step first below =>
      rintro _ ⟨own, moved⟩
      have displaced : UpToOrder Alike ((Groups.displaced _).map (Filter.entry value))
          ((Groups.displaced _).map (Filter.entry value)) :=
        .moved (own.displaced_perm.map _) (.map (.self fun filter _ => alike_entry _ _ _))
      have members : UpToOrder (fun one other : Block Value =>
          Alike ((one.layout value).asMember one.op) ((other.layout value).asMember other.op)) _ _ :=
        moved.imp_of_mem fun one inside other same =>
          same.op_eq ▸ (below one inside other same).asMember one.op
      rw [layout, layout, layoutMembers_eq_map, layoutMembers_eq_map]
      exact .intro (sameColumns_topConditions value own) (.some (displaced.append members.map))
        .none .none

/-- Compiling does not depend on the order of independent filters or of sub-blocks. A tree and a
rearranged one both compile or both fail; what they compile to has the same columns with the same
operators and values at every level, and conjuncts that are alike in some order. -/
theorem compile_rearranged (dataset : Dataset) (context : Context) {first second : Block Value}
    (rearranged : Rearranged first second) :
    ((∃ compiled, (first.compile dataset context).result = .ok compiled) ↔
      ∃ compiled, (second.compile dataset context).result = .ok compiled) ∧
    ∀ one other, (first.compile dataset context).result = .ok one →
      (second.compile dataset context).result = .ok other → one.Alike other := by
  have filters := allFilters_perm_of_rearranged first second rearranged
  have succeeds (block : Block Value) :
      (∃ compiled, (block.compile dataset context).result = .ok compiled) ↔
        ∀ filter ∈ block.allFilters,
          filter.resolved dataset context = .ok (filter.valueIn dataset context) := by
    simp only [result_compile_eq_ok_iff, exists_and_left, exists_eq, and_true]
  constructor
  · rw [succeeds, succeeds]
    simp only [filters.mem_iff]
  · intro one other compiles compilesToo
    obtain ⟨-, rfl⟩ := result_compile_eq_ok_iff.mp compiles
    obtain ⟨-, rfl⟩ := result_compile_eq_ok_iff.mp compilesToo
    exact alike_layout _ first second rearranged

end Block

namespace Sample

def small : Filter Value where
  id := "small"
  column := "id"
  predicate := .compare .lt (.value (.int 1))

def other (number : Int64) : Filter Value where
  id := "other"
  column := "id"
  predicate := .compare .ne (.value (.int number))

def known : Filter Value where
  id := "known"
  column := "id"
  predicate := .isNotNull

/-- A tree with two filters in one group, and with two sub-blocks. -/
def straight : Block Value where
  id := "root"
  filters := [other 1, known, other 2]
  blocks := [
    { id := "left", filters := [small] },
    { id := "right", op := .or, filters := [known, small] }]

/-- The same tree in another order at every block. -/
def turned : Block Value where
  id := "root"
  filters := [known, other 1, other 2]
  blocks := [
    { id := "right", op := .or, filters := [small, known] },
    { id := "left", filters := [small] }]

def straightExpression : Expression where
  all := some [
    { columns := [("id", [(.ne, .int 1)])] },
    { all := some [], columns := [("id", [(.lt, .int 1)])] },
    { any := some [{ all := some [], columns := [("id", [(.isNotNull, .bool true), (.lt, .int 1)])] }] }]
  columns := [("id", [(.ne, .int 2), (.isNotNull, .bool true)])]

def turnedExpression : Expression where
  all := some [
    { columns := [("id", [(.ne, .int 1)])] },
    { any := some [{ all := some [], columns := [("id", [(.lt, .int 1), (.isNotNull, .bool true)])] }] },
    { all := some [], columns := [("id", [(.lt, .int 1)])] }]
  columns := [("id", [(.isNotNull, .bool true), (.ne, .int 2)])]

end Sample

open Sample

/-- The two orders of one tree compile to expressions that are alike. -/
theorem Block.compile_turned_alike :
    Rearranged straight turned ∧
      ((∃ compiled, (straight.compile orders {}).result = .ok compiled) ↔
        ∃ compiled, (turned.compile orders {}).result = .ok compiled) ∧
      (straight.compile orders {}).result = .ok straightExpression ∧
      (turned.compile orders {}).result = .ok turnedExpression ∧
      straightExpression.Alike turnedExpression := by
  have own : Filter.Rearranged straight.filters turned.filters :=
    Filter.rearranged_swap [] [other 2] (by decide)
  have inner : Filter.Rearranged [known, small] [small, known] :=
    Filter.rearranged_swap [] [] (by decide)
  have left : Filter.Rearranged [small] [small] := ⟨.refl _, fun _ _ => rfl⟩
  have rearranged : Rearranged straight turned :=
    .intro own (.moved (.swap _ _ []) (.cons (.intro inner .nil) (.cons (.intro left .nil) .nil)))
  obtain ⟨both, alike⟩ := compile_rearranged orders {} rearranged
  exact ⟨rearranged, both, rfl, rfl, alike _ _ rfl rfl⟩

end DashboardFilters
