import DashboardFilters.Proofs.Compile.Arrangement
import DashboardFilters.Proofs.Tree.Meaning

/-!
What a compiled tree asks for. A compiled block carries all of its parts beside each other, also
under OR, so that an expression asks for every filter of the tree it comes from. It means what the
tree means exactly when no way in which the tree holds leaves out a condition.
-/

namespace DashboardFilters

/-- The conditions on columns that a row meets. -/
abbrev Row := String → Operator → Value → Prop

namespace Expression

variable (row : Row)

mutual

/-- Whether a row meets an expression: all conditions on columns and all members of `$and`, at least
one member of `$or` where there is a `$or`, and not the expression under `$not`. -/
def Holds : Expression → Prop
  | ⟨all, any, negated, columns⟩ =>
      (∀ entry ∈ columns, ∀ condition ∈ entry.2, row entry.1 condition.1 condition.2) ∧
        AllHold all ∧ AnyHolds any ∧ Refuted negated

def AllHold : Option (List Expression) → Prop
  | none => True
  | some members => EachHolds members

/-- Whether a row meets at least one member of `$or`, if there is a `$or`. -/
def AnyHolds : Option (List Expression) → Prop
  | none => True
  | some members => SomeHolds members

/-- Whether a row does not meet the expression under `$not`. -/
def Refuted : Option Expression → Prop
  | none => True
  | some inner => ¬ Holds inner

def EachHolds : List Expression → Prop
  | [] => True
  | member :: rest => Holds member ∧ EachHolds rest

/-- Whether a row meets at least one of some expressions. -/
def SomeHolds : List Expression → Prop
  | [] => False
  | member :: rest => Holds member ∨ SomeHolds rest

end

variable {row}

theorem eachHolds_iff {members : List Expression} :
    EachHolds row members ↔ ∀ member ∈ members, member.Holds row := by
  induction members with
  | nil => simp [EachHolds]
  | cons member rest ih => rw [EachHolds, ih, List.forall_mem_cons]

/-- An expression of conjuncts and conditions holds when all of them do. -/
theorem holds_level {conjuncts : List Expression} {columns : List (String × Conditions)} :
    (level conjuncts columns).Holds row ↔
      (∀ condition ∈ (level conjuncts columns).conditions,
        row condition.1 condition.2.1 condition.2.2) ∧
      ∀ member ∈ conjuncts, member.Holds row := by
  have own : (∀ condition ∈ (level conjuncts columns).conditions,
      row condition.1 condition.2.1 condition.2.2) ↔
      ∀ entry ∈ columns, ∀ condition ∈ entry.2, row entry.1 condition.1 condition.2 := by
    simp only [conditions, level, List.mem_flatMap, List.mem_map]
    constructor
    · intro holds entry listed condition inside
      exact holds _ ⟨entry, listed, condition, inside, rfl⟩
    · rintro holds _ ⟨entry, listed, condition, inside, rfl⟩
      exact holds entry listed condition inside
  rw [own, level, Holds, AllHold, AnyHolds, Refuted, eachHolds_iff]
  simp only [and_true]

/-- An expression of one filter holds when its condition does. -/
theorem holds_entry {value : Filter Value → Value} {filter : Filter Value} :
    (filter.entry value).Holds row ↔ row filter.column filter.operator (value filter) := by
  rw [Filter.entry, entry_eq, Holds, AllHold, AnyHolds, Refuted]
  simp only [List.mem_singleton, forall_eq, and_true]

/-- Being the only member of a `$or` changes nothing. -/
theorem holds_asMember {compiled : Expression} {op : LogicalOp} :
    (compiled.asMember op).Holds row ↔ compiled.Holds row := by
  cases op with
  | and => rfl
  | or =>
      rw [asMember, anyOf, Holds, AllHold, AnyHolds, Refuted, SomeHolds, SomeHolds]
      simp

end Expression

/-- Whether a row meets the condition that a filter resolves to. -/
def Filter.Met (dataset : Dataset) (context : Context) (row : Row) (filter : Filter Value) : Prop :=
  ∃ value, filter.resolved dataset context = .ok value ∧ row filter.column filter.operator value

namespace Block

variable {dataset : Dataset} {context : Context} {row : Row}

section
variable (value : Filter Value → Value)

mutual

/-- The layout of a tree holds when the conditions of all its filters do. -/
theorem holds_layout : ∀ block : Block Value,
    (block.layout value).Holds row ↔
      ∀ filter ∈ block.allFilters, row filter.column filter.operator (value filter)
  | ⟨id, op, filters, blocks⟩ => by
      have own (filter : Filter Value) :
          filter ∈ filters ↔ filter ∈ Groups.displaced filters ++ Groups.remaining filters :=
        (Groups.displaced_append_remaining_perm filters).mem_iff.symm
      rw [layout, Expression.holds_level, Expression.conditions_level, allFilters,
        List.forall_mem_append, List.forall_mem_append, holds_layoutMembers blocks]
      simp only [List.forall_mem_map, Expression.holds_entry, own, List.mem_append, or_imp,
        forall_and, Filter.condition]
      rw [← and_assoc, and_comm (a := ∀ filter ∈ Groups.remaining filters, _)]

/-- The layouts of some trees hold when the conditions of all their filters do. -/
theorem holds_layoutMembers : ∀ blocks : List (Block Value),
    (∀ member ∈ layoutMembers value blocks, member.Holds row) ↔
      ∀ filter ∈ allFiltersIn blocks, row filter.column filter.operator (value filter)
  | [] => by simp [layoutMembers, allFiltersIn]
  | block :: rest => by
      rw [layoutMembers, List.forall_mem_cons, Expression.holds_asMember, holds_layout block,
        holds_layoutMembers rest, allFiltersIn, List.forall_mem_append]

end

end

/-- A compiled tree holds exactly when all filters of the tree are met, whatever its connectives. -/
theorem holds_compiled {block : Block Value} {compiled : Expression}
    (compiles : (block.compile dataset context).result = .ok compiled) :
    compiled.Holds row ↔ ∀ filter ∈ block.allFilters, filter.Met dataset context row := by
  obtain ⟨resolved, rfl⟩ := result_compile_eq_ok_iff.mp compiles
  rw [holds_layout]
  apply forall₂_congr
  intro filter inside
  constructor
  · intro holds
    exact ⟨_, resolved filter inside, holds⟩
  · rintro ⟨value, known, holds⟩
    rw [Filter.valueIn_of_resolved known]
    exact holds

/-- A compiled tree holds for no row for which the tree does not. -/
theorem holds_of_holds_compiled {block : Block Value} {compiled : Expression}
    (compiles : (block.compile dataset context).result = .ok compiled)
    (occupied : block.Occupied) (holds : compiled.Holds row) :
    block.Holds (Filter.Met dataset context row) :=
  holds_of_all_met block occupied ((holds_compiled compiles).mp holds)

/-- Whether an expression holds for exactly the rows for which the tree does. -/
def MeansSame (dataset : Dataset) (context : Context) (block : Block Value)
    (compiled : Expression) : Prop :=
  ∀ row : Row, compiled.Holds row ↔ block.Holds (Filter.Met dataset context row)

/-- Whether every way in which the tree holds has the condition of every filter of the tree. -/
def WaysCover (dataset : Dataset) (context : Context) (block : Block Value) : Prop :=
  ∀ way ∈ block.ways, ∀ filter ∈ block.allFilters, ∃ other ∈ way,
    other.column = filter.column ∧ other.operator = filter.operator ∧
      other.resolved dataset context = filter.resolved dataset context

/-- A tree without a choice between parts has only one way, which has all of its filters. -/
theorem waysCover_of_undivided {block : Block Value} (undivided : block.Undivided) :
    block.WaysCover dataset context := by
  intro way listed filter inside
  rw [ways_of_undivided block undivided, List.mem_singleton] at listed
  exact ⟨filter, listed ▸ inside, rfl, rfl, rfl⟩

/-- A compiled tree never holds where the tree does not. It means the same as the tree exactly when
every way in which the tree holds has the condition of every filter, as it has when no block asks
for any of several parts. -/
theorem meansSame_iff_waysCover {block : Block Value} {compiled : Expression}
    (compiles : (block.compile dataset context).result = .ok compiled)
    (occupied : block.Occupied) :
    (∀ row : Row, compiled.Holds row → block.Holds (Filter.Met dataset context row)) ∧
      (block.MeansSame dataset context compiled ↔ block.WaysCover dataset context) ∧
      (block.Undivided → block.MeansSame dataset context compiled) := by
  have exact : block.MeansSame dataset context compiled ↔ block.WaysCover dataset context := by
    constructor
    · intro same way listed filter inside
      -- The row that meets the conditions of the way and no others.
      let row : Row := fun column operator value => ∃ other ∈ way, other.column = column ∧
        other.operator = operator ∧ other.resolved dataset context = .ok value
      have resolved := (result_compile_eq_ok_iff.mp compiles).1
      have met : ∀ other ∈ way, other.Met dataset context row := by
        intro other member
        have known := resolved other (mem_allFilters_of_mem_way member block listed)
        exact ⟨_, known, other, member, rfl, rfl, known⟩
      have holds := (same row).mpr ((holds_iff_exists_way block).mpr ⟨way, listed, met⟩)
      obtain ⟨value, known, other, member, column, operator, agrees⟩ :=
        (holds_compiled compiles).mp holds filter inside
      exact ⟨other, member, column, operator, agrees.trans known.symm⟩
    · intro covered row
      refine ⟨holds_of_holds_compiled compiles occupied, fun holds => ?_⟩
      obtain ⟨way, listed, met⟩ := (holds_iff_exists_way block).mp holds
      rw [holds_compiled compiles]
      intro filter inside
      obtain ⟨other, member, column, operator, agrees⟩ := covered way listed filter inside
      obtain ⟨value, known, meets⟩ := met other member
      exact ⟨value, agrees ▸ known, column ▸ operator ▸ meets⟩
  refine ⟨fun row => holds_of_holds_compiled compiles occupied, exact, fun undivided => ?_⟩
  exact exact.mpr (waysCover_of_undivided undivided)

end Block

namespace Sample

/-- A tree that asks for one filter or for one of two others. -/
def either : Block Value where
  id := "root"
  op := .or
  filters := [
    { id := "absent", column := "id", predicate := .isNull }]
  blocks := [{
    id := "inner"
    op := .or
    filters := [
      { id := "small", column := "id", predicate := .compare .lt (.value (.int 1)) },
      { id := "large", column := "id", predicate := .compare .gt (.value (.int 5)) }] }]

/-- What the tree compiles to, which asks for all three. -/
def eitherExpression : Expression where
  all := some [
    { any := some [{ all := some [], columns := [("id", [(.lt, .int 1), (.gt, .int 5)])] }] }]
  columns := [("id", [(.isNull, .bool true)])]

def largeRow : Row := fun _ operator _ => operator = .gt

end Sample

/-- The tree whose only sub-block under OR has a single filter means what it compiles to. -/
theorem Block.crowded_meansSame :
    (Sample.crowded.compile Sample.orders {}).result = .ok Sample.crowdedExpression ∧
      Sample.crowded.Occupied ∧
      (∀ row : Row, Sample.crowdedExpression.Holds row →
        Sample.crowded.Holds (Filter.Met Sample.orders {} row)) ∧
      (Sample.crowded.MeansSame Sample.orders {} Sample.crowdedExpression ↔
        Sample.crowded.WaysCover Sample.orders {}) ∧
      (Sample.crowded.Undivided →
        Sample.crowded.MeansSame Sample.orders {} Sample.crowdedExpression) := by
  have occupied : Sample.crowded.Occupied := by
    simp [Sample.crowded, Occupied, EachOccupied]
  exact ⟨rfl, occupied, meansSame_iff_waysCover rfl occupied⟩

/-- A row with a large value meets the tree that asks for one of three filters, and not what the
tree compiles to. -/
theorem Block.either_loses_row :
    (Sample.either.compile Sample.orders {}).result = .ok Sample.eitherExpression ∧
      Sample.either.Occupied ∧
      Sample.either.Holds (Filter.Met Sample.orders {} Sample.largeRow) ∧
      ¬ Sample.eitherExpression.Holds Sample.largeRow := by
  refine ⟨rfl, ?_, ?_, ?_⟩
  · simp [Sample.either, Occupied, EachOccupied]
  · have large : Filter.Met Sample.orders {} Sample.largeRow
        { id := "large", column := "id", predicate := .compare .gt (.value (.int 5)) } :=
      ⟨.int 5, rfl, rfl⟩
    exact .inr (.inl (.inl ⟨_, by simp, large⟩))
  · rintro ⟨columns, -⟩
    have met := columns _ List.mem_cons_self (.isNull, .bool true) List.mem_cons_self
    cases met

end DashboardFilters
