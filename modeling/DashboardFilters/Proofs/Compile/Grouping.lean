import DashboardFilters.Compile
import DashboardFilters.Proofs.Keyed

namespace DashboardFilters.Groups

/-- The columns of some filters, each where it first comes. -/
def columns (filters : List (Filter Value)) : List String :=
  (filters.map Filter.column).eraseDups

/-- The operators on a column, each where it first comes. -/
def operatorsOn (column : String) (filters : List (Filter Value)) : List Operator :=
  ((filters.filter fun filter => filter.column = column).map Filter.operator).eraseDups

def members (column : String) (operator : Operator) (filters : List (Filter Value)) :
    List (Filter Value) :=
  (filters.filter fun filter => filter.column = column).filter fun filter =>
    filter.operator = operator

def inColumn (column : String) (filters : List (Filter Value)) : List (Filter Value) :=
  (operatorsOn column filters).flatMap fun operator => members column operator filters

def inOrder (filters : List (Filter Value)) : List (Filter Value) :=
  (columns filters).flatMap fun column => inColumn column filters

/-- The filters of a column that a later one with the same operator displaces. -/
def displacedOn (filters : List (Filter Value)) (column : String) : List (Filter Value) :=
  (operatorsOn column filters).flatMap fun operator => (members column operator filters).dropLast

/-- The filters that a later one of the same column and operator displaces, group after group. -/
def displaced (filters : List (Filter Value)) : List (Filter Value) :=
  (columns filters).flatMap (displacedOn filters)

/-- The filters of a column that come last in their groups. -/
def remainingOn (filters : List (Filter Value)) (column : String) : List (Filter Value) :=
  (operatorsOn column filters).flatMap fun operator =>
    (members column operator filters).getLast?.toList

/-- The filters that come last in their groups, group after group. -/
def remaining (filters : List (Filter Value)) : List (Filter Value) :=
  (columns filters).flatMap (remainingOn filters)

theorem nodup_columns (filters : List (Filter Value)) : (columns filters).Nodup :=
  Keyed.nodup_eraseDups _

theorem nodup_operatorsOn (column : String) (filters : List (Filter Value)) :
    (operatorsOn column filters).Nodup :=
  Keyed.nodup_eraseDups _

theorem mem_columns {column : String} {filters : List (Filter Value)} :
    column ∈ columns filters ↔ ∃ filter ∈ filters, filter.column = column := by
  rw [columns, List.mem_eraseDups, List.mem_map]

theorem mem_operatorsOn {column : String} {operator : Operator} {filters : List (Filter Value)} :
    operator ∈ operatorsOn column filters ↔
      ∃ filter ∈ filters, filter.column = column ∧ filter.operator = operator := by
  simp [operatorsOn, List.mem_eraseDups, and_assoc]

theorem mem_members {column : String} {operator : Operator} {filters : List (Filter Value)}
    {filter : Filter Value} :
    filter ∈ members column operator filters ↔
      filter ∈ filters ∧ filter.column = column ∧ filter.operator = operator := by
  simp only [members, List.mem_filter, decide_eq_true_eq, and_assoc]

/-- A group that is there has a filter. -/
theorem members_ne_nil {column : String} {operator : Operator} {filters : List (Filter Value)}
    (present : operator ∈ operatorsOn column filters) : members column operator filters ≠ [] := by
  obtain ⟨filter, inside, own⟩ := mem_operatorsOn.mp present
  exact List.ne_nil_of_mem (mem_members.mpr ⟨inside, own⟩)

/-- A column that is there has an operator. -/
theorem operatorsOn_ne_nil {column : String} {filters : List (Filter Value)}
    (present : column ∈ columns filters) : operatorsOn column filters ≠ [] := by
  obtain ⟨filter, inside, own⟩ := mem_columns.mp present
  exact List.ne_nil_of_mem (mem_operatorsOn.mpr ⟨filter, inside, own, rfl⟩)

/-- A column that is there has a filter. -/
theorem inColumn_ne_nil {column : String} {filters : List (Filter Value)}
    (present : column ∈ columns filters) : inColumn column filters ≠ [] := by
  obtain ⟨operator, known⟩ := List.exists_mem_of_ne_nil _ (operatorsOn_ne_nil present)
  obtain ⟨filter, inside⟩ := List.exists_mem_of_ne_nil _ (members_ne_nil known)
  exact List.ne_nil_of_mem (List.mem_flatMap.mpr ⟨operator, known, inside⟩)

theorem column_of_mem_inColumn {column : String} {filters : List (Filter Value)}
    {filter : Filter Value} (inside : filter ∈ inColumn column filters) :
    filter.column = column := by
  obtain ⟨operator, _, member⟩ := List.mem_flatMap.mp inside
  exact (mem_members.mp member).2.1

theorem ofFilters_eq (filters : List (Filter Value)) :
    ofFilters filters = (columns filters).map fun column =>
      (column, (operatorsOn column filters).map fun operator =>
        (operator, members column operator filters)) := by
  have outer := Keyed.foldl_change Filter.column []
    (fun filter => Keyed.change filter.operator [] (· ++ [filter])) filters
  have inner (column : String) := Keyed.foldl_change Filter.operator []
    (fun filter (others : List (Filter Value)) => others ++ [filter])
    (filters.filter fun filter => filter.column = column)
  have gathered (group : List (Filter Value)) :
      group.foldl (fun others filter => others ++ [filter]) [] = group := by
    rw [List.foldl_append_eq_append, List.nil_append, ← List.flatMap_def, List.flatMap_singleton']
  simp only [inner, gathered] at outer
  exact outer

theorem inColumn_perm (column : String) (filters : List (Filter Value)) :
    (inColumn column filters).Perm (filters.filter fun filter => filter.column = column) :=
  Keyed.groups_perm Filter.operator _

/-- Taking the groups in order loses no filter and takes none twice. -/
theorem inOrder_perm (filters : List (Filter Value)) : (inOrder filters).Perm filters :=
  (List.Perm.flatMap_left _ fun column _ => inColumn_perm column filters).trans
    (Keyed.groups_perm Filter.column filters)

/-- A filter is displaced or comes last in its group. -/
theorem displaced_append_remaining_perm (filters : List (Filter Value)) :
    (displaced filters ++ remaining filters).Perm filters := by
  refine List.Perm.trans ?_ (inOrder_perm filters)
  refine (List.flatMap_append_perm (columns filters) _ _).trans ?_
  apply List.Perm.flatMap_left
  intro column _
  refine (List.flatMap_append_perm (operatorsOn column filters) _ _).trans ?_
  apply List.Perm.flatMap_left
  intro operator present
  have last := List.dropLast_append_getLast (members_ne_nil present)
  rw [List.getLast?_eq_getLast_of_ne_nil (members_ne_nil present), Option.toList_some, last]

end DashboardFilters.Groups
