import DashboardFilters.Proofs.Tree.Operands

namespace DashboardFilters

/-- Whether two lists have related items, one for the other, in any order. -/
inductive UpToOrder {α : Type} (related : α → α → Prop) : List α → List α → Prop where
  | nil : UpToOrder related [] []
  | cons {one other : α} {first second : List α} (same : related one other)
      (rest : UpToOrder related first second) : UpToOrder related (one :: first) (other :: second)
  | moved {first middle second : List α} (perm : first.Perm middle)
      (rest : UpToOrder related middle second) : UpToOrder related first second

/-- Related items stay related when the relation between them is a weaker one. -/
theorem UpToOrder.imp_of_mem {α : Type} {related weaker : α → α → Prop} {first second : List α}
    (known : UpToOrder related first second)
    (implies : ∀ one ∈ first, ∀ other, related one other → weaker one other) :
    UpToOrder weaker first second := by
  induction known with
  | nil => exact .nil
  | cons same _ ih =>
      rw [List.forall_mem_cons] at implies
      exact .cons (implies.1 _ same) (ih implies.2)
  | moved perm _ ih => exact .moved perm (ih fun one inside => implies one (perm.mem_iff.mpr inside))

/-- Wholes with the same parts in some order have the same parts together, in some order. -/
theorem UpToOrder.flatMap_perm {α β : Type} {parts : α → List β} {first second : List α}
    (known : UpToOrder (fun one other => (parts one).Perm (parts other)) first second) :
    (first.flatMap parts).Perm (second.flatMap parts) := by
  induction known with
  | nil => exact .nil
  | cons same _ ih => exact same.append ih
  | moved perm _ ih => exact (perm.flatMap_right _).trans ih

/-- Items that are related to themselves are related in their order. -/
theorem UpToOrder.self {α : Type} {related : α → α → Prop} {items : List α}
    (same : ∀ item ∈ items, related item item) : UpToOrder related items items := by
  induction items with
  | nil => exact .nil
  | cons item rest ih =>
      rw [List.forall_mem_cons] at same
      exact .cons same.1 (ih same.2)

/-- What is made of items in some order is in some order. -/
theorem UpToOrder.map {α β : Type} {related : β → β → Prop} {make : α → β} {first second : List α}
    (known : UpToOrder (fun one other => related (make one) (make other)) first second) :
    UpToOrder related (first.map make) (second.map make) := by
  induction known with
  | nil => exact .nil
  | cons same _ ih => exact .cons same ih
  | moved perm _ ih => exact .moved (perm.map make) ih

/-- Lists with related items in some order make such lists together. -/
theorem UpToOrder.append {α : Type} {related : α → α → Prop} {before after first second : List α}
    (front : UpToOrder related before after) (known : UpToOrder related first second) :
    UpToOrder related (before ++ first) (after ++ second) := by
  induction front with
  | nil => exact known
  | cons same _ ih => exact .cons same ih
  | moved perm _ ih => exact .moved (perm.append_right first) ih

variable {V : Type}

/-- Whether filters are the same in an order that differs at most between filters of different
columns or operators. -/
structure Filter.Rearranged (first second : List (Filter V)) : Prop where
  moved : first.Perm second
  /-- The filters of each column and operator come in the same order. -/
  kept : ∀ column operator,
    first.filter (fun filter => filter.column = column ∧ filter.operator = operator) =
      second.filter fun filter => filter.column = column ∧ filter.operator = operator

/-- Filters of different columns or operators may change places. -/
theorem Filter.rearranged_swap {first second : Filter V} (before after : List (Filter V))
    (independent : ¬ (first.column = second.column ∧ first.operator = second.operator)) :
    Rearranged (before ++ first :: second :: after) (before ++ second :: first :: after) := by
  refine ⟨(List.Perm.swap second first after).append_left before, fun column operator => ?_⟩
  rw [List.filter_append, List.filter_append]
  congr 1
  by_cases own : first.column = column ∧ first.operator = operator
  · have apart : ¬ (second.column = column ∧ second.operator = operator) := fun same =>
      independent ⟨own.1.trans same.1.symm, own.2.trans same.2.symm⟩
    simp [own, apart]
  · simp [List.filter_cons, own]

namespace Block

/-- Whether a tree is another one with its filters rearranged and its sub-blocks in any order, at
every block. -/
inductive Rearranged : Block V → Block V → Prop where
  | intro {id : String} {op : LogicalOp} {filters others : List (Filter V)}
      {blocks moved : List (Block V)} (own : Filter.Rearranged filters others)
      (below : UpToOrder Rearranged blocks moved) :
      Rearranged ⟨id, op, filters, blocks⟩ ⟨id, op, others, moved⟩

/-- A rearranged block combines its parts as before. -/
theorem Rearranged.op_eq {first second : Block V} (rearranged : Rearranged first second) :
    first.op = second.op := by
  cases rearranged
  rfl

/-- A rearranged tree has the same filters. -/
theorem allFilters_perm_of_rearranged (first : Block V) :
    ∀ second, Rearranged first second → first.allFilters.Perm second.allFilters := by
  induction first using of_blocks with
  | step first below =>
      rintro _ ⟨own, moved⟩
      rw [allFilters, allFilters, allFiltersIn_eq, allFiltersIn_eq]
      exact own.moved.append (moved.imp_of_mem below).flatMap_perm

end Block

end DashboardFilters
