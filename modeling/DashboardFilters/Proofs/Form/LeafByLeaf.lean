import DashboardFilters.Proofs.Form.Editing
import DashboardFilters.Proofs.Tree.Outline

/-!
Converting a tree is converting the selector of each of its filters. Trees and single selectors are
converted by walks of their own; they agree on which filters can be converted, on what becomes of
each of them and on the first failure, and the tree keeps its blocks.
-/

namespace DashboardFilters

open Outcome

variable {V W : Type}

/-- Whether a filter keeps all but its predicate, which becomes the one that a conversion of
selectors gives. -/
structure Filter.BecomesBy (single : Selector V → Except Failure (Selector W)) (filter : Filter V)
    (leaf : Filter W) : Prop where
  id : leaf.id = filter.id
  column : leaf.column = filter.column
  shown : leaf.shown = filter.shown
  operator : leaf.operator = filter.operator
  selector : single filter.selector = .ok leaf.selector

/-- Whether a block of an outline keeps its place, its identifier and its operator, and has its
filters converted one by one. -/
structure Node.BecomesBy (single : Selector V → Except Failure (Selector W)) (node : Node V)
    (other : Node W) : Prop where
  trail : other.trail = node.trail
  id : other.id = node.id
  op : other.op = node.op
  filters : List.Forall₂ (Filter.BecomesBy single) node.filters other.filters

/-- Whether a conversion of whole trees is one of selectors, leaf by leaf: the filters of a tree are
taken in the order in which trees list them. -/
structure LeafByLeaf (dataset : Dataset) (single : Selector V → Except Failure (Selector W))
    (whole : Block V → Except Failure (Block W)) : Prop where
  succeeds_iff : ∀ tree, (∃ form, whole tree = .ok form) ↔
    ∀ filter ∈ tree.allFilters, ∃ selector, single filter.selector = .ok selector
  outline : ∀ tree form, whole tree = .ok form →
    List.Forall₂ (Node.BecomesBy single) tree.outline form.outline
  leaves : ∀ tree form, whole tree = .ok form →
    List.Forall₂ (Filter.BecomesBy single) tree.allFilters form.allFilters
  fails_iff : ∀ tree failure, whole tree = .error failure ↔
    ∃ before filter after, tree.allFilters = before ++ filter :: after ∧
      (∀ earlier ∈ before, ∃ selector, single earlier.selector = .ok selector) ∧
      single filter.selector = .error failure
  /-- No predicate is converted on a column that the dataset lacks, be it a null check or an
  expression. -/
  lacks_column : ∀ selector, dataset.column? selector.column = none →
    single selector = .error (.columnNotFound selector.column)

variable {codec : Codec V W} {dataset : Dataset}

theorem Predicate.operator_of_convert {column : Column} {predicate : Predicate V}
    {target : Predicate W} (made : predicate.convert codec column = .ok target) :
    target.operator = predicate.operator := by
  cases predicate with
  | isNull | isNotNull | list =>
      cases made
      rfl
  | compare op operand =>
      obtain ⟨_, -, rfl⟩ := map_eq_ok_iff.mp made
      rfl
  | between range =>
      cases range with
      | relative span =>
          cases made
          rfl
      | fixed left right =>
          obtain ⟨_, -, made⟩ := bind_eq_ok_iff.mp made
          obtain ⟨_, -, ⟨⟩⟩ := bind_eq_ok_iff.mp made
          rfl

/-- A filter that is converted is converted as its selector is. -/
theorem Filter.becomesBy_of_convert {filter : Filter V} {leaf : Filter W}
    (made : filter.convert codec dataset = .ok leaf) :
    filter.BecomesBy (Selector.convert codec dataset) leaf := by
  obtain ⟨column, predicate, found, step, rfl⟩ := convert_eq_ok_iff.mp made
  refine ⟨rfl, rfl, rfl, Predicate.operator_of_convert step, ?_⟩
  unfold Selector.convert Dataset.lookup Filter.selector
  simp only [found, bind, Except.bind, step]
  rfl

/-- The filters of some filters that are converted one by one. -/
theorem Filter.forall₂_becomesBy {filters : List (Filter V)} {leaves : List (Filter W)}
    (made : List.Forall₂ (Filter.Becomes codec dataset) filters leaves) :
    List.Forall₂ (Filter.BecomesBy (Selector.convert codec dataset)) filters leaves :=
  made.imp fun _ _ => becomesBy_of_convert

namespace Block

mutual

/-- The blocks of a tree that is converted keep their places. -/
theorem Becomes.outlineFrom (trail : List String) : ∀ {tree : Block V} {form : Block W},
    tree.Becomes codec dataset form →
      List.Forall₂ (Node.BecomesBy (Selector.convert codec dataset)) (tree.outlineFrom trail)
        (form.outlineFrom trail)
  | ⟨id, op, filters, blocks⟩, ⟨formId, formOp, own, others⟩, becomes => by
      obtain ⟨rfl, rfl, ownBecome, othersBecome⟩ := becomes_iff.mp becomes
      rw [Block.outlineFrom, Block.outlineFrom]
      exact .cons ⟨rfl, rfl, rfl, Filter.forall₂_becomesBy ownBecome⟩
        (forall₂_outlineIn trail othersBecome)

theorem forall₂_outlineIn (trail : List String) : ∀ {blocks : List (Block V)}
    {forms : List (Block W)}, List.Forall₂ (Becomes codec dataset) blocks forms →
      List.Forall₂ (Node.BecomesBy (Selector.convert codec dataset)) (outlineIn trail blocks)
        (outlineIn trail forms)
  | [], _, .nil => by
      rw [outlineIn, outlineIn]
      exact .nil
  | block :: _, form :: _, .cons first remaining => by
      have named : form.id = block.id := (becomes_iff.mp first).1
      rw [outlineIn, outlineIn, named]
      exact List.rel_append (first.outlineFrom (trail ++ [block.id]))
        (forall₂_outlineIn trail remaining)

end

variable (codec dataset) in
/-- Every conversion of values goes leaf by leaf. -/
theorem leafByLeaf_convert :
    LeafByLeaf dataset (Selector.convert codec dataset) (convert codec dataset) where
  succeeds_iff tree := by
    constructor
    · rintro ⟨form, made⟩ filter inside
      obtain ⟨leaf, converted⟩ := exists_of_forall₂ (forall₂_of_convert tree form made) filter inside
      exact Filter.exists_convert_iff.mp ⟨leaf, converted⟩
    · intro each
      exact exists_convert tree fun filter inside =>
        Filter.exists_convert_iff.mpr (each filter inside)
  outline _ _ made := Becomes.outlineFrom [] made
  leaves tree form made := Filter.forall₂_becomesBy (forall₂_of_convert tree form made)
  fails_iff tree failure := by
    rw [convert_eq_error_iff, mapM_eq_error_iff]
    simp only [Filter.exists_convert_iff, Filter.convert_eq_error_iff]
  lacks_column selector missing := by
    unfold Selector.convert Dataset.lookup
    rw [missing]
    rfl

/-- Opening a tree in a form is opening the selector of each of its filters, and storing a form is
storing the selector of each of its filters: they succeed together, give the same predicates and
fail as the first filter does that fails, while the tree keeps its blocks and all else of its
filters. -/
theorem forms_leaf_by_leaf (dataset : Dataset) (timezone : Timezone) :
    LeafByLeaf dataset (Selector.convert (.toForm timezone) dataset) (toForm dataset timezone) ∧
      LeafByLeaf dataset (Selector.convert (.fromForm timezone) dataset)
        (fromForm dataset timezone) :=
  ⟨leafByLeaf_convert (.toForm timezone) dataset, leafByLeaf_convert (.fromForm timezone) dataset⟩

end Block

namespace Sample

/-- Arrivals at one moment, above a hidden null check on a column that the visits do not have. -/
def departed {V : Type} (moment : V) : Block V where
  id := "root"
  filters := [arrivedAt moment]
  blocks := [{
    id := "gone"
    op := .or
    filters := [{ id := "left", column := "departure", shown := false, predicate := .isNull }] }]

end Sample

open Sample

/-- The missing column counts once the filter in front of it is converted; before that, the failure
is that of the text that is no instant. -/
theorem Block.departed_fails :
    (departed (.text "2024-03-09T18:30:00Z")).toForm visits india =
        .error (.columnNotFound "departure") ∧
      (departed (.text "soon")).toForm visits india =
        .error ((Failure.malformedLiteral "an ISO datetime" "soon").withColumn "arrival") := by
  have opened := (Block.forms_leaf_by_leaf visits india).1
  constructor
  · apply (opened.fails_iff _ _).mpr
    refine ⟨[arrivedAt (.text "2024-03-09T18:30:00Z")], _, [], rfl, ?_, ?_⟩
    · exact List.forall_mem_singleton.mpr ⟨_, rfl⟩
    · exact opened.lacks_column _ rfl
  · apply (opened.fails_iff _ _).mpr
    exact ⟨[], _, _, rfl, List.forall_mem_nil _, rfl⟩

end DashboardFilters
