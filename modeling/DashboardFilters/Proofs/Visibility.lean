import DashboardFilters.Proofs.Form.Summaries

namespace DashboardFilters

open Outcome

namespace Block

section Pruning

variable {V : Type}

/-- Whether a filter of the tree is shown, at any depth. -/
def showsSome (block : Block V) : Bool :=
  block.allFilters.any Filter.shown

mutual

/-- The tree without its hidden filters and without the sub-blocks that show no filter. The root
stays. -/
def visible : Block V → Block V
  | ⟨id, op, filters, blocks⟩ => ⟨id, op, filters.filter Filter.shown, visibleIn blocks⟩

/-- The trees that show a filter, without their hidden filters. -/
def visibleIn : List (Block V) → List (Block V)
  | [] => []
  | block :: rest =>
      if block.showsSome then visible block :: visibleIn rest else visibleIn rest

end

end Pruning

variable {dataset : Dataset} {display : Display}

/-- Only without items there is nothing to join. -/
theorem isNone_joinItems (op : LogicalOp) (items : List String) :
    (joinItems op items).isNone = items.isEmpty := by
  cases items <;> rfl

mutual

/-- A summary fails as the lines of the shown filters do, and is empty when there are none. -/
theorem map_isNone_summary : ∀ block : Block Value,
    (block.summary dataset display).map Option.isNone =
      ((block.allFilters.filter Filter.shown).mapM (Filter.line dataset display)).map List.isEmpty
  | ⟨id, op, filters, blocks⟩ => by
      rw [summary_eq, allFilters, List.filter_append, List.mapM_append, map_of_bind, map_of_bind]
      refine bind_congr fun own => ?_
      rw [map_of_bind, map_of_bind]
      apply bind_congr_of_map (map_isEmpty_nestedSummaries blocks)
      intro nested lines same
      apply congrArg Except.ok
      rw [isNone_joinItems]
      cases own with
      | nil => exact same
      | cons item own => rfl

theorem map_isEmpty_nestedSummaries : ∀ blocks : List (Block Value),
    (nestedSummaries dataset display blocks).map List.isEmpty =
      (((allFiltersIn blocks).filter Filter.shown).mapM (Filter.line dataset display)).map
        List.isEmpty
  | [] => rfl
  | block :: rest => by
      rw [nestedSummaries, allFiltersIn, List.filter_append, List.mapM_append, map_of_bind,
        map_of_bind]
      apply bind_congr_of_map (map_isNone_summary block)
      intro text own sameText
      rw [map_of_bind, map_of_bind]
      apply bind_congr_of_map (map_isEmpty_nestedSummaries rest)
      intro others lines same
      cases text with
      | none =>
          rw [List.isEmpty_iff.mp sameText.symm, List.nil_append]
          exact congrArg Except.ok same
      | some text =>
          cases own with
          | nil => cases sameText
          | cons item own => rfl

end

/-- A summary is empty when no filter is shown. -/
theorem summary_eq_none_iff {block : Block Value} :
    block.summary dataset display = .ok none ↔ block.allFilters.filter Filter.shown = [] := by
  have lines : (block.summary dataset display).map Option.isNone =
      ((block.allFilters.filter Filter.shown).mapM (Filter.line dataset display)).map
        List.isEmpty := map_isNone_summary block
  constructor
  · intro empty
    rw [empty] at lines
    obtain ⟨texts, made, none⟩ := map_eq_ok_iff.mp lines.symm
    rw [List.isEmpty_iff.mp none, mapM_eq_ok_iff, List.forall₂_nil_right_iff] at made
    exact made
  · intro hidden
    rw [hidden] at lines
    obtain ⟨text, made, none⟩ := map_eq_ok_iff.mp lines
    rw [made, Option.isNone_iff_eq_none.mp none]

/-- A block that shows no filter has an empty summary. -/
theorem summary_of_not_showsSome {block : Block Value} (hidden : ¬ block.showsSome = true) :
    block.summary dataset display = .ok none := by
  rw [summary_eq_none_iff, List.filter_eq_nil_iff]
  intro filter inside shown
  exact hidden (List.any_eq_true.mpr ⟨filter, inside, shown⟩)

mutual

/-- A tree without its hidden filters looks the same. -/
theorem summary_visible : ∀ block : Block Value,
    block.visible.summary dataset display = block.summary dataset display
  | ⟨id, op, filters, blocks⟩ => by
      have twice : (filters.filter Filter.shown).filter Filter.shown =
          filters.filter Filter.shown := by
        rw [List.filter_filter]
        simp only [Bool.and_self]
      rw [visible, summary_eq, summary_eq, twice, nestedSummaries_visibleIn blocks]

theorem nestedSummaries_visibleIn : ∀ blocks : List (Block Value),
    nestedSummaries dataset display (visibleIn blocks) = nestedSummaries dataset display blocks
  | [] => rfl
  | block :: rest => by
      rw [visibleIn]
      split
      next =>
        rw [nestedSummaries, nestedSummaries, summary_visible block, nestedSummaries_visibleIn rest]
      next hidden =>
        rw [nestedSummaries, summary_of_not_showsSome hidden, nestedSummaries_visibleIn rest]
        exact (bind_pure _).symm

end

end Block

def Filter.lacksColumn (dataset : Dataset) (filter : Filter Value) : Bool :=
  (dataset.column? filter.column).isNone

variable {dataset : Dataset} {display : Display}

/-- The line of a filter fails when the dataset lacks its column. -/
theorem Filter.line_eq_error_iff {filter : Filter Value} {failure : Failure} :
    filter.line dataset display = .error failure ↔
      filter.lacksColumn dataset = true ∧ failure = .columnNotFound filter.column := by
  unfold line Dataset.lookup lacksColumn
  cases dataset.column? filter.column with
  | none => simp [bind, Except.bind, eq_comm]
  | some column => simp [bind, Except.bind, pure, Except.pure]

/-- The line of a filter is there when the dataset has its column. -/
theorem Filter.exists_line_iff {filter : Filter Value} :
    (∃ text, filter.line dataset display = .ok text) ↔ ¬ filter.lacksColumn dataset = true := by
  unfold line Dataset.lookup lacksColumn
  cases dataset.column? filter.column with
  | none => simp [bind, Except.bind]
  | some column => simp [bind, Except.bind, pure, Except.pure]

namespace Block

/-- Hidden filters leave no trace in a summary: it is that of the tree without them and without the
sub-blocks that show none, it fails on the first shown filter whose column is missing and on nothing
else, and it is empty when no filter is shown. -/
theorem summary_ignores_hidden (dataset : Dataset) (display : Display) (tree : Block Value) :
    tree.summary dataset display = tree.visible.summary dataset display ∧
    (∀ failure, tree.summary dataset display = .error failure ↔
      ∃ filter, tree.allFilters.find? (fun filter => filter.shown && filter.lacksColumn dataset) =
          some filter ∧ failure = .columnNotFound filter.column) ∧
    (tree.summary dataset display = .ok none ↔
      ∀ filter ∈ tree.allFilters, filter.shown = false) := by
  refine ⟨(summary_visible tree).symm, ?fails, ?empty⟩
  case fails =>
    intro failure
    have lines : tree.summary dataset display = .error failure ↔
        (tree.allFilters.filter Filter.shown).mapM (Filter.line dataset display) =
          .error failure := by
      rw [← map_eq_error_iff, map_isNone_summary, map_eq_error_iff]
    have shown : tree.allFilters.find? (fun filter => filter.shown && filter.lacksColumn dataset) =
        (tree.allFilters.filter Filter.shown).find? (Filter.lacksColumn dataset) := by
      simp only [List.find?_filter, Bool.decide_and, Bool.decide_eq_true]
    rw [lines, shown, mapM_eq_error_iff]
    simp only [Filter.exists_line_iff, Filter.line_eq_error_iff, List.find?_eq_some_iff_append]
    constructor
    · rintro ⟨before, filter, after, split, present, lacks, rfl⟩
      exact ⟨filter, ⟨lacks, before, after, split, by simpa using present⟩, rfl⟩
    · rintro ⟨filter, ⟨lacks, before, after, split, present⟩, rfl⟩
      exact ⟨before, filter, after, split, by simpa using present, lacks, rfl⟩
  case empty =>
    rw [summary_eq_none_iff, List.filter_eq_nil_iff]
    simp only [Bool.not_eq_true]

end Block

end DashboardFilters
