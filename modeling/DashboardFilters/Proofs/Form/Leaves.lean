import DashboardFilters.Form
import DashboardFilters.Proofs.Outcome

namespace DashboardFilters

open Outcome

variable {V W : Type} {codec : Codec V W} {dataset : Dataset}

namespace Filter

/-- A filter is converted when its column is known and its predicate is converted; nothing else of
it changes. -/
theorem convert_eq_ok_iff {filter : Filter V} {target : Filter W} :
    filter.convert codec dataset = .ok target ↔
      ∃ column predicate, dataset.column? filter.column = some column ∧
        filter.predicate.convert codec column = .ok predicate ∧
        target = ⟨filter.id, filter.column, filter.shown, predicate⟩ := by
  unfold Filter.convert Dataset.lookup
  cases found : dataset.column? filter.column with
  | none => simp [bind, Except.bind]
  | some column =>
      cases step : filter.predicate.convert codec column with
      | error failure => simp [bind, Except.bind, step]
      | ok predicate => simp [bind, Except.bind, step, pure, Except.pure, eq_comm]

/-- A filter is converted as its selector is, and keeps the rest of itself. -/
theorem convert_eq_map (filter : Filter V) :
    filter.convert codec dataset = (filter.selector.convert codec dataset).map fun selector =>
      ⟨filter.id, filter.column, filter.shown, selector.predicate⟩ := by
  unfold Filter.convert Selector.convert Filter.selector
  dsimp only
  cases dataset.lookup filter.column with
  | error failure => rfl
  | ok column =>
      cases step : filter.predicate.convert codec column with
      | error failure =>
          simp only [bind, Except.bind, step]
          rfl
      | ok predicate =>
          simp only [bind, Except.bind, step]
          rfl

/-- A filter is converted when its selector is. -/
theorem exists_convert_iff {filter : Filter V} :
    (∃ target, filter.convert codec dataset = .ok target) ↔
      ∃ selector, filter.selector.convert codec dataset = .ok selector := by
  rw [convert_eq_map, exists_map_eq_ok_iff]

/-- A filter fails as its selector does. -/
theorem convert_eq_error_iff {filter : Filter V} {failure : Failure} :
    filter.convert codec dataset = .error failure ↔
      filter.selector.convert codec dataset = .error failure := by
  rw [convert_eq_map, map_eq_error_iff]

end Filter

namespace Block

mutual

/-- The filters of a converted tree are those of the tree, converted one after the other. -/
theorem map_allFilters_convert : ∀ block : Block V,
    (block.convert codec dataset).map allFilters =
      block.allFilters.mapM (Filter.convert codec dataset)
  | ⟨id, op, filters, blocks⟩ => by
      rw [convert, allFilters, List.mapM_append, ← map_allFiltersIn_convertList blocks]
      cases filters.mapM (Filter.convert codec dataset) with
      | error failure => rfl
      | ok own =>
          cases convertList codec dataset blocks with
          | error failure => rfl
          | ok others => exact congrArg Except.ok (by rw [allFilters])

theorem map_allFiltersIn_convertList : ∀ blocks : List (Block V),
    (convertList codec dataset blocks).map allFiltersIn =
      (allFiltersIn blocks).mapM (Filter.convert codec dataset)
  | [] => rfl
  | block :: rest => by
      rw [convertList, allFiltersIn, List.mapM_append, ← map_allFilters_convert block,
        ← map_allFiltersIn_convertList rest]
      cases block.convert codec dataset with
      | error failure => rfl
      | ok first =>
          cases convertList codec dataset rest with
          | error failure => rfl
          | ok others => exact congrArg Except.ok (by rw [allFiltersIn])

end

/-- The filters of a tree that is converted are converted one by one. -/
theorem forall₂_of_convert (block : Block V) (target : Block W)
    (made : block.convert codec dataset = .ok target) :
    List.Forall₂ (fun filter edited => filter.convert codec dataset = .ok edited)
      block.allFilters target.allFilters := by
  rw [← mapM_eq_ok_iff, ← map_allFilters_convert, made]
  rfl

/-- A tree is converted when each of its filters is. -/
theorem exists_convert (block : Block V)
    (each : ∀ filter ∈ block.allFilters, ∃ edited, filter.convert codec dataset = .ok edited) :
    ∃ target, block.convert codec dataset = .ok target := by
  obtain ⟨edited, made⟩ := exists_mapM each
  rw [← map_allFilters_convert] at made
  exact exists_map_eq_ok_iff.mp ⟨edited, made⟩

/-- A tree fails as its filters do, one after the other. -/
theorem convert_eq_error_iff {block : Block V} {failure : Failure} :
    block.convert codec dataset = .error failure ↔
      block.allFilters.mapM (Filter.convert codec dataset) = .error failure := by
  rw [← map_allFilters_convert, map_eq_error_iff]

/-- A tree is not converted when one of its filters is not, for the same reason. -/
theorem exists_of_convert_error (block : Block V) {failure : Failure}
    (fails : block.convert codec dataset = .error failure) :
    ∃ filter ∈ block.allFilters, filter.selector.convert codec dataset = .error failure := by
  obtain ⟨filter, inside, refused⟩ := exists_of_mapM_eq_error (convert_eq_error_iff.mp fails)
  exact ⟨filter, inside, Filter.convert_eq_error_iff.mp refused⟩

end Block

end DashboardFilters
