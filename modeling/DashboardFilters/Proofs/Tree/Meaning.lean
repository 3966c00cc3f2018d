import DashboardFilters.Tree.Basic
import Mathlib.Data.List.Basic

namespace DashboardFilters.Block

variable {V : Type} (met : Filter V → Prop)

mutual

/-- Whether a tree holds: all parts of a block under AND, at least one of them under OR. -/
def Holds : Block V → Prop
  | ⟨_, .and, filters, blocks⟩ => (∀ filter ∈ filters, met filter) ∧ EachHolds blocks
  | ⟨_, .or, filters, blocks⟩ => (∃ filter ∈ filters, met filter) ∨ SomeHolds blocks

def EachHolds : List (Block V) → Prop
  | [] => True
  | block :: rest => Holds block ∧ EachHolds rest

def SomeHolds : List (Block V) → Prop
  | [] => False
  | block :: rest => Holds block ∨ SomeHolds rest

end

mutual

/-- Whether every block has a filter or a sub-block, the root included. -/
def Occupied : Block V → Prop
  | ⟨_, _, filters, blocks⟩ => (filters ≠ [] ∨ blocks ≠ []) ∧ EachOccupied blocks

/-- Whether every block of some trees has a filter or a sub-block. -/
def EachOccupied : List (Block V) → Prop
  | [] => True
  | block :: rest => Occupied block ∧ EachOccupied rest

end

mutual

/-- The ways in which a tree holds, each as the filters that are met together. -/
def ways : Block V → List (List (Filter V))
  | ⟨_, .and, filters, blocks⟩ => (jointWays blocks).map (filters ++ ·)
  | ⟨_, .or, filters, blocks⟩ => filters.map ([·]) ++ otherWays blocks

/-- The ways in which all of some trees hold. -/
def jointWays : List (Block V) → List (List (Filter V))
  | [] => [[]]
  | block :: rest => (ways block).flatMap fun way => (jointWays rest).map (way ++ ·)

/-- The ways in which at least one of some trees holds. -/
def otherWays : List (Block V) → List (List (Filter V))
  | [] => []
  | block :: rest => ways block ++ otherWays rest

end

mutual

/-- Whether no block under OR has several parts. -/
def Undivided : Block V → Prop
  | ⟨_, op, filters, blocks⟩ =>
      (op = .or → filters.length + blocks.length = 1) ∧ EachUndivided blocks

/-- Whether no block of some trees has several parts under OR. -/
def EachUndivided : List (Block V) → Prop
  | [] => True
  | block :: rest => Undivided block ∧ EachUndivided rest

end

variable {met}

theorem eachHolds_iff {blocks : List (Block V)} :
    EachHolds met blocks ↔ ∀ block ∈ blocks, block.Holds met := by
  induction blocks with
  | nil => simp [EachHolds]
  | cons block rest ih => rw [EachHolds, ih, List.forall_mem_cons]

theorem someHolds_iff {blocks : List (Block V)} :
    SomeHolds met blocks ↔ ∃ block ∈ blocks, block.Holds met := by
  induction blocks with
  | nil => simp [SomeHolds]
  | cons block rest ih => rw [SomeHolds, ih, List.exists_mem_cons_iff]

/-- A block under AND holds when all of its filters are met and all of its sub-blocks hold. -/
theorem holds_and {id : String} {filters : List (Filter V)} {blocks : List (Block V)} :
    Holds met ⟨id, .and, filters, blocks⟩ ↔
      (∀ filter ∈ filters, met filter) ∧ ∀ block ∈ blocks, block.Holds met := by
  rw [Holds, eachHolds_iff]

/-- A block under OR holds when one of its filters is met or one of its sub-blocks holds. -/
theorem holds_or {id : String} {filters : List (Filter V)} {blocks : List (Block V)} :
    Holds met ⟨id, .or, filters, blocks⟩ ↔
      (∃ filter ∈ filters, met filter) ∨ ∃ block ∈ blocks, block.Holds met := by
  rw [Holds, someHolds_iff]

mutual

/-- A tree without empty blocks holds when all of its filters are met. -/
theorem holds_of_all_met : ∀ block : Block V, block.Occupied →
    (∀ filter ∈ block.allFilters, met filter) → block.Holds met
  | ⟨id, op, filters, blocks⟩, occupied, all => by
      unfold allFilters at all
      have own := fun filter inside => all filter (List.mem_append_left _ inside)
      have below := fun filter inside => all filter (List.mem_append_right _ inside)
      have each := eachHolds_of_all_met blocks occupied.2 below
      cases op with
      | and => exact ⟨own, each⟩
      | or =>
          rw [holds_or]
          rw [eachHolds_iff] at each
          rcases occupied.1 with present | present
          · obtain ⟨filter, inside⟩ := List.exists_mem_of_ne_nil filters present
            exact .inl ⟨filter, inside, own filter inside⟩
          · obtain ⟨block, inside⟩ := List.exists_mem_of_ne_nil blocks present
            exact .inr ⟨block, inside, each block inside⟩

theorem eachHolds_of_all_met : ∀ blocks : List (Block V), EachOccupied blocks →
    (∀ filter ∈ allFiltersIn blocks, met filter) → EachHolds met blocks
  | [], _, _ => trivial
  | block :: rest, occupied, all => by
      unfold allFiltersIn at all
      have first := fun filter inside => all filter (List.mem_append_left _ inside)
      have others := fun filter inside => all filter (List.mem_append_right _ inside)
      exact ⟨holds_of_all_met block occupied.1 first,
        eachHolds_of_all_met rest occupied.2 others⟩

end

mutual

/-- A tree holds exactly when all filters of one of its ways are met. -/
theorem holds_iff_exists_way : ∀ block : Block V,
    block.Holds met ↔ ∃ way ∈ block.ways, ∀ filter ∈ way, met filter
  | ⟨id, .and, filters, blocks⟩ => by
      rw [Holds, eachHolds_iff_exists_way blocks, ways]
      constructor
      · rintro ⟨own, way, listed, below⟩
        refine ⟨filters ++ way, List.mem_map_of_mem listed, ?_⟩
        rw [List.forall_mem_append]
        exact ⟨own, below⟩
      · rintro ⟨_, listed, all⟩
        obtain ⟨way, inside, rfl⟩ := List.mem_map.mp listed
        rw [List.forall_mem_append] at all
        exact ⟨all.1, way, inside, all.2⟩
  | ⟨id, .or, filters, blocks⟩ => by
      rw [Holds, someHolds_iff_exists_way blocks, ways]
      simp only [List.mem_append, or_and_right, exists_or, List.mem_map,
        exists_exists_and_eq_and, List.mem_singleton, forall_eq]

/-- All of some trees hold exactly when all filters of one of their joint ways are met. -/
theorem eachHolds_iff_exists_way : ∀ blocks : List (Block V),
    EachHolds met blocks ↔ ∃ way ∈ jointWays blocks, ∀ filter ∈ way, met filter
  | [] => by simp [EachHolds, jointWays]
  | block :: rest => by
      rw [EachHolds, holds_iff_exists_way block, eachHolds_iff_exists_way rest, jointWays]
      constructor
      · rintro ⟨⟨first, listed, own⟩, others, inside, below⟩
        refine ⟨first ++ others,
          List.mem_flatMap.mpr ⟨first, listed, List.mem_map_of_mem inside⟩, ?_⟩
        rw [List.forall_mem_append]
        exact ⟨own, below⟩
      · rintro ⟨_, listed, all⟩
        obtain ⟨first, present, combined⟩ := List.mem_flatMap.mp listed
        obtain ⟨others, inside, rfl⟩ := List.mem_map.mp combined
        rw [List.forall_mem_append] at all
        exact ⟨⟨first, present, all.1⟩, others, inside, all.2⟩

/-- At least one of some trees holds exactly when all filters of one of their ways are met. -/
theorem someHolds_iff_exists_way : ∀ blocks : List (Block V),
    SomeHolds met blocks ↔ ∃ way ∈ otherWays blocks, ∀ filter ∈ way, met filter
  | [] => by simp [SomeHolds, otherWays]
  | block :: rest => by
      rw [SomeHolds, holds_iff_exists_way block, someHolds_iff_exists_way rest, otherWays]
      simp only [List.mem_append, or_and_right, exists_or]

end

mutual

/-- A way of a tree is made of filters of the tree. -/
theorem mem_allFilters_of_mem_way {filter : Filter V} {way : List (Filter V)}
    (member : filter ∈ way) : ∀ block : Block V, way ∈ block.ways → filter ∈ block.allFilters
  | ⟨id, .and, filters, blocks⟩, listed => by
      rw [ways, List.mem_map] at listed
      obtain ⟨below, inside, rfl⟩ := listed
      rw [allFilters, List.mem_append]
      exact (List.mem_append.mp member).imp_right fun nested =>
        mem_allFiltersIn_of_mem_jointWay nested blocks inside
  | ⟨id, .or, filters, blocks⟩, listed => by
      rw [ways, List.mem_append, List.mem_map] at listed
      rw [allFilters, List.mem_append]
      rcases listed with ⟨own, inside, rfl⟩ | nested
      · exact .inl (List.mem_singleton.mp member ▸ inside)
      · exact .inr (mem_allFiltersIn_of_mem_otherWay member blocks nested)

/-- A joint way of some trees is made of their filters. -/
theorem mem_allFiltersIn_of_mem_jointWay {filter : Filter V} {way : List (Filter V)}
    (member : filter ∈ way) : ∀ blocks : List (Block V),
    way ∈ jointWays blocks → filter ∈ allFiltersIn blocks
  | [], listed => by
      rw [jointWays, List.mem_singleton] at listed
      exact absurd (listed ▸ member) List.not_mem_nil
  | block :: rest, listed => by
      rw [jointWays, List.mem_flatMap] at listed
      obtain ⟨first, own, combined⟩ := listed
      obtain ⟨others, below, rfl⟩ := List.mem_map.mp combined
      rw [allFiltersIn, List.mem_append]
      exact (List.mem_append.mp member).imp
        (fun inside => mem_allFilters_of_mem_way inside block own)
        (fun inside => mem_allFiltersIn_of_mem_jointWay inside rest below)

/-- A way of one of some trees is made of their filters. -/
theorem mem_allFiltersIn_of_mem_otherWay {filter : Filter V} {way : List (Filter V)}
    (member : filter ∈ way) : ∀ blocks : List (Block V),
    way ∈ otherWays blocks → filter ∈ allFiltersIn blocks
  | [], listed => absurd listed List.not_mem_nil
  | block :: rest, listed => by
      rw [otherWays, List.mem_append] at listed
      rw [allFiltersIn, List.mem_append]
      exact listed.imp (mem_allFilters_of_mem_way member block)
        (mem_allFiltersIn_of_mem_otherWay member rest)

end

mutual

/-- Without a choice between parts, a tree holds in one way: all of its filters are met. -/
theorem ways_of_undivided : ∀ block : Block V, block.Undivided → block.ways = [block.allFilters]
  | ⟨id, .and, filters, blocks⟩, undivided => by
      rw [ways, jointWays_of_undivided blocks undivided.2, allFilters, List.map_singleton]
  | ⟨id, .or, filters, blocks⟩, undivided => by
      have single := undivided.1 rfl
      rcases Nat.add_eq_one_iff.mp single with ⟨noFilter, oneBlock⟩ | ⟨oneFilter, noBlock⟩
      · rw [ways, otherWays_of_undivided blocks undivided.2 oneBlock, allFilters,
          List.eq_nil_of_length_eq_zero noFilter]
        rfl
      · obtain ⟨filter, rfl⟩ := List.length_eq_one_iff.mp oneFilter
        rw [List.eq_nil_of_length_eq_zero noBlock]
        rfl

/-- A single tree that holds in one way gives at least one of itself that way. -/
theorem otherWays_of_undivided : ∀ blocks : List (Block V), EachUndivided blocks →
    blocks.length = 1 → otherWays blocks = [allFiltersIn blocks]
  | [], _, single => by cases single
  | [block], undivided, _ => by
      rw [otherWays, otherWays, ways_of_undivided block undivided.1, allFiltersIn, allFiltersIn,
        List.append_nil, List.append_nil]
  | _ :: _ :: rest, _, single => by
      simp only [List.length_cons] at single
      omega

theorem jointWays_of_undivided : ∀ blocks : List (Block V), EachUndivided blocks →
    jointWays blocks = [allFiltersIn blocks]
  | [], _ => rfl
  | block :: rest, undivided => by
      rw [jointWays, ways_of_undivided block undivided.1,
        jointWays_of_undivided rest undivided.2, allFiltersIn]
      rfl

end

end DashboardFilters.Block
