import DashboardFilters.Proofs.Outcome
import DashboardFilters.Proofs.Reading.Yields
import DashboardFilters.Tree.Persisted

namespace DashboardFilters

open Outcome (bind_eq_ok_iff)
open Reading (Logic Source)

def Predicate.operands {V : Type} : Predicate V → List (Operand V)
  | .compare _ operand => [operand]
  | .between (.fixed left right) => [left, right]
  | _ => []

/-- Whether a predicate can be made of stored values with a property: its operands hold such values,
and a relative range lies in the past or in the future. -/
structure Predicate.Sound (good : Value → Prop) (predicate : Predicate Value) : Prop where
  operands : ∀ picked, .value picked ∈ predicate.operands → good picked
  period : ∀ span, predicate = .between (.relative span) → span.period ≠ .arbitrary

/-- Whether the bounds among the details of a filter have a property. -/
structure Extra.Each (good : Value → Prop) (extra : Extra) : Prop where
  left : ∀ value ∈ extra.left, good value
  right : ∀ value ∈ extra.right, good value

structure StoredFilter.Each (good : Value → Prop) (stored : StoredFilter) : Prop where
  value : good stored.value
  extra : stored.extra.Each good

/-- Whether the values of a filter that have been read so far have a property. -/
structure Filter.Draft.Each (good : Value → Prop) (draft : Filter.Draft) : Prop where
  value : ∀ value ∈ draft.value, good value
  extra : ∀ details ∈ draft.extra, ∀ extra ∈ details, extra.Each good

/-- Whether the filters of a block that have been read so far are sound. -/
structure Block.Draft.Sound (good : Value → Prop) (draft : Block.Draft) : Prop where
  filters : ∀ filters ∈ draft.filters, ∀ filter ∈ filters, filter.predicate.Sound good
  blocks : ∀ blocks ∈ draft.blocks, ∀ block ∈ blocks, ∀ filter ∈ block.allFilters,
    filter.predicate.Sound good

theorem Block.allFiltersIn_eq {V : Type} (blocks : List (Block V)) :
    allFiltersIn blocks = blocks.flatMap allFilters := by
  induction blocks with
  | nil => rfl
  | cons block rest ih => rw [allFiltersIn, ih, List.flatMap_cons]

mutual

/-- What holds of a block as soon as it holds of its sub-blocks holds of all trees. -/
theorem Block.of_blocks {V : Type} {holds : Block V → Prop}
    (step : ∀ block : Block V, (∀ below ∈ block.blocks, holds below) → holds block) :
    ∀ block : Block V, holds block
  | ⟨id, op, filters, blocks⟩ => step ⟨id, op, filters, blocks⟩ (of_blocksIn step blocks)

theorem Block.of_blocksIn {V : Type} {holds : Block V → Prop}
    (step : ∀ block : Block V, (∀ below ∈ block.blocks, holds below) → holds block) :
    ∀ blocks : List (Block V), ∀ below ∈ blocks, holds below
  | [] => List.forall_mem_nil _
  | block :: rest => List.forall_mem_cons.mpr ⟨of_blocks step block, of_blocksIn step rest⟩

end

/-- A whole number is read as one of 64 bits if it fits, and as a double if not. -/
theorem Value.decode_int (number : Int) :
    decode (.int number) = ((int64? number).map .int).getD (.float (doubleOf number)) := by
  rw [decode]
  · simp only [scalar?, List.findSome?_cons, asNull?, asBool?, asInt?, asFloat?]
    cases int64? number <;> rfl
  · rintro items ⟨⟩

variable {good : Value → Prop} (null : good .null)

include null

/-- A missing value is null. -/
theorem Value.good_getD {value : Option Value} (present : ∀ given ∈ value, good given) :
    good (value.getD .null) := by
  cases value with
  | none => exact null
  | some given => exact present given rfl

/-- An operand holds the value that it is made of, or null. -/
theorem Operand.good_ofStored {value picked : Value} {manual : Bool} (given : good value)
    (made : ofStored value manual = .ok (.value picked)) : good picked := by
  cases manual with
  | false =>
      cases made
      exact given
  | true =>
      cases value with
      | null =>
          cases made
          exact null
      | text _ | bool _ | int _ | float _ | list _ | json _ | withheld => cases made

namespace Predicate

/-- A range holds the bounds that it is made of, or lies in the past or in the future. -/
theorem sound_rangeOfStored {extra : Extra} {range : Range Value} (given : extra.Each good)
    (made : rangeOfStored extra = .ok range) : (between range).Sound good := by
  unfold rangeOfStored at made
  split at made
  next =>
    obtain ⟨left, first, remaining⟩ := bind_eq_ok_iff.mp made
    obtain ⟨right, second, ⟨⟩⟩ := bind_eq_ok_iff.mp remaining
    refine ⟨fun picked member => ?_, nofun⟩
    rcases List.mem_pair.mp member with rfl | rfl
    · exact Operand.good_ofStored null (Value.good_getD null given.left) first
    · exact Operand.good_ofStored null (Value.good_getD null given.right) second
  next period relative =>
    split at made
    · cases made
      refine ⟨fun picked member => absurd member List.not_mem_nil, ?_⟩
      rintro _ ⟨⟩
      exact relative
    · cases made

/-- A predicate that is made of values with a property is sound. -/
theorem sound_ofStored {operator : Operator} {value : Value} {extra : Extra}
    {predicate : Predicate Value} (given : good value) (details : extra.Each good)
    (made : ofStored operator value extra = .ok predicate) : predicate.Sound good := by
  have bare {other : Predicate Value} (none : other.operands = [])
      (period : ∀ span, other ≠ .between (.relative span)) : other.Sound good :=
    ⟨fun picked member => absurd (none ▸ member) List.not_mem_nil,
      fun span same => absurd same (period span)⟩
  obtain ⟨_, _, chosen⟩ := bind_eq_ok_iff.mp made
  split at chosen
  · cases chosen
    exact bare rfl nofun
  · cases chosen
    exact bare rfl nofun
  · cases chosen
    exact bare rfl nofun
  · cases chosen
    exact bare rfl nofun
  · obtain ⟨range, known, ⟨⟩⟩ := bind_eq_ok_iff.mp chosen
    exact sound_rangeOfStored null details known
  · split at chosen
    · obtain ⟨operand, known, ⟨⟩⟩ := bind_eq_ok_iff.mp chosen
      refine ⟨fun picked member => ?_, nofun⟩
      obtain rfl := List.mem_singleton.mp member
      exact Operand.good_ofStored null given known
    · cases chosen

end Predicate

variable {m : Type → Type} [Source m] {document : Json → Prop} (logic : Logic m document)

omit null in
/-- A value that is read is that of a document. -/
theorem Value.yields_decode (values : ∀ json, document json → good (decode json)) :
    logic.Yields good (read : m Value) :=
  logic.bind logic.value fun json holds => logic.pure (values json holds)

omit null in
/-- The bounds among details that are read are values that are read. -/
theorem Extra.yields_each (values : logic.Yields good (Value.read : m Value)) :
    logic.Yields (Extra.Each good) (Extra.read : m Extra) := by
  refine logic.record (Extra.Each good) ⟨nofun, nofun⟩ ?_ ?_
  · simp only [List.forall_mem_cons]
    refine ⟨?period, ?unit, ?amount, ?manual, ?manualLeft, ?manualRight, ?left, ?right, nofun⟩
    case left =>
      refine logic.keeps_of values fun extra value holds given => ⟨?_, holds.right⟩
      rintro _ ⟨⟩
      exact given
    case right =>
      refine logic.keeps_of values fun extra value holds given => ⟨holds.left, ?_⟩
      rintro _ ⟨⟩
      exact given
    all_goals exact logic.keeps_apart fun _ _ holds => ⟨holds.left, holds.right⟩
  · rintro extra _ holds ⟨⟩
    exact holds

/-- The values of a stored filter that is read are values that are read, or null. -/
theorem StoredFilter.yields_each (values : logic.Yields good (Value.read : m Value)) :
    logic.Yields (Each good) (read : m StoredFilter) := by
  refine logic.record (Filter.Draft.Each good) ⟨nofun, ?_⟩ ?_ ?_
  · exact fun _ absent => (Option.not_mem_none _ absent).elim
  · simp only [List.forall_mem_cons]
    refine ⟨?id, ?column, ?operator, ?value, ?shown, ?extra, nofun⟩
    case value =>
      refine logic.keeps_of values fun draft value holds given => ⟨?_, holds.extra⟩
      rintro _ ⟨⟩
      exact given
    case extra =>
      refine logic.keeps_of (logic.optional (Extra.yields_each logic values))
        fun draft details holds given => ⟨holds.value, ?_⟩
      rintro _ ⟨⟩
      exact given
    all_goals exact logic.keeps_apart fun _ _ holds => ⟨holds.value, holds.extra⟩
  · intro draft stored holds finished
    obtain ⟨column, _, remaining⟩ := bind_eq_ok_iff.mp finished
    obtain ⟨operator, _, ⟨⟩⟩ := bind_eq_ok_iff.mp remaining
    refine ⟨Value.good_getD null holds.value, ?_⟩
    cases present : draft.extra.join with
    | none => exact ⟨nofun, nofun⟩
    | some extra => exact holds.extra _ (Option.join_eq_some_iff.mp present) extra rfl

theorem Filter.yields_sound (values : logic.Yields good (Value.read : m Value)) :
    logic.Yields (fun filter => filter.predicate.Sound good) (read : m (Filter Value)) := by
  refine logic.bind (StoredFilter.yields_each null logic values) fun stored holds => ?_
  unfold StoredFilter.filter
  cases made : Predicate.ofStored stored.operator stored.value stored.extra with
  | error failure => exact logic.fail _
  | ok predicate =>
      exact logic.pure (Predicate.sound_ofStored null holds.value holds.extra made)

namespace Block

/-- The filters of a tree that is read have sound predicates, however deep they may be. -/
theorem yields_soundWithin (values : logic.Yields good (Value.read : m Value)) (fuel : Nat) :
    logic.Yields (fun block => ∀ filter ∈ block.allFilters, filter.predicate.Sound good)
      (readWithin fuel : m (Block Value)) := by
  induction fuel with
  | zero => exact logic.fail _
  | succ fuel ih =>
      refine logic.record (Draft.Sound good) ⟨nofun, nofun⟩ ?_ ?_
      · simp only [List.forall_mem_cons]
        refine ⟨?id, ?op, ?filters, ?blocks, nofun⟩
        case filters =>
          refine logic.keeps_of (logic.items (Filter.yields_sound null logic values))
            fun draft filters holds given => ⟨?_, holds.blocks⟩
          rintro _ ⟨⟩
          exact given
        case blocks =>
          refine logic.keeps_of (logic.items ih) fun draft blocks holds given => ⟨holds.filters, ?_⟩
          rintro _ ⟨⟩
          exact given
        all_goals exact logic.keeps_apart fun _ _ holds => ⟨holds.filters, holds.blocks⟩
      · intro draft block holds finished
        obtain ⟨id, _, ⟨⟩⟩ := bind_eq_ok_iff.mp finished
        rw [allFilters, allFiltersIn_eq, List.forall_mem_append]
        constructor
        · cases present : draft.filters with
          | none => exact List.forall_mem_nil _
          | some filters => exact holds.filters filters present
        · intro filter member
          obtain ⟨inner, inside, below⟩ := List.mem_flatMap.mp member
          cases present : draft.blocks with
          | none =>
              rw [present] at inside
              exact absurd inside List.not_mem_nil
          | some blocks =>
              rw [present] at inside
              exact holds.blocks blocks present inner inside filter below

/-- The filters of a tree that is read have sound predicates. -/
theorem yields_sound (values : logic.Yields good (Value.read : m Value)) :
    logic.Yields (fun block => ∀ filter ∈ block.allFilters, filter.predicate.Sound good)
      (read : m (Block Value)) :=
  logic.step fun _ => yields_soundWithin null logic values _

end Block

end DashboardFilters
