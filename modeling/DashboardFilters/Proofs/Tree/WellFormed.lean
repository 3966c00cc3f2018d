import DashboardFilters.Proofs.Doubles
import DashboardFilters.Proofs.Json.Readers
import DashboardFilters.Proofs.Tree.Operands

namespace DashboardFilters

open Json.Decode (Yields)

namespace Value

mutual

/-- Whether a value can be stored: nothing in it is withheld, its numbers are finite, and other
documents in it are objects, with their keys in order. -/
def WellFormed : Value → Prop
  | .withheld => False
  | .float value => value.isFinite = true
  | .list items => EachWellFormed items
  | .json document => (∃ members, document = .object members) ∧ document.Canonical
  | _ => True

def EachWellFormed : List Value → Prop
  | [] => True
  | item :: rest => WellFormed item ∧ EachWellFormed rest

end

mutual

/-- The value of a canonical document can be stored. -/
theorem wellFormed_decode : ∀ document : Json, document.Canonical → (decode document).WellFormed
  | .null, _ | .bool _, _ | .string _, _ => trivial
  | .float _, finite => finite
  | .int number, _ => by
      rw [decode_int]
      cases int64? number with
      | none => exact isFinite_doubleOf number
      | some _ => trivial
  | .array items, canonical => eachWellFormed_decodeItems items canonical
  | .object members, canonical => ⟨⟨members, rfl⟩, canonical⟩

/-- The values of canonical documents can be stored. -/
theorem eachWellFormed_decodeItems : ∀ items : List Json,
    Json.CanonicalItems items → EachWellFormed (decodeItems items)
  | [], _ => trivial
  | item :: rest, canonical =>
      ⟨wellFormed_decode item canonical.1, eachWellFormed_decodeItems rest canonical.2⟩

end

end Value

def Operand.WellFormed : Operand Value → Prop
  | .value picked => picked.WellFormed
  | .manual _ => True

/-- Whether a range can be stored: a relative one lies in the past or in the future. -/
def Range.WellFormed : Range Value → Prop
  | .fixed left right => left.WellFormed ∧ right.WellFormed
  | .relative span => span.period ≠ .arbitrary

def Predicate.WellFormed : Predicate Value → Prop
  | .compare _ operand => operand.WellFormed
  | .between range => range.WellFormed
  | _ => True

def Filter.WellFormed (filter : Filter Value) : Prop :=
  filter.predicate.WellFormed

def Selector.WellFormed (selector : Selector Value) : Prop :=
  selector.predicate.WellFormed

namespace Block

mutual

def WellFormed : Block Value → Prop
  | ⟨_, _, filters, blocks⟩ => (∀ filter ∈ filters, filter.WellFormed) ∧ EachWellFormed blocks

def EachWellFormed : List (Block Value) → Prop
  | [] => True
  | block :: rest => WellFormed block ∧ EachWellFormed rest

end

end Block

/-- An operand can be stored when the value that it holds can. -/
theorem Operand.wellFormed_of_value {operand : Operand Value}
    (held : ∀ picked, .value picked = operand → picked.WellFormed) : operand.WellFormed := by
  cases operand with
  | value picked => exact held picked rfl
  | manual => trivial

/-- A predicate can be stored when it can be made of values that can. -/
theorem Predicate.wellFormed_of_sound {predicate : Predicate Value}
    (sound : predicate.Sound Value.WellFormed) : predicate.WellFormed := by
  cases predicate with
  | isNull | isNotNull | list => trivial
  | compare op operand =>
      exact Operand.wellFormed_of_value fun picked same =>
        sound.operands picked (List.mem_singleton.mpr same)
  | between range =>
      cases range with
      | fixed left right =>
          constructor
          · exact Operand.wellFormed_of_value fun picked same =>
              sound.operands picked (List.mem_pair.mpr (.inl same))
          · exact Operand.wellFormed_of_value fun picked same =>
              sound.operands picked (List.mem_pair.mpr (.inr same))
      | relative span => exact sound.period span rfl

namespace Block

mutual

/-- A tree can be stored when each of its filters can. -/
theorem wellFormed_of_allFilters : ∀ block : Block Value,
    (∀ filter ∈ block.allFilters, filter.WellFormed) → block.WellFormed
  | ⟨id, op, filters, blocks⟩, each => by
      rw [allFilters, List.forall_mem_append] at each
      exact ⟨each.1, eachWellFormed_of_allFilters blocks each.2⟩

/-- Trees can be stored when each of their filters can. -/
theorem eachWellFormed_of_allFilters : ∀ blocks : List (Block Value),
    (∀ filter ∈ allFiltersIn blocks, filter.WellFormed) → EachWellFormed blocks
  | [], _ => trivial
  | block :: rest, each => by
      rw [allFiltersIn, List.forall_mem_append] at each
      exact ⟨wellFormed_of_allFilters block each.1, eachWellFormed_of_allFilters rest each.2⟩

end

end Block

theorem Value.yields_read : Json.Decode.logic.Yields WellFormed (read : Json.Decode Value) :=
  yields_decode Json.Decode.logic wellFormed_decode

theorem Filter.yields_read :
    Yields Filter.WellFormed (Filter.read : Json.Decode (Filter Value)) := by
  intro document filter canonical succeeds
  have sound := yields_sound trivial Json.Decode.logic Value.yields_read
  exact Predicate.wellFormed_of_sound (sound document filter canonical succeeds)

theorem Selector.yields_read :
    Yields Selector.WellFormed (Selector.read : Json.Decode (Selector Value)) := by
  refine Json.Decode.yields_bind Filter.yields_read fun filter holds => ?_
  rintro document _ _ ⟨⟩
  exact holds

theorem Block.yields_read : Yields WellFormed (read : Json.Decode (Block Value)) := by
  intro document block canonical succeeds
  have sound := yields_sound trivial Json.Decode.logic Value.yields_read
  apply wellFormed_of_allFilters
  intro filter member
  exact Predicate.wellFormed_of_sound (sound document block canonical succeeds filter member)

end DashboardFilters
