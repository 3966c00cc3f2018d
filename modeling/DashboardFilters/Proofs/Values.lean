import DashboardFilters.Compile
import DashboardFilters.Proofs.Doubles
import DashboardFilters.Proofs.Json.Parsed
import DashboardFilters.Proofs.Tree.Operands

namespace DashboardFilters

namespace Json

mutual

/-- A document with the whole numbers beyond those of 64 bits with a sign made doubles. Objects stay
as they are, with all numbers inside them. -/
def widened : Json → Json
  | .int number =>
      if number ≤ 9223372036854775807 then .int number
      else .float (UInt64.ofNat number.toNat).toFloat
  | .array items => .array (widenedItems items)
  | other => other

/-- Some documents with their whole numbers widened. -/
def widenedItems : List Json → List Json
  | [] => []
  | item :: rest => item.widened :: widenedItems rest

end

end Json

namespace Value

mutual

/-- Both ways to read a document give the same value. -/
theorem decode_eq_ofJson : ∀ document : Json, decode document = ofJson document
  | .null | .bool _ | .float _ | .string _ | .object _ => rfl
  | .int number => by
      rw [decode_int, ofJson]
      cases int64? number <;> rfl
  | .array items => by
      change Value.list (decodeItems items) = Value.list (ofJsonItems items)
      rw [decodeItems_eq_ofJsonItems items]

theorem decodeItems_eq_ofJsonItems : ∀ items : List Json, decodeItems items = ofJsonItems items
  | [] => rfl
  | item :: rest => by
      rw [decodeItems, ofJsonItems, decode_eq_ofJson item, decodeItems_eq_ofJsonItems rest]

end

mutual

/-- The value of a document is never withheld, nor is a part of it. -/
theorem containsWithheld_ofJson : ∀ document : Json, (ofJson document).containsWithheld = false
  | .null | .bool _ | .float _ | .string _ | .object _ => rfl
  | .int number => by
      rw [ofJson]
      cases int64? number <;> rfl
  | .array items => anyWithheld_ofJsonItems items

theorem anyWithheld_ofJsonItems : ∀ items : List Json, anyWithheld (ofJsonItems items) = false
  | [] => rfl
  | item :: rest => by
      rw [ofJsonItems, anyWithheld, containsWithheld_ofJson item, anyWithheld_ofJsonItems rest,
        Bool.or_false]

end

/-- A whole number of 64 bits is written as it was read, as a double if it needs all bits. -/
theorem toJson_ofJson_int {number : Int} (low : -9223372036854775808 ≤ number)
    (high : number < 18446744073709551616) :
    (ofJson (.int number)).toJson = (Json.int number).widened := by
  rw [ofJson, Json.widened, int64?]
  by_cases signed : number ≤ 9223372036854775807
  · have fits : (decide (-9223372036854775808 ≤ number) &&
        decide (number ≤ 9223372036854775807)) = true := by simp [low, signed]
    rw [if_pos fits, if_pos signed]
    change Json.int (Int64.ofInt number).toInt = _
    rw [Int64.toInt_ofInt_of_le low (by omega)]
  · have beyond : ¬ (decide (-9223372036854775808 ≤ number) &&
        decide (number ≤ 9223372036854775807)) = true := by simp [signed]
    have positive : ¬ number < 0 := by omega
    have same : number.natAbs = number.toNat := by omega
    rw [if_neg beyond, if_neg signed]
    change (if (doubleOf number).isFinite then Json.float (doubleOf number) else .null) = _
    rw [isFinite_doubleOf, doubleOf, if_neg positive, same]
    rfl

mutual

/-- Writing the value of a proper document gives the document, with its whole numbers widened. -/
theorem toJson_ofJson : ∀ document : Json, document.Proper →
    (ofJson document).toJson = document.widened
  | .null, _ | .bool _, _ | .string _, _ | .object _, _ => rfl
  | .int _, proper => toJson_ofJson_int proper.1 proper.2
  | .float value, finite => by
      have known : value.isFinite = true := finite
      change (if value.isFinite then Json.float value else .null) = Json.float value
      rw [if_pos known]
  | .array items, proper => by
      change Json.array (documents (ofJsonItems items)) = Json.array (Json.widenedItems items)
      rw [documents_ofJsonItems items proper]

/-- Writing the values of proper documents gives the documents, widened. -/
theorem documents_ofJsonItems : ∀ items : List Json, Json.ProperItems items →
    documents (ofJsonItems items) = Json.widenedItems items
  | [], _ => rfl
  | item :: rest, proper => by
      rw [ofJsonItems, documents, Json.widenedItems, toJson_ofJson item proper.1,
        documents_ofJsonItems rest proper.2]

end

/-- A value is read from a text just as the document of the text is, errors included. -/
theorem run_read (text : String) :
    Json.Scan.run Value.read text = (Json.parse text).map ofJson := by
  have same : decode = ofJson := funext decode_eq_ofJson
  rw [← same]
  exact Json.Scan.run_map decode Json.Scan.value text

/-- A stored value is read just as an expression that is a document is evaluated, it holds nothing
withheld, and writing it gives the document back, with its whole numbers widened. That goes for the
document of every text, and a text is read with the same outcome in both ways. -/
theorem stored_eq_evaluated :
    (∀ document : Json, document.Proper →
      Json.decode read document = .ok (ofJson document) ∧
        (ofJson document).containsWithheld = false ∧
        (ofJson document).toJson = document.widened) ∧
      (∀ text document, Json.parse text = .ok document → document.Proper) ∧
      (∀ text, Json.Scan.run read text = (Json.parse text).map ofJson) ∧
      ∀ expression, Evaluator.literals expression =
        (Json.Scan.run read (Text.trim expression)).mapError Reading.Error.message := by
  refine ⟨fun document proper =>
    ⟨?_, containsWithheld_ofJson document, toJson_ofJson document proper⟩,
    fun _ _ => Json.proper_of_parse, run_read, fun expression => ?_⟩
  · have kept : document.sorted = document := Json.sorted_of_canonical document proper.canonical
    rw [Json.decode, kept, ← decode_eq_ofJson]
    rfl
  · rw [run_read, Evaluator.literals]
    cases Json.parse (Text.trim expression) <;> rfl

end Value

namespace Sample

/-- Whole numbers at the limits, in an array, in an array inside it and in an object. -/
def limits : Json :=
  .array [.int 18446744073709551615, .array [.int 9223372036854775808, .int (-9223372036854775808)],
    .object [("least", .int (-9223372036854775808)), ("most", .int 18446744073709551615)]]

end Sample

open Sample

/-- Two of the limits become doubles, and none inside the object. -/
theorem Value.limits_stored :
    limits.Proper ∧ Json.decode read limits = .ok (ofJson limits) ∧
      (ofJson limits).containsWithheld = false ∧
      (ofJson limits).toJson = .array [.float 18446744073709551616.0,
        .array [.float 9223372036854775808.0, .int (-9223372036854775808)],
        .object [("least", .int (-9223372036854775808)), ("most", .int 18446744073709551615)]] := by
  have proper : limits.Proper := by
    have ascending : ["least", "most"].Pairwise (· < ·) := by decide
    exact ⟨⟨by decide, by decide⟩, ⟨⟨by decide, by decide⟩, ⟨by decide, by decide⟩, trivial⟩,
      ⟨ascending, ⟨by decide, by decide⟩, ⟨by decide, by decide⟩, trivial⟩, trivial⟩
  obtain ⟨reads, shown, written⟩ := stored_eq_evaluated.1 limits proper
  exact ⟨proper, reads, shown, written.trans rfl⟩

end DashboardFilters
