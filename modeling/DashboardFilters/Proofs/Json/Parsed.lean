import DashboardFilters.Proofs.Json.Canonical
import DashboardFilters.Proofs.Json.Scans
import DashboardFilters.Proofs.Quotients

namespace DashboardFilters.Json

mutual

/-- Whether the numbers of a document are those that a JSON text can hold: whole ones of 64 bits,
with a sign or without one, and finite doubles; and whether the document is canonical. -/
def Proper : Json → Prop
  | .int number => -9223372036854775808 ≤ number ∧ number < 18446744073709551616
  | .float value => value.isFinite = true
  | .array items => ProperItems items
  | .object members => Ascending members ∧ ProperMembers members
  | _ => True

def ProperItems : List Json → Prop
  | [] => True
  | item :: rest => Proper item ∧ ProperItems rest

def ProperMembers : List (String × Json) → Prop
  | [] => True
  | (_, item) :: rest => Proper item ∧ ProperMembers rest

end

theorem properItems_iff {items : List Json} :
    ProperItems items ↔ ∀ item ∈ items, item.Proper := by
  induction items with
  | nil => exact iff_of_true trivial (List.forall_mem_nil _)
  | cons item rest ih => rw [ProperItems, ih, List.forall_mem_cons]

theorem properMembers_iff {members : List (String × Json)} :
    ProperMembers members ↔ ∀ member ∈ members, member.2.Proper := by
  induction members with
  | nil => exact iff_of_true trivial (List.forall_mem_nil _)
  | cons member rest ih => rw [ProperMembers, ih, List.forall_mem_cons]

mutual

/-- A proper document is canonical. -/
theorem Proper.canonical : ∀ document : Json, document.Proper → document.Canonical
  | .array items, proper => ProperItems.canonical items proper
  | .object members, proper => ⟨proper.1, ProperMembers.canonical members proper.2⟩
  | .float _, finite => finite
  | .null, _ | .bool _, _ | .int _, _ | .string _, _ => trivial

theorem ProperItems.canonical : ∀ items : List Json, ProperItems items → CanonicalItems items
  | [], _ => trivial
  | item :: rest, proper =>
      ⟨Proper.canonical item proper.1, ProperItems.canonical rest proper.2⟩

theorem ProperMembers.canonical : ∀ members : List (String × Json),
    ProperMembers members → CanonicalMembers members
  | [], _ => trivial
  | (_, item) :: rest, proper =>
      ⟨Proper.canonical item proper.1, ProperMembers.canonical rest proper.2⟩

end

/-- Setting a member to a proper document keeps an object proper. -/
theorem proper_putMember {name : String} {document : Json} {members : List (String × Json)}
    (kept : (Json.object members).Proper) (proper : document.Proper) :
    (Json.object (putMember name document members)).Proper := by
  refine ⟨ascending_putMember name document kept.1, properMembers_iff.mpr fun member present => ?_⟩
  rcases mem_of_mem_putMember present with rfl | old
  · exact proper
  · exact properMembers_iff.mp kept.2 member old

/-- A whole number is one of 64 bits. -/
theorem proper_of_whole {negative : Bool} {magnitude : Nat} {document : Json}
    (known : whole? negative magnitude = some document) : document.Proper := by
  unfold whole? at known
  split at known
  next =>
    split at known
    next => cases known
    next range =>
      cases known
      rw [Bool.or_eq_true, decide_eq_true_eq, decide_eq_true_eq] at range
      change -9223372036854775808 ≤ -(magnitude : Int) ∧ -(magnitude : Int) < 18446744073709551616
      omega
  next =>
    split at known
    next small =>
      cases known
      have bound : magnitude < 18446744073709551616 := small
      change -9223372036854775808 ≤ (magnitude : Int) ∧ (magnitude : Int) < 18446744073709551616
      omega
    next => cases known

namespace Scan

variable {negative : Bool} {significand : Nat} {power : Int}

theorem yields_finishDouble : Yields Proper (finishDouble negative significand power) := by
  unfold finishDouble
  split
  next value known => exact yields_pure (isFinite_of_double known)
  next => exact yields_failHere _

theorem yields_exponent : Yields Proper (exponent negative significand power) := by
  have zero : Proper (.float (if negative then -0.0 else 0.0)) := by
    have finite : (if negative then -0.0 else 0.0 : Float).isFinite = true := by
      cases negative <;> decide
    exact finite
  refine yields_step fun _ => yields_step fun sign => yields_afterOptional ?_
  refine yields_step fun next => ?_
  cases next with
  | none => exact yields_afterFailure (yields_failHere _)
  | some character =>
      dsimp only
      split
      · exact yields_afterFailure (yields_failNext _)
      · refine yields_step fun cursor => ?_
        split
        · exact yields_step fun _ => yields_finishDouble
        · split
          · exact yields_step fun _ => yields_failHere _
          · exact yields_step fun _ => yields_pure zero

theorem yields_exponentOrEnd : Yields Proper (exponentOrEnd negative significand power) := by
  refine yields_step fun next => ?_
  split
  · exact yields_exponent
  · exact yields_exponent
  · exact yields_finishDouble

theorem yields_fraction : Yields Proper (fraction negative significand power) := by
  refine yields_step fun _ => yields_step fun digits => ?_
  split
  · refine yields_step fun next => ?_
    split
    · exact yields_failHere _
    · exact yields_failNext _
  · exact yields_exponentOrEnd

theorem yields_number : Yields Proper (number negative) := by
  refine yields_step fun next => ?_
  cases next with
  | none => exact yields_afterFailure (yields_failHere _)
  | some character =>
      dsimp only
      split
      · exact yields_afterFailure (yields_failNext _)
      · refine yields_step fun digits => yields_step fun next => ?_
        split
        · exact yields_fraction
        · exact yields_exponent
        · exact yields_exponent
        · split
          next value known =>
            split at known
            next => exact yields_pure (proper_of_whole known)
            next => cases known
          next => exact yields_finishDouble

theorem yields_scalar? : Yields (fun found => ∀ document ∈ found, document.Proper) scalar? := by
  have found {document : Json} (proper : document.Proper) :
      ∀ other ∈ some document, other.Proper := by
    rintro _ ⟨⟩
    exact proper
  refine yields_step fun token => ?_
  split
  · exact yields_failHere _
  · exact yields_step fun _ => yields_step fun _ => yields_pure (found trivial)
  · exact yields_step fun _ => yields_step fun _ => yields_pure (found trivial)
  · exact yields_step fun _ => yields_step fun _ => yields_pure (found trivial)
  · exact yields_step fun _ => yields_bind yields_number fun _ proper => yields_pure (found proper)
  · exact yields_step fun _ => yields_step fun _ => yields_pure (found trivial)
  · exact yields_pure nofun
  · exact yields_pure nofun
  · split
    · exact yields_bind yields_number fun _ proper => yields_pure (found proper)
    · exact yields_failNext _

/-- A document is proper, however deep it may be. -/
theorem yields_valueWithin (fuel : Nat) : Yields Proper (valueWithin fuel) := by
  induction fuel with
  | zero => exact yields_failNext _
  | succ fuel ih =>
      refine yields_bind yields_scalar? fun found proper => ?_
      cases found with
      | some document => exact yields_pure (proper document rfl)
      | none =>
          refine yields_step fun next => ?_
          dsimp only
          split
          · refine yields_within (yields_bind (yields_step fun _ => yields_itemsWithin ih _ _) ?_) _
            exact fun items each => yields_pure (properItems_iff.mpr each)
          · have empty : (Json.object []).Proper := ⟨List.Pairwise.nil, trivial⟩
            have keeps (sorted : List (String × Json)) (kept : (Json.object sorted).Proper) :
                Yields (fun sorted => (Json.object sorted).Proper) (do
                  let name ← key
                  colon
                  return putMember name (← valueWithin fuel) sorted) :=
              yields_step fun name => yields_step fun _ => yields_bind ih fun document proper =>
                yields_pure (proper_putMember kept proper)
            refine yields_within (yields_bind (yields_step fun _ =>
              yields_membersWithin keeps _ true empty) ?_) _
            exact fun members kept => yields_pure kept

end Scan

/-- The document of a text is proper. -/
theorem proper_of_parse {text : String} {document : Json} (known : parse text = .ok document) :
    document.Proper := by
  have scans : Scan.Yields Proper Scan.value :=
    Scan.yields_step fun _ => Scan.yields_valueWithin _
  exact scans.run known

end DashboardFilters.Json
