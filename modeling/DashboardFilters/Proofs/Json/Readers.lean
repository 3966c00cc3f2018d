import DashboardFilters.Json.Decode
import DashboardFilters.Proofs.Json.Canonical
import DashboardFilters.Proofs.Outcome
import DashboardFilters.Proofs.Reading.Yields

namespace DashboardFilters.Json.Decode

open Reading (Error Field Record)

variable {α β σ : Type}

/-- Whether all that a reader makes of canonical documents has a property. -/
def Yields (property : α → Prop) (read : Decode α) : Prop :=
  ∀ document value, document.Canonical → read document = .ok value → property value

/-- Whether a field keeps an invariant of the record it fills. -/
def Keeps (invariant : σ → Prop) (field : Field Decode σ) : Prop :=
  ∀ state, invariant state → Yields invariant (field.fill state)

/-- A step that follows a reader uses what the reader yields. -/
theorem yields_bind {property : α → Prop} {result : β → Prop} {read : Decode α}
    {next : α → Decode β} (reads : Yields property read)
    (continues : ∀ value, property value → Yields result (next value)) :
    Yields result (read >>= next) := by
  intro document value canonical succeeds
  obtain ⟨middle, first, second⟩ := Outcome.bind_eq_ok_iff.mp succeeds
  exact continues middle (reads document middle canonical first) document value canonical second

theorem yields_optional {property : α → Prop} {read : Decode α} (reads : Yields property read) :
    Yields (fun value => ∀ inner ∈ value, property inner) (optional read) := by
  intro document value canonical succeeds inner present
  cases document with
  | null =>
      cases succeeds
      cases present
  | bool _ | int _ | float _ | string _ | array _ | object _ =>
      obtain ⟨middle, known, rfl⟩ := Outcome.map_eq_ok_iff.mp succeeds
      cases present
      exact reads _ _ canonical known

theorem yields_items {property : α → Prop} {read : Decode α} (reads : Yields property read) :
    Yields (fun values => ∀ value ∈ values, property value) (items read) := by
  intro document values canonical succeeds value present
  cases document with
  | array documents =>
      have known := Outcome.mapM_eq_ok_iff.mp succeeds
      obtain ⟨index, bound, rfl⟩ := List.getElem_of_mem present
      have inside : index < documents.length := known.length_eq ▸ bound
      have item := canonicalItems_iff.mp canonical _ (List.getElem_mem inside)
      exact reads _ _ item (known.get inside bound)
  | null | bool _ | int _ | float _ | string _ | object _ => cases succeeds

section
variable {invariant : σ → Prop} {record : Record Decode σ α}

/-- Fields written by name keep the invariant. -/
theorem fillNamed_keeps (fields : ∀ field ∈ record.fields, Keeps invariant field)
    (members : List (String × Json)) {state final : σ} (holds : invariant state)
    (canonical : CanonicalMembers members) (fills : fillNamed record members state = .ok final) :
    invariant final := by
  induction members generalizing state with
  | nil =>
      cases fills
      exact holds
  | cons member rest ih =>
      unfold fillNamed at fills
      obtain ⟨found, known, continues⟩ := Outcome.bind_eq_ok_iff.mp fills
      cases found with
      | none => exact ih holds canonical.2 continues
      | some field =>
          obtain ⟨next, filled, remaining⟩ := Outcome.bind_eq_ok_iff.mp continues
          have keeps := fields field (Reading.Record.mem_of_field known) state holds
          exact ih (keeps member.2 next canonical.1 filled) canonical.2 remaining

/-- Fields written by place keep the invariant. -/
theorem fillPlaced_keeps {expected : String} (fields : List (Field Decode σ))
    (keeps : ∀ field ∈ fields, Keeps invariant field) (index : Nat) (documents : List Json)
    {state final : σ} {left : List Json} (holds : invariant state)
    (canonical : CanonicalItems documents)
    (fills : fillPlaced expected fields index documents state = .ok (final, left)) :
    invariant final := by
  induction fields generalizing index documents state with
  | nil =>
      cases fills
      exact holds
  | cons field rest ih =>
      rw [List.forall_mem_cons] at keeps
      cases documents with
      | nil =>
          unfold fillPlaced at fills
          split at fills
          · cases fills
          · exact ih keeps.2 (index + 1) [] holds canonical fills
      | cons document others =>
          unfold fillPlaced at fills
          obtain ⟨next, filled, remaining⟩ := Outcome.bind_eq_ok_iff.mp fills
          exact ih keeps.2 (index + 1) others
            (keeps.1 state holds document next canonical.1 filled) canonical.2 remaining

variable (invariant) in
/-- A record yields what follows from an invariant that all of its fields keep. -/
theorem yields_record {property : α → Prop} (start : invariant record.start)
    (fields : ∀ field ∈ record.fields, Keeps invariant field)
    (finish : ∀ state value, invariant state → record.finish state = .ok value → property value) :
    Yields property (Decode.record record) := by
  intro document value canonical succeeds
  cases document with
  | object members =>
      obtain ⟨state, filled, finished⟩ := Outcome.bind_eq_ok_iff.mp succeeds
      exact finish state value (fillNamed_keeps fields members start canonical.2 filled) finished
  | array documents =>
      obtain ⟨⟨state, left⟩, filled, remaining⟩ := Outcome.bind_eq_ok_iff.mp succeeds
      obtain ⟨made, finished, checked⟩ := Outcome.bind_eq_ok_iff.mp remaining
      have holds := fillPlaced_keeps record.fields fields 0 documents start canonical filled
      split at checked
      · cases checked
        exact finish state _ holds finished
      · cases checked
  | null | bool _ | int _ | float _ | string _ => cases succeeds

end

/-- What readers make of canonical documents follows the rules of all sources. -/
def logic : Reading.Logic Decode Canonical where
  Yields := Yields
  anything _ := fun _ _ _ _ => trivial
  pure := by
    rintro _ _ _ holds document _ _ ⟨⟩
    exact holds
  fail _ := by rintro _ _ _ ⟨⟩
  bind := yields_bind
  value := by
    rintro document _ canonical ⟨⟩
    exact canonical
  optional := yields_optional
  items := yields_items
  record invariant start fields finish := yields_record invariant start fields finish

/-- What is read where something optional is there. -/
theorem optional_of_ok {read : Decode α} {document : Json} {value : α} (present : document ≠ .null)
    (reads : read document = .ok value) : optional read document = .ok (some value) := by
  cases document with
  | null => exact absurd rfl present
  | bool _ | int _ | float _ | string _ | array _ | object _ =>
      exact congrArg (Except.map some) reads

section
variable {record : Record Decode σ α}

/-- A member whose field is still empty fills it. -/
theorem fillNamed_cons {name : String} {document : Json} {rest : List (String × Json)}
    {state next : σ} {field : Field Decode σ}
    (known : record.field name state = .ok (some field))
    (filled : field.fill state document = .ok next) :
    fillNamed record ((name, document) :: rest) state = fillNamed record rest next := by
  rw [fillNamed, known]
  change (field.fill state document >>= fun next => fillNamed record rest next) = _
  rw [filled]
  rfl

/-- A field takes the value that is read. -/
theorem fill_of {name : String} {needed : Bool} {taken : σ → Option α} {put : σ → Option α → σ}
    {read : Decode α} {state : σ} {document : Json} {value : α}
    (reads : read document = .ok value) :
    (Field.of name needed taken put read).fill state document = .ok (put state (some value)) := by
  change (read document >>= fun value => Except.ok (put state (some value))) = _
  rw [reads]
  rfl

end

end DashboardFilters.Json.Decode
