import DashboardFilters.Reading.Source

/-!
What readers yield, whatever the data is written in. Each source has its own way to tell properties
of what its readers yield; the rules below are those that all sources share, so that a property of a
reader is shown once for all of them.
-/

namespace DashboardFilters.Reading

theorem Record.mem_of_field {m : Type → Type} {σ α : Type} {record : Record m σ α} {name : String}
    {state : σ} {field : Field m σ} (found : record.field name state = .ok (some field)) :
    field ∈ record.fields := by
  unfold Record.field at found
  split at found
  next other known =>
    split at found
    · cases found
    · cases found
      exact List.mem_of_find?_eq_some known
  next =>
    split at found <;> cases found

variable {m : Type → Type} [Source m] {document : Json → Prop}

/-- A way to tell properties of what the readers of a source yield. The documents that the source
gives away whole have a property of their own. -/
structure Logic (m : Type → Type) [Source m] (document : Json → Prop) where
  /-- Whether all that a reader yields has a property. -/
  Yields {α : Type} : (α → Prop) → m α → Prop
  anything {α : Type} (read : m α) : Yields (fun _ => True) read
  pure {α : Type} {property : α → Prop} {value : α} :
    property value → Yields property (pure value)
  fail {α : Type} {property : α → Prop} (error : Error) : Yields property (Source.fail error)
  bind {α β : Type} {property : α → Prop} {result : β → Prop} {read : m α} {next : α → m β} :
    Yields property read → (∀ value, property value → Yields result (next value)) →
      Yields result (read >>= next)
  value : Yields document Source.value
  optional {α : Type} {property : α → Prop} {read : m α} : Yields property read →
    Yields (fun value => ∀ inner ∈ value, property inner) (Source.optional read)
  items {α : Type} {property : α → Prop} {read : m α} : Yields property read →
    Yields (fun values => ∀ value ∈ values, property value) (Source.items read)
  /-- A record has what follows from an invariant that all of its fields keep. -/
  record {σ α : Type} {property : α → Prop} {record : Record m σ α} (invariant : σ → Prop) :
    invariant record.start →
    (∀ field ∈ record.fields, ∀ state, invariant state → Yields invariant (field.fill state)) →
    (∀ state value, invariant state → record.finish state = .ok value → property value) →
      Yields property (Source.record record)

namespace Logic

variable (logic : Logic m document) {α β σ : Type}

/-- A step after which nothing is known. -/
theorem step {result : β → Prop} {read : m α} {next : α → m β}
    (continues : ∀ value, logic.Yields result (next value)) :
    logic.Yields result (read >>= next) :=
  logic.bind (logic.anything read) fun value _ => continues value

/-- Whether a field keeps an invariant of the record it fills. -/
def Keeps (invariant : σ → Prop) (field : Field m σ) : Prop :=
  ∀ state, invariant state → logic.Yields invariant (field.fill state)

/-- A field that takes one value keeps an invariant that the value does not break. -/
theorem keeps_of {invariant : σ → Prop} {property : α → Prop} {name : String} {needed : Bool}
    {taken : σ → Option α} {put : σ → Option α → σ} {read : m α}
    (reads : logic.Yields property read)
    (keeps : ∀ state value, invariant state → property value → invariant (put state (some value))) :
    logic.Keeps invariant (.of name needed taken put read) := fun state holds =>
  logic.bind reads fun value given => logic.pure (keeps state value holds given)

/-- A field keeps an invariant that does not look at it. -/
theorem keeps_apart {invariant : σ → Prop} {name : String} {needed : Bool} {taken : σ → Option α}
    {put : σ → Option α → σ} {read : m α}
    (apart : ∀ state value, invariant state → invariant (put state (some value))) :
    logic.Keeps invariant (.of name needed taken put read) :=
  logic.keeps_of (logic.anything read) fun state value holds _ => apart state value holds

end Logic

end DashboardFilters.Reading
