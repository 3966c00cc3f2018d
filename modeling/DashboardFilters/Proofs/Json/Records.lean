import DashboardFilters.Proofs.Json.Canonical
import DashboardFilters.Proofs.Json.Readers

namespace DashboardFilters.Json

open Reading (Field Record)

variable {α β σ : Type} {members : List (String × Json)}

/-- A member stands under its key. -/
theorem mem_iff_lookup (distinct : (members.map Prod.fst).Nodup) {key : String} {document : Json} :
    (key, document) ∈ members ↔ members.lookup key = some document := by
  induction members with
  | nil => simp
  | cons first rest ih =>
      obtain ⟨own, kept⟩ := first
      rw [List.map_cons, List.nodup_cons] at distinct
      rw [lookup_cons, List.mem_cons, ih distinct.2, Prod.mk.injEq]
      by_cases same : key = own
      · subst same
        have absent : ¬ rest.lookup key = some document := fun present =>
          distinct.1 (List.mem_map.mpr ⟨_, (ih distinct.2).mpr present, rfl⟩)
        simp [absent, eq_comm]
      · simp [same]

/-- The members of some keys, with sorted values, in the order of the keys. -/
def selected (members : List (String × Json)) (keys : List String) : List (String × Json) :=
  keys.flatMap fun key => ((members.lookup key).map fun document => (key, document.sorted)).toList

/-- Members with distinct keys are found after sorting as before. -/
theorem lookup_sorted (distinct : (members.map Prod.fst).Nodup) (key : String) :
    (sortMembers (sortedValues members)).lookup key = (members.lookup key).map sorted := by
  cases found : members.lookup key with
  | some document =>
      exact member?_sorted distinct ((mem_iff_lookup distinct).mpr found)
  | none =>
      rw [Option.map_none, List.lookup_eq_none_iff]
      intro member present
      have inside := mem_of_mem_sortMembers present
      rw [sortedValues_eq_map] at inside
      obtain ⟨original, there, rfl⟩ := List.mem_map.mp inside
      exact List.lookup_eq_none_iff.mp found original there

/-- The selected members are those found under one of the keys. -/
theorem mem_selected {keys : List String} {key : String} {document : Json} :
    (key, document) ∈ selected members keys ↔
      key ∈ keys ∧ (members.lookup key).map sorted = some document := by
  unfold selected
  simp only [List.mem_flatMap, Option.mem_toList, Option.map_eq_some_iff, Prod.mk.injEq]
  constructor
  · rintro ⟨_, listed, original, found, rfl, rfl⟩
    exact ⟨listed, original, found, rfl⟩
  · rintro ⟨listed, original, found, rfl⟩
    exact ⟨key, listed, original, found, rfl, rfl⟩

/-- Selecting by ascending keys puts the members in order. -/
theorem ascending_selected {keys : List String} (ascending : keys.Pairwise (· < ·)) :
    Ascending (selected members keys) := by
  have own {key : String} {member : String × Json}
      (there : member ∈ ((members.lookup key).map fun document => (key, document.sorted)).toList) :
      member.1 = key := by
    rw [Option.mem_toList, Option.map_eq_some_iff] at there
    obtain ⟨document, -, rfl⟩ := there
    rfl
  unfold Ascending selected
  rw [List.pairwise_map, List.pairwise_flatMap]
  constructor
  · intro key _
    cases members.lookup key with
    | none => exact .nil
    | some document => exact List.pairwise_singleton _ _
  · apply ascending.imp
    intro key other less member first further second
    rwa [own first, own second]

/-- Of sorted members those of ascending keys come in the order of the keys. -/
theorem filter_sortMembers (distinct : (members.map Prod.fst).Nodup) {keys : List String}
    (ascending : keys.Pairwise (· < ·)) :
    (sortMembers (sortedValues members)).filter (fun member => member.1 ∈ keys) =
      selected members keys := by
  have sorting := ascending_sortMembers (sortedValues members)
  have distinctSorted := sorting.imp String.ne_of_lt
  have first := List.pairwise_map.mp sorting
  have selecting : Ascending (selected members keys) := ascending_selected ascending
  have second := List.pairwise_map.mp selecting
  have different {member other : String × Json} (less : member.1 < other.1) : member ≠ other :=
    fun same => String.ne_of_lt less (congrArg Prod.fst same)
  apply List.Perm.eq_of_pairwise _ (first.filter _) second
  · rw [List.perm_ext_iff_of_nodup ((first.filter _).imp different) (second.imp different)]
    rintro ⟨key, document⟩
    rw [List.mem_filter, mem_iff_lookup distinctSorted, lookup_sorted distinct, mem_selected,
      decide_eq_true_eq, and_comm]
  · intro member other _ _ less more
    exact absurd more (String.lt_asymm less)

namespace Decode

variable {record : Record Decode σ α}

/-- Members that are no fields of a record that passes them over have no part in it. -/
theorem fillNamed_filter (passes : record.closed = false) (members : List (String × Json))
    (state : σ) : fillNamed record members state =
      fillNamed record
        (members.filter fun member => member.1 ∈ record.fields.map fun field => field.name)
        state := by
  induction members generalizing state with
  | nil => rfl
  | cons member rest ih =>
      obtain ⟨name, document⟩ := member
      by_cases known : name ∈ record.fields.map fun field => field.name
      · rw [List.filter_cons_of_pos (by simpa using known), fillNamed, fillNamed]
        simp only [ih]
      · have absent : record.field name state = .ok none := by
          rw [Record.field, List.find?_eq_none.mpr, passes]
          · rfl
          · intro field listed same
            exact known (List.mem_map.mpr ⟨field, listed, beq_iff_eq.mp same⟩)
        rw [List.filter_cons_of_neg (by simpa using known), fillNamed, absent, ← ih]
        rfl

/-- Whether a reader makes a value of a document that may be missing. -/
def Reads (read : Decode α) : Option Json → Option α → Prop :=
  Option.Rel fun document value => read document.sorted = .ok value

/-- A member that may be missing fills its field, or leaves it empty. -/
theorem fillNamed_toList {name : String} {needed : Bool} {taken : σ → Option β}
    {put : σ → Option β → σ} {read : Decode β} {state : σ} {document? : Option Json}
    {value? : Option β} (rest : List (String × Json))
    (known : record.field name state = .ok (some (.of name needed taken put read)))
    (empty : put state none = state) (reads : Reads read document? value?) :
    fillNamed record
        ((document?.map fun document => (name, document.sorted)).toList ++ rest) state =
      fillNamed record rest (put state value?) := by
  cases reads with
  | none =>
      rw [empty]
      rfl
  | some reads => exact fillNamed_cons known (fill_of reads)

/-- A record is read from the members of its fields, in any order that puts their names in
theirs. -/
theorem record_sorted (passes : record.closed = false) (distinct : (members.map Prod.fst).Nodup)
    {keys : List String} (ascending : keys.Pairwise (· < ·))
    (names : (record.fields.map fun field => field.name).Perm keys) :
    Decode.record record (Json.object members).sorted =
      fillNamed record (selected members keys) record.start >>= record.finish := by
  have known (member : String × Json) :
      decide (member.1 ∈ record.fields.map fun field => field.name) = decide (member.1 ∈ keys) :=
    decide_eq_decide.mpr names.mem_iff
  change fillNamed record (sortMembers (sortedValues members)) record.start >>= record.finish = _
  rw [fillNamed_filter passes]
  simp only [known]
  rw [filter_sortMembers distinct ascending]

/-- A member that is written in one way and read so is read, if it is there. -/
theorem reads_of_write {read : Decode α} {write : α → Json} {document? : Option Json}
    {value? : Option α} (written : document? = value?.map write)
    (reads : ∀ value, read (write value).sorted = .ok value) : Reads read document? value? := by
  rw [written]
  cases value? with
  | none => exact .none
  | some value => exact .some (reads value)

/-- A member that shows something and is read so is read, if it is there. -/
theorem reads_of_shows {read : Decode α} {shows : Json → α → Prop} {document? : Option Json}
    {value? : Option α} (shown : Option.Rel shows document? value?)
    (reads : ∀ document value, shows document value → read document.sorted = .ok value) :
    Reads read document? value? := by
  cases shown with
  | none => exact .none
  | some shown => exact .some (reads _ _ shown)

end Decode

/-- Whether a document is a name, alone or as the only key of an object. -/
def Names (document : Json) (name : String) : Prop :=
  document = .string name ∨ document = .object [(name, .null)]

/-- A name is read in one way. -/
theorem Names.variant {document : Json} {name : String} (names : document.Names name)
    (variants : List (String × α)) :
    Decode.variant variants document.sorted = Decode.variant variants (.string name) := by
  rcases names with rfl | rfl
  · rfl
  · change (Reading.choose variants name >>= Except.ok) = Reading.choose variants name
    cases Reading.choose variants name <;> rfl

theorem Names.sorted_ne_null {document : Json} {name : String} (names : document.Names name) :
    document.sorted ≠ .null := by
  rcases names with rfl | rfl <;> exact Json.noConfusion

/-- Whether a document is null for nothing, or shows something. -/
inductive Optionally (shows : Json → α → Prop) : Json → Option α → Prop
  | absent : Optionally shows .null none
  | present {document : Json} {value : α} (shown : shows document value) :
      Optionally shows document (some value)

/-- What shows something, and is not null then, is read where it may be null. -/
theorem Optionally.read {shows : Json → α → Prop} {read : Decode α} {document : Json}
    {value? : Option α} (shown : Optionally shows document value?)
    (reads : ∀ document value, shows document value →
      document.sorted ≠ .null ∧ read document.sorted = .ok value) :
    Decode.optional read document.sorted = .ok value? := by
  cases shown with
  | absent => rfl
  | present shown =>
      obtain ⟨present, read⟩ := reads _ _ shown
      exact Decode.optional_of_ok present read

end DashboardFilters.Json
