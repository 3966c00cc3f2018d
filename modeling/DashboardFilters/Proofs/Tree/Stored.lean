import DashboardFilters.Proofs.Json.Records
import DashboardFilters.Proofs.Tree.RoundTrip

namespace DashboardFilters

open Json (Optionally selected)
open Json.Decode (Reads fillNamed_toList reads_of_shows reads_of_write record_sorted)

/-- A value of any form is read. -/
theorem Value.reads_document {document? written : Option Json} (same : document? = written) :
    Reads (read : Json.Decode Value) document?
      (written.map fun document => decode document.sorted) := by
  rw [same]
  cases written with
  | none => exact .none
  | some document => exact .some rfl

/-- What the details of a stored filter say. Some of them may be null where they are there. -/
structure Extra.Written where
  period : Option (Option Period) := none
  unit : Option (Option TimeUnit) := none
  amount : Option (Option UInt32) := none
  manual : Option Bool := none
  manualLeft : Option Bool := none
  manualRight : Option Bool := none
  left : Option Json := none
  right : Option Json := none

namespace Extra.Written

/-- Whether the members of an object say it. -/
structure In (written : Written) (members : List (String × Json)) : Prop where
  distinct : (members.map Prod.fst).Nodup
  period : Option.Rel (Optionally fun document period => document.Names (Period.name period))
    (members.lookup "period") written.period
  unit : Option.Rel (Optionally fun document unit => document.Names (TimeUnit.name unit))
    (members.lookup "unit") written.unit
  amount : Option.Rel (Optionally fun document amount => document = .int (UInt32.toNat amount))
    (members.lookup "value") written.amount
  manual : members.lookup "isManual" = written.manual.map .bool
  manualLeft : members.lookup "isManualLeft" = written.manualLeft.map .bool
  manualRight : members.lookup "isManualRight" = written.manualRight.map .bool
  left : members.lookup "left" = written.left
  right : members.lookup "right" = written.right

/-- The details as they are read. -/
def made (written : Written) : Extra where
  period := written.period
  unit := written.unit
  amount := written.amount
  manual := written.manual
  manualLeft := written.manualLeft
  manualRight := written.manualRight
  left := written.left.map fun document => Value.decode document.sorted
  right := written.right.map fun document => Value.decode document.sorted

variable {written : Written} {members : List (String × Json)}

/-- The details are read from an object that tells them. -/
theorem In.read (told : written.In members) :
    (Extra.read : Json.Decode Extra) (Json.object members).sorted = .ok written.made := by
  have ascending : ["isManual", "isManualLeft", "isManualRight", "left", "period", "right", "unit",
      "value"].Pairwise (· < ·) := by decide
  have manual : Reads Json.Decode.flag _ _ := reads_of_write told.manual fun _ => rfl
  have manualLeft : Reads Json.Decode.flag _ _ := reads_of_write told.manualLeft fun _ => rfl
  have manualRight : Reads Json.Decode.flag _ _ := reads_of_write told.manualRight fun _ => rfl
  have period := reads_of_shows told.period fun _ _ shown => shown.read fun _ period names =>
    ⟨names.sorted_ne_null, (names.variant _).trans period.read_name⟩
  have unit := reads_of_shows told.unit fun _ _ shown => shown.read fun _ unit names =>
    ⟨names.sorted_ne_null, (names.variant _).trans unit.read_name⟩
  have amount : Reads (Json.Decode.optional Json.Decode.word) _ _ :=
    reads_of_shows told.amount fun _ _ shown => shown.read fun _ amount same => by
      rw [same]
      exact ⟨Json.noConfusion, Reading.word?_toNat amount⟩
  have left := Value.reads_document told.left
  have right := Value.reads_document told.right
  refine Eq.trans (record_sorted rfl told.distinct ascending (by decide)) ?_
  refine Outcome.bind_eq_ok_iff.mpr ⟨written.made, ?_, rfl⟩
  simp only [selected, List.flatMap_cons, List.flatMap_nil]
  apply Eq.trans (fillNamed_toList _ rfl rfl manual)
  apply Eq.trans (fillNamed_toList _ rfl rfl manualLeft)
  apply Eq.trans (fillNamed_toList _ rfl rfl manualRight)
  apply Eq.trans (fillNamed_toList _ rfl rfl left)
  apply Eq.trans (fillNamed_toList _ rfl rfl period)
  apply Eq.trans (fillNamed_toList _ rfl rfl right)
  apply Eq.trans (fillNamed_toList _ rfl rfl unit)
  apply Eq.trans (fillNamed_toList _ rfl rfl amount)
  rfl

/-- Details that may be null are read, if they are there. -/
theorem reads_details {document? : Option Json} {written? : Option (Option Written)}
    (shown : Option.Rel (Optionally fun document (written : Written) =>
      ∃ members, document = .object members ∧ written.In members) document? written?) :
    Reads (Json.Decode.optional Extra.read) document? (written?.map (Option.map made)) := by
  cases shown with
  | none => exact .none
  | some shown =>
      cases shown with
      | absent => exact .some rfl
      | present shown =>
          obtain ⟨members, rfl, told⟩ := shown
          exact .some (Json.Decode.optional_of_ok Json.noConfusion told.read)

end Extra.Written

/-- What a stored filter tells. -/
structure StoredFilter.Written where
  id : Option String
  column : String
  operator : Operator
  value : Option Json
  shown : Option Bool
  extra : Option (Option Extra.Written)

namespace StoredFilter.Written

/-- Whether the members of an object tell it. -/
structure In (written : Written) (members : List (String × Json)) : Prop where
  distinct : (members.map Prod.fst).Nodup
  id : members.lookup "id" = written.id.map .string
  column : members.lookup "columnName" = some (.string written.column)
  operator : ∃ document, members.lookup "op" = some document ∧
    document.Names written.operator.wire
  value : members.lookup "value" = written.value
  shown : members.lookup "show" = written.shown.map .bool
  extra : Option.Rel (Optionally fun document (extra : Extra.Written) =>
    ∃ details, document = .object details ∧ extra.In details) (members.lookup "extra") written.extra

/-- The details, where missing ones tell nothing. -/
def details (written : Written) : Extra.Written :=
  written.extra.join.getD {}

/-- The filter as it is read, before its predicate is built. -/
def made (written : Written) : StoredFilter where
  id := written.id.getD ""
  column := written.column
  operator := written.operator
  value := (written.value.map fun document => Value.decode document.sorted).getD .null
  shown := written.shown.getD true
  extra := written.details.made

variable {written : Written} {members : List (String × Json)}

theorem In.read (told : written.In members) :
    Json.decode StoredFilter.read (.object members) = .ok written.made := by
  have ascending : ["columnName", "extra", "id", "op", "show", "value"].Pairwise (· < ·) := by
    decide
  have column : Reads Json.Decode.text _ (some written.column) :=
    reads_of_write told.column fun _ => rfl
  have extra := Extra.Written.reads_details told.extra
  have id : Reads Json.Decode.text _ _ := reads_of_write told.id fun _ => rfl
  have operator : Reads Operator.read (members.lookup "op") (some written.operator) := by
    obtain ⟨document, found, names⟩ := told.operator
    rw [found]
    exact .some ((names.variant _).trans written.operator.read_wire)
  have shown : Reads Json.Decode.flag _ _ := reads_of_write told.shown fun _ => rfl
  have value := Value.reads_document told.value
  refine Eq.trans (record_sorted rfl told.distinct ascending (by decide)) ?_
  refine Outcome.bind_eq_ok_iff.mpr ⟨⟨written.id, some written.column, some written.operator,
    written.value.map fun document => Value.decode document.sorted, written.shown,
    written.extra.map (Option.map Extra.Written.made)⟩, ?_, ?_⟩
  · simp only [selected, List.flatMap_cons, List.flatMap_nil]
    apply Eq.trans (fillNamed_toList _ rfl rfl column)
    apply Eq.trans (fillNamed_toList _ rfl rfl extra)
    apply Eq.trans (fillNamed_toList _ rfl rfl id)
    apply Eq.trans (fillNamed_toList _ rfl rfl operator)
    apply Eq.trans (fillNamed_toList _ rfl rfl shown)
    apply Eq.trans (fillNamed_toList _ rfl rfl value)
    rfl
  · have details : (written.extra.map (Option.map Extra.Written.made)).join.getD {} =
        written.details.made := by
      unfold details
      cases written.extra with
      | none => rfl
      | some extra => cases extra <;> rfl
    change Except.ok (StoredFilter.mk _ _ _ _ _ _) = _
    rw [details]
    rfl

end StoredFilter.Written

end DashboardFilters
