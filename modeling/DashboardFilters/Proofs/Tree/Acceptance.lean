import DashboardFilters.Proofs.Tree.Stored

namespace DashboardFilters

open Outcome (bind_eq_error_iff bind_eq_ok_iff exists_map_eq_ok_iff map_eq_error_iff map_eq_ok_iff)

namespace Value

/-- Only null is read as null. -/
theorem decode_sorted_eq_null_iff {document : Json} :
    decode document.sorted = .null ↔ document = .null := by
  cases document with
  | null => exact iff_of_true rfl rfl
  | int number =>
      have same : decode (Json.int number).sorted =
          ((int64? number).map .int).getD (.float (doubleOf number)) := decode_int number
      rw [same]
      cases int64? number <;> exact iff_of_false Value.noConfusion Json.noConfusion
  | bool _ | float _ | string _ | array _ | object _ =>
      exact iff_of_false Value.noConfusion Json.noConfusion

/-- Only strings are read as texts. -/
theorem decode_sorted_eq_text_iff {document : Json} {text : String} :
    decode document.sorted = .text text ↔ document = .string text := by
  cases document with
  | string other =>
      change Value.text other = .text text ↔ _
      rw [Value.text.injEq, Json.string.injEq]
  | int number =>
      have same : decode (Json.int number).sorted =
          ((int64? number).map .int).getD (.float (doubleOf number)) := decode_int number
      rw [same]
      cases int64? number <;> exact iff_of_false Value.noConfusion Json.noConfusion
  | null | bool _ | float _ | array _ | object _ =>
      exact iff_of_false Value.noConfusion Json.noConfusion

end Value

/-- Whether a member can be an expression: a string, or null, or none at all. -/
def Json.Textual (document? : Option Json) : Prop :=
  document? = none ∨ document? = some .null ∨ ∃ text, document? = some (.string text)

namespace Operand

/-- An operand is made unless it is marked as an expression and is neither a text nor null. -/
theorem exists_ofStored_iff {value : Value} {manual : Bool} :
    (∃ operand, ofStored value manual = .ok operand) ↔
      (manual = true → value = .null ∨ ∃ text, value = .text text) := by
  cases manual with
  | false => exact iff_of_true ⟨_, rfl⟩ nofun
  | true =>
      cases value with
      | null => exact iff_of_true ⟨_, rfl⟩ fun _ => Or.inl rfl
      | text text => exact iff_of_true ⟨_, rfl⟩ fun _ => Or.inr ⟨text, rfl⟩
      | bool _ | int _ | float _ | list _ | json _ | withheld =>
          refine iff_of_false nofun fun textual => ?_
          rcases textual rfl with ⟨⟨⟩⟩ | ⟨_, ⟨⟩⟩

theorem exists_ofStored_member_iff {document? : Option Json} {manual? : Option Bool} :
    (∃ operand, ofStored ((document?.map fun document => Value.decode document.sorted).getD .null)
      (manual?.getD false) = .ok operand) ↔ (manual? = some true → Json.Textual document?) := by
  have marked : manual?.getD false = true ↔ manual? = some true := by
    cases manual? with
    | none => decide
    | some manual => exact Option.some_inj.symm
  rw [exists_ofStored_iff, marked]
  apply imp_congr_right
  intro _
  unfold Json.Textual
  cases document? with
  | none => exact iff_of_true (Or.inl rfl) (Or.inl rfl)
  | some document =>
      change (Value.decode document.sorted = .null ∨
        ∃ text, Value.decode document.sorted = .text text) ↔ _
      simp only [Value.decode_sorted_eq_null_iff, Value.decode_sorted_eq_text_iff, reduceCtorEq,
        false_or, Option.some.injEq]

/-- An operand is only refused as an illegal argument. -/
theorem kind_of_ofStored {value : Value} {manual : Bool} {failure : Failure}
    (refused : ofStored value manual = .error failure) : failure.kind = .illegalArgument := by
  cases manual with
  | false => cases refused
  | true =>
      cases value with
      | null | text _ => cases refused
      | bool _ | int _ | float _ | list _ | json _ | withheld =>
          cases refused
          rfl

end Operand

theorem CompareOp.operator_of_ofOperator {operator : Operator} {op : CompareOp}
    (known : ofOperator? operator = some op) : op.operator = operator := by
  cases operator <;> cases known <;> rfl

/-- Whether the details tell a period relative to now. -/
def Extra.IsRelative (extra : Extra) : Prop :=
  extra.period.join = some .last ∨ extra.period.join = some .next

namespace Predicate

variable {operator : Operator} {value : Value} {extra : Extra}

/-- Relative periods are refused for all operators but ranges. -/
theorem ofStored_misplaced (other : operator ≠ .between) (relative : extra.IsRelative) :
    ofStored operator value extra = .error ((Failure.illegalArgument
      ("relative periods only apply to $between, not " ++ operator.wire)).withOperator
        operator.wire) := by
  have refused : checkPeriod operator extra = .error ((Failure.illegalArgument
      ("relative periods only apply to $between, not " ++ operator.wire)).withOperator
        operator.wire) := by
    unfold checkPeriod
    rcases relative with last | next
    · rw [last]
      exact if_neg other
    · rw [next]
      exact if_neg other
  unfold ofStored
  rw [refused]
  rfl

/-- The period is no matter for ranges. -/
theorem checkPeriod_between : checkPeriod .between extra = .ok () := by
  unfold checkPeriod
  split <;> rfl

/-- The period is no matter if it is not relative. -/
theorem checkPeriod_of_not_relative (calm : ¬ extra.IsRelative) :
    checkPeriod operator extra = .ok () := by
  unfold checkPeriod
  split
  next last => exact absurd (Or.inl last) calm
  next next => exact absurd (Or.inr next) calm
  next => rfl

theorem ofStored_between :
    ofStored .between value extra = (rangeOfStored extra).map .between := by
  unfold ofStored
  rw [checkPeriod_between]
  change (rangeOfStored extra >>= fun range => Except.ok (between range)) = _
  cases rangeOfStored extra <;> rfl

theorem ofStored_comparison (op : CompareOp) (calm : ¬ extra.IsRelative) :
    ofStored op.operator value extra =
      (Operand.ofStored value (extra.manual.getD false)).map (.compare op) := by
  have joined : (Operand.ofStored value (extra.manual.getD false) >>= fun operand =>
      Except.ok (.compare op operand)) =
      (Operand.ofStored value (extra.manual.getD false)).map (compare op) := by
    cases Operand.ofStored value (extra.manual.getD false) <;> rfl
  unfold ofStored
  rw [checkPeriod_of_not_relative calm]
  cases op <;> exact joined

/-- What is stored for an operator without operands that are to be checked. -/
def plain? (value : Value) : Operator → Option (Predicate Value)
  | .isNull => some .isNull
  | .isNotNull => some .isNotNull
  | .isIn => some (.list .isIn value.listText)
  | .notIn => some (.list .notIn value.listText)
  | _ => none

theorem ofStored_plain {predicate : Predicate Value}
    (plain : plain? value operator = some predicate) (calm : ¬ extra.IsRelative) :
    ofStored operator value extra = .ok predicate := by
  unfold ofStored
  rw [checkPeriod_of_not_relative calm]
  cases operator <;> cases plain <;> rfl

/-- What is stored without operands to be checked is neither a range nor a comparison. -/
theorem plain?_operator {predicate : Predicate Value}
    (plain : plain? value operator = some predicate) :
    predicate.operator = operator ∧ operator ≠ .between ∧
      CompareOp.ofOperator? operator = none := by
  cases operator <;> cases plain <;> exact ⟨rfl, Operator.noConfusion, rfl⟩

/-- All that building a stored predicate can do. -/
inductive Builds (operator : Operator) (value : Value) (extra : Extra) :
    Except Failure (Predicate Value) → Prop
  | misplaced (other : operator ≠ .between) (relative : extra.IsRelative) :
      Builds operator value extra (.error ((Failure.illegalArgument
        ("relative periods only apply to $between, not " ++ operator.wire)).withOperator
          operator.wire))
  | range (between : operator = .between) :
      Builds operator value extra ((rangeOfStored extra).map .between)
  | comparison {op : CompareOp} (same : operator = op.operator) (calm : ¬ extra.IsRelative) :
      Builds operator value extra
        ((Operand.ofStored value (extra.manual.getD false)).map (.compare op))
  | plain {predicate : Predicate Value} (found : plain? value operator = some predicate)
      (calm : ¬ extra.IsRelative) : Builds operator value extra (.ok predicate)

/-- An operator is that of ranges, a comparison, or one without operands to be checked. -/
theorem cases_operator (value : Value) (operator : Operator) : operator = .between ∨
    (∃ op : CompareOp, operator = op.operator) ∨
      ∃ predicate, plain? value operator = some predicate := by
  cases operator with
  | between => exact Or.inl rfl
  | isNull | isNotNull | isIn | notIn => exact Or.inr (Or.inr ⟨_, rfl⟩)
  | eq | ne | gt | gte | lt | lte | startsWith | endsWith | contains | containsAnyCase
  | notContains | notContainsAnyCase =>
      exact Or.inr (Or.inl ⟨_, (CompareOp.operator_of_ofOperator rfl).symm⟩)

theorem ofStored_builds (operator : Operator) (value : Value) (extra : Extra) :
    Builds operator value extra (ofStored operator value extra) := by
  by_cases between : operator = .between
  · subst between
    rw [ofStored_between]
    exact .range rfl
  · by_cases relative : extra.IsRelative
    · rw [ofStored_misplaced between relative]
      exact .misplaced between relative
    · obtain between | ⟨op, rfl⟩ | ⟨predicate, plain⟩ := cases_operator value operator
      · contradiction
      · rw [ofStored_comparison op relative]
        exact .comparison rfl relative
      · rw [ofStored_plain plain relative]
        exact .plain plain relative

/-- All that building a stored range can do. -/
inductive BuildsRange (extra : Extra) : Except Failure (Range Value) → Prop
  | unmeasured {period : Period} (relative : extra.IsRelative)
      (missing : ¬ (extra.unit.join.isSome = true ∧ extra.amount.join.isSome = true)) :
      BuildsRange extra (.error ((Failure.illegalArgument
        (period.title ++ " period needs both a unit and an amount")).withOperator
          Operator.between.wire))
  | relative {relative : RelativePeriod} (isRelative : extra.IsRelative)
      (period : extra.period.join = some relative.period)
      (unit : extra.unit.join = some relative.unit)
      (amount : extra.amount.join = some relative.amount) :
      BuildsRange extra (.ok (.relative relative))
  | fixed (calm : ¬ extra.IsRelative) : BuildsRange extra
      (Operand.ofStored (extra.left.getD .null) (extra.manualLeft.getD false) >>= fun left =>
        Operand.ofStored (extra.right.getD .null) (extra.manualRight.getD false) >>= fun right =>
          .ok (.fixed left right))

/-- A range relative to now is made of a period, a unit and an amount. -/
theorem rangeOfStored_directed {period : Period} (directed : period ≠ .arbitrary)
    (known : extra.period.join = some period) : rangeOfStored extra =
      (extra.unit.join.bind fun unit => extra.amount.join.map fun amount =>
        Range.relative ⟨period, unit, amount⟩).elim
          (.error ((Failure.illegalArgument
            (period.title ++ " period needs both a unit and an amount")).withOperator
              Operator.between.wire)) .ok := by
  unfold rangeOfStored
  rw [known]
  cases period with
  | arbitrary => exact absurd rfl directed
  | last | next => cases extra.unit.join <;> cases extra.amount.join <;> rfl

/-- All other ranges are made of two bounds. -/
theorem rangeOfStored_undirected (calm : ¬ extra.IsRelative) : rangeOfStored extra =
    (Operand.ofStored (extra.left.getD .null) (extra.manualLeft.getD false) >>= fun left =>
      Operand.ofStored (extra.right.getD .null) (extra.manualRight.getD false) >>= fun right =>
        .ok (.fixed left right)) := by
  unfold rangeOfStored
  cases known : extra.period.join with
  | none => rfl
  | some period =>
      cases period with
      | arbitrary => rfl
      | last => exact absurd (Or.inl known) calm
      | next => exact absurd (Or.inr known) calm

theorem rangeOfStored_builds (extra : Extra) : BuildsRange extra (rangeOfStored extra) := by
  by_cases relative : extra.IsRelative
  · obtain ⟨period, directed, known⟩ : ∃ period : Period, period ≠ .arbitrary ∧
        extra.period.join = some period := by
      rcases relative with last | next
      · exact ⟨.last, Period.noConfusion, last⟩
      · exact ⟨.next, Period.noConfusion, next⟩
    rw [rangeOfStored_directed directed known]
    cases unitKnown : extra.unit.join with
    | none => exact .unmeasured relative fun given => by simp [unitKnown] at given
    | some unit =>
        cases amountKnown : extra.amount.join with
        | none => exact .unmeasured relative fun given => by simp [amountKnown] at given
        | some amount => exact .relative relative known unitKnown amountKnown
  · rw [rangeOfStored_undirected relative]
    exact .fixed relative

variable {predicate : Predicate Value}

theorem operator_of_ofStored (made : ofStored operator value extra = .ok predicate) :
    predicate.operator = operator := by
  have builds := ofStored_builds operator value extra
  generalize ofStored operator value extra = outcome at made builds
  cases builds with
  | misplaced => cases made
  | range between =>
      obtain ⟨range, -, rfl⟩ := map_eq_ok_iff.mp made
      exact between.symm
  | comparison same =>
      obtain ⟨operand, -, rfl⟩ := map_eq_ok_iff.mp made
      exact same.symm
  | plain found =>
      cases made
      exact (plain?_operator found).1

/-- A range relative to now is one of the stored period, unit and amount. -/
theorem relative_of_ofStored {relative : RelativePeriod}
    (made : ofStored operator value extra = .ok (.between (.relative relative))) :
    extra.IsRelative ∧ extra.period.join = some relative.period ∧
      extra.unit.join = some relative.unit ∧ extra.amount.join = some relative.amount := by
  obtain rfl : Operator.between = operator := operator_of_ofStored made
  rw [ofStored_between] at made
  obtain ⟨range, built, ⟨⟩⟩ := map_eq_ok_iff.mp made
  have builds := rangeOfStored_builds extra
  generalize rangeOfStored extra = outcome at built builds
  cases builds with
  | unmeasured => cases built
  | relative isRelative period unit amount =>
      cases built
      exact ⟨isRelative, period, unit, amount⟩
  | fixed =>
      obtain ⟨left, -, remaining⟩ := bind_eq_ok_iff.mp built
      obtain ⟨right, -, ⟨⟩⟩ := bind_eq_ok_iff.mp remaining

/-- A range is only refused as an illegal argument. -/
theorem kind_of_rangeOfStored {failure : Failure} (refused : rangeOfStored extra = .error failure) :
    failure.kind = .illegalArgument := by
  have builds := rangeOfStored_builds extra
  generalize rangeOfStored extra = outcome at refused builds
  cases builds with
  | unmeasured =>
      cases refused
      rfl
  | relative => cases refused
  | fixed =>
      obtain left | ⟨left, -, remaining⟩ := bind_eq_error_iff.mp refused
      · exact Operand.kind_of_ofStored left
      · obtain right | ⟨right, -, ⟨⟩⟩ := bind_eq_error_iff.mp remaining
        exact Operand.kind_of_ofStored right

/-- A stored predicate is only refused as an illegal argument: every operator is known. -/
theorem kind_of_ofStored {failure : Failure}
    (refused : ofStored operator value extra = .error failure) : failure.kind = .illegalArgument := by
  have builds := ofStored_builds operator value extra
  generalize ofStored operator value extra = outcome at refused builds
  cases builds with
  | misplaced =>
      cases refused
      rfl
  | range => exact kind_of_rangeOfStored (map_eq_error_iff.mp refused)
  | comparison => exact Operand.kind_of_ofStored (map_eq_error_iff.mp refused)
  | plain => cases refused

end Predicate

namespace Extra.Written

variable {written : Written}

/-- Whether the details tell a period relative to now. -/
def IsRelative (written : Written) : Prop :=
  written.period.join = some .last ∨ written.period.join = some .next

/-- What a range relative to now needs. -/
def Measured (written : Written) : Prop :=
  written.unit.join.isSome = true ∧ written.amount.join.isSome = true

/-- Whether the bounds that are marked as expressions can be expressions. -/
def Bounded (written : Written) : Prop :=
  (written.manualLeft = some true → Json.Textual written.left) ∧
    (written.manualRight = some true → Json.Textual written.right)

/-- A range is built of the details that it needs. -/
theorem exists_rangeOfStored_iff : (∃ range, Predicate.rangeOfStored written.made = .ok range) ↔
    (written.IsRelative → written.Measured) ∧ (¬ written.IsRelative → written.Bounded) := by
  have builds := Predicate.rangeOfStored_builds written.made
  generalize Predicate.rangeOfStored written.made = outcome at builds
  cases builds with
  | unmeasured relative missing =>
      refine iff_of_false ?_ fun needed => missing (needed.1 relative)
      rintro ⟨_, ⟨⟩⟩
  | relative isRelative period unit amount =>
      have measured : written.Measured :=
        ⟨Option.isSome_iff_exists.mpr ⟨_, unit⟩, Option.isSome_iff_exists.mpr ⟨_, amount⟩⟩
      exact iff_of_true ⟨_, rfl⟩ ⟨fun _ => measured, absurd isRelative⟩
  | fixed calm =>
      simp only [bind_eq_ok_iff]
      constructor
      · rintro ⟨range, left, leftMade, right, rightMade, -⟩
        have leftTextual := Operand.exists_ofStored_member_iff.mp ⟨left, leftMade⟩
        have rightTextual := Operand.exists_ofStored_member_iff.mp ⟨right, rightMade⟩
        exact ⟨fun relative => absurd relative calm, fun _ => ⟨leftTextual, rightTextual⟩⟩
      · rintro ⟨-, bounded⟩
        obtain ⟨leftTextual, rightTextual⟩ := bounded calm
        obtain ⟨left, leftMade⟩ := Operand.exists_ofStored_member_iff.mpr leftTextual
        obtain ⟨right, rightMade⟩ := Operand.exists_ofStored_member_iff.mpr rightTextual
        exact ⟨_, left, leftMade, right, rightMade, rfl⟩

/-- What concerns all operators: the period, if it is relative to now. -/
def direction (written : Written) : Written :=
  match written.period.join with
  | some .last => { period := some (some .last) }
  | some .next => { period := some (some .next) }
  | _ => {}

/-- What concerns ranges: a period relative to now with its measure, or the two bounds. -/
def extent (written : Written) : Written :=
  match written.period.join with
  | some .last | some .next =>
      { written.direction with unit := written.unit, amount := written.amount }
  | _ =>
      { manualLeft := written.manualLeft, manualRight := written.manualRight
        left := written.left, right := written.right }

end Extra.Written

namespace StoredFilter

variable {stored : StoredFilter}

/-- A filter is made of its predicate. -/
theorem filter_eq_ok_iff {filter : Filter Value} : stored.filter = .ok filter ↔
    ∃ predicate, Predicate.ofStored stored.operator stored.value stored.extra = .ok predicate ∧
      ⟨stored.id, stored.column, stored.shown, predicate⟩ = filter := by
  unfold StoredFilter.filter
  cases Predicate.ofStored stored.operator stored.value stored.extra with
  | ok predicate => simp only [Except.ok.injEq, exists_eq_left']
  | error failure => simp only [reduceCtorEq, false_and, exists_false]

/-- A refused predicate is told with its column. -/
theorem filter_eq_error_iff {failure : Failure} : stored.filter = .error failure ↔
    ∃ refused, Predicate.ofStored stored.operator stored.value stored.extra = .error refused ∧
      refused.withColumn stored.column = failure := by
  unfold StoredFilter.filter
  cases Predicate.ofStored stored.operator stored.value stored.extra with
  | ok predicate => simp only [reduceCtorEq, false_and, exists_false]
  | error refused => simp only [Except.error.injEq, exists_eq_left']

end StoredFilter

namespace StoredFilter.Written

variable {written other : Written} {members others : List (String × Json)}

/-- Whether the parts of a stored filter go together. -/
structure Fitting (written : Written) : Prop where
  period : written.operator = .between ∨ ¬ written.details.IsRelative
  relative : written.operator = .between → written.details.IsRelative → written.details.Measured
  fixed : written.operator = .between → ¬ written.details.IsRelative → written.details.Bounded
  /-- The value of a comparison can be an expression if it is marked as one. -/
  operand : (CompareOp.ofOperator? written.operator).isSome = true →
    written.details.manual = some true → Json.Textual written.value

/-- A predicate is built of parts that go together. -/
theorem exists_ofStored_iff : (∃ predicate, Predicate.ofStored written.made.operator
    written.made.value written.made.extra = .ok predicate) ↔ written.Fitting := by
  have builds := Predicate.ofStored_builds written.made.operator written.made.value
    written.made.extra
  generalize Predicate.ofStored written.made.operator written.made.value written.made.extra =
    outcome at builds
  cases builds with
  | misplaced other relative =>
      refine iff_of_false ?_ fun fitting => fitting.period.elim other (absurd relative)
      rintro ⟨_, ⟨⟩⟩
  | range between =>
      have noComparison : (CompareOp.ofOperator? written.operator).isSome ≠ true := by
        rw [show written.operator = .between from between]
        decide
      rw [exists_map_eq_ok_iff]
      refine Iff.trans Extra.Written.exists_rangeOfStored_iff ⟨fun needed => ?_, fun fitting => ?_⟩
      · exact ⟨Or.inl between, fun _ => needed.1, fun _ => needed.2,
          fun comparison => absurd comparison noComparison⟩
      · exact ⟨fitting.relative between, fitting.fixed between⟩
  | @comparison op same calm =>
      have comparison : (CompareOp.ofOperator? written.operator).isSome = true := by
        rw [show written.operator = op.operator from same, op.ofOperator?_operator]
        rfl
      have noRange : written.operator ≠ .between := by
        intro between
        rw [between] at comparison
        cases comparison
      rw [exists_map_eq_ok_iff]
      refine Iff.trans Operand.exists_ofStored_member_iff ⟨fun textual => ?_, fun fitting => ?_⟩
      · exact ⟨Or.inr calm, fun between => absurd between noRange,
          fun between => absurd between noRange, fun _ => textual⟩
      · exact fitting.operand comparison
  | plain found calm =>
      obtain ⟨-, noRange, noComparison⟩ := Predicate.plain?_operator found
      have none : CompareOp.ofOperator? written.operator = none := noComparison
      refine iff_of_true ⟨_, rfl⟩ ⟨Or.inr calm, fun between => absurd between noRange,
        fun between => absurd between noRange, fun comparison => ?_⟩
      rw [none] at comparison
      cases comparison

/-- What concerns the operator of a stored filter. -/
def concerned (written : Written) : Written :=
  match written.operator with
  | .between => { written with value := none, extra := some (some written.details.extent) }
  | .isNull | .isNotNull =>
      { written with value := none, extra := some (some written.details.direction) }
  | .isIn | .notIn => { written with extra := some (some written.details.direction) }
  | _ =>
      { written with extra := some (some
          { written.details.direction with manual := written.details.manual }) }

/-- What does not concern the operator does not matter. -/
theorem filter_concerned (written : Written) :
    written.concerned.made.filter = written.made.filter := by
  obtain ⟨id, column, operator, value, shown, extra⟩ := written
  change StoredFilter.filter (made (concerned ⟨id, column, operator, value, shown, extra⟩)) =
    StoredFilter.filter ⟨id.getD "", column, operator, _, _, (extra.join.getD {}).made⟩
  unfold concerned details
  dsimp only
  generalize extra.join.getD {} = extra
  obtain ⟨period, unit, amount, manual, manualLeft, manualRight, left, right⟩ := extra
  -- Every operator asks for the period; what else it asks for is kept as it is.
  cases operator <;> obtain _ | _ | _ | _ | _ := period <;> rfl

/-- What reading an object that tells a stored filter comes to. -/
theorem In.decode (told : written.In members) :
    Json.decode Filter.read (.object members) =
      match written.made.filter with
      | .ok filter => .ok filter
      | .error failure => .error (Reading.Error.refusal failure.text) := by
  have decoded : Json.decode Filter.read (.object members) =
      (Json.decode StoredFilter.read (.object members) >>= fun stored =>
        match stored.filter with
        | .ok filter => .ok filter
        | .error failure => .error (Reading.Error.refusal failure.text)) := by
    change ((StoredFilter.read : Json.Decode StoredFilter) _ >>= fun stored => _) = _
    apply congrArg
    funext stored
    cases stored.filter <;> rfl
  rw [decoded, told.read]
  rfl

/-- What comes of reading an object that tells a stored filter. -/
structure Governs (written : Written) (outcome : Except Reading.Error (Filter Value)) : Prop where
  accepted : (∃ filter, outcome = .ok filter) ↔ written.Fitting
  kept : ∀ filter, outcome = .ok filter → filter.id = written.id.getD "" ∧
    filter.column = written.column ∧ filter.shown = written.shown.getD true ∧
      filter.operator = written.operator
  /-- A range relative to now is that of the period, the unit and the amount that are told. -/
  relative : ∀ filter relative, outcome = .ok filter →
    filter.predicate = .between (.relative relative) →
      written.operator = .between ∧ written.details.IsRelative ∧
        written.details.period.join = some relative.period ∧
          written.details.unit.join = some relative.unit ∧
            written.details.amount.join = some relative.amount
  /-- No filter is refused because nothing is known of its operator. -/
  refused : ∀ error, outcome = .error error → ∃ failure : Failure,
    failure.kind = .illegalArgument ∧ failure.column = some written.column ∧
      error = .refusal failure.text

/-- What is read of an object that tells a stored filter is governed by what it tells. -/
theorem In.governs (told : written.In members) :
    written.Governs (Json.decode Filter.read (.object members)) := by
  cases made : written.made.filter with
  | ok filter =>
      have read : Json.decode Filter.read (.object members) = .ok filter := by
        rw [told.decode, made]
      obtain ⟨predicate, built, rfl⟩ := filter_eq_ok_iff.mp made
      have fitting : written.Fitting := exists_ofStored_iff.mp ⟨predicate, built⟩
      have operator : predicate.operator = written.operator :=
        Predicate.operator_of_ofStored built
      rw [read]
      refine ⟨iff_of_true ⟨_, rfl⟩ fitting, ?kept, ?relative, ?refused⟩
      case kept =>
        rintro _ ⟨⟩
        exact ⟨rfl, rfl, rfl, operator⟩
      case relative =>
        rintro _ relative ⟨⟩ (rfl : predicate = _)
        exact ⟨operator.symm, Predicate.relative_of_ofStored built⟩
      case refused => rintro _ ⟨⟩
  | error failure =>
      have read : Json.decode Filter.read (.object members) =
          .error (Reading.Error.refusal failure.text) := by
        rw [told.decode, made]
      obtain ⟨refused, failed, rfl⟩ := filter_eq_error_iff.mp made
      have unfitting : ¬ written.Fitting := by
        intro fitting
        obtain ⟨predicate, built⟩ := exists_ofStored_iff.mpr fitting
        cases failed.symm.trans built
      have kind : refused.kind = .illegalArgument := Predicate.kind_of_ofStored failed
      rw [read]
      refine ⟨iff_of_false ?_ unfitting, ?kept, ?relative, ?refused⟩
      · rintro ⟨_, ⟨⟩⟩
      case kept => rintro _ ⟨⟩
      case relative => rintro _ _ ⟨⟩
      case refused =>
        rintro _ ⟨⟩
        exact ⟨refused.withColumn written.column, kind, rfl, rfl⟩

/-- Objects that tell the same of what concerns the operator are read alike. -/
theorem In.decode_eq (told : written.In members) (toldOther : other.In others)
    (same : other.concerned = written.concerned) :
    Json.decode Filter.read (.object others) = Json.decode Filter.read (.object members) := by
  rw [told.decode, toldOther.decode, ← filter_concerned other, same, filter_concerned]

end StoredFilter.Written

namespace Filter

open StoredFilter (Written)

/-- Stored filters are accepted where their parts go together. What is made of one is what it tells,
and nothing else that it tells has any influence. -/
theorem decode_governed {written : Written} {members : List (String × Json)}
    (told : written.In members) :
    written.Governs (Json.decode Filter.read (.object members)) ∧
      ∀ (other : Written) (others : List (String × Json)), other.In others →
        other.concerned = written.concerned →
          Json.decode Filter.read (.object others) = Json.decode Filter.read (.object members) :=
  ⟨told.governs, fun _ _ toldOther same => told.decode_eq toldOther same⟩

/-- The last three days, with a bound that could be no expression, and without it. -/
theorem lastThreeDays_governed :
    let days : Extra.Written :=
      { period := some (some .last), unit := some (some .day), amount := some (some 3) }
    let written : Written := ⟨none, "day", .between, none, some false,
      some (some { days with manualLeft := some true, left := some (.int 7) })⟩
    let other : Written := ⟨none, "day", .between, some (.bool true), some false, some (some days)⟩
    let members : List (String × Json) := [("extra", .object [("value", .int 3),
      ("unit", .string "DAY"), ("left", .int 7), ("isManualLeft", .bool true),
      ("period", .string "LAST")]), ("note", .null), ("op", .string "$between"),
      ("show", .bool false), ("columnName", .string "day")]
    let others : List (String × Json) := [("columnName", .string "day"), ("op", .string "$between"),
      ("value", .bool true), ("show", .bool false), ("extra", .object [("period", .string "LAST"),
      ("unit", .string "DAY"), ("value", .int 3)])]
    written.In members ∧ other.In others ∧ other.concerned = written.concerned ∧ written.Fitting ∧
      (∃ filter, Json.decode Filter.read (.object members) = .ok filter) ∧
      Json.decode Filter.read (.object others) = Json.decode Filter.read (.object members) := by
  intro days written other members others
  have told : written.In members :=
    ⟨by decide, rfl, rfl, ⟨_, rfl, Or.inl rfl⟩, rfl, rfl, .some (.present ⟨_, rfl, by decide,
      .some (.present (Or.inl rfl)), .some (.present (Or.inl rfl)), .some (.present rfl),
      rfl, rfl, rfl, rfl, rfl⟩)⟩
  have toldOther : other.In others :=
    ⟨by decide, rfl, rfl, ⟨_, rfl, Or.inl rfl⟩, rfl, rfl, .some (.present ⟨_, rfl, by decide,
      .some (.present (Or.inl rfl)), .some (.present (Or.inl rfl)), .some (.present rfl),
      rfl, rfl, rfl, rfl, rfl⟩)⟩
  have relative : written.details.IsRelative := Or.inl rfl
  have fitting : written.Fitting :=
    ⟨Or.inl rfl, fun _ _ => ⟨rfl, rfl⟩, fun _ calm => absurd relative calm, nofun⟩
  obtain ⟨governs, alike⟩ := decode_governed told
  exact ⟨told, toldOther, rfl, fitting, governs.accepted.mpr fitting,
    alike other others toldOther rfl⟩

end Filter

end DashboardFilters
