import DashboardFilters.Proofs.Tree.WellFormed

namespace DashboardFilters

open Json.Decode (fillNamed_cons fill_of)

namespace Value

/-- A number of 64 bits is one of the numbers of 64 bits. -/
theorem int64?_toInt (number : Int64) : int64? number.toInt = some number := by
  have lowest : -9223372036854775808 ≤ number.toInt := number.le_toInt
  have highest : number.toInt < 9223372036854775808 := number.toInt_lt
  have inside : (decide (-9223372036854775808 ≤ number.toInt) &&
      decide (number.toInt ≤ 9223372036854775807)) = true := by
    rw [Bool.and_eq_true, decide_eq_true_eq, decide_eq_true_eq]
    omega
  rw [int64?, if_pos inside, Int64.ofInt_toInt]

mutual

/-- The document of a value that can be stored is canonical. -/
theorem canonical_toJson : ∀ value : Value, value.WellFormed → value.toJson.Canonical
  | .null, _ | .bool _, _ | .int _, _ | .text _, _ => trivial
  | .float value, wellFormed => by
      have finite : value.isFinite = true := wellFormed
      rw [toJson, if_pos finite]
      exact finite
  | .list items, wellFormed => canonicalItems_documents items wellFormed
  | .json _, wellFormed => wellFormed.2

theorem canonicalItems_documents : ∀ items : List Value,
    EachWellFormed items → Json.CanonicalItems (documents items)
  | [], _ => trivial
  | item :: rest, wellFormed =>
      ⟨canonical_toJson item wellFormed.1, canonicalItems_documents rest wellFormed.2⟩

end

mutual

/-- A value that can be stored is the value of its document. -/
theorem decode_toJson : ∀ value : Value, value.WellFormed → decode value.toJson = value
  | .null, _ | .bool _, _ | .text _, _ => rfl
  | .int number, _ => by
      rw [toJson, decode_int, int64?_toInt]
      rfl
  | .float value, wellFormed => by
      have finite : value.isFinite = true := wellFormed
      rw [toJson, if_pos finite]
      rfl
  | .list items, wellFormed =>
      congrArg Value.list (decodeItems_documents items wellFormed)
  | .json _, ⟨⟨_, object⟩, _⟩ => by
      rw [object]
      rfl

/-- Values that can be stored are the values of their documents. -/
theorem decodeItems_documents : ∀ items : List Value,
    EachWellFormed items → decodeItems (documents items) = items
  | [], _ => rfl
  | item :: rest, wellFormed => by
      rw [documents, decodeItems, decode_toJson item wellFormed.1,
        decodeItems_documents rest wellFormed.2]

end

end Value

namespace Operand

/-- The document of an operand that can be stored is canonical. -/
theorem canonical_toJson {operand : Operand Value} (wellFormed : operand.WellFormed) :
    (operand.toJson Value.toJson).Canonical := by
  cases operand with
  | value picked => exact Value.canonical_toJson picked wellFormed
  | manual expression => trivial

/-- An operand that can be stored is made again of its value and its flag. -/
theorem ofStored_decode {operand : Operand Value} (wellFormed : operand.WellFormed) :
    ofStored (Value.decode (operand.toJson Value.toJson)) operand.isManual = .ok operand := by
  cases operand with
  | value picked =>
      exact congrArg (Except.ok ∘ Operand.value) (Value.decode_toJson picked wellFormed)
  | manual expression => rfl

end Operand

theorem Operator.read_wire (operator : Operator) :
    (Operator.read : Json.Decode Operator) (.string operator.wire) = .ok operator := by
  cases operator <;> rfl

theorem TimeUnit.read_name (unit : TimeUnit) :
    (TimeUnit.read : Json.Decode TimeUnit) (.string unit.name) = .ok unit := by
  cases unit <;> rfl

theorem Period.read_name (period : Period) :
    (Period.read : Json.Decode Period) (.string period.name) = .ok period := by
  cases period <;> rfl

theorem LogicalOp.read_name (op : LogicalOp) :
    (LogicalOp.read : Json.Decode LogicalOp) (.string op.name) = .ok op := by
  cases op <;> rfl

/-- A number of 32 bits is one of the numbers of 32 bits. -/
theorem Reading.word?_toNat (word : UInt32) : word? (word.toNat : Int) = .ok word := by
  have inside : (decide (0 ≤ (word.toNat : Int)) &&
      decide ((word.toNat : Int) < UInt32.size)) = true := by
    have below := word.toNat_lt_size
    rw [Bool.and_eq_true, decide_eq_true_eq, decide_eq_true_eq]
    omega
  rw [word?, if_pos inside, Int.toNat_natCast, UInt32.ofNat_toNat]

namespace Extra

/-- A flag as it is read where it is left out when it says nothing. -/
def flag (raised : Bool) : Option Bool :=
  if raised then some true else none

/-- The details of a comparison. -/
theorem read_manual (manual : Bool) :
    (read : Json.Decode Extra) (Json.object (flagMember "isManual" manual)).sorted =
      .ok { manual := flag manual } := by
  cases manual <;> rfl

/-- The details of a relative range. -/
theorem read_relative (relative : RelativePeriod) :
    (read : Json.Decode Extra) (Json.object [("period", .string relative.period.name),
      ("unit", .string relative.unit.name), ("value", .int relative.amount.toNat)]).sorted =
      .ok {
        period := some (some relative.period)
        unit := some (some relative.unit)
        amount := some (some relative.amount) } := by
  have ordered : (Json.object [("period", .string relative.period.name),
      ("unit", .string relative.unit.name), ("value", .int relative.amount.toNat)]).sorted =
      Json.object [("period", .string relative.period.name),
        ("unit", .string relative.unit.name), ("value", .int relative.amount.toNat)] := by
    simp (disch := decide) only [Json.sorted, Json.sortedValues, Json.sortMembers, List.foldl_cons,
      List.foldl_nil, Json.putMember_behind, Json.putMember_nil]
  have period := Json.Decode.optional_of_ok Json.noConfusion relative.period.read_name
  have unit := Json.Decode.optional_of_ok Json.noConfusion relative.unit.read_name
  have amount : Json.Decode.optional Json.Decode.word (.int relative.amount.toNat) =
      .ok (some relative.amount) :=
    Json.Decode.optional_of_ok Json.noConfusion (Reading.word?_toNat relative.amount)
  rw [ordered]
  refine Outcome.bind_eq_ok_iff.mpr ⟨_, ?_, rfl⟩
  refine Eq.trans (fillNamed_cons rfl (fill_of period)) ?_
  refine Eq.trans (fillNamed_cons rfl (fill_of unit)) ?_
  refine Eq.trans (fillNamed_cons rfl (fill_of amount)) ?_
  rfl

/-- The details of a range with fixed bounds. -/
theorem read_fixed {left right : Json} (leftCanonical : left.Canonical)
    (rightCanonical : right.Canonical) (manualLeft manualRight : Bool) :
    (read : Json.Decode Extra) (Json.object ([("period", .string Period.arbitrary.name)] ++
      flagMember "isManualLeft" manualLeft ++ flagMember "isManualRight" manualRight ++
      [("left", left), ("right", right)])).sorted =
      .ok {
        period := some (some .arbitrary)
        manualLeft := flag manualLeft
        manualRight := flag manualRight
        left := some (Value.decode left)
        right := some (Value.decode right) } := by
  have ordered : (Json.object ([("period", .string Period.arbitrary.name)] ++
      flagMember "isManualLeft" manualLeft ++ flagMember "isManualRight" manualRight ++
      [("left", left), ("right", right)])).sorted =
      Json.object (flagMember "isManualLeft" manualLeft ++ flagMember "isManualRight" manualRight ++
        [("left", left), ("period", .string Period.arbitrary.name), ("right", right)]) := by
    cases manualLeft <;> cases manualRight <;>
      simp (disch := decide) only [flagMember, Json.sorted, Json.sortedValues, Json.sortMembers,
        List.foldl_cons, List.foldl_nil, List.cons_append, List.nil_append, Bool.false_eq_true,
        if_true, if_false, Json.putMember_before, Json.putMember_behind, Json.putMember_nil,
        Json.sorted_of_canonical left leftCanonical, Json.sorted_of_canonical right rightCanonical]
  have period := Json.Decode.optional_of_ok Json.noConfusion Period.arbitrary.read_name
  rw [ordered]
  refine Outcome.bind_eq_ok_iff.mpr ⟨_, ?_, rfl⟩
  cases manualLeft <;> cases manualRight
  case false.false =>
    refine Eq.trans (fillNamed_cons rfl (fill_of rfl)) ?_
    refine Eq.trans (fillNamed_cons rfl (fill_of period)) ?_
    exact fillNamed_cons rfl (fill_of rfl)
  case false.true =>
    refine Eq.trans (fillNamed_cons rfl (fill_of rfl)) ?_
    refine Eq.trans (fillNamed_cons rfl (fill_of rfl)) ?_
    refine Eq.trans (fillNamed_cons rfl (fill_of period)) ?_
    exact fillNamed_cons rfl (fill_of rfl)
  case true.false =>
    refine Eq.trans (fillNamed_cons rfl (fill_of rfl)) ?_
    refine Eq.trans (fillNamed_cons rfl (fill_of rfl)) ?_
    refine Eq.trans (fillNamed_cons rfl (fill_of period)) ?_
    exact fillNamed_cons rfl (fill_of rfl)
  case true.true =>
    refine Eq.trans (fillNamed_cons rfl (fill_of rfl)) ?_
    refine Eq.trans (fillNamed_cons rfl (fill_of rfl)) ?_
    refine Eq.trans (fillNamed_cons rfl (fill_of rfl)) ?_
    refine Eq.trans (fillNamed_cons rfl (fill_of period)) ?_
    exact fillNamed_cons rfl (fill_of rfl)

end Extra

namespace Predicate

/-- The details of a predicate as they are read from its stored form. -/
def details : Predicate Value → Extra
  | .isNull | .isNotNull | .list _ _ => {}
  | .compare _ operand => { manual := Extra.flag operand.isManual }
  | .between (.fixed left right) => {
      period := some (some .arbitrary)
      manualLeft := Extra.flag left.isManual
      manualRight := Extra.flag right.isManual
      left := some (Value.decode (left.toJson Value.toJson))
      right := some (Value.decode (right.toJson Value.toJson)) }
  | .between (.relative span) => {
      period := some (some span.period)
      unit := some (some span.unit)
      amount := some (some span.amount) }

/-- The details of a predicate that can be stored are read from its stored form. -/
theorem read_storedExtra {predicate : Predicate Value} (wellFormed : predicate.WellFormed) :
    (Extra.read : Json.Decode Extra) (Json.object (predicate.storedExtra Value.toJson)).sorted =
      .ok predicate.details := by
  cases predicate with
  | isNull => rfl
  | isNotNull => rfl
  | compare op operand => exact Extra.read_manual operand.isManual
  | list op values => rfl
  | between range =>
      cases range with
      | fixed left right =>
          exact Extra.read_fixed (Operand.canonical_toJson wellFormed.1)
            (Operand.canonical_toJson wellFormed.2) left.isManual right.isManual
      | relative span => exact Extra.read_relative span

theorem canonical_storedValue {predicate : Predicate Value} (wellFormed : predicate.WellFormed) :
    (predicate.storedValue Value.toJson).Canonical := by
  cases predicate with
  | compare op operand => exact Operand.canonical_toJson wellFormed
  | isNull | isNotNull | list _ _ | between _ => trivial

/-- A flag that is left out is lowered. -/
theorem flag_getD (raised : Bool) : (Extra.flag raised).getD false = raised := by
  cases raised <;> rfl

/-- A comparison is made again of its operator, its value and its details. -/
theorem ofStored_compare {op : CompareOp} {operand : Operand Value}
    (wellFormed : operand.WellFormed) :
    ofStored op.operator (Value.decode (operand.toJson Value.toJson))
      { manual := Extra.flag operand.isManual } = .ok (.compare op operand) := by
  have made : Operand.ofStored (Value.decode (operand.toJson Value.toJson))
      ((Extra.flag operand.isManual).getD false) = .ok operand := by
    rw [flag_getD]
    exact Operand.ofStored_decode wellFormed
  have built : (do return .compare op (← Operand.ofStored
      (Value.decode (operand.toJson Value.toJson)) ((Extra.flag operand.isManual).getD false))) =
      (Except.ok (.compare op operand) : Except Failure (Predicate Value)) := by
    rw [made]
    rfl
  cases op <;> exact built

/-- A range with fixed bounds is made again of its details. -/
theorem rangeOfStored_fixed {left right : Operand Value} (leftWellFormed : left.WellFormed)
    (rightWellFormed : right.WellFormed) :
    rangeOfStored (between (.fixed left right)).details = .ok (.fixed left right) := by
  have first : Operand.ofStored (Value.decode (left.toJson Value.toJson))
      ((Extra.flag left.isManual).getD false) = .ok left := by
    rw [flag_getD]
    exact Operand.ofStored_decode leftWellFormed
  have second : Operand.ofStored (Value.decode (right.toJson Value.toJson))
      ((Extra.flag right.isManual).getD false) = .ok right := by
    rw [flag_getD]
    exact Operand.ofStored_decode rightWellFormed
  exact Outcome.bind_eq_ok_iff.mpr ⟨left, first, Outcome.bind_eq_ok_iff.mpr ⟨right, second, rfl⟩⟩

/-- A relative range is made again of its details. -/
theorem rangeOfStored_relative {span : RelativePeriod} (relative : span.period ≠ .arbitrary) :
    rangeOfStored (between (.relative span)).details = .ok (.relative span) := by
  obtain ⟨period, unit, amount⟩ := span
  cases period with
  | arbitrary => exact absurd rfl relative
  | last => rfl
  | next => rfl

/-- A predicate that can be stored is made again of its operator, its value and its details. -/
theorem ofStored_details {predicate : Predicate Value} (wellFormed : predicate.WellFormed) :
    ofStored predicate.operator (Value.decode (predicate.storedValue Value.toJson))
      predicate.details = .ok predicate := by
  cases predicate with
  | isNull => rfl
  | isNotNull => rfl
  | compare op operand => exact ofStored_compare wellFormed
  | list op values => cases op <;> rfl
  | between range =>
      have made : rangeOfStored (between range).details = .ok range := by
        cases range with
        | fixed left right => exact rangeOfStored_fixed wellFormed.1 wellFormed.2
        | relative span => exact rangeOfStored_relative wellFormed
      have allowed : checkPeriod .between (between range).details = .ok () := by
        cases range with
        | fixed left right => rfl
        | relative span =>
            obtain ⟨period, unit, amount⟩ := span
            cases period <;> rfl
      exact Outcome.bind_eq_ok_iff.mpr ⟨⟨⟩, allowed,
        Outcome.bind_eq_ok_iff.mpr ⟨range, made, rfl⟩⟩

end Predicate

theorem StoredFilter.read_filter {id column : String} {operator : Operator} {value : Json}
    {shown : Bool} {members : List (String × Json)} {extra : Extra}
    (details : (Extra.read : Json.Decode Extra) (.object members) = .ok extra) :
    (read : Json.Decode StoredFilter) (.object [("columnName", .string column),
      ("extra", .object members), ("id", .string id), ("op", .string operator.wire),
      ("show", .bool shown), ("value", value)]) =
      .ok ⟨id, column, operator, Value.decode value, shown, extra⟩ := by
  have present := Json.Decode.optional_of_ok Json.noConfusion details
  refine Outcome.bind_eq_ok_iff.mpr
    ⟨⟨id, column, operator, Value.decode value, shown, some extra⟩, ?_, rfl⟩
  refine Eq.trans (fillNamed_cons rfl (fill_of rfl)) ?_
  refine Eq.trans (fillNamed_cons rfl (fill_of present)) ?_
  refine Eq.trans (fillNamed_cons rfl (fill_of rfl)) ?_
  refine Eq.trans (fillNamed_cons rfl (fill_of operator.read_wire)) ?_
  refine Eq.trans (fillNamed_cons rfl (fill_of rfl)) ?_
  exact fillNamed_cons rfl (fill_of rfl)

/-- A selector is read from its members in order, as a filter without an identifier. -/
theorem StoredFilter.read_selector {column : String} {operator : Operator} {value : Json}
    {members : List (String × Json)} {extra : Extra}
    (details : (Extra.read : Json.Decode Extra) (.object members) = .ok extra) :
    (read : Json.Decode StoredFilter) (.object [("columnName", .string column),
      ("extra", .object members), ("op", .string operator.wire), ("value", value)]) =
      .ok ⟨"", column, operator, Value.decode value, true, extra⟩ := by
  have present := Json.Decode.optional_of_ok Json.noConfusion details
  refine Outcome.bind_eq_ok_iff.mpr
    ⟨⟨none, column, operator, Value.decode value, none, some extra⟩, ?_, rfl⟩
  refine Eq.trans (fillNamed_cons rfl (fill_of rfl)) ?_
  refine Eq.trans (fillNamed_cons rfl (fill_of present)) ?_
  refine Eq.trans (fillNamed_cons rfl (fill_of operator.read_wire)) ?_
  exact fillNamed_cons rfl (fill_of rfl)

/-- A filter whose parts are read and whose predicate is made again is read. -/
theorem Filter.read_of_stored {document : Json} {id column : String} {shown : Bool}
    {predicate : Predicate Value} (wellFormed : predicate.WellFormed)
    (stored : (StoredFilter.read : Json.Decode StoredFilter) document =
      .ok ⟨id, column, predicate.operator, Value.decode (predicate.storedValue Value.toJson), shown,
        predicate.details⟩) :
    (Filter.read : Json.Decode (Filter Value)) document = .ok ⟨id, column, shown, predicate⟩ := by
  have made : StoredFilter.filter ⟨id, column, predicate.operator,
      Value.decode (predicate.storedValue Value.toJson), shown, predicate.details⟩ =
      .ok ⟨id, column, shown, predicate⟩ := by
    rw [StoredFilter.filter, Predicate.ofStored_details wellFormed]
  refine Outcome.bind_eq_ok_iff.mpr ⟨_, stored, ?_⟩
  dsimp only
  rw [made]
  rfl

/-- A filter that can be stored is read from its stored form. -/
theorem Filter.read_toJson {filter : Filter Value} (wellFormed : filter.WellFormed) :
    (Filter.read : Json.Decode (Filter Value)) (filter.toJson Value.toJson).sorted =
      .ok filter := by
  obtain ⟨id, column, shown, predicate⟩ := filter
  have value := Json.sorted_of_canonical _ (Predicate.canonical_storedValue wellFormed)
  have ordered : (Filter.toJson Value.toJson ⟨id, column, shown, predicate⟩).sorted =
      .object [("columnName", .string column),
        ("extra", (Json.object (predicate.storedExtra Value.toJson)).sorted), ("id", .string id),
        ("op", .string predicate.operator.wire), ("show", .bool shown),
        ("value", predicate.storedValue Value.toJson)] := by
    simp (disch := decide) only [Filter.toJson, Predicate.stored, Json.sorted, Json.sortedValues,
      Json.sortMembers, List.foldl_cons, List.foldl_nil, List.cons_append, List.nil_append,
      Json.putMember_before, Json.putMember_behind, Json.putMember_nil, value]
  rw [ordered]
  exact read_of_stored wellFormed
    (StoredFilter.read_filter (Predicate.read_storedExtra wellFormed))

/-- A selector that can be stored is read from its stored form. -/
theorem Selector.read_toJson {selector : Selector Value} (wellFormed : selector.WellFormed) :
    Json.decode Selector.read (selector.toJson Value.toJson) = .ok selector := by
  obtain ⟨column, predicate⟩ := selector
  have value := Json.sorted_of_canonical _ (Predicate.canonical_storedValue wellFormed)
  have ordered : (Selector.toJson Value.toJson ⟨column, predicate⟩).sorted =
      .object [("columnName", .string column),
        ("extra", (Json.object (predicate.storedExtra Value.toJson)).sorted),
        ("op", .string predicate.operator.wire),
        ("value", predicate.storedValue Value.toJson)] := by
    simp (disch := decide) only [Selector.toJson, Predicate.stored, Json.sorted,
      Json.sortedValues, Json.sortMembers, List.foldl_cons, List.foldl_nil, List.cons_append,
      List.nil_append, Json.putMember_before, Json.putMember_behind, Json.putMember_nil, value]
  rw [Json.decode, ordered]
  refine Outcome.bind_eq_ok_iff.mpr ⟨⟨"", column, true, predicate⟩, ?_, rfl⟩
  exact Filter.read_of_stored wellFormed
    (StoredFilter.read_selector (Predicate.read_storedExtra wellFormed))

namespace Block

theorem readWithin_members {id : String} {op : LogicalOp} {filters : List (Filter Value)}
    {blocks : List (Block Value)} {filterDocuments blockDocuments : List Json} {fuel : Nat}
    (readsFilters : filterDocuments.mapM (Filter.read : Json.Decode (Filter Value)) = .ok filters)
    (readsBlocks : blockDocuments.mapM (readWithin fuel : Json.Decode (Block Value)) = .ok blocks) :
    (readWithin (fuel + 1) : Json.Decode (Block Value)) (.object [
      ("blocks", .array blockDocuments), ("filters", .array filterDocuments), ("id", .string id),
      ("logicalOp", .string op.name)]) = .ok ⟨id, op, filters, blocks⟩ := by
  refine Outcome.bind_eq_ok_iff.mpr ⟨⟨id, op, filters, blocks⟩, ?_, rfl⟩
  refine Eq.trans (fillNamed_cons rfl (fill_of readsBlocks)) ?_
  refine Eq.trans (fillNamed_cons rfl (fill_of readsFilters)) ?_
  refine Eq.trans (fillNamed_cons rfl (fill_of rfl)) ?_
  exact fillNamed_cons rfl (fill_of op.read_name)

/-- The stored form of a block with its members in order. -/
theorem sorted_toJson (id : String) (op : LogicalOp) (filters : List (Filter Value))
    (blocks : List (Block Value)) :
    (toJson Value.toJson ⟨id, op, filters, blocks⟩).sorted = .object [
      ("blocks", .array (Json.sortedItems (documents Value.toJson blocks))),
      ("filters", .array (Json.sortedItems (filters.map (Filter.toJson Value.toJson)))),
      ("id", .string id), ("logicalOp", .string op.name)] := by
  simp (disch := decide) only [toJson, Json.sorted, Json.sortedValues, Json.sortMembers,
    List.foldl_cons, List.foldl_nil, Json.putMember_before, Json.putMember_behind,
    Json.putMember_nil]

/-- Filters that can be stored are read from their stored forms. -/
theorem mapM_filters : ∀ filters : List (Filter Value),
    (∀ filter ∈ filters, filter.WellFormed) →
    (Json.sortedItems (filters.map (Filter.toJson Value.toJson))).mapM
      (Filter.read : Json.Decode (Filter Value)) = .ok filters := by
  intro filters wellFormed
  rw [Outcome.mapM_eq_ok_iff]
  induction filters with
  | nil => exact .nil
  | cons filter rest ih =>
      rw [List.forall_mem_cons] at wellFormed
      exact .cons (Filter.read_toJson wellFormed.1) (ih wellFormed.2)

mutual

/-- A tree that can be stored is read from its stored form with as much fuel as the form is deep. -/
theorem readWithin_toJson : ∀ (block : Block Value) (fuel : Nat), block.WellFormed →
    (block.toJson Value.toJson).sorted.depth < fuel →
    (readWithin fuel : Json.Decode (Block Value)) (block.toJson Value.toJson).sorted = .ok block
  | _, 0, _, shallow => absurd shallow (Nat.not_lt_zero _)
  | ⟨id, op, filters, blocks⟩, fuel + 1, wellFormed, shallow => by
      rw [sorted_toJson] at shallow ⊢
      have inner : Json.depthItems (Json.sortedItems (documents Value.toJson blocks)) < fuel := by
        rw [Json.depth, Json.depthMembers, Json.depth] at shallow
        omega
      exact readWithin_members (mapM_filters filters wellFormed.1)
        (mapM_readWithin blocks fuel wellFormed.2 inner)

/-- Trees that can be stored are read from their stored forms. -/
theorem mapM_readWithin : ∀ (blocks : List (Block Value)) (fuel : Nat), EachWellFormed blocks →
    Json.depthItems (Json.sortedItems (documents Value.toJson blocks)) < fuel →
    (Json.sortedItems (documents Value.toJson blocks)).mapM
      (readWithin fuel : Json.Decode (Block Value)) = .ok blocks
  | [], _, _, _ => rfl
  | block :: rest, fuel, wellFormed, shallow => by
      rw [documents, Json.sortedItems, Json.depthItems] at shallow
      have first := readWithin_toJson block fuel wellFormed.1 (by omega)
      have others := mapM_readWithin rest fuel wellFormed.2 (by omega)
      rw [documents, Json.sortedItems, Outcome.mapM_eq_ok_iff]
      exact .cons first (Outcome.mapM_eq_ok_iff.mp others)

end

/-- A tree that can be stored is read from its stored form. -/
theorem read_toJson {block : Block Value} (wellFormed : block.WellFormed) :
    Json.decode Block.read (block.toJson Value.toJson) = .ok block :=
  readWithin_toJson block _ wellFormed (Nat.lt_succ_self _)

/-- What is read can be stored, and what can be stored is read again as it was, for trees of any
shape and depth and for selectors. So reading, writing and reading again changes no tree. -/
theorem survives_storage :
    (∀ (document : Json) (block : Block Value), document.Finite →
      Json.decode Block.read document = .ok block → block.WellFormed) ∧
    (∀ block : Block Value, block.WellFormed →
      Json.decode Block.read (block.toJson Value.toJson) = .ok block) ∧
    (∀ (document : Json) (selector : Selector Value), document.Finite →
      Json.decode Selector.read document = .ok selector → selector.WellFormed) ∧
    (∀ selector : Selector Value, selector.WellFormed →
      Json.decode Selector.read (selector.toJson Value.toJson) = .ok selector) ∧
    ∀ (document : Json) (block : Block Value), document.Finite →
      Json.decode Block.read document = .ok block →
      Json.decode Block.read (block.toJson Value.toJson) = .ok block := by
  have trees : ∀ (document : Json) (block : Block Value), document.Finite →
      Json.decode Block.read document = .ok block → block.WellFormed :=
    fun document block finite reads =>
      yields_read document.sorted block (Json.canonical_sorted document finite) reads
  have selectors : ∀ (document : Json) (selector : Selector Value), document.Finite →
      Json.decode Selector.read document = .ok selector → selector.WellFormed :=
    fun document selector finite reads =>
      Selector.yields_read document.sorted selector (Json.canonical_sorted document finite) reads
  exact ⟨trees, fun _ => read_toJson, selectors, fun _ => Selector.read_toJson,
    fun document block finite reads => read_toJson (trees document block finite reads)⟩

end Block

namespace Sample

/-- A document of a tree in which a filter is written by place. -/
def recentDocument : Json :=
  .array [.string "root", .string "OR", .array [
    .array [.string "recent", .string "day", .string "$between", .null, .bool true,
      .array [.string "LAST", .string "DAY", .int 3]]]]

def lastDays : Predicate Value :=
  .between (.relative ⟨.last, .day, 3⟩)

def recent : Block Value where
  id := "root"
  op := .or
  filters := [{ id := "recent", column := "day", predicate := lastDays }]

end Sample

/-- The tree with a filter on the last three days is read, written and read again. -/
theorem Block.recent_survives :
    Sample.recentDocument.Finite ∧
      Json.decode Block.read Sample.recentDocument = .ok Sample.recent ∧
      Sample.recent.WellFormed ∧
      Json.decode Block.read (Sample.recent.toJson Value.toJson) = .ok Sample.recent ∧
      Json.decode Selector.read ((⟨"day", Sample.lastDays⟩ : Selector Value).toJson Value.toJson) =
        .ok ⟨"day", Sample.lastDays⟩ := by
  have finite : Sample.recentDocument.Finite := by
    simp [Sample.recentDocument, Json.Finite, Json.FiniteItems]
  have reads : Json.decode Block.read Sample.recentDocument = .ok Sample.recent := rfl
  have relative : Selector.WellFormed ⟨"day", Sample.lastDays⟩ := Period.noConfusion
  exact ⟨finite, reads, survives_storage.1 _ _ finite reads,
    survives_storage.2.2.2.2 _ _ finite reads, survives_storage.2.2.2.1 _ relative⟩

end DashboardFilters
