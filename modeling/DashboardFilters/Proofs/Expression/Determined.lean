import DashboardFilters.Proofs.Expression.Written
import DashboardFilters.Proofs.Tree.RoundTrip

/-!
Expressions are determined by their documents, apart from what is withheld. Where nothing is and
every value has a document of its own, two expressions with the same document are the same, up to
the order of columns and operators, which a canonical document does not keep.
-/

namespace DashboardFilters

variable {alike : Float → Float → Prop}

/-- Whether documents are the same when numbers with a fraction are compared in the given way. -/
inductive Json.Same (alike : Float → Float → Prop) : Json → Json → Prop where
  | null : Same alike .null .null
  | bool (value : Bool) : Same alike (.bool value) (.bool value)
  | int (value : Int) : Same alike (.int value) (.int value)
  | float {value other : Float} (close : alike value other) :
      Same alike (.float value) (.float other)
  | string (value : String) : Same alike (.string value) (.string value)
  | array {items others : List Json} (each : List.Forall₂ (Same alike) items others) :
      Same alike (.array items) (.array others)
  | object {members others : List (String × Json)}
      (keys : members.map Prod.fst = others.map Prod.fst)
      (each : List.Forall₂ (Same alike) (members.map Prod.snd) (others.map Prod.snd)) :
      Same alike (.object members) (.object others)

/-- Whether values are the same when numbers with a fraction are compared in the given way. -/
inductive Value.Same (alike : Float → Float → Prop) : Value → Value → Prop where
  | null : Same alike .null .null
  | bool (value : Bool) : Same alike (.bool value) (.bool value)
  | int (value : Int64) : Same alike (.int value) (.int value)
  | float {value other : Float} (close : alike value other) :
      Same alike (.float value) (.float other)
  | text (value : String) : Same alike (.text value) (.text value)
  | list {items others : List Value} (each : List.Forall₂ (Same alike) items others) :
      Same alike (.list items) (.list others)
  | json {document other : Json} (same : Json.Same alike document other) :
      Same alike (.json document) (.json other)
  | withheld : Same alike .withheld .withheld

namespace Expression

/-- Whether conditions are the same as maps: the same columns with the same operators, and values
that are the same under each. -/
def SameConditions (alike : Float → Float → Prop) (first second : List (String × Conditions)) :
    Prop :=
  ∀ column, Option.Rel (fun one other => ∀ operator,
    Option.Rel (Value.Same alike) (Keyed.get? operator one) (Keyed.get? operator other))
    (Keyed.get? column first) (Keyed.get? column second)

/-- Whether expressions are the same, when the order of columns and operators does not count and
numbers with a fraction are compared in the given way. -/
inductive Same (alike : Float → Float → Prop) : Expression → Expression → Prop where
  | intro {first second : Expression}
      (columns : SameConditions alike first.columns second.columns)
      (all : Option.Rel (List.Forall₂ (Same alike)) first.all second.all)
      (any : Option.Rel (List.Forall₂ (Same alike)) first.any second.any)
      (negated : Option.Rel (Same alike) first.negated second.negated) : Same alike first second

/-- Whether the values of an expression, nested ones left aside, can be told from their documents:
nothing in them is withheld, their numbers are finite, and other documents in them are objects. -/
def Plain (expression : Expression) : Prop :=
  ∀ entry ∈ expression.columns, ∀ condition ∈ entry.2, condition.2.WellFormed

end Expression

mutual

/-- A document is the same as itself, when each number is like itself. -/
theorem Json.same_refl (close : ∀ value, alike value value) :
    ∀ document : Json, Json.Same alike document document
  | .null => .null
  | .bool value => .bool value
  | .int value => .int value
  | .float value => .float (close value)
  | .string value => .string value
  | .array items => .array (Json.items_same_refl close items)
  | .object members => .object rfl (Json.members_same_refl close members)

theorem Json.items_same_refl (close : ∀ value, alike value value) :
    ∀ items : List Json, List.Forall₂ (Json.Same alike) items items
  | [] => .nil
  | item :: rest => .cons (Json.same_refl close item) (Json.items_same_refl close rest)

theorem Json.members_same_refl (close : ∀ value, alike value value) :
    ∀ members : List (String × Json),
      List.Forall₂ (Json.Same alike) (members.map Prod.snd) (members.map Prod.snd)
  | [] => .nil
  | (_, item) :: rest => .cons (Json.same_refl close item) (Json.members_same_refl close rest)

end

/-- Objects that are the same have the same members under each key. -/
theorem Json.same_lookup {members others : List (String × Json)}
    (same : Json.Same alike (.object members) (.object others)) (key : String) :
    Option.Rel (Json.Same alike) (members.lookup key) (others.lookup key) := by
  obtain ⟨⟩ | ⟨⟩ | ⟨⟩ | ⟨⟩ | ⟨⟩ | ⟨⟩ | ⟨keys, each⟩ := same
  induction members generalizing others with
  | nil =>
      obtain rfl := List.map_eq_nil_iff.mp keys.symm
      exact .none
  | cons member rest ih =>
      obtain ⟨other, more, rfl, own, others⟩ := List.map_eq_cons_iff.mp keys.symm
      obtain ⟨name, document⟩ := member
      obtain ⟨_, document'⟩ := other
      subst own
      rw [List.map_cons, List.map_cons, List.forall₂_cons] at each
      rw [Json.lookup_cons, Json.lookup_cons]
      split
      · exact .some each.1
      · exact ih others.symm each.2

namespace Value

mutual

/-- Values that can be told from their documents are the same when those are. -/
theorem same_of_toJson : ∀ value other : Value, value.WellFormed → other.WellFormed →
    Json.Same alike value.toJson other.toJson → Same alike value other
  | .null, other, _, known, same => by
      have told := decode_toJson other known
      generalize other.toJson = document at told same
      cases same
      exact told ▸ .null
  | .bool value, other, _, known, same => by
      have told := decode_toJson other known
      generalize other.toJson = document at told same
      cases same
      exact told ▸ .bool value
  | .int value, other, _, known, same => by
      have told := decode_toJson other known
      generalize other.toJson = document at told same
      cases same
      rw [decode_int, int64?_toInt] at told
      exact told ▸ .int value
  | .float value, other, own, known, same => by
      have finite : value.isFinite = true := own
      have told := decode_toJson other known
      rw [toJson, if_pos finite] at same
      generalize other.toJson = document at told same
      cases same with
      | float close => exact told ▸ .float close
  | .text value, other, _, known, same => by
      have told := decode_toJson other known
      generalize other.toJson = document at told same
      cases same
      exact told ▸ .text value
  | .list items, other, own, known, same => by
      obtain ⟨others, rfl⟩ : ∃ others, other = .list others := by
        have told := decode_toJson other known
        generalize other.toJson = document at told same
        cases same
        exact ⟨_, told.symm⟩
      cases same with
      | array each => exact .list (same_of_documents items others own known each)
  | .json document, other, own, known, same => by
      obtain ⟨⟨members, rfl⟩, -⟩ := own
      obtain ⟨document', rfl⟩ : ∃ document, other = .json document := by
        have told := decode_toJson other known
        generalize other.toJson = document at told same
        cases same
        exact ⟨_, told.symm⟩
      exact .json same

theorem same_of_documents : ∀ items others : List Value, EachWellFormed items →
    EachWellFormed others → List.Forall₂ (Json.Same alike) (documents items) (documents others) →
    List.Forall₂ (Same alike) items others
  | [], [], _, _, _ => .nil
  | item :: rest, other :: more, own, known, .cons first later =>
      .cons (same_of_toJson item other own.1 known.1 first)
        (same_of_documents rest more own.2 known.2 later)

end

/-- The canonical document of a value that can be told from it is its document. -/
theorem sorted_toJson {value : Value} (wellFormed : value.WellFormed) :
    value.toJson.sorted = value.toJson :=
  Json.sorted_of_canonical value.toJson (canonical_toJson value wellFormed)

end Value

namespace Expression

variable {related : Json → Json → Prop}

/-- What is related after it has been written is there on both sides or on none. -/
theorem rel_of_map {α : Type} {write : α → Json} {same : α → α → Prop} {one other : Option α}
    (rel : Option.Rel related (one.map write) (other.map write))
    (each : ∀ first ∈ one, ∀ second ∈ other, related (write first) (write second) →
      same first second) : Option.Rel same one other := by
  cases one <;> cases other <;> cases rel
  case none.none => exact .none
  case some.some rel => exact .some (each _ rfl _ rfl rel)

/-- The conditions on a column are the same when their documents are. -/
theorem rel_of_conditionsJson {first second : Conditions}
    (one : (first.map Prod.fst).Nodup) (other : (second.map Prod.fst).Nodup)
    (plain : ∀ condition ∈ first, condition.2.WellFormed)
    (plainToo : ∀ condition ∈ second, condition.2.WellFormed)
    (same : Json.Same alike (conditionsJson first).sorted (conditionsJson second).sorted)
    (operator : Operator) :
    Option.Rel (Value.Same alike) (Keyed.get? operator first) (Keyed.get? operator second) := by
  have shown {conditions : Conditions} (distinct : (conditions.map Prod.fst).Nodup)
      (plain : ∀ condition ∈ conditions, condition.2.WellFormed) (value : Value)
      (found : value ∈ Keyed.get? operator conditions) : value.WellFormed :=
    plain _ ((Keyed.get?_eq_some_iff distinct).mp found)
  have kept {conditions : Conditions} (distinct : (conditions.map Prod.fst).Nodup)
      (plain : ∀ condition ∈ conditions, condition.2.WellFormed) :
      (Keyed.get? operator conditions).filter (fun value => !value.isWithheld) =
        Keyed.get? operator conditions := by
    cases found : Keyed.get? operator conditions with
    | none => rfl
    | some value =>
        have wellFormed := shown distinct plain value found
        cases value <;> first | rfl | exact absurd wellFormed id
  rw [sorted_conditionsJson, sorted_conditionsJson] at same
  have under := Json.same_lookup same operator.wire
  rw [lookup_sortedConditions one, lookup_sortedConditions other, kept one plain,
    kept other plainToo] at under
  refine rel_of_map under fun value found value' found' equal => ?_
  have wellFormed := shown one plain value found
  have wellFormed' := shown other plainToo value' found'
  rw [Value.sorted_toJson wellFormed, Value.sorted_toJson wellFormed'] at equal
  exact Value.same_of_toJson value value' wellFormed wellFormed' equal

/-- The columns of expressions are the same when the members of their documents are. -/
theorem sameConditions_of_members {first second : Expression} (one : first.WellKeyed)
    (other : second.WellKeyed) (plain : first.Plain) (plainToo : second.Plain)
    (under : ∀ key, Option.Rel (Json.Same alike) (first.sortedMembers.lookup key)
      (second.sortedMembers.lookup key)) :
    SameConditions alike first.columns second.columns := by
  intro column
  by_cases reserved : column ∈ reservedKeys
  · rw [one.get?_reserved reserved, other.get?_reserved reserved]
    exact .none
  · have same := under column
    rw [one.lookup_column reserved, other.lookup_column reserved] at same
    refine rel_of_map same fun conditions found conditions' found' equal => ?_
    have inside := (Keyed.get?_eq_some_iff one.columns).mp found
    have inside' := (Keyed.get?_eq_some_iff other.columns).mp found'
    exact rel_of_conditionsJson (one.operators _ inside) (other.operators _ inside')
      (plain _ inside) (plainToo _ inside') equal

/-- Whether all of some expressions can be told from their documents. -/
def EachTold (levels : List Expression) : Prop :=
  ∀ level ∈ levels, level.WellKeyed ∧ level.Plain

theorem eachTold_append {first second : List Expression} :
    EachTold (first ++ second) ↔ EachTold first ∧ EachTold second :=
  List.forall_mem_append

mutual

/-- Expressions that can be told from their documents are the same when those are. -/
theorem same_of_toJson : ∀ first second : Expression, EachTold first.levels →
    EachTold second.levels → Json.Same alike first.toJson.sorted second.toJson.sorted →
    Same alike first second
  | ⟨all, any, negated, columns⟩, ⟨all', any', negated', columns'⟩, told, told', same => by
      rw [levels, EachTold, List.forall_mem_cons] at told told'
      obtain ⟨⟨one, plain⟩, nested⟩ := told
      obtain ⟨⟨other, plainToo⟩, nested'⟩ := told'
      rw [← EachTold, eachTold_append, eachTold_append] at nested nested'
      rw [sorted_toJson_eq, sorted_toJson_eq] at same
      have under := Json.same_lookup same
      have and := under "$and"
      have or := under "$or"
      have not := under "$not"
      rw [one.lookup_all, other.lookup_all] at and
      rw [one.lookup_any, other.lookup_any] at or
      rw [one.lookup_negated, other.lookup_negated] at not
      exact .intro (sameConditions_of_members one other plain plainToo under)
        (same_of_members all all' nested.1.1 nested'.1.1 and)
        (same_of_members any any' nested.1.2 nested'.1.2 or)
        (same_of_negated negated negated' nested.2 nested'.2 not)

theorem same_of_members : ∀ first second : Option (List Expression),
    EachTold (memberLevels first) → EachTold (memberLevels second) →
    Option.Rel (Json.Same alike)
      (first.map fun nested => .array (nested.map fun member => member.toJson.sorted))
      (second.map fun nested => .array (nested.map fun member => member.toJson.sorted)) →
    Option.Rel (List.Forall₂ (Same alike)) first second
  | none, none, _, _, _ => .none
  | some first, some second, told, told', .some (.array each) =>
      .some (same_of_list first second told told' each)

theorem same_of_list : ∀ first second : List Expression,
    EachTold (listLevels first) → EachTold (listLevels second) →
    List.Forall₂ (Json.Same alike) (first.map fun member => member.toJson.sorted)
      (second.map fun member => member.toJson.sorted) →
    List.Forall₂ (Same alike) first second
  | [], [], _, _, _ => .nil
  | member :: rest, other :: more, told, told', .cons same later => by
      rw [listLevels, eachTold_append] at told told'
      exact .cons (same_of_toJson member other told.1 told'.1 same)
        (same_of_list rest more told.2 told'.2 later)

theorem same_of_negated : ∀ first second : Option Expression,
    EachTold (negatedLevels first) → EachTold (negatedLevels second) →
    Option.Rel (Json.Same alike) (first.map fun inner => inner.toJson.sorted)
      (second.map fun inner => inner.toJson.sorted) →
    Option.Rel (Same alike) first second
  | none, none, _, _, _ => .none
  | some first, some second, told, told', .some same =>
      .some (same_of_toJson first second told told' same)

end

/-- The document of an expression is faithful up to what is withheld. Every level is written part by
part and column by column, only what is withheld is missing, and just the columns where it is are
told. Without any of it, the same document comes of the same expression only. -/
theorem document_faithful (expression : Expression)
    (wellKeyed : ∀ level ∈ expression.levels, level.WellKeyed) :
    (∀ level ∈ expression.levels, ∃ members,
      level.toJson.sorted = .object members ∧ level.WrittenAs members) ∧
    (expression.withheldColumns.Nodup ∧ ∀ column, column ∈ expression.withheldColumns ↔
      ∃ level ∈ expression.levels, level.Hides column) ∧
    ∀ (alike : Float → Float → Prop) (other : Expression),
      (∀ level ∈ other.levels, level.WellKeyed) →
      (∀ level ∈ expression.levels ++ other.levels, level.Plain) →
      Json.Same alike expression.toJson.sorted other.toJson.sorted →
      Same alike expression other := by
  refine ⟨fun level nested => ?_, expression.withheldColumns_iff, ?_⟩
  · exact ⟨level.sortedMembers, level.sorted_toJson_eq, (wellKeyed level nested).writtenAs⟩
  · intro alike other wellKeyed' plain same
    rw [List.forall_mem_append] at plain
    exact same_of_toJson expression other
      (fun level nested => ⟨wellKeyed level nested, plain.1 level nested⟩)
      (fun level nested => ⟨wellKeyed' level nested, plain.2 level nested⟩) same

end Expression

namespace Sample

/-- An expression with a value that is withheld, and with a list one item of which is. -/
def withheldPrices : Expression :=
  .mk (some [.mk none (some [.mk none none none
    [("at", [(.between, .list [.text "2024-01-01", .withheld])])]]) none []]) none none
    [("price", [(.gt, .withheld), (.lt, .int 10)])]

/-- An expression of two columns. -/
def agesAndNames : Expression :=
  .mk none none (some (.mk (some []) none none []))
    [("age", [(.gte, .int 18), (.lte, .int 65)]), ("name", [(.contains, .text "a")])]

/-- The same expression with columns and operators in another order. -/
def namesAndAges : Expression :=
  .mk none none (some (.mk (some []) none none []))
    [("name", [(.contains, .text "a")]), ("age", [(.lte, .int 65), (.gte, .int 18)])]

end Sample

open Sample Expression

theorem Expression.document_faithful_sample :
    withheldPrices.withheldColumns = ["price", "at"] ∧
      (∃ level ∈ withheldPrices.levels, level.Hides "at") ∧
      Same Eq agesAndNames namesAndAges := by
  have keyed : ∀ level ∈ withheldPrices.levels ++ agesAndNames.levels ++ namesAndAges.levels,
      level.WellKeyed := by
    simp only [withheldPrices, agesAndNames, namesAndAges, levels, memberLevels, listLevels,
      negatedLevels, List.append_nil, List.nil_append, List.cons_append, List.forall_mem_cons]
    refine ⟨⟨?_, ?_, ?_⟩, ⟨?_, ?_, ?_⟩, ⟨?_, ?_, ?_⟩, ⟨?_, ?_, ?_⟩, ⟨?_, ?_, ?_⟩, ⟨?_, ?_, ?_⟩,
      ⟨?_, ?_, ?_⟩, List.forall_mem_nil _⟩
    all_goals simp [reservedKeys]
  rw [List.forall_mem_append, List.forall_mem_append] at keyed
  obtain ⟨⟨prices, ages⟩, names⟩ := keyed
  obtain ⟨-, ⟨-, listed⟩, -⟩ := document_faithful withheldPrices prices
  obtain ⟨-, -, determined⟩ := document_faithful agesAndNames ages
  have told : withheldPrices.withheldColumns = ["price", "at"] := by decide
  refine ⟨told, (listed "at").mp (told ▸ by decide), determined Eq namesAndAges names ?_ ?_⟩
  · simp only [agesAndNames, namesAndAges, levels, memberLevels, listLevels, negatedLevels,
      List.append_nil, List.nil_append, List.cons_append, List.forall_mem_cons]
    refine ⟨?_, ?_, ?_, ?_, List.forall_mem_nil _⟩
    all_goals simp [Plain, Value.WellFormed, or_imp, forall_and]
  · have equal : agesAndNames.toJson.sorted = namesAndAges.toJson.sorted := rfl
    exact equal ▸ Json.same_refl (fun _ => rfl) _

end DashboardFilters
