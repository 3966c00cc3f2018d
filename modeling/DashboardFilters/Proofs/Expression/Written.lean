import DashboardFilters.Proofs.Compile.Isolation
import DashboardFilters.Proofs.Compile.Keys
import DashboardFilters.Proofs.Json.Records
import Mathlib.Data.List.Nodup

namespace DashboardFilters

namespace Json

variable {members : List (String × Json)}

/-- Of members with distinct keys sorting keeps each key. -/
theorem keys_sortMembers_perm (distinct : (members.map Prod.fst).Nodup) :
    ((sortMembers (sortedValues members)).map Prod.fst).Perm (members.map Prod.fst) := by
  have distinctSorted := (ascending_sortMembers (sortedValues members)).imp String.ne_of_lt
  have found (key : String) (some : (key ∈ members.map Prod.fst)) :
      key ∈ (sortMembers (sortedValues members)).map Prod.fst := by
    obtain ⟨member, inside, rfl⟩ := List.mem_map.mp some
    have there := (mem_iff_lookup distinct).mp inside
    have kept := lookup_sorted distinct member.1
    rw [there] at kept
    exact List.mem_map.mpr ⟨_, (mem_iff_lookup distinctSorted).mpr kept, rfl⟩
  rw [List.perm_ext_iff_of_nodup distinctSorted distinct]
  intro key
  refine ⟨fun sorted => ?_, found key⟩
  obtain ⟨member, inside, rfl⟩ := List.mem_map.mp sorted
  have original := mem_of_mem_sortMembers inside
  rw [sortedValues_eq_map] at original
  obtain ⟨other, there, rfl⟩ := List.mem_map.mp original
  exact List.mem_map.mpr ⟨other, there, rfl⟩

end Json

namespace Value

/-- How a value is written: a list item by item, so that each item keeps its place, and what is
withheld, as well as a number that is not finite, as null. -/
inductive Written : Value → Json → Prop where
  | null : Written .null .null
  | bool (value : Bool) : Written (.bool value) (.bool value)
  | int (value : Int64) : Written (.int value) (.int value.toInt)
  | finite {value : Float} (finite : value.isFinite = true) : Written (.float value) (.float value)
  | infinite {value : Float} (infinite : value.isFinite = false) : Written (.float value) .null
  | text (value : String) : Written (.text value) (.string value)
  | list {items : List Value} {documents : List Json}
      (each : List.Forall₂ Written items documents) : Written (.list items) (.array documents)
  | json (document : Json) : Written (.json document) document.sorted
  | withheld : Written .withheld .null

/-- Whether a list in a value has a withheld item, at any depth. -/
inductive HasGap : Value → Prop where
  | here {items : List Value} (withheld : .withheld ∈ items) : HasGap (.list items)
  | deeper {items : List Value} {item : Value} (inside : item ∈ items) (gap : HasGap item) :
      HasGap (.list items)

theorem hasGap_list_iff {items : List Value} :
    (list items).HasGap ↔ .withheld ∈ items ∨ ∃ item ∈ items, item.HasGap := by
  constructor
  · rintro (withheld | ⟨inside, gap⟩)
    · exact .inl withheld
    · exact .inr ⟨_, inside, gap⟩
  · rintro (withheld | ⟨item, inside, gap⟩)
    · exact .here withheld
    · exact .deeper inside gap

mutual

/-- The canonical document of a value is the one that is written. -/
theorem written_toJson : ∀ value : Value, value.Written value.toJson.sorted
  | .null => .null
  | .bool value => .bool value
  | .int value => .int value
  | .float value => by
      rw [toJson]
      split
      next finite => exact .finite finite
      next infinite => exact .infinite (Bool.eq_false_iff.mpr infinite)
  | .text value => .text value
  | .list items => .list (written_documents items)
  | .json document => .json document
  | .withheld => .withheld

theorem written_documents : ∀ items : List Value,
    List.Forall₂ Written items (Json.sortedItems (documents items))
  | [] => .nil
  | item :: rest => .cons (written_toJson item) (written_documents rest)

end

mutual

/-- What is withheld in a value is the value itself or an item of a list in it. -/
theorem containsWithheld_iff : ∀ value : Value,
    value.containsWithheld = true ↔ value = .withheld ∨ value.HasGap
  | .withheld => iff_of_true rfl (.inl rfl)
  | .list items => by
      rw [containsWithheld, anyWithheld_iff items, hasGap_list_iff]
      exact (or_iff_right Value.noConfusion).symm
  | .null | .bool _ | .int _ | .float _ | .text _ | .json _ => by
      refine iff_of_false nofun ?_
      rintro (⟨⟨⟩⟩ | ⟨⟨⟩⟩)

theorem anyWithheld_iff : ∀ items : List Value,
    anyWithheld items = true ↔ .withheld ∈ items ∨ ∃ item ∈ items, item.HasGap
  | [] => by simp [anyWithheld]
  | item :: rest => by
      rw [anyWithheld, Bool.or_eq_true, containsWithheld_iff item, anyWithheld_iff rest,
        List.mem_cons, List.exists_mem_cons_iff, eq_comm]
      exact or_or_or_comm

end

end Value

namespace Expression

def reservedKeys : List String := ["$and", "$or", "$not"]

/-- Whether the columns of an expression, nested ones left aside, have distinct names none of which
is reserved, and the operators on each of them are distinct. -/
structure WellKeyed (expression : Expression) : Prop where
  columns : (expression.columns.map Prod.fst).Nodup
  operators : ∀ entry ∈ expression.columns, (entry.2.map Prod.fst).Nodup
  free : ∀ entry ∈ expression.columns, entry.1 ∉ reservedKeys

/-- How the conditions on one column are written: one member for each operator whose value is not
withheld. -/
structure WrittenConditions (conditions : Conditions) (members : List (String × Json)) : Prop where
  keys : (members.map Prod.fst).Perm
    ((conditions.filter fun condition => !condition.2.isWithheld).map fun condition =>
      condition.1.wire)
  distinct : (members.map Prod.fst).Nodup
  values : ∀ condition ∈ conditions, condition.2 ≠ .withheld →
    ∃ document, members.lookup condition.1.wire = some document ∧ condition.2.Written document

/-- How an expression is written: one member for each part that is there and one for each column. -/
structure WrittenAs (expression : Expression) (members : List (String × Json)) : Prop where
  keys : (members.map Prod.fst).Perm expression.keys
  distinct : (members.map Prod.fst).Nodup
  all : members.lookup "$and" = expression.all.map fun nested =>
    .array (nested.map fun member => member.toJson.sorted)
  any : members.lookup "$or" = expression.any.map fun nested =>
    .array (nested.map fun member => member.toJson.sorted)
  negated : members.lookup "$not" = expression.negated.map fun inner => inner.toJson.sorted
  columns : ∀ entry ∈ expression.columns, ∃ conditions,
    members.lookup entry.1 = some (.object conditions) ∧ WrittenConditions entry.2 conditions

theorem documents_eq_map (members : List Expression) :
    documents members = members.map toJson := by
  induction members with
  | nil => rfl
  | cons member rest ih => rw [documents, ih, List.map_cons]

/-- The members of the document of an expression, as they are written. -/
def members (expression : Expression) : List (String × Json) :=
  membersJson "$and" expression.all ++ membersJson "$or" expression.any ++
    negatedJson expression.negated ++
    expression.columns.map fun column => (column.1, conditionsJson column.2)

theorem toJson_eq (expression : Expression) : expression.toJson = .object expression.members := by
  obtain ⟨all, any, negated, columns⟩ := expression
  rw [toJson, members]

/-- There is a member for each key. -/
theorem map_members (expression : Expression) :
    expression.members.map Prod.fst = expression.keys := by
  obtain ⟨members, written, keys⟩ := expression.exists_members
  rw [toJson_eq, Json.object.injEq] at written
  rw [written, keys]

theorem lookup_membersJson (key other : String) (nested : Option (List Expression)) :
    (membersJson key nested).lookup other =
      if other = key then nested.map (Json.array ∘ documents) else none := by
  cases nested with
  | none =>
      rw [Option.map_none, ite_self]
      rfl
  | some nested => exact Json.lookup_cons key other _ []

theorem lookup_negatedJson (other : String) (negated : Option Expression) :
    (negatedJson negated).lookup other = if other = "$not" then negated.map toJson else none := by
  cases negated with
  | none =>
      rw [Option.map_none, ite_self]
      rfl
  | some inner => exact Json.lookup_cons "$not" other _ []

theorem lookup_columns (name : String) (columns : List (String × Conditions)) :
    (columns.map fun column => (column.1, conditionsJson column.2)).lookup name =
      (Keyed.get? name columns).map conditionsJson := by
  induction columns with
  | nil => rfl
  | cons column rest ih =>
      rw [List.map_cons, Json.lookup_cons, ih]
      by_cases same : column.1 = name
      · simp [Keyed.get?, same]
      · simp [Keyed.get?, same, Ne.symm same]

/-- What is written under a key. -/
theorem lookup_members (expression : Expression) (key : String) :
    expression.members.lookup key =
      (if key = "$and" then expression.all.map (Json.array ∘ documents) else none).or
        ((if key = "$or" then expression.any.map (Json.array ∘ documents) else none).or
          ((if key = "$not" then expression.negated.map toJson else none).or
            ((Keyed.get? key expression.columns).map conditionsJson))) := by
  rw [members, List.lookup_append, List.lookup_append, List.lookup_append, lookup_membersJson,
    lookup_membersJson, lookup_negatedJson, lookup_columns, Option.or_assoc, Option.or_assoc]

theorem WellKeyed.nodup_keys {expression : Expression} (wellKeyed : expression.WellKeyed) :
    expression.keys.Nodup := by
  have part {α : Type} (key : String) (nested : Option α) :
      (nested.map fun _ => key).toList.Sublist [key] := by
    cases nested with
    | none => exact List.nil_sublist [key]
    | some _ => exact List.Sublist.refl [key]
  have parts :=
    ((part "$and" expression.all).append (part "$or" expression.any)).append
      (part "$not" expression.negated)
  rw [keys, List.nodup_append]
  refine ⟨parts.nodup (by decide), wellKeyed.columns, ?_⟩
  rintro key reserved column inside rfl
  obtain ⟨entry, listed, rfl⟩ := List.mem_map.mp inside
  exact wellKeyed.free entry listed (parts.subset reserved)

theorem WellKeyed.get?_reserved {expression : Expression} (wellKeyed : expression.WellKeyed)
    {key : String} (reserved : key ∈ reservedKeys) : Keyed.get? key expression.columns = none := by
  rw [Keyed.get?_eq_none_iff]
  intro inside
  obtain ⟨entry, listed, rfl⟩ := List.mem_map.mp inside
  exact wellKeyed.free entry listed reserved

theorem sorted_documents (nested : List Expression) :
    (Json.array (documents nested)).sorted =
      .array (nested.map fun member => member.toJson.sorted) := by
  rw [Json.sorted, documents_eq_map, Json.sortedItems_eq_map, List.map_map]
  rfl

def sortedMembers (expression : Expression) : List (String × Json) :=
  Json.sortMembers (Json.sortedValues expression.members)

theorem sorted_toJson_eq (expression : Expression) :
    expression.toJson.sorted = .object expression.sortedMembers := by
  rw [toJson_eq, Json.sorted, sortedMembers]

namespace WellKeyed

variable {expression : Expression} (wellKeyed : expression.WellKeyed)

include wellKeyed

theorem lookup_sortedMembers (key : String) :
    expression.sortedMembers.lookup key = (expression.members.lookup key).map Json.sorted :=
  Json.lookup_sorted (expression.map_members ▸ wellKeyed.nodup_keys) key

/-- Under a reserved key stands one part of the expression. -/
theorem lookup_reserved {key : String} (reserved : key ∈ reservedKeys) :
    expression.sortedMembers.lookup key =
      (if key = "$and" then expression.all.map (Json.array ∘ documents)
        else if key = "$or" then expression.any.map (Json.array ∘ documents)
        else expression.negated.map toJson).map Json.sorted := by
  rw [wellKeyed.lookup_sortedMembers, lookup_members, wellKeyed.get?_reserved reserved]
  simp only [reservedKeys, List.mem_cons, List.not_mem_nil, or_false] at reserved
  rcases reserved with rfl | rfl | rfl <;>
    simp only [Option.map_none, Option.or_none, Option.none_or, String.reduceEq, if_true, if_false]

theorem lookup_all : expression.sortedMembers.lookup "$and" = expression.all.map fun nested =>
    .array (nested.map fun member => member.toJson.sorted) := by
  rw [wellKeyed.lookup_reserved (by decide), if_pos rfl, Option.map_map]
  exact congrArg (Option.map · expression.all) (funext sorted_documents)

theorem lookup_any : expression.sortedMembers.lookup "$or" = expression.any.map fun nested =>
    .array (nested.map fun member => member.toJson.sorted) := by
  rw [wellKeyed.lookup_reserved (by decide), if_neg (by decide), if_pos rfl, Option.map_map]
  exact congrArg (Option.map · expression.any) (funext sorted_documents)

theorem lookup_negated : expression.sortedMembers.lookup "$not" =
    expression.negated.map fun inner => inner.toJson.sorted := by
  rw [wellKeyed.lookup_reserved (by decide), if_neg (by decide), if_neg (by decide),
    Option.map_map]
  rfl

theorem lookup_column {name : String} (free : name ∉ reservedKeys) :
    expression.sortedMembers.lookup name =
      (Keyed.get? name expression.columns).map fun conditions =>
        (conditionsJson conditions).sorted := by
  simp only [reservedKeys, List.mem_cons, List.not_mem_nil, or_false, not_or] at free
  rw [wellKeyed.lookup_sortedMembers, lookup_members, if_neg free.1, if_neg free.2.1,
    if_neg free.2.2, Option.none_or, Option.none_or, Option.none_or, Option.map_map]
  rfl

end WellKeyed

/-- The names of operators are distinct. -/
theorem wire_injective : Function.Injective Operator.wire := by
  intro first second same
  cases first <;> cases second <;> first | rfl | exact absurd same (by decide)

/-- The members of the document of the conditions on one column, as they are written. -/
def conditionMembers (conditions : Conditions) : List (String × Json) :=
  (conditions.filter fun condition => !condition.2.isWithheld).map fun condition =>
    (condition.1.wire, condition.2.toJson)

/-- The members of the canonical document of the conditions on one column. -/
def sortedConditions (conditions : Conditions) : List (String × Json) :=
  Json.sortMembers (Json.sortedValues (conditionMembers conditions))

theorem sorted_conditionsJson (conditions : Conditions) :
    (conditionsJson conditions).sorted = .object (sortedConditions conditions) := by
  rw [conditionsJson, Json.sorted, sortedConditions, conditionMembers]

section

variable {conditions : Conditions} (distinct : (conditions.map Prod.fst).Nodup)

include distinct

theorem nodup_conditionMembers : ((conditionMembers conditions).map Prod.fst).Nodup := by
  have kept : ((conditions.filter fun condition => !condition.2.isWithheld).map Prod.fst).Nodup :=
    distinct.sublist (List.filter_sublist.map Prod.fst)
  have names := List.Nodup.map wire_injective kept
  rw [List.map_map] at names
  rwa [conditionMembers, List.map_map]

/-- Under the name of an operator stands its value, unless that is withheld. -/
theorem lookup_sortedConditions (operator : Operator) :
    (sortedConditions conditions).lookup operator.wire =
      ((Keyed.get? operator conditions).filter fun value => !value.isWithheld).map fun value =>
        value.toJson.sorted := by
  have members := nodup_conditionMembers distinct
  have written : (conditionMembers conditions).lookup operator.wire =
      ((Keyed.get? operator conditions).filter fun value => !value.isWithheld).map
        Value.toJson := by
    apply Option.ext
    intro document
    rw [← Json.mem_iff_lookup members, Option.map_eq_some_iff, conditionMembers, List.mem_map]
    simp only [List.mem_filter, Prod.mk.injEq, Option.filter_eq_some_iff,
      Keyed.get?_eq_some_iff distinct, Prod.exists]
    constructor
    · rintro ⟨other, value, kept, same, rfl⟩
      obtain rfl := wire_injective same
      exact ⟨value, kept, rfl⟩
    · rintro ⟨value, kept, rfl⟩
      exact ⟨operator, value, kept, rfl, rfl⟩
  rw [sortedConditions, Json.lookup_sorted members, written, Option.map_map]
  rfl

/-- The conditions on one column are written member by member. -/
theorem writtenConditions : WrittenConditions conditions (sortedConditions conditions) where
  keys := by
    have kept := Json.keys_sortMembers_perm (nodup_conditionMembers distinct)
    rwa [conditionMembers, List.map_map] at kept
  distinct := (Json.ascending_sortMembers _).imp String.ne_of_lt
  values := by
    rintro ⟨operator, value⟩ inside present
    have shown : value.isWithheld = false := by
      cases value <;> first | rfl | exact absurd rfl present
    refine ⟨value.toJson.sorted, ?_, value.written_toJson⟩
    rw [lookup_sortedConditions distinct, (Keyed.get?_eq_some_iff distinct).mpr inside]
    simp [shown]

end

/-- The canonical document of an expression is written member by member. -/
theorem WellKeyed.writtenAs {expression : Expression} (wellKeyed : expression.WellKeyed) :
    expression.WrittenAs expression.sortedMembers where
  keys := by
    have distinct := wellKeyed.nodup_keys
    rw [← map_members] at distinct ⊢
    exact Json.keys_sortMembers_perm distinct
  distinct := (Json.ascending_sortMembers _).imp String.ne_of_lt
  all := wellKeyed.lookup_all
  any := wellKeyed.lookup_any
  negated := wellKeyed.lookup_negated
  columns := by
    rintro ⟨name, conditions⟩ inside
    have found := (Keyed.get?_eq_some_iff wellKeyed.columns).mpr inside
    have distinct := wellKeyed.operators _ inside
    refine ⟨sortedConditions conditions, ?_, writtenConditions distinct⟩
    rw [wellKeyed.lookup_column (wellKeyed.free _ inside), found, Option.map_some,
      sorted_conditionsJson]

mutual

/-- The conditions of an expression at every depth are those of its levels. -/
theorem mem_allConditions_iff (condition : String × Operator × Value) :
    ∀ expression : Expression, condition ∈ expression.allConditions ↔
      ∃ level ∈ expression.levels, condition ∈ level.conditions
  | ⟨all, any, negated, columns⟩ => by
      rw [allConditions, levels, List.exists_mem_cons_iff, List.mem_append, List.mem_append,
        List.mem_append, mem_memberConditions_iff condition all,
        mem_memberConditions_iff condition any, mem_negatedConditions_iff condition negated,
        or_assoc, or_assoc]
      simp only [List.mem_append, or_and_right, exists_or, or_assoc]
      rfl

theorem mem_memberConditions_iff (condition : String × Operator × Value) :
    ∀ members : Option (List Expression), condition ∈ memberConditions members ↔
      ∃ level ∈ memberLevels members, condition ∈ level.conditions
  | none => by simp [memberConditions, memberLevels]
  | some members => by
      rw [memberConditions, memberLevels, mem_listConditions_iff condition members]

theorem mem_listConditions_iff (condition : String × Operator × Value) :
    ∀ members : List Expression, condition ∈ listConditions members ↔
      ∃ level ∈ listLevels members, condition ∈ level.conditions
  | [] => by simp [listConditions, listLevels]
  | member :: rest => by
      rw [listConditions, listLevels, List.mem_append, mem_allConditions_iff condition member,
        mem_listConditions_iff condition rest]
      simp only [List.mem_append, or_and_right, exists_or]

theorem mem_negatedConditions_iff (condition : String × Operator × Value) :
    ∀ negated : Option Expression, condition ∈ negatedConditions negated ↔
      ∃ level ∈ negatedLevels negated, condition ∈ level.conditions
  | none => by simp [negatedConditions, negatedLevels]
  | some inner => by
      rw [negatedConditions, negatedLevels, mem_allConditions_iff condition inner]

end

/-- Whether a column of an expression, nested ones left aside, has an operator that is left out of
the document, or a value with a null in the place of what is withheld. -/
def Hides (expression : Expression) (column : String) : Prop :=
  ∃ entry ∈ expression.columns, entry.1 = column ∧
    ∃ condition ∈ entry.2, condition.2 = .withheld ∨ condition.2.HasGap

/-- The columns that are told to be withheld, none of them twice, are those of which something is
hidden at some level. -/
theorem withheldColumns_iff (expression : Expression) :
    expression.withheldColumns.Nodup ∧ ∀ column, column ∈ expression.withheldColumns ↔
      ∃ level ∈ expression.levels, level.Hides column := by
  obtain ⟨distinct, listed⟩ := foldl_noteWithheld expression.allConditions List.nodup_nil
  rw [withheldColumns, collectWithheld_eq]
  refine ⟨distinct, fun column => ?_⟩
  rw [listed]
  simp only [List.not_mem_nil, false_or, mem_allConditions_iff, conditions, List.mem_flatMap,
    List.mem_map, Value.containsWithheld_iff]
  constructor
  · rintro ⟨_, ⟨level, nested, entry, inside, condition, given, rfl⟩, same, hidden⟩
    exact ⟨level, nested, entry, inside, same, condition, given, hidden⟩
  · rintro ⟨level, nested, entry, inside, same, condition, given, hidden⟩
    exact ⟨_, ⟨level, nested, entry, inside, condition, given, rfl⟩, same, hidden⟩

end Expression

end DashboardFilters
