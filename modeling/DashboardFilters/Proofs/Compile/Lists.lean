import DashboardFilters.Compile
import DashboardFilters.Proofs.Numerals
import DashboardFilters.Proofs.Outcome
import DashboardFilters.Proofs.Tree.Acceptance
import DashboardFilters.Summary

namespace DashboardFilters

open Outcome (bind_eq_ok_iff map_eq_ok_iff mapM_eq_ok_iff)

variable {column : Column} {op : ListOp} {typed : String}

/-- A whole number is one of 64 bits if it is that number. -/
theorem Value.int64?_eq_some_iff {number : Int} {value : Int64} :
    int64? number = some value ↔ number = value.toInt := by
  constructor
  · intro found
    rw [int64?] at found
    split at found
    next inside =>
      rw [Bool.and_eq_true, decide_eq_true_eq, decide_eq_true_eq] at inside
      rw [Option.some_inj] at found
      rw [← found, Int64.toInt_ofInt_of_le (by omega) (by omega)]
    next => cases found
  · rintro rfl
    exact int64?_toInt value

/-- What the item of a list becomes on a column: a whole number of 64 bits where numbers are
compared and the text is one, any other number else, and the text itself where no numbers are compared. -/
inductive Column.MakesItem (column : Column) (item : String) : Value → Prop where
  | text (other : column.type.isNumeric = false) : MakesItem column item (.text item)
  | whole {number : Int64} (numeric : column.type.isNumeric = true)
      (spelled : Decimal.integer? item.toList = some number.toInt) :
      MakesItem column item (.int number)
  | any {number : Float} (numeric : column.type.isNumeric = true)
      (noWhole : ∀ whole : Int64, Decimal.integer? item.toList ≠ some whole.toInt)
      (spelled : Decimal.float? item.toList = some number) : MakesItem column item (.float number)

/-- A text spells a whole number of 64 bits, or else any number. -/
theorem Value.ofNumber?_eq_some_iff {item : String} {value : Value} : ofNumber? item = some value ↔
    (∃ number : Int64, Decimal.integer? item.toList = some number.toInt ∧ .int number = value) ∨
    (∀ whole : Int64, Decimal.integer? item.toList ≠ some whole.toInt) ∧
      ∃ number, Decimal.float? item.toList = some number ∧ .float number = value := by
  have whole (value : Value) : ((Decimal.integer? item.toList).bind fun number =>
      (int64? number).map .int) = some value ↔
        ∃ number : Int64, Decimal.integer? item.toList = some number.toInt ∧
          .int number = value := by
    simp only [Option.bind_eq_some_iff, Option.map_eq_some_iff, int64?_eq_some_iff]
    constructor
    · rintro ⟨_, spelled, number, rfl, same⟩
      exact ⟨number, spelled, same⟩
    · rintro ⟨number, spelled, same⟩
      exact ⟨_, spelled, number, rfl, same⟩
  have noWhole : ((Decimal.integer? item.toList).bind fun number =>
      (int64? number).map Value.int) = none ↔
        ∀ whole : Int64, Decimal.integer? item.toList ≠ some whole.toInt := by
    rw [Option.eq_none_iff_forall_ne_some]
    simp only [ne_eq, whole]
    exact ⟨fun none number spelled => none _ ⟨number, spelled, rfl⟩,
      fun none _ ⟨number, spelled, _⟩ => none number spelled⟩
  rw [ofNumber?, Option.or_eq_some_iff, whole, noWhole, Option.map_eq_some_iff]

theorem Column.numericItem_eq_ok_iff (numeric : column.type.isNumeric = true) {item : String}
    {value : Value} : column.numericItem item = .ok value ↔ column.MakesItem item value := by
  have read : column.numericItem item = .ok value ↔ Value.ofNumber? item = some value := by
    rw [numericItem]
    cases Value.ofNumber? item with
    | none => exact iff_of_false nofun nofun
    | some other => rw [Except.ok.injEq, Option.some_inj]
  rw [read, Value.ofNumber?_eq_some_iff]
  constructor
  · rintro (⟨number, spelled, rfl⟩ | ⟨noWhole, number, spelled, rfl⟩)
    · exact .whole numeric spelled
    · exact .any numeric noWhole spelled
  · rintro (other | ⟨_, spelled⟩ | ⟨_, noWhole, spelled⟩)
    · exact absurd numeric (other ▸ Bool.false_ne_true)
    · exact .inl ⟨_, spelled, rfl⟩
    · exact .inr ⟨noWhole, _, spelled, rfl⟩

/-- Where no numbers are compared, the items of a list are texts. -/
theorem Column.splitList_of_not_numeric (typed : String)
    (other : column.type.isNumeric = false) :
    column.splitList typed = .ok (.list ((Text.listItems typed).map .text)) := by
  rw [splitList, if_neg (other ▸ Bool.false_ne_true)]
  rfl

/-- A list as it was typed becomes the list of what its items become. -/
theorem Column.splitList_eq_ok_iff {value : Value} : column.splitList typed = .ok value ↔
    ∃ items, List.Forall₂ column.MakesItem (Text.listItems typed) items ∧ .list items = value := by
  cases numeric : column.type.isNumeric with
  | true =>
      rw [splitList, if_pos numeric, bind_eq_ok_iff]
      simp only [mapM_eq_ok_iff, numericItem_eq_ok_iff numeric]
      exact exists_congr fun items => and_congr_right fun _ => ⟨Except.ok.inj, congrArg Except.ok⟩
  | false =>
      have texts (items : List String) (values : List Value) :
          List.Forall₂ column.MakesItem items values ↔ items.map .text = values := by
        have alone : column.MakesItem = fun item value => .text item = value := by
          funext item value
          apply propext
          constructor
          · rintro (_ | ⟨numeric', _⟩ | ⟨numeric', _, _⟩)
            · rfl
            all_goals exact absurd (numeric.symm.trans numeric') Bool.false_ne_true
          · rintro rfl
            exact .text numeric
        rw [alone, ← List.forall₂_eq_eq_eq, List.forall₂_map_left_iff]
      rw [splitList_of_not_numeric typed numeric, Except.ok.injEq]
      simp only [texts, exists_eq_left']

theorem Filter.summary_list (display : Display) (id name : String) (shown : Bool) :
    Filter.summary column display ⟨id, name, shown, .list op typed⟩ =
      column.displayName ++ " " ++ op.operator.title ++
        if Text.listItems typed = [] then ""
        else " " ++ Text.joinWith ", " (Text.listItems typed) := by
  have line : Filter.summary column display ⟨id, name, shown, .list op typed⟩ =
      Text.trimEnd (column.displayName ++ " " ++ op.operator.title ++ " " ++
        Text.joinWith ", " (Text.listItems typed)) := by
    simp only [summary, Predicate.summary, Predicate.operator, String.append_assoc]
  rw [line]
  split
  next none =>
    have title : ∃ front last, op.operator.title.toList = front ++ [last] ∧
        Text.isBlank last = false := by
      cases op
      · exact ⟨['i'], 'n', rfl, by decide⟩
      · exact ⟨['n', 'o', 't', ' ', 'i'], 'n', rfl, by decide⟩
    obtain ⟨front, last, ends, visible⟩ := title
    rw [none, Text.joinWith, String.intercalate_nil, String.append_empty, Text.trimEnd_space,
      String.append_empty]
    have written : (column.displayName ++ " " ++ op.operator.title).toList =
        ((column.displayName ++ " ").toList ++ front) ++ [last] := by
      rw [String.toList_append, ends, List.append_assoc]
    exact Text.trimEnd_of_last written visible
  next some =>
    obtain ⟨front, last, ends, visible⟩ := Text.exists_last_joinWith ", " some
      fun _ inside => Text.tidy_of_mem_listItems inside
    have written : (column.displayName ++ " " ++ op.operator.title ++ " " ++
        Text.joinWith ", " (Text.listItems typed)).toList =
          (column.displayName ++ " " ++ op.operator.title ++ " ").toList ++ front ++ [last] := by
      rw [String.toList_append, ends, ← List.append_assoc]
    rw [← String.append_assoc, Text.trimEnd_of_last written visible]

section

variable {written : StoredFilter.Written} {members : List (String × Json)} {filter : Filter Value}

/-- A stored list is read as the user would have typed it. -/
theorem Filter.predicate_of_list (told : written.In members)
    (lists : written.operator = op.operator)
    (read : Json.decode Filter.read (.object members) = .ok filter) :
    filter.predicate = .list op written.made.value.listText := by
  have made : written.made.filter = .ok filter := by
    rw [told.decode] at read
    cases outcome : written.made.filter with
    | ok other =>
        rw [outcome] at read
        exact congrArg Except.ok (Except.ok.inj read)
    | error failure =>
        rw [outcome] at read
        cases read
  obtain ⟨predicate, built, rfl⟩ := StoredFilter.filter_eq_ok_iff.mp made
  have same : written.made.operator = op.operator := lists
  have builds := Predicate.ofStored_builds written.made.operator written.made.value
    written.made.extra
  rw [built, same] at builds
  generalize outcome : Except.ok predicate = result at builds
  cases builds with
  | misplaced => cases outcome
  | range between => cases op <;> cases between
  | @comparison other same => cases op <;> cases other <;> cases same
  | plain found =>
      cases outcome
      cases op <;> exact (Option.some_inj.mp found).symm

theorem Predicate.resolve_list (context : Context) : (list op typed).resolve column context =
    .ofExcept (column.splitList typed) :=
  rfl

/-- Where an array of values is stored, their texts are joined with commas. -/
theorem StoredFilter.Written.listText_array {α : Type} (spell : α → Value)
    (known : ∀ item, (spell item).WellFormed) {items : List α}
    (stored : written.value = some (.array (items.map fun item => (spell item).toJson))) :
    written.made.value.listText =
      Text.joinWith "," (items.map fun item => (spell item).displayText) := by
  have each : Value.decodeItems (Json.sortedItems (items.map fun item => (spell item).toJson)) =
      items.map spell := by
    clear stored
    induction items with
    | nil => rfl
    | cons item rest ih =>
        have canonical := Value.canonical_toJson (spell item) (known item)
        rw [List.map_cons, Json.sortedItems, Value.decodeItems, ih,
          Json.sorted_of_canonical _ canonical, Value.decode_toJson _ (known item), List.map_cons]
  have read : written.made.value = .list (items.map spell) := by
    change (written.value.map fun document => Value.decode document.sorted).getD .null = _
    rw [stored]
    exact congrArg Value.list each
  rw [read, Value.listText, List.map_map]
  rfl

end

/-- A list is the same for the stored filter, for the expression and for the summary. Stored strings
are cut at their commas, so they are kept as they are just if they are tidy; stored whole numbers
are always kept. Whatever the list is compiled to, the summary shows the texts that its items are
made of. -/
theorem Column.list_items_agree (column : Column) (op : ListOp) (context : Context) :
    (∀ (written : StoredFilter.Written) (members : List (String × Json)) (filter : Filter Value),
      written.In members → written.operator = op.operator →
        Json.decode Filter.read (.object members) = .ok filter →
      (∀ elements : List String, written.value = some (.array (elements.map .string)) →
        column.type.isNumeric = false →
        filter.predicate.resolve column context =
          .ofExcept (.ok (.list ((elements.flatMap Text.listItems).map .text))) ∧
        (filter.predicate.resolve column context = .ofExcept (.ok (.list (elements.map .text))) ↔
          ∀ element ∈ elements, Text.Tidy element)) ∧
      (∀ numbers : List Int64,
        written.value = some (.array (numbers.map fun number => .int number.toInt)) →
        column.type.isNumeric = true →
        filter.predicate.resolve column context =
          .ofExcept (.ok (.list (numbers.map .int))))) ∧
    ∀ (typed : String) (value : Value),
      ((Predicate.list op typed).resolve column context).result = .ok value →
      ∃ texts items, value = .list items ∧ List.Forall₂ column.MakesItem texts items ∧
        ∀ (display : Display) (id name : String) (shown : Bool),
          Filter.summary column display ⟨id, name, shown, .list op typed⟩ =
            column.displayName ++ " " ++ op.operator.title ++
              if texts = [] then "" else " " ++ Text.joinWith ", " texts := by
  constructor
  · intro written members filter told lists read
    rw [Filter.predicate_of_list told lists read, Predicate.resolve_list]
    constructor
    · intro elements stored other
      have joined : written.made.value.listText = Text.joinWith "," elements := by
        rw [StoredFilter.Written.listText_array Value.text (fun _ => trivial) stored]
        exact congrArg (Text.joinWith ",") (List.map_id elements)
      have compiled := splitList_of_not_numeric (Text.joinWith "," elements) other
      rw [Text.listItems_joinWith] at compiled
      rw [joined, compiled]
      have distinct : Function.Injective (List.map Value.text) :=
        List.map_injective_iff.mpr fun _ _ => Value.text.inj
      refine ⟨rfl, ?_⟩
      rw [← Text.flatMap_listItems_eq_self_iff]
      constructor
      · intro same
        exact distinct (Value.list.inj (Except.ok.inj (congrArg Reported.result same)))
      · intro same
        rw [same]
    · intro numbers stored numeric
      have joined : written.made.value.listText =
          Text.joinWith "," (numbers.map fun number => toString number.toInt) :=
        StoredFilter.Written.listText_array Value.int (fun _ => trivial) stored
      have kept : Text.listItems (Text.joinWith "," (numbers.map fun number =>
          toString number.toInt)) = numbers.map fun number => toString number.toInt := by
        rw [Text.listItems_joinWith, Text.flatMap_listItems_eq_self_iff, List.forall_mem_map]
        exact fun number _ => (Decimal.whole_toString number.toInt).tidy
      have made : List.Forall₂ column.MakesItem
          (numbers.map fun number => toString number.toInt) (numbers.map .int) := by
        rw [List.forall₂_map_left_iff, List.forall₂_map_right_iff, List.forall₂_same]
        exact fun number _ => .whole numeric (Decimal.integer?_eq_some_iff.mpr
            (Decimal.whole_toString number.toInt))
      rw [joined, splitList_eq_ok_iff.mpr ⟨_, kept.symm ▸ made, rfl⟩]
  · intro typed value compiled
    rw [Predicate.resolve_list] at compiled
    obtain ⟨items, made, rfl⟩ := splitList_eq_ok_iff.mp compiled
    exact ⟨_, items, rfl, made, fun display id name shown =>
      Filter.summary_list display id name shown⟩

namespace Sample

def orderState : Column where
  name := "state"
  type := .enumeration
  label := some "State"

def orderTotal : Column where
  name := "total"
  type := .decimal

/-- A test for membership in a stored value. -/
def storedList (value : Json) : StoredFilter.Written where
  id := none
  column := "state"
  operator := .isIn
  value := some value
  shown := none
  extra := none

def storedMembers (value : Json) : List (String × Json) :=
  [("op", .string "$in"), ("value", value), ("columnName", .string "state")]

end Sample

open Sample

/-- One of the strings has a comma, and one of them is empty. -/
theorem Column.list_items_agree_orderState :
    let states : Json := .array (["open", "late, lost", ""].map .string)
    let totals : Json := .array ([3, -7].map fun number : Int64 => .int number.toInt)
    (∃ filter, Json.decode Filter.read (.object (storedMembers states)) = .ok filter ∧
      filter.predicate.resolve orderState {} =
        .ofExcept (.ok (.list [.text "open", .text "late", .text "lost"]))) ∧
    (∃ filter, Json.decode Filter.read (.object (storedMembers totals)) = .ok filter ∧
      filter.predicate.resolve orderTotal {} = .ofExcept (.ok (.list [.int 3, .int (-7)]))) ∧
    ∃ texts items, Value.list [.text "a", .text "b"] = .list items ∧
      List.Forall₂ orderState.MakesItem texts items ∧
      Filter.summary orderState {} ⟨"f", "state", true, .list .isIn " a,, b"⟩ =
        "State in" ++ if texts = [] then "" else " " ++ Text.joinWith ", " texts := by
  intro states totals
  have keys : ["op", "value", "columnName"].Nodup := by decide
  have told (value : Json) : (storedList value).In (storedMembers value) :=
    ⟨keys, rfl, rfl, ⟨_, rfl, Or.inl rfl⟩, rfl, rfl, .none⟩
  have fitting (value : Json) : (storedList value).Fitting :=
    ⟨Or.inr (by rintro (⟨⟨⟩⟩ | ⟨⟨⟩⟩)), nofun, nofun, nofun⟩
  obtain ⟨stored, summed⟩ := list_items_agree orderState .isIn {}
  obtain ⟨storedToo, -⟩ := list_items_agree orderTotal .isIn {}
  refine ⟨?states, ?totals, ?summary⟩
  case states =>
    obtain ⟨filter, read⟩ := (told states).governs.accepted.mpr (fitting states)
    exact ⟨filter, read, ((stored _ _ _ (told states) rfl read).1 _ rfl rfl).1⟩
  case totals =>
    obtain ⟨filter, read⟩ := (told totals).governs.accepted.mpr (fitting totals)
    exact ⟨filter, read, (storedToo _ _ _ (told totals) rfl read).2 _ rfl rfl⟩
  case summary =>
    obtain ⟨texts, items, same, made, shown⟩ := summed " a,, b" (.list [.text "a", .text "b"]) rfl
    exact ⟨texts, items, same, made, shown {} "f" "state" true⟩

end DashboardFilters
