import DashboardFilters.Proofs.Compile.Lists
import DashboardFilters.Proofs.Overflow

namespace DashboardFilters

open Outcome (mapM_eq_error_iff bind_eq_error_iff)

namespace Decimal

/-- Whether a text is a numeral for a number below the middle between the greatest double and the
next power of two. -/
def HasFinite (text : List Char) : Prop :=
  ∃ negative count exponent, Numeral text negative count exponent ∧
    (count : ℚ) * 10 ^ exponent < 2 ^ 1024 - 2 ^ 970

/-- Whether a text is a numeral or a word for infinity or for no number. -/
def Readable (text : List Char) : Prop :=
  (∃ negative count exponent, Numeral text negative count exponent) ∨ Word text

variable {text : List Char}

theorem HasFinite.readable (finite : HasFinite text) : Readable text := by
  obtain ⟨negative, count, exponent, numeral, -⟩ := finite
  exact .inl ⟨negative, count, exponent, numeral⟩

/-- A numeral for a number below the middle is read as a finite double. -/
theorem hasFinite_iff {double : Float} (read : float? text = some double) :
    HasFinite text ↔ double.isFinite = true := by
  constructor
  · rintro ⟨negative, count, exponent, numeral, small⟩
    rw [float?_of_numeral numeral] at read
    cases read
    exact (isFinite_nearest_iff negative count exponent).mpr ((below_iff count exponent).mpr small)
  · intro finite
    rcases numeral_or_word read with ⟨negative, count, exponent, numeral, rfl⟩ | word
    · exact ⟨negative, count, exponent, numeral,
        (below_iff count exponent).mp ((isFinite_nearest_iff negative count exponent).mp finite)⟩
    · obtain ⟨other, known, infinite⟩ := float?_of_word word
      rw [read] at known
      cases known
      rw [finite] at infinite
      cases infinite

theorem readable_iff : Readable text ↔ ∃ double, float? text = some double := by
  constructor
  · rintro (⟨negative, count, exponent, numeral⟩ | word)
    · exact ⟨_, float?_of_numeral numeral⟩
    · obtain ⟨double, read, -⟩ := float?_of_word word
      exact ⟨double, read⟩
  · rintro ⟨double, read⟩
    rcases numeral_or_word read with ⟨negative, count, exponent, numeral, -⟩ | word
    · exact .inl ⟨negative, count, exponent, numeral⟩
    · exact .inr word

theorem hasFinite_of_whole {number : Int64} (whole : Whole text number.toInt) : HasFinite text := by
  obtain ⟨negative, numeral⟩ := whole.exists_numeral
  refine ⟨negative, _, 0, numeral, (below_iff _ _).mp (Doubles.below_of_lt 19 ?_ ?_)⟩
  · have above := number.le_toInt
    have below := number.toInt_lt
    omega
  · decide

end Decimal

open Decimal (Numeral Whole HasFinite Readable nearest)

/-- What is written for an item of a list on a numeric column: the whole number itself if it has 64
bits, else the nearest double if that is finite, and null if it is not. -/
inductive NumberWritten (item : String) : Json → Prop where
  | whole {number : Int64} (spelled : Whole item.toList number.toInt) :
      NumberWritten item (.int number.toInt)
  | decimal {negative : Bool} {count : Nat} {exponent : Int}
      (noWhole : ∀ whole : Int64, ¬Whole item.toList whole.toInt)
      (spelled : Numeral item.toList negative count exponent) (finite : HasFinite item.toList) :
      NumberWritten item (.float (nearest negative count exponent))
  | lost (readable : Readable item.toList) (infinite : ¬HasFinite item.toList) :
      NumberWritten item .null

def Json.IsNumber : Json → Prop
  | .int _ => True
  | .float value => value.isFinite = true
  | _ => False

variable {column : Column} {typed : String}

/-- What is written for an item is what is written for the value made of it. -/
theorem Column.numberWritten_of_makesItem (numeric : column.type.isNumeric = true) {item : String}
    {value : Value} (made : column.MakesItem item value) : NumberWritten item value.toJson := by
  cases made with
  | text other => exact absurd numeric (other ▸ Bool.false_ne_true)
  | whole _ spelled => exact .whole (Decimal.integer?_eq_some_iff.mp spelled)
  | @any double _ noWhole spelled =>
      simp only [ne_eq, Decimal.integer?_eq_some_iff] at noWhole
      rw [Value.toJson]
      split
      next finite =>
        have small := (Decimal.hasFinite_iff spelled).mpr finite
        obtain ⟨negative, count, exponent, numeral, below⟩ := small
        have read := Decimal.float?_of_numeral numeral
        rw [spelled] at read
        cases read
        exact .decimal noWhole numeral ⟨negative, count, exponent, numeral, below⟩
      next infinite =>
        exact .lost (Decimal.readable_iff.mpr ⟨double, spelled⟩)
          (mt (Decimal.hasFinite_iff spelled).mp infinite)

/-- A number is written just if there is a finite one, and then a whole number is kept. -/
theorem NumberWritten.isNumber_iff {item : String} {document : Json}
    (written : NumberWritten item document) :
    (document.IsNumber ∧ ∀ number : Int64, Whole item.toList number.toInt →
      document = .int number.toInt) ↔ HasFinite item.toList := by
  cases written with
  | whole spelled =>
      refine iff_of_true ⟨trivial, fun number other => ?_⟩ (Decimal.hasFinite_of_whole spelled)
      rw [← Decimal.integer?_eq_some_iff] at spelled other
      rw [spelled] at other
      exact congrArg Json.int (Option.some.inj other)
  | decimal noWhole spelled finite =>
      have double := (Decimal.hasFinite_iff (Decimal.float?_of_numeral spelled)).mp finite
      exact iff_of_true ⟨double, fun number whole => absurd whole (noWhole number)⟩ finite
  | lost readable infinite => exact iff_of_false (fun both => both.1) infinite

theorem NumberWritten.readable {item : String} {document : Json}
    (written : NumberWritten item document) : Readable item.toList := by
  cases written with
  | whole spelled => exact (Decimal.hasFinite_of_whole spelled).readable
  | decimal _ _ finite => exact finite.readable
  | lost readable => exact readable

/-- An item of a list is refused if it cannot be read as a number. -/
theorem Column.numericItem_eq_error_iff {item : String} {failure : Failure} :
    column.numericItem item = .error failure ↔ ¬Readable item.toList ∧
      failure = (Failure.malformedLiteral "a number" item).withColumn column.name := by
  have unread : Value.ofNumber? item = none ↔ ¬Readable item.toList := by
    rw [Value.ofNumber?, Option.or_eq_none_iff, Option.map_eq_none_iff, Decimal.readable_iff,
      ← Option.isSome_iff_exists, Option.not_isSome_iff_eq_none, and_iff_right_iff_imp]
    -- Every whole number is also a numeral.
    intro none
    cases read : Decimal.integer? item.toList with
    | none => rfl
    | some number =>
        obtain ⟨negative, numeral⟩ := (Decimal.integer?_eq_some_iff.mp read).exists_numeral
        rw [Decimal.float?_of_numeral numeral] at none
        cases none
  rw [numericItem]
  split
  next value known =>
    have readable : ¬¬Readable item.toList := fun unreadable => by
      rw [unread.mpr unreadable] at known
      cases known
    have taken : (.ok value : Except Failure Value) ≠ .error failure := by
      rintro ⟨⟩
    exact iff_of_false taken fun both => readable both.1
  next none =>
    rw [Except.error.injEq, and_iff_right (unread.mp none)]
    exact eq_comm

/-- An item of a list is taken if it can be read as a number. -/
theorem Column.exists_numericItem_eq_ok_iff {item : String} :
    (∃ value, column.numericItem item = .ok value) ↔ Readable item.toList := by
  constructor
  · rintro ⟨value, taken⟩
    by_contra unreadable
    rw [numericItem_eq_error_iff.mpr ⟨unreadable, rfl⟩] at taken
    cases taken
  · intro readable
    cases outcome : column.numericItem item with
    | ok value => exact ⟨value, rfl⟩
    | error failure => exact absurd readable (numericItem_eq_error_iff.mp outcome).1

/-- A list on a numeric column is refused for the first item of it that cannot be read. -/
theorem Column.splitList_eq_error_iff (numeric : column.type.isNumeric = true) {failure : Failure} :
    column.splitList typed = .error failure ↔ ∃ before item after,
      Text.listItems typed = before ++ item :: after ∧
      (∀ earlier ∈ before, Readable earlier.toList) ∧ ¬Readable item.toList ∧
      failure = (Failure.malformedLiteral "a number" item).withColumn column.name := by
  rw [splitList, if_pos numeric, bind_eq_error_iff]
  simp only [mapM_eq_error_iff, exists_numericItem_eq_ok_iff, numericItem_eq_error_iff]
  refine or_iff_left ?_
  rintro ⟨items, -, ⟨⟩⟩

/-- A list on a numeric column is written item by item. -/
theorem Column.written_of_splitList (numeric : column.type.isNumeric = true) {value : Value}
    (taken : column.splitList typed = .ok value) : ∃ documents, value.toJson = .array documents ∧
      List.Forall₂ NumberWritten (Text.listItems typed) documents := by
  obtain ⟨items, made, rfl⟩ := splitList_eq_ok_iff.mp taken
  refine ⟨Value.documents items, rfl, ?_⟩
  clear taken
  generalize Text.listItems typed = texts at made
  induction made with
  | nil => exact .nil
  | cons item _ ih => exact .cons (numberWritten_of_makesItem numeric item) ih

/-- Whether a list of numbers is kept: a list that is taken is written as an array of numbers, whole
ones as they are, and a list with an item that is no finite number is refused. -/
structure Column.KeepsNumbers (column : Column) (typed : String) (result : Except Failure Value) :
    Prop where
  written : ∀ value, result = .ok value → ∃ documents, value.toJson = .array documents ∧
    List.Forall₂ (fun item document => document.IsNumber ∧
      ∀ number : Int64, Whole item.toList number.toInt → document = .int number.toInt)
        (Text.listItems typed) documents
  refused : (∃ item ∈ Text.listItems typed, ¬HasFinite item.toList) → ∃ failure,
    result = .error failure ∧ failure.kind = .illegalArgument ∧ failure.column = some column.name

/-- A list that is refused is kept. -/
theorem Column.keepsNumbers_of_refused (numeric : column.type.isNumeric = true) {failure : Failure}
    (refused : column.splitList typed = .error failure) :
    column.KeepsNumbers typed (.error failure) := by
  obtain ⟨before, item, after, -, -, -, made⟩ := (splitList_eq_error_iff numeric).mp refused
  refine ⟨?_, fun _ => ⟨failure, rfl, ?_, ?_⟩⟩
  · rintro value ⟨⟩
  · rw [made]
    rfl
  · rw [made]
    rfl

/-- A list that is taken is kept if the numbers of all its items are finite. -/
theorem Column.keepsNumbers_of_taken (numeric : column.type.isNumeric = true) {value : Value}
    (taken : column.splitList typed = .ok value) : column.KeepsNumbers typed (.ok value) ↔
      ∀ item ∈ Text.listItems typed, HasFinite item.toList := by
  obtain ⟨documents, written, each⟩ := written_of_splitList numeric taken
  constructor
  · intro keeps
    by_contra some
    push Not at some
    obtain ⟨failure, ⟨⟩, -⟩ := keeps.refused some
  · intro finite
    refine ⟨?_, fun ⟨item, inside, infinite⟩ => absurd (finite item inside) infinite⟩
    rintro _ ⟨⟩
    exact ⟨documents, written, ((List.forall₂_and_left _ _).mpr ⟨finite, each⟩).imp
      fun _ _ both => both.2.isNumber_iff.mpr both.1⟩

/-- All items of a list that is taken can be read, and one of a list that is refused cannot. -/
theorem Column.exists_splitList_eq_ok_iff (numeric : column.type.isNumeric = true) :
    (∃ value, column.splitList typed = .ok value) ↔
      ∀ item ∈ Text.listItems typed, Readable item.toList := by
  constructor
  · rintro ⟨value, taken⟩ item inside
    obtain ⟨documents, -, each⟩ := written_of_splitList numeric taken
    obtain ⟨document, written⟩ := Outcome.exists_of_forall₂ each item inside
    exact written.readable
  · intro readable
    cases outcome : column.splitList typed with
    | ok value => exact ⟨value, rfl⟩
    | error failure =>
        obtain ⟨before, item, after, split, -, unreadable, -⟩ :=
          (splitList_eq_error_iff numeric).mp outcome
        have inside : item ∈ Text.listItems typed := by
          rw [split]
          exact List.mem_append_right before List.mem_cons_self
        exact absurd (readable item inside) unreadable

/-- A list on a numeric column is refused if an item of it cannot be read, and else written as an
array with a number for every item whose number becomes a finite double. Every other item becomes
null: the list is kept just if there is no such item, or if it is refused for another one. -/
theorem Column.number_lists (column : Column) (numeric : column.type.isNumeric = true) (op : ListOp)
    (typed : String) (context : Context) :
    let result := ((Predicate.list op typed).resolve column context).result
    (∀ failure, result = .error failure ↔ ∃ before item after,
      Text.listItems typed = before ++ item :: after ∧
      (∀ earlier ∈ before, Readable earlier.toList) ∧ ¬Readable item.toList ∧
      failure = (Failure.malformedLiteral "a number" item).withColumn column.name) ∧
    (∀ value, result = .ok value → ∃ documents, value.toJson = .array documents ∧
      List.Forall₂ NumberWritten (Text.listItems typed) documents) ∧
    (column.KeepsNumbers typed result ↔ (∀ item ∈ Text.listItems typed, HasFinite item.toList) ∨
      ∃ item ∈ Text.listItems typed, ¬Readable item.toList) := by
  refine ⟨fun _ => splitList_eq_error_iff numeric, fun _ => written_of_splitList numeric, ?_⟩
  have readable : (∃ value, column.splitList typed = .ok value) ↔ _ :=
    exists_splitList_eq_ok_iff numeric
  change column.KeepsNumbers typed (column.splitList typed) ↔ _
  cases outcome : column.splitList typed with
  | ok value =>
      have none : ¬∃ item ∈ Text.listItems typed, ¬Readable item.toList := by
        push Not
        exact readable.mp ⟨value, outcome⟩
      rw [keepsNumbers_of_taken numeric outcome, or_iff_left none]
  | error failure =>
      have some : ∃ item ∈ Text.listItems typed, ¬Readable item.toList := by
        by_contra none
        push Not at none
        obtain ⟨value, taken⟩ := readable.mpr none
        rw [outcome] at taken
        cases taken
      exact iff_of_true (keepsNumbers_of_refused numeric outcome) (.inr some)

open Sample

/-- All numbers of the list are finite. -/
theorem Column.number_lists_orderTotal :
    orderTotal.type.isNumeric = true ∧ orderTotal.KeepsNumbers " 1, -2.5e3,"
      ((Predicate.list .isIn " 1, -2.5e3,").resolve orderTotal {}).result := by
  refine ⟨rfl, (number_lists orderTotal rfl .isIn " 1, -2.5e3," {}).2.2.mpr (.inl ?_)⟩
  have items : Text.listItems " 1, -2.5e3," = ["1", "-2.5e3"] := by decide
  rw [items, List.forall_mem_cons, List.forall_mem_singleton]
  exact ⟨(Decimal.hasFinite_iff rfl).mpr (by decide +kernel),
    (Decimal.hasFinite_iff rfl).mpr (by decide +kernel)⟩

/-- The word for no number is taken for a number, and null is written for it. -/
theorem Column.not_keepsNumbers_orderTotal :
    ∃ value, ((Predicate.list .isIn "1,NaN").resolve orderTotal {}).result = .ok value ∧
      value.toJson = .array [.int 1, .null] ∧
      ¬orderTotal.KeepsNumbers "1,NaN"
        ((Predicate.list .isIn "1,NaN").resolve orderTotal {}).result := by
  have taken : ((Predicate.list .isIn "1,NaN").resolve orderTotal {}).result =
      .ok (.list [.int 1, .float (0 / 0)]) := rfl
  have written : (Value.list [.int 1, .float (0 / 0)]).toJson = .array [.int 1, .null] := by
    have infinite : (0 / 0 : Float).isFinite = false := by decide +kernel
    simp only [Value.toJson, Value.documents, infinite, Bool.false_eq_true, if_false]
    rfl
  refine ⟨_, taken, written, fun keeps => ?_⟩
  obtain ⟨documents, same, each⟩ := keeps.written _ taken
  rw [written] at same
  cases same
  cases each with
  | cons _ rest =>
      cases rest with
      | cons lost _ => exact lost.1

end DashboardFilters
