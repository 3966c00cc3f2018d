import DashboardFilters.Calendar.Reader
import DashboardFilters.Calendar.Writer
import Mathlib.Data.List.Induction
import Mathlib.Data.List.TakeDrop
import Mathlib.Data.List.TakeWhile
import Mathlib.Tactic.IntervalCases

namespace DashboardFilters.Decimal

/-- A digit is one of ten characters. -/
theorem isDigit_iff {character : Char} :
    isDigit character = true ↔ 48 ≤ character.toNat ∧ character.toNat ≤ 57 := by
  rw [isDigit, Bool.and_eq_true, decide_eq_true_eq, decide_eq_true_eq]
  rfl

/-- A digit is written for the number it stands for. -/
theorem digitChar_digitValue {digit : Char} (known : isDigit digit = true) :
    (digitValue digit).digitChar = digit := by
  obtain ⟨low, high⟩ := isDigit_iff.mp known
  have same := Char.ofNat_toNat digit
  rw [digitValue]
  generalize digit.toNat = code at *
  subst same
  interval_cases code <;> rfl

/-- A digit stands for a number below ten. -/
theorem digitValue_lt {digit : Char} (known : isDigit digit = true) : digitValue digit < 10 := by
  obtain ⟨low, high⟩ := isDigit_iff.mp known
  have zero : '0'.toNat = 48 := rfl
  rw [digitValue, zero]
  omega

theorem not_isBlank_of_isDigit {digit : Char} (known : isDigit digit = true) :
    Text.isBlank digit = false := by
  obtain ⟨low, high⟩ := isDigit_iff.mp known
  simp only [Text.isBlank]
  generalize digit.toNat = code at *
  interval_cases code <;> rfl

/-- A row of so many digits. -/
structure Row (width : Nat) (digits : List Char) : Prop where
  length : digits.length = width
  all : ∀ digit ∈ digits, isDigit digit = true

theorem Row.exists_last {width : Nat} {digits : List Char} (row : Row width digits)
    (some : 0 < width) : ∃ others last, digits = others ++ [last] ∧ isDigit last = true := by
  rcases List.eq_nil_or_concat digits with rfl | ⟨others, last, ends⟩
  · exact absurd row.length (Nat.ne_of_lt some)
  · rw [List.concat_eq_append] at ends
    have member : last ∈ digits := by
      rw [ends]
      exact List.mem_append_right others (List.mem_singleton.mpr rfl)
    exact ⟨others, last, ends, row.all last member⟩

/-- A digit more is a place more. -/
theorem ofDigits_concat (digits : List Char) (digit : Char) :
    ofDigits (digits ++ [digit]) = 10 * ofDigits digits + digitValue digit := by
  rw [ofDigits, List.foldl_append]
  rfl

end DashboardFilters.Decimal

namespace DashboardFilters.Calendar

open Decimal

/-- A number with a digit more is written with that digit behind. -/
theorem padded_succ {width number digit : Nat} (some : 0 < width) (small : digit < 10) :
    padded (width + 1) (10 * number + digit) = padded width number ++ [digit.digitChar] := by
  have last := Nat.toDigits_of_lt_base small
  rcases Nat.eq_zero_or_pos number with rfl | positive
  · obtain ⟨rest, rfl⟩ := Nat.exists_eq_succ_of_ne_zero (Nat.ne_of_gt some)
    rw [Nat.mul_zero, Nat.zero_add, padded, padded, last, Nat.toDigits_zero, Text.padStart,
      Text.padStart, ← List.replicate_succ']
    rfl
  · have digits := Nat.toDigits_append_toDigits (by decide : 1 < 10) positive small
    rw [padded, padded, ← digits, last, Text.padStart, Text.padStart, List.length_append,
      List.length_singleton, Nat.add_sub_add_right, List.append_assoc]

/-- Writing the number of a row of digits gives the row. -/
theorem padded_ofDigits {width : Nat} {digits : List Char} (row : Row width digits)
    (some : 0 < width) : padded width (ofDigits digits) = digits := by
  obtain ⟨rfl, all⟩ := row
  induction digits using List.reverseRecOn with
  | nil => exact absurd some (Nat.lt_irrefl 0)
  | append_singleton digits digit ih =>
      rw [List.forall_mem_append, List.forall_mem_singleton] at all
      have written := digitChar_digitValue all.2
      rcases Nat.eq_zero_or_pos digits.length with none | more
      · obtain rfl := List.eq_nil_of_length_eq_zero none
        change padded 1 (0 + digitValue digit) = _
        rw [Nat.zero_add, padded, Nat.toDigits_of_lt_base (digitValue_lt all.2), written]
        rfl
      · rw [List.length_append, List.length_singleton, ofDigits_concat,
          padded_succ more (digitValue_lt all.2), ih all.1 more, written]

/-- A row of digits stands for a number of so many places. -/
theorem ofDigits_lt {width : Nat} {digits : List Char} (row : Row width digits) :
    ofDigits digits < 10 ^ width := by
  obtain ⟨rfl, all⟩ := row
  induction digits using List.reverseRecOn with
  | nil => exact Nat.one_pos
  | append_singleton digits digit ih =>
      rw [List.forall_mem_append, List.forall_mem_singleton] at all
      have before := ih all.1
      have last := digitValue_lt all.2
      rw [ofDigits_concat, List.length_append, List.length_singleton, Nat.pow_succ]
      omega

/-- A number of so many places is written as a row of as many digits, which stands for it. -/
theorem row_padded {width number : Nat} (some : 0 < width) (small : number < 10 ^ width) :
    Row width (padded width number) ∧ ofDigits (padded width number) = number := by
  induction width generalizing number with
  | zero => exact absurd some (Nat.lt_irrefl 0)
  | succ width ih =>
      have digit : number % 10 < 10 := Nat.mod_lt number (by decide)
      have split := Nat.div_add_mod number 10
      have known : isDigit (number % 10).digitChar = true ∧
          digitValue (number % 10).digitChar = number % 10 := by
        generalize number % 10 = last at digit
        interval_cases last <;> decide
      rcases Nat.eq_zero_or_pos width with rfl | more
      · have below : number < 10 := by omega
        have single : padded 1 number = [number.digitChar] := by
          rw [padded, Nat.toDigits_of_lt_base below]
          rfl
        rw [Nat.mod_eq_of_lt below] at known
        rw [single]
        refine ⟨⟨rfl, ?_⟩, ?_⟩
        · exact List.forall_mem_singleton.mpr known.1
        · exact (Nat.zero_add _).trans known.2
      · have shorter : number / 10 < 10 ^ width := by
          rw [Nat.pow_succ] at small
          omega
        obtain ⟨row, value⟩ := ih more shorter
        rw [← split, padded_succ more digit]
        refine ⟨⟨?_, ?_⟩, ?_⟩
        · rw [List.length_append, row.length, List.length_singleton]
        · rw [List.forall_mem_append, List.forall_mem_singleton]
          exact ⟨row.all, known.1⟩
        · rw [ofDigits_concat, value, known.2]

/-- A number of any size is written as a row of digits, which stands for it. -/
theorem exists_row_padded (width number : Nat) (some : 0 < width) :
    ∃ places, width ≤ places ∧ Row places (padded width number) ∧
      ofDigits (padded width number) = number := by
  let places := max width (Nat.toDigits 10 number).length
  have wide : width ≤ places := Nat.le_max_left width _
  have small : number < 10 ^ places :=
    (Nat.length_toDigits_le_iff (by decide) (by omega)).mp (Nat.le_max_right width _)
  have same : padded width number = padded places number := by
    have zeros : width - (Nat.toDigits 10 number).length =
        places - (Nat.toDigits 10 number).length := by omega
    rw [padded, padded, Text.padStart, Text.padStart, zeros]
  have known := row_padded (Nat.lt_of_lt_of_le some wide) small
  rw [← same] at known
  exact ⟨places, wide, known⟩

theorem spanDigits_row {width : Nat} {digits : List Char} (row : Row width digits)
    {next : Char} (other : isDigit next = false) (rest : List Char) :
    spanDigits (digits ++ next :: rest) = (digits, next :: rest) := by
  have stop : ¬ isDigit next = true := by
    rw [other]
    decide
  rw [spanDigits, List.span_eq_takeWhile_dropWhile, List.takeWhile_append_of_pos row.all,
    List.dropWhile_append_of_pos row.all, List.takeWhile_cons_of_neg stop,
    List.dropWhile_cons_of_neg stop, List.append_nil]

theorem skipBlanks_row {width : Nat} {digits : List Char} (row : Row width digits)
    (some : 0 < width) (rest : List Char) : Text.skipBlanks (digits ++ rest) = digits ++ rest := by
  obtain ⟨rfl, all⟩ := row
  obtain ⟨first, others, rfl⟩ := List.exists_cons_of_length_pos some
  have visible := not_isBlank_of_isDigit (all first List.mem_cons_self)
  rw [Text.skipBlanks, List.cons_append, List.dropWhile_cons, if_neg (by rw [visible]; decide)]

/-- A text that neither begins nor ends with a blank has none at its ends. -/
theorem trimChars_concat {front : List Char} {last : Char}
    (begun : Text.skipBlanks (front ++ [last]) = front ++ [last])
    (visible : Text.isBlank last = false) : Text.trimChars (front ++ [last]) = front ++ [last] := by
  have stop : ¬ Text.isBlank last = true := by
    rw [visible]
    decide
  rw [Text.trimChars, begun, Text.dropTrailingBlanks, List.reverse_concat]
  change (List.dropWhile Text.isBlank (last :: front.reverse)).reverse = _
  rw [List.dropWhile_cons_of_neg stop, List.reverse_cons, List.reverse_reverse]

/-- A text that begins with no blank and ends in a row of digits has no blanks at its ends. -/
theorem trimChars_behind {after : Nat} {front back : List Char}
    (begun : Text.skipBlanks (front ++ back) = front ++ back) (last : Row after back)
    (some : 0 < after) : Text.trimChars (front ++ back) = front ++ back := by
  obtain ⟨others, digit, rfl, isDigit⟩ := last.exists_last some
  rw [← List.append_assoc] at begun ⊢
  exact trimChars_concat begun (not_isBlank_of_isDigit isDigit)

/-- A text between two rows of digits has no blanks at its ends. -/
theorem trimChars_between {before after : Nat} {front back : List Char} (first : Row before front)
    (last : Row after back) (some : 0 < before) (other : 0 < after) (middle : List Char) :
    Text.trimChars (front ++ middle ++ back) = front ++ middle ++ back := by
  have begun : Text.skipBlanks (front ++ middle ++ back) = front ++ middle ++ back := by
    rw [List.append_assoc, skipBlanks_row first some]
  exact trimChars_behind begun last other

namespace Read

variable {α β : Type}

/-- What follows a reader goes on with what it leaves. -/
theorem bind_of_some {read : Read α} {next : α → Read β} {text rest : List Char} {value : α}
    (reads : read text = some (value, rest)) : (read >>= next) text = next value rest := by
  change (read text >>= fun result => next result.1 result.2) = _
  rw [reads]
  rfl

theorem upTo_row {width : Nat} {digits : List Char} (row : Row width digits) (some : 0 < width)
    (rest : List Char) : upTo width (digits ++ rest) = .some (ofDigits digits, rest) := by
  have front : ((digits ++ rest).take width).takeWhile isDigit = digits := by
    rw [List.take_left' row.length, List.takeWhile_eq_self_iff]
    exact row.all
  have present : digits.isEmpty = false := by
    rw [List.isEmpty_eq_false_iff, ← List.length_pos_iff, row.length]
    exact some
  change (if (((Text.skipBlanks (digits ++ rest)).take width).takeWhile isDigit).isEmpty then _
    else _ : Read Nat) _ = _
  rw [skipBlanks_row row some, front, present]
  change Option.some (ofDigits digits, (digits ++ rest).drop digits.length) = _
  rw [List.drop_left]

theorem exactly_row {width : Nat} {digits : List Char} (row : Row width digits)
    (rest : List Char) : exactly width (digits ++ rest) = some (ofDigits digits, rest) := by
  have front : (digits ++ rest).take width = digits := List.take_left' row.length
  have full : (decide (digits.length = width) && digits.all isDigit) = true := by
    rw [Bool.and_eq_true, decide_eq_true_eq, List.all_eq_true]
    exact ⟨row.length, row.all⟩
  change (if decide (((digits ++ rest).take width).length = width) &&
    ((digits ++ rest).take width).all isDigit then _ else _ : Read Nat) _ = _
  rw [front, if_pos full]
  change some (ofDigits digits, (digits ++ rest).drop width) = _
  rw [List.drop_left' row.length]

/-- A row of digits is a number of at most as many digits or more, if no digit follows. -/
theorem upTo_row_before {width limit : Nat} {digits : List Char} (row : Row width digits)
    (some : 0 < width) (few : width ≤ limit) {next : Char} (other : isDigit next = false)
    (rest : List Char) :
    upTo limit (digits ++ next :: rest) = .some (ofDigits digits, next :: rest) := by
  have stop : ¬ isDigit next = true := by
    rw [other]
    decide
  obtain ⟨more, rfl⟩ := Nat.exists_eq_add_of_le few
  have front : ((digits ++ next :: rest).take (width + more)).takeWhile isDigit = digits := by
    rw [← row.length, List.take_length_add_append, List.takeWhile_append_of_pos row.all]
    cases more with
    | zero => rw [List.take_zero, List.takeWhile_nil, List.append_nil]
    | succ more => rw [List.take_succ_cons, List.takeWhile_cons_of_neg stop, List.append_nil]
  have present : digits.isEmpty = false := by
    rw [List.isEmpty_eq_false_iff, ← List.length_pos_iff, row.length]
    exact some
  change (if (((Text.skipBlanks (digits ++ next :: rest)).take (width + more)).takeWhile
    isDigit).isEmpty then _ else _ : Read Nat) _ = _
  rw [skipBlanks_row row some, front, present]
  change Option.some (ofDigits digits, (digits ++ next :: rest).drop digits.length) = _
  rw [List.drop_left]

/-- A year that begins with a digit is a number of four digits at most. -/
theorem year_digits {width : Nat} {digits rest behind : List Char} {number : Nat}
    (row : Row width digits) (some : 0 < width)
    (reads : upTo 4 (digits ++ rest) = .some (number, behind)) :
    year (digits ++ rest) = .some ((number : Int), behind) := by
  have blanks := skipBlanks_row row some rest
  have present : 0 < digits.length := by
    rw [row.length]
    exact some
  obtain ⟨first, others, rfl⟩ := List.exists_cons_of_length_pos present
  have digit := row.all first List.mem_cons_self
  have skipped : (modify Text.skipBlanks : Read PUnit) (first :: others ++ rest) =
      .some (PUnit.unit, first :: others ++ rest) :=
    congrArg (fun text => Option.some (PUnit.unit, text)) blanks
  refine Eq.trans (bind_of_some skipped) (Eq.trans (bind_of_some rfl) ?_)
  -- None of the ten digits is a sign.
  obtain ⟨low, high⟩ := isDigit_iff.mp digit
  have same := Char.ofNat_toNat first
  generalize first.toNat = code at *
  subst same
  interval_cases code <;> exact bind_of_some reads

/-- A row of four digits is a year without a sign. -/
theorem year_row {digits : List Char} (row : Row 4 digits) (rest : List Char) :
    year (digits ++ rest) = some ((ofDigits digits : Int), rest) :=
  year_digits row (by decide) (upTo_row row (by decide) rest)

/-- A sign and a row of digits are a year. -/
theorem year_signed {sign : Char} (signed : sign = '+' ∨ sign = '-') {width : Nat}
    {digits : List Char} (row : Row width digits) (some : 0 < width) {next : Char}
    (other : isDigit next = false) (rest : List Char) :
    year (sign :: (digits ++ next :: rest)) =
      .some (Decimal.signed (sign = '-') (ofDigits digits), next :: rest) := by
  have present : digits.isEmpty = false := by
    rw [List.isEmpty_eq_false_iff, ← List.length_pos_iff, row.length]
    exact some
  have digitsRead : ∀ negative, year.signedDigits negative (digits ++ next :: rest) =
      .some (Decimal.signed negative (ofDigits digits), next :: rest) := by
    intro negative
    change (if (spanDigits (digits ++ next :: rest)).1.isEmpty then failure else
      return Decimal.signed negative (ofDigits (spanDigits (digits ++ next :: rest)).1) : Read Int)
      (spanDigits (digits ++ next :: rest)).2 = _
    rw [spanDigits_row row other rest, present]
    rfl
  rcases signed with rfl | rfl
  · exact Eq.trans (bind_of_some rfl) (Eq.trans (bind_of_some rfl) (digitsRead false))
  · exact Eq.trans (bind_of_some rfl) (Eq.trans (bind_of_some rfl) (digitsRead true))

/-- A character that is there is read. -/
theorem literal_cons (character : Char) (rest : List Char) :
    literal character (character :: rest) = some ((), rest) := by
  rw [literal, if_pos rfl]

end Read

end DashboardFilters.Calendar
