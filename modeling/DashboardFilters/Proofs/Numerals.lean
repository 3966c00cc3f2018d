import DashboardFilters.Decimal.Reader
import DashboardFilters.Proofs.Digits
import DashboardFilters.Proofs.Items

namespace DashboardFilters.Decimal

open Calendar (padded exists_row_padded)

variable {width : Nat} {digits : List Char}

/-- The sign of a numeral, and whether it is a minus. -/
inductive SignMark : List Char → Bool → Prop where
  | absent : SignMark [] false
  | plus : SignMark ['+'] false
  | minus : SignMark ['-'] true

/-- Every text has a sign, be it the absent one. -/
theorem exists_signMark {text body : List Char} {negative : Bool}
    (split : splitSign text = (negative, body)) :
    ∃ sign, SignMark sign negative ∧ text = sign ++ body := by
  unfold splitSign at split
  split at split
  next rest =>
    cases split
    exact ⟨['-'], .minus, rfl⟩
  next rest =>
    cases split
    exact ⟨['+'], .plus, rfl⟩
  next =>
    cases split
    exact ⟨[], .absent, rfl⟩

/-- A sign is split off what begins with something else. -/
theorem SignMark.splitSign {sign body : List Char} {negative : Bool} (mark : SignMark sign negative)
    (begins : Char → Prop) (leads : ∀ first ∈ body.head?, begins first) (minus : ¬begins '-')
    (plus : ¬begins '+') : splitSign (sign ++ body) = (negative, body) := by
  cases mark with
  | plus => rfl
  | minus => rfl
  | absent =>
      unfold Decimal.splitSign
      split
      next rest whole =>
        rw [List.nil_append] at whole
        exact absurd (leads '-' (whole ▸ rfl)) minus
      next rest whole =>
        rw [List.nil_append] at whole
        exact absurd (leads '+' (whole ▸ rfl)) plus
      next => rfl

/-- A whole number: digits behind a sign. -/
inductive Whole : List Char → Int → Prop where
  | marked {sign digits : List Char} {negative : Bool} {width : Nat} (mark : SignMark sign negative)
      (row : Row width digits) (some : 0 < width) :
      Whole (sign ++ digits) (signed negative (ofDigits digits))

/-- What is read as a whole number is one. -/
theorem integer?_eq_some_iff {text : List Char} {number : Int} :
    integer? text = some number ↔ Whole text number := by
  constructor
  · intro read
    obtain ⟨negative, digits, known⟩ : ∃ negative digits, splitSign text = (negative, digits) :=
      ⟨_, _, rfl⟩
    obtain ⟨sign, mark, rfl⟩ := exists_signMark known
    rw [integer?, known] at read
    dsimp only at read
    split at read
    next => cases read
    next digital =>
      cases read
      rw [Bool.or_eq_true, not_or, Bool.not_eq_true, Bool.not_eq_true', Bool.not_eq_false,
        List.isEmpty_eq_false_iff, ← List.length_pos_iff] at digital
      exact .marked mark ⟨rfl, List.all_eq_true.mp digital.2⟩ digital.1
  · rintro @⟨sign, digits, negative, width, mark, row, some⟩
    have split : splitSign (sign ++ digits) = (negative, digits) :=
      mark.splitSign (fun first => isDigit first = true)
        (fun first leads => row.all first (List.mem_of_mem_head? leads)) (by decide) (by decide)
    have present : digits.isEmpty = false := by
      rw [List.isEmpty_eq_false_iff, ← List.length_pos_iff, row.length]
      exact some
    have known : digits.all isDigit = true := List.all_eq_true.mpr row.all
    rw [integer?, split]
    simp only [present, known, Bool.not_true, Bool.or_false, Bool.false_eq_true, if_false]

/-- A number is written as a row of digits, which stands for it. -/
theorem exists_row_repr (number : Nat) : ∃ places, 0 < places ∧
    Row places number.repr.toList ∧ ofDigits number.repr.toList = number := by
  obtain ⟨places, wide, row, stands⟩ := exists_row_padded 1 number Nat.one_pos
  have plain : padded 1 number = number.repr.toList := by
    have some : 1 - (Nat.toDigits 10 number).length = 0 :=
      Nat.sub_eq_zero_of_le (Nat.length_toDigits_pos)
    rw [padded, Text.padStart, some, Nat.repr_eq_ofList_toDigits, String.toList_ofList]
    rfl
  rw [plain] at row stands
  exact ⟨places, wide, row, stands⟩

/-- A whole number is tidy: it has no blank and no comma. -/
theorem Whole.tidy {text : String} {number : Int} (whole : Whole text.toList number) :
    Text.Tidy text := by
  generalize written : text.toList = characters at whole
  obtain @⟨sign, digits, negative, width, mark, row, some⟩ := whole
  have shown : ∀ character ∈ text.toList, character ≠ ',' ∧ Text.isBlank character = false := by
    intro character inside
    rw [written, List.mem_append] at inside
    rcases inside with inSign | inDigits
    · cases mark with
      | absent => exact absurd inSign List.not_mem_nil
      | plus | minus =>
          rw [List.mem_singleton.mp inSign]
          decide
    · have digit := row.all character inDigits
      refine ⟨?_, not_isBlank_of_isDigit digit⟩
      rintro rfl
      exact absurd digit (by decide)
  refine ⟨?_, fun comma => (shown ',' comma).1 rfl, ?_, ?_⟩
  · rintro rfl
    have none : sign ++ digits = [] := written.symm
    rw [(List.append_eq_nil_iff.mp none).2] at row
    exact absurd row.length (Nat.ne_of_lt some)
  · exact fun first found => (shown first (List.mem_of_head? found)).2
  · exact fun last found => (shown last (List.mem_of_getLast? found)).2

/-- A whole number is written as one. -/
theorem whole_toString (number : Int) : Whole (toString number).toList number := by
  cases number with
  | ofNat number =>
      obtain ⟨places, some, row, stands⟩ := exists_row_repr number
      have whole := Whole.marked .absent row some
      rw [stands] at whole
      exact whole
  | negSucc number =>
      obtain ⟨places, some, row, stands⟩ := exists_row_repr number.succ
      have written : (toString (Int.negSucc number)).toList = ['-'] ++ number.succ.repr.toList :=
        String.toList_append
      have whole := Whole.marked .minus row some
      rw [stands, ← written] at whole
      exact whole

inductive ExponentMark : List Char → Int → Prop where
  | absent : ExponentMark [] 0
  | small {text : List Char} {power : Int} (whole : Whole text power) :
      ExponentMark ('e' :: text) power
  | capital {text : List Char} {power : Int} (whole : Whole text power) :
      ExponentMark ('E' :: text) power

theorem exponent?_eq_some_iff {text : List Char} {power : Int} :
    exponent? text = some power ↔ ExponentMark text power := by
  constructor
  · intro read
    unfold exponent? at read
    split at read
    next =>
      cases read
      exact .absent
    next rest => exact .small (integer?_eq_some_iff.mp read)
    next rest => exact .capital (integer?_eq_some_iff.mp read)
    next => cases read
  · intro mark
    cases mark with
    | absent => rfl
    | small whole => exact integer?_eq_some_iff.mpr whole
    | capital whole => exact integer?_eq_some_iff.mpr whole

/-- The digits of a numeral with a point among them or not: the number that they stand for without
the point, and how many of them stand behind it. -/
inductive Figures : List Char → Nat → Nat → Prop where
  | whole {width : Nat} {digits : List Char} (row : Row width digits) (some : 0 < width) :
      Figures digits (ofDigits digits) 0
  | pointed {width places : Nat} {front back : List Char} (row : Row width front)
      (fraction : Row places back) (some : 0 < width + places) :
      Figures (front ++ '.' :: back) (ofDigits (front ++ back)) places

/-- A numeral without a sign. -/
inductive Magnitude : List Char → Nat → Int → Prop where
  | scaled {front back : List Char} {count places : Nat} {power : Int}
      (figures : Figures front count places) (exponent : ExponentMark back power) :
      Magnitude (front ++ back) count (power - places)

theorem Row.spanDigits {back : List Char} (row : Row width digits)
    (ends : ∀ next ∈ back.head?, isDigit next = false) :
    spanDigits (digits ++ back) = (digits, back) := by
  cases back with
  | nil =>
      have all := List.takeWhile_eq_self_iff.mpr row.all
      have none := List.dropWhile_eq_nil_iff.mpr row.all
      rw [List.append_nil, Decimal.spanDigits, List.span_eq_takeWhile_dropWhile, all, none]
  | cons next rest => exact Calendar.spanDigits_row row (ends next rfl) rest

theorem ExponentMark.head?_of_mem {text : List Char} {power : Int} (mark : ExponentMark text power)
    {first : Char} (leads : first ∈ text.head?) : first = 'e' ∨ first = 'E' := by
  cases mark with
  | absent => cases leads
  | small => exact .inl (Option.some.inj leads).symm
  | capital => exact .inr (Option.some.inj leads).symm

/-- The leading digits of a text. -/
theorem exists_row (text : List Char) : ∃ width digits rest, text = digits ++ rest ∧
    Row width digits ∧ ∀ next ∈ rest.head?, isDigit next = false := by
  refine ⟨_, text.takeWhile isDigit, text.dropWhile isDigit,
    (List.takeWhile_append_dropWhile).symm, ⟨rfl, fun _ => List.mem_takeWhile_imp⟩, ?_⟩
  intro next leads
  have stops := List.head?_dropWhile_not isDigit text
  rw [leads] at stops
  exact stops

theorem Row.isEmpty (row : Row width digits) : digits.isEmpty = decide (width = 0) := by
  rw [Bool.eq_iff_iff, List.isEmpty_iff, decide_eq_true_eq, ← row.length, List.length_eq_zero_iff]

section

variable {places : Nat} {front back rest : List Char}

/-- The digits around a point are read up to the exponent. -/
theorem decimal?_pointed (row : Row width front) (fraction : Row places back)
    (ends : ∀ next ∈ rest.head?, isDigit next = false) :
    decimal? (front ++ '.' :: (back ++ rest)) = if width + places = 0 then none else
      (exponent? rest).map fun power => (ofDigits (front ++ back), power - (places : Int)) := by
  have point : ∀ next ∈ ('.' :: (back ++ rest)).head?, isDigit next = false := by
    rintro next ⟨⟩
    decide
  simp only [decimal?, row.spanDigits point, fraction.spanDigits ends, row.isEmpty,
    fraction.isEmpty, fraction.length, ← Bool.decide_and, decide_eq_true_eq, Nat.add_eq_zero_iff]

/-- Digits without a point are read up to the exponent. -/
theorem decimal?_whole (row : Row width front)
    (ends : ∀ next ∈ rest.head?, isDigit next = false ∧ next ≠ '.') :
    decimal? (front ++ rest) = if width = 0 then none else
      (exponent? rest).map fun power => (ofDigits front, power - ((0 : Nat) : Int)) := by
  rw [decimal?, row.spanDigits fun next leads => (ends next leads).1]
  dsimp only
  split
  next after => exact absurd rfl (ends '.' rfl).2
  next =>
    simp only [row.isEmpty, List.isEmpty_nil, Bool.and_true, decide_eq_true_eq, List.append_nil,
      List.length_nil]

theorem scaled_eq_some_iff {number count : Nat} {exponent : Int} :
    (if width = 0 then none else
      (exponent? rest).map fun power => (number, power - (places : Int))) = some (count, exponent) ↔
        0 < width ∧ number = count ∧
          ∃ power, ExponentMark rest power ∧ power - places = exponent := by
  rcases Nat.eq_zero_or_pos width with rfl | some
  · exact iff_of_false nofun fun both => Nat.lt_irrefl 0 both.1
  · rw [if_neg (Nat.ne_of_gt some), Option.map_eq_some_iff]
    simp only [Prod.mk.injEq, exponent?_eq_some_iff]
    constructor
    · rintro ⟨power, mark, same, reached⟩
      exact ⟨some, same, power, mark, reached⟩
    · rintro ⟨_, same, power, mark, reached⟩
      exact ⟨power, mark, same, reached⟩

/-- What is read as a decimal is a numeral without a sign. -/
theorem decimal?_eq_some_iff {text : List Char} {count : Nat} {exponent : Int} :
    decimal? text = some (count, exponent) ↔ Magnitude text count exponent := by
  constructor
  · intro read
    obtain ⟨width, front, rest, rfl, row, ends⟩ := exists_row text
    by_cases point : '.' ∈ rest.head?
    · obtain ⟨after, rfl⟩ := List.head?_eq_some_iff.mp point
      obtain ⟨places, back, rest, rfl, fraction, endsToo⟩ := exists_row after
      rw [decimal?_pointed row fraction endsToo, scaled_eq_some_iff] at read
      obtain ⟨some, rfl, power, mark, rfl⟩ := read
      rw [← List.cons_append, ← List.append_assoc]
      exact .scaled (.pointed row fraction some) mark
    · rw [decimal?_whole row fun next leads =>
        ⟨ends next leads, fun dot => point (dot ▸ leads)⟩, scaled_eq_some_iff] at read
      obtain ⟨some, rfl, power, mark, rfl⟩ := read
      exact .scaled (.whole row some) mark
  · rintro ⟨figures, mark⟩
    have letter {next : Char} (other : next = 'e' ∨ next = 'E') :
        isDigit next = false ∧ next ≠ '.' := by
      rcases other with rfl | rfl <;> decide
    cases figures with
    | whole row some =>
        rw [decimal?_whole row fun next leads => letter (mark.head?_of_mem leads),
          scaled_eq_some_iff]
        exact ⟨some, rfl, _, mark, rfl⟩
    | pointed row fraction some =>
        rw [List.append_assoc, List.cons_append, decimal?_pointed row fraction fun next leads =>
          (letter (mark.head?_of_mem leads)).1, scaled_eq_some_iff]
        exact ⟨some, rfl, _, mark, rfl⟩

end

/-- A numeral: whether it has a minus, the number that its digits stand for and the power of ten by
which that is multiplied. -/
inductive Numeral : List Char → Bool → Nat → Int → Prop where
  | marked {sign body : List Char} {negative : Bool} {count : Nat} {exponent : Int}
      (mark : SignMark sign negative) (magnitude : Magnitude body count exponent) :
      Numeral (sign ++ body) negative count exponent

/-- A word for infinity or for no number, in capital or small letters. -/
inductive Word : List Char → Prop where
  | marked {sign body : List Char} {negative : Bool} (mark : SignMark sign negative)
      (word : body.map Char.toLower ∈ ["inf".toList, "infinity".toList, "nan".toList]) :
      Word (sign ++ body)

/-- A numeral without a sign begins with a digit or with its point. -/
theorem Magnitude.exists_first {text : List Char} {count : Nat} {exponent : Int}
    (magnitude : Magnitude text count exponent) :
    ∃ first rest, text = first :: rest ∧ (isDigit first = true ∨ first = '.') := by
  have leads {width : Nat} {digits : List Char} (row : Row width digits) (some : digits ≠ [])
      (back : List Char) : ∃ first rest, digits ++ back = first :: rest ∧
        (isDigit first = true ∨ first = '.') := by
    obtain ⟨first, rest, rfl⟩ := List.exists_cons_of_ne_nil some
    exact ⟨first, rest ++ back, rfl, .inl (row.all first List.mem_cons_self)⟩
  obtain ⟨figures, mark⟩ := magnitude
  cases figures with
  | whole row some =>
      refine leads row ?_ _
      rintro rfl
      exact absurd row.length (Nat.ne_of_lt some)
  | @pointed width places front back row fraction some =>
      rw [List.append_assoc]
      by_cases none : front = []
      · subst none
        exact ⟨'.', _, rfl, .inr rfl⟩
      · exact leads row none _

/-- No letter begins a numeral. -/
theorem toLower_of_isDigit {first : Char} (figure : isDigit first = true ∨ first = '.') :
    first.toLower = first := by
  rcases figure with digit | rfl
  · obtain ⟨low, high⟩ := isDigit_iff.mp digit
    have same := Char.ofNat_toNat first
    generalize first.toNat = code at *
    subst same
    interval_cases code <;> rfl
  · rfl

/-- A word begins with one of two letters. -/
theorem exists_first_of_word {body : List Char}
    (word : body.map Char.toLower ∈ ["inf".toList, "infinity".toList, "nan".toList]) :
    ∃ first rest, body = first :: rest ∧ (first.toLower = 'i' ∨ first.toLower = 'n') := by
  cases body with
  | nil => exact absurd word (by decide)
  | cons first rest =>
      refine ⟨first, rest, rfl, ?_⟩
      simp only [List.mem_cons, List.not_mem_nil, or_false] at word
      rcases word with word | word | word
      · exact .inl (List.cons.inj word).1
      · exact .inl (List.cons.inj word).1
      · exact .inr (List.cons.inj word).1

section

variable {text : List Char}

/-- What is behind the sign is a word, or else the digits of a number. -/
theorem float?_of_splitSign {negative : Bool} {body : List Char}
    (split : splitSign text = (negative, body)) : float? text =
      if body.map Char.toLower = "inf".toList ∨ body.map Char.toLower = "infinity".toList then
        some (if negative then -1 / 0 else 1 / 0)
      else if body.map Char.toLower = "nan".toList then some (0 / 0)
      else (decimal? body).map fun scaled => nearest negative scaled.1 scaled.2 := by
  rw [float?, split]
  simp only [Bool.or_eq_true, decide_eq_true_eq]

/-- A numeral is read as the double nearest to it. -/
theorem float?_of_numeral {negative : Bool} {count : Nat} {exponent : Int}
    (numeral : Numeral text negative count exponent) :
    float? text = some (nearest negative count exponent) := by
  obtain ⟨mark, magnitude⟩ := numeral
  obtain ⟨first, rest, rfl, figure⟩ := magnitude.exists_first
  have leads : ∀ other ∈ (first :: rest).head?, isDigit other = true ∨ other = '.' := by
    rintro other ⟨⟩
    exact figure
  have split := mark.splitSign _ leads (by decide) (by decide)
  have noWord : (first :: rest).map Char.toLower ∉
      ["inf".toList, "infinity".toList, "nan".toList] := by
    intro word
    obtain ⟨_, _, ⟨⟩, letter⟩ := exists_first_of_word word
    rw [toLower_of_isDigit figure] at letter
    rcases letter with rfl | rfl <;> exact absurd figure (by decide)
  simp only [List.mem_cons, List.not_mem_nil, or_false, not_or] at noWord
  rw [float?_of_splitSign split, if_neg (not_or.mpr ⟨noWord.1, noWord.2.1⟩),
    if_neg noWord.2.2, decimal?_eq_some_iff.mpr magnitude]
  rfl

/-- A word is read as a double that is not finite. -/
theorem float?_of_word (word : Word text) :
    ∃ double, float? text = some double ∧ double.isFinite = false := by
  obtain @⟨sign, body, negative, mark, word⟩ := word
  have split : splitSign (sign ++ body) = (negative, body) := by
    obtain ⟨first, rest, rfl, letter⟩ := exists_first_of_word word
    refine mark.splitSign (fun first => first.toLower = 'i' ∨ first.toLower = 'n') ?_ (by decide)
      (by decide)
    rintro other ⟨⟩
    exact letter
  simp only [List.mem_cons, List.not_mem_nil, or_false, ← or_assoc] at word
  rw [float?_of_splitSign split]
  split
  next =>
    refine ⟨_, rfl, ?_⟩
    cases negative <;> decide +kernel
  next other =>
    rw [if_pos (word.resolve_left other)]
    exact ⟨_, rfl, by decide +kernel⟩

/-- What is read as a double is a numeral or a word. -/
theorem numeral_or_word {double : Float} (read : float? text = some double) :
    (∃ negative count exponent, Numeral text negative count exponent ∧
      nearest negative count exponent = double) ∨ Word text := by
  obtain ⟨negative, body, known⟩ : ∃ negative body, splitSign text = (negative, body) :=
    ⟨_, _, rfl⟩
  obtain ⟨sign, mark, rfl⟩ := exists_signMark known
  rw [float?_of_splitSign known] at read
  split at read
  next word =>
    refine .inr (.marked mark ?_)
    rcases word with word | word
    all_goals
      rw [word]
      decide
  next =>
  split at read
  next word =>
    refine .inr (.marked mark ?_)
    rw [word]
    decide
  next =>
    obtain ⟨⟨count, exponent⟩, scaled, rfl⟩ := Option.map_eq_some_iff.mp read
    exact .inl ⟨negative, count, exponent, .marked mark (decimal?_eq_some_iff.mp scaled), rfl⟩

/-- A whole number is a numeral without a point and an exponent. -/
theorem Whole.exists_numeral {number : Int} (whole : Whole text number) :
    ∃ negative, Numeral text negative number.natAbs 0 := by
  obtain @⟨sign, digits, negative, width, mark, row, some⟩ := whole
  have same : (signed negative (ofDigits digits)).natAbs = ofDigits digits := by
    cases negative
    · rfl
    · exact Int.natAbs_neg _
  have magnitude : Magnitude (digits ++ []) (ofDigits digits) (0 - (0 : Nat)) :=
    .scaled (.whole row some) .absent
  rw [List.append_nil] at magnitude
  rw [same]
  exact ⟨negative, .marked mark magnitude⟩

end

end DashboardFilters.Decimal
