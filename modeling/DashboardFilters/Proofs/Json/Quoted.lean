import DashboardFilters.Proofs.Json.Scans

/-!
Printed strings as they are scanned. A scan takes the front of a text: it yields a value and leaves
the rest, wherever the text stands. Every character of a string is taken as it is printed, escapes
included.
-/

namespace DashboardFilters.Json

namespace Scan

variable {α β : Type}

/-- Whether a scan yields a value from a text and leaves the rest of it. -/
def Takes (scan : Scan α) (budget : Nat) (text : List Char) (value : α) (rest : List Char) : Prop :=
  ∀ cursor : Cursor, cursor.rest = text →
    ∃ left : Cursor, scan budget cursor = (.ok value, left) ∧ left.rest = rest

variable {budget : Nat} {text middle rest : List Char}

theorem takes_pure (value : α) (text : List Char) : Takes (pure value) budget text value text :=
  fun cursor same => ⟨cursor, rfl, same⟩

/-- A step that follows a scan goes on with what the scan leaves. -/
theorem takes_bind {scan : Scan α} {next : α → Scan β} {value : α} {result : β}
    (first : Takes scan budget text value middle)
    (second : Takes (next value) budget middle result rest) :
    Takes (scan >>= next) budget text result rest := by
  intro cursor same
  obtain ⟨between, yields, left⟩ := first cursor same
  rw [bind_apply, yields]
  exact second between left

/-- What follows a look at the cursor may depend on the text that is there. -/
theorem takes_get {next : Cursor → Scan β} {result : β}
    (continues : ∀ cursor : Cursor, cursor.rest = text →
      Takes (next cursor) budget text result rest) :
    Takes (get >>= next) budget text result rest := by
  intro cursor same
  rw [bind_apply]
  exact continues cursor same cursor same

theorem takes_peek (text : List Char) : Takes peek budget text text.head? text := by
  rintro cursor rfl
  exact ⟨cursor, rfl, rfl⟩

theorem takes_skip (character : Char) (rest : List Char) :
    Takes skip budget (character :: rest) () rest := by
  intro cursor same
  refine ⟨cursor.next, rfl, ?_⟩
  unfold Cursor.next
  rw [same]
  split
  next => contradiction
  next following => rw [(List.cons.inj following).2]
  next following => rw [(List.cons.inj following).2]

/-- No blanks stand in front of a character that shows. -/
theorem takes_peekToken {character : Char} (shows : isBlank character = false) (rest : List Char) :
    Takes peekToken budget (character :: rest) (some character) (character :: rest) := by
  have none (cursor : Cursor) (same : cursor.rest = character :: rest) :
      cursor.dropWhile isBlank = cursor := by
    rw [Cursor.dropWhile, same, List.takeWhile_cons_of_neg (by rw [shows]; decide)]
    rfl
  have stays : Takes blanks budget (character :: rest) () (character :: rest) := by
    intro cursor same
    exact ⟨cursor, congrArg (Prod.mk (Except.ok ())) (none cursor same), same⟩
  exact takes_bind stays (takes_peek (character :: rest))

section Strings

/-- How a character is printed: as itself, with one letter behind a backslash, or by number. -/
inductive Printed (character : Char) : Prop
  | plain (same : escapedChar character = [character]) (quote : character ≠ '"')
      (backslash : character ≠ '\\') (shows : ¬ character.toNat < 0x20)
  | short (letter : Char) (same : escapedChar character = ['\\', letter]) (other : letter ≠ 'u')
      (known : shortEscape? letter = some character)
  | numbered (digits : List Char) (same : escapedChar character = '\\' :: 'u' :: digits)
      (four : digits.length = 4) (known : ofHex? digits = some character.toNat)
      (control : character.toNat < 0x20)

/-- A control is printed with one letter or by number. -/
theorem printed_control : ∀ code < 0x20,
    (['b', 'f', 'n', 'r', 't'].any fun letter => escapedChar (Char.ofNat code) = ['\\', letter] ∧
      shortEscape? letter = some (Char.ofNat code)) = true ∨
    (escapedChar (Char.ofNat code)).take 2 = ['\\', 'u'] ∧
      ((escapedChar (Char.ofNat code)).drop 2).length = 4 ∧
      ofHex? ((escapedChar (Char.ofNat code)).drop 2) = some code := by
  decide

/-- Every character is printed in one of these ways. -/
theorem printed (character : Char) : Printed character := by
  by_cases control : character.toNat < 0x20
  · have known := printed_control character.toNat control
    simp only [Char.ofNat_toNat, List.any_eq_true, decide_eq_true_eq] at known
    rcases known with ⟨letter, listed, same, known⟩ | ⟨begins, four, known⟩
    · refine .short letter same ?_ known
      rintro rfl
      exact absurd listed (by decide)
    · refine .numbered ((escapedChar character).drop 2) ?_ four known control
      exact (List.take_append_drop 2 (escapedChar character)).symm.trans
        (congrArg (· ++ (escapedChar character).drop 2) begins)
  · by_cases quote : character = '"'
    · subst quote
      exact .short '"' rfl (by decide) rfl
    · by_cases backslash : character = '\\'
      · subst backslash
        exact .short '\\' rfl (by decide) rfl
      · refine .plain ?_ quote backslash control
        unfold escapedChar
        split
        case h_1 => exact absurd rfl quote
        case h_2 => exact absurd rfl backslash
        case h_8 => rw [if_neg control]
        all_goals exact absurd (by decide) control

/-- No character is printed as nothing. -/
theorem length_escapedChar_pos (character : Char) : 0 < (escapedChar character).length := by
  cases printed character with
  | plain same | short letter same | numbered digits same =>
      rw [same]
      exact Nat.succ_pos _

/-- A text has at least as many bytes as characters. -/
theorem length_le_size (text : List Char) (start : Nat) :
    start + text.length ≤ text.foldl (fun size character => size + character.utf8Size) start := by
  induction text generalizing start with
  | nil => exact Nat.le_refl _
  | cons character text ih =>
      have positive := character.utf8Size_pos
      have others := ih (start + character.utf8Size)
      rw [List.foldl_cons, List.length_cons]
      omega

theorem takes_hexUnit {digits : List Char} {unit : Nat} (four : digits.length = 4)
    (known : ofHex? digits = some unit) (rest : List Char) :
    Takes hexUnit budget (digits ++ rest) unit rest := by
  refine takes_get fun cursor same => ?_
  have enough : ¬ cursor.rest.foldl (fun size character => size + character.utf8Size) 0 < 4 := by
    have bytes := length_le_size cursor.rest 0
    rw [same, List.length_append] at bytes
    rw [same]
    omega
  have front : cursor.rest.take 4 = digits := by
    rw [same]
    exact List.take_left' four
  dsimp only
  rw [if_neg enough, front, known]
  match digits, four with
  | [first, second, third, fourth], _ =>
      exact takes_bind (takes_skip first _) (takes_bind (takes_skip second _)
        (takes_bind (takes_skip third _) (takes_bind (takes_skip fourth _) (takes_pure unit rest))))

/-- A character of a string is taken as it is printed. -/
theorem takes_escapedChar (character : Char) {fuel : Nat} {others : List Char}
    (continues : Takes (stringWithin fuel) budget middle others rest) :
    Takes (stringWithin (fuel + 1)) budget (escapedChar character ++ middle) (character :: others)
      rest := by
  have adds : Takes (do return character :: (← stringWithin fuel) : Scan (List Char)) budget middle
      (character :: others) rest := takes_bind continues (takes_pure _ rest)
  cases printed character with
  | plain same quote backslash shows =>
      rw [same, List.singleton_append]
      refine takes_bind (takes_peek _) ?_
      rw [List.head?_cons]
      split
      next none => cases none
      next found => exact absurd (Option.some.inj found) quote
      next found => exact absurd (Option.some.inj found) backslash
      next found =>
        cases found
        rw [if_neg shows]
        exact takes_bind (takes_skip character middle) adds
  | short letter same other known =>
      rw [same, List.cons_append, List.singleton_append]
      refine takes_bind (takes_peek _) (takes_bind (takes_skip '\\' _) (takes_bind ?_ adds))
      refine takes_bind (takes_peek _) ?_
      rw [List.head?_cons]
      split
      next none => cases none
      next found => exact absurd (Option.some.inj found) other
      next found =>
        cases found
        rw [known]
        exact takes_bind (takes_skip letter middle) (takes_pure character middle)
  | numbered digits same four known control =>
      have low : ¬ (decide (0xDC00 ≤ character.toNat) &&
          decide (character.toNat ≤ 0xDFFF)) = true := by
        rw [Bool.and_eq_true, decide_eq_true_eq, decide_eq_true_eq]
        omega
      have high : ¬ (decide (0xD800 ≤ character.toNat) &&
          decide (character.toNat ≤ 0xDBFF)) = true := by
        rw [Bool.and_eq_true, decide_eq_true_eq, decide_eq_true_eq]
        omega
      rw [same, List.cons_append, List.cons_append]
      refine takes_bind (takes_peek _) (takes_bind (takes_skip '\\' _) (takes_bind ?_ adds))
      refine takes_bind (takes_peek _) (takes_bind (takes_skip 'u' _) ?_)
      refine takes_bind (takes_hexUnit four known middle) ?_
      rw [if_neg low, if_neg high, Char.ofNat_toNat]
      exact takes_pure character middle

/-- The characters of a string are taken up to its closing quote. -/
theorem takes_stringWithin (characters : List Char) {fuel : Nat} (enough : characters.length < fuel)
    (rest : List Char) : Takes (stringWithin fuel) budget
      (characters.flatMap escapedChar ++ '"' :: rest) characters rest := by
  induction characters generalizing fuel with
  | nil =>
      obtain ⟨fuel, rfl⟩ := Nat.exists_eq_succ_of_ne_zero (Nat.ne_of_gt enough)
      exact takes_bind (takes_peek _) (takes_bind (takes_skip '"' rest) (takes_pure [] rest))
  | cons character characters ih =>
      obtain ⟨fuel, rfl⟩ := Nat.exists_eq_succ_of_ne_zero (Nat.ne_zero_of_lt enough)
      rw [List.flatMap_cons, List.append_assoc]
      exact takes_escapedChar character (ih (Nat.lt_of_succ_lt_succ enough))

theorem length_le_flatMap (characters : List Char) :
    characters.length ≤ (characters.flatMap escapedChar).length := by
  induction characters with
  | nil => exact Nat.le_refl 0
  | cons character characters ih =>
      have some := length_escapedChar_pos character
      rw [List.flatMap_cons, List.length_append, List.length_cons]
      omega

theorem toList_stringText (text : String) (rest : List Char) : (stringText text).toList ++ rest =
    '"' :: (text.toList.flatMap escapedChar ++ '"' :: rest) := by
  rw [stringText, String.toList_ofList]
  simp only [List.append_assoc, List.cons_append, List.nil_append]

/-- A string is taken from behind its opening quote. -/
theorem takes_string (text : String) (rest : List Char) : Takes string budget
    (text.toList.flatMap escapedChar ++ '"' :: rest) text rest := by
  refine takes_get fun cursor same => ?_
  have enough : text.toList.length < cursor.rest.length + 1 := by
    have printed := length_le_flatMap text.toList
    rw [same, List.length_append]
    omega
  refine takes_bind (takes_stringWithin text.toList enough rest) ?_
  rw [String.ofList_toList]
  exact takes_pure text rest

/-- The key of a member is taken as it is printed. -/
theorem takes_key (name : String) (rest : List Char) :
    Takes key budget ((stringText name).toList ++ rest) name rest := by
  rw [toList_stringText]
  exact takes_bind (takes_skip '"' _) (takes_string name rest)

end Strings

end Scan

end DashboardFilters.Json
