import DashboardFilters.Timezone
import DashboardFilters.Proofs.Calendar.Iso
import DashboardFilters.Proofs.Json.Printed
import DashboardFilters.Proofs.Json.Readers

namespace DashboardFilters.Text

/-- A small letter is 32 places behind its capital. -/
theorem toNat_toUpper (letter : Char) : letter.toUpper.toNat =
    if 97 ≤ letter.toNat ∧ letter.toNat ≤ 122 then letter.toNat - 32 else letter.toNat := by
  unfold Char.toUpper
  split
  next small =>
    have low : 97 ≤ letter.toNat := small.1
    have high : letter.toNat ≤ 122 := small.2
    have code : (letter.val + ('A'.val - 'a'.val)).toNat =
        (letter.toNat + 4294967264) % 4294967296 :=
      UInt32.toNat_add _ _
    rw [if_pos ⟨low, high⟩]
    change (letter.val + ('A'.val - 'a'.val)).toNat = _
    omega
  next other =>
    have kept : ¬ (97 ≤ letter.toNat ∧ letter.toNat ≤ 122) := other
    rw [if_neg kept]

/-- A capital is 32 places in front of its small letter. -/
theorem toNat_toLower {capital : Char} (low : 65 ≤ capital.toNat) (high : capital.toNat ≤ 90) :
    capital.toLower.toNat = capital.toNat + 32 := by
  have isCapital : capital.val ≥ 'A'.val ∧ capital.val ≤ 'Z'.val := ⟨low, high⟩
  have code : (capital.val + ('a'.val - 'A'.val)).toNat = (capital.toNat + 32) % 4294967296 :=
    UInt32.toNat_add _ _
  unfold Char.toLower
  rw [dif_pos isCapital]
  change (capital.val + ('a'.val - 'A'.val)).toNat = _
  omega

/-- A letter is made a capital from either case of it. -/
theorem toUpper_eq_iff {letter capital : Char} (low : 65 ≤ capital.toNat)
    (high : capital.toNat ≤ 90) :
    letter.toUpper = capital ↔ letter = capital ∨ letter = capital.toLower := by
  simp only [← Char.toNat_inj, toNat_toUpper, toNat_toLower low high]
  split <;> omega

/-- Whether each letter of a text is a capital of a name, or that capital made small. -/
def InAnyCase (text : List Char) (name : String) : Prop :=
  List.Forall₂ (fun letter capital => letter = capital ∨ letter = capital.toLower) text name.toList

/-- A text of either case is made the name in capitals. -/
theorem upperAscii_eq_iff {text : List Char} {name : String}
    (capitals : ∀ capital ∈ name.toList, 65 ≤ capital.toNat ∧ capital.toNat ≤ 90) :
    upperAscii (String.ofList text) = name ↔ InAnyCase text name := by
  have letters : ∀ (text name : List Char),
      (∀ capital ∈ name, 65 ≤ capital.toNat ∧ capital.toNat ≤ 90) →
      (text.map Char.toUpper = name ↔
        List.Forall₂ (fun letter capital => letter = capital ∨ letter = capital.toLower) text
          name) := by
    intro text
    induction text with
    | nil =>
        intro name _
        rw [List.map_nil, List.forall₂_nil_left_iff, eq_comm]
    | cons letter text ih =>
        rintro (_ | ⟨capital, name⟩) capitals
        · rw [List.forall₂_nil_right_iff, List.map_cons]
          exact iff_of_false (List.cons_ne_nil _ _) (List.cons_ne_nil _ _)
        · rw [List.forall_mem_cons] at capitals
          rw [List.map_cons, List.cons.injEq, List.forall₂_cons, ih name capitals.2,
            toUpper_eq_iff capitals.1.1 capitals.1.2]
  rw [upperAscii, String.toList_ofList, InAnyCase, ← letters text name.toList capitals]
  exact ⟨fun same => by rw [← same, String.toList_ofList], fun same => by
    rw [same, String.ofList_toList]⟩

end DashboardFilters.Text

namespace DashboardFilters.Timezone

open Calendar Decimal

/-- The hours and minutes behind a sign: one digit or two, and two more where the minutes are there,
with a colon in front of them or not. -/
inductive TellsClock : List Char → Nat → Nat → Prop
  | hours {width : Nat} {hours : List Char} (row : Row width hours) (few : width = 1 ∨ width = 2) :
      TellsClock hours (ofDigits hours) 0
  | minutes {width : Nat} {hours colon minutes : List Char} (row : Row width hours)
      (few : width = 1 ∨ width = 2) (between : colon = [] ∨ colon = [':'])
      (minuteRow : Row 2 minutes) :
      TellsClock (hours ++ colon ++ minutes) (ofDigits hours) (ofDigits minutes)

/-- The distances from UTC that texts spell, in seconds to the east: a name of UTC in any case, or
sign, hours and minutes behind a name in capitals or none. -/
inductive Spells : List Char → Int → Prop
  | name {text : List Char} {name : String} (known : name ∈ ["UTC", "Z", "GMT"])
      (written : Text.InAnyCase text name) : Spells text 0
  | figures {name : String} {sign : Char} {clock : List Char} {hours minutes : Nat}
      (known : name ∈ ["", "UTC", "GMT"]) (signed : sign = '+' ∨ sign = '-')
      (told : TellsClock clock hours minutes) (inDay : hours ≤ 23) (inHour : minutes ≤ 59) :
      Spells (name.toList ++ sign :: clock)
        (Decimal.signed (sign = '-') (hours * 3600 + minutes * 60))

/-- Hours and minutes of a day are less than a day. -/
theorem exists_ofSeconds? (negative : Bool) {hours minutes : Nat} (inDay : hours ≤ 23)
    (inHour : minutes ≤ 59) :
    ∃ timezone, ofSeconds? (Decimal.signed negative (hours * 3600 + minutes * 60)) =
      some timezone := by
  have within : -86400 < Decimal.signed negative (hours * 3600 + minutes * 60) ∧
      Decimal.signed negative (hours * 3600 + minutes * 60) < 86400 := by
    rw [Decimal.signed]
    split <;> omega
  exact ⟨_, dif_pos within⟩

/-- What a text spells is the distance of a timezone. -/
theorem Spells.exists_timezone {text : List Char} {seconds : Int} (spells : Spells text seconds) :
    ∃ timezone : Timezone, timezone.seconds = seconds := by
  cases spells with
  | name => exact ⟨utc, rfl⟩
  | @figures _ sign _ _ _ _ _ _ inDay inHour =>
      obtain ⟨timezone, known⟩ := exists_ofSeconds? (sign = '-') inDay inHour
      exact ⟨timezone, seconds_of_ofSeconds known⟩

section Clock

variable {clock hours minutes : List Char}

/-- Digits are none of them a colon. -/
theorem ne_colon {digits : List Char} (all : ∀ digit ∈ digits, isDigit digit = true) :
    ∀ digit ∈ digits, decide (digit ≠ ':') = true := by
  intro digit member
  rw [decide_eq_true_eq]
  rintro rfl
  exact absurd (all _ member) (by decide)

/-- Digits in front of a colon are the hours, and two behind it the minutes. -/
theorem splitClock?_colon (all : ∀ digit ∈ hours, isDigit digit = true)
    (two : minutes.length = 2) : splitClock? (hours ++ ':' :: minutes) = some (hours, minutes) := by
  have front : (hours ++ ':' :: minutes).span (· ≠ ':') = (hours, ':' :: minutes) := by
    rw [List.span_eq_takeWhile_dropWhile, List.takeWhile_append_of_pos (ne_colon all),
      List.dropWhile_append_of_pos (ne_colon all), List.takeWhile_cons_of_neg (by decide),
      List.dropWhile_cons_of_neg (by decide), List.append_nil]
  rw [splitClock?, front]
  exact if_pos two

/-- Digits have no colon among them. -/
theorem span_digits (all : ∀ digit ∈ clock, isDigit digit = true) :
    clock.span (· ≠ ':') = (clock, []) := by
  rw [List.span_eq_takeWhile_dropWhile, List.takeWhile_eq_self_iff.mpr (ne_colon all),
    List.dropWhile_eq_nil_iff.mpr (ne_colon all)]

/-- One digit or two are hours without minutes. -/
theorem splitClock?_hours {width : Nat} (row : Row width clock) (few : width = 1 ∨ width = 2) :
    splitClock? clock = some (clock, []) := by
  rw [splitClock?, span_digits row.all]
  dsimp only
  rw [row.length]
  rcases few with rfl | rfl <;> rfl

/-- The last two of three digits or four are the minutes. -/
theorem splitClock?_joined {width : Nat} (row : Row width hours) (few : width = 1 ∨ width = 2)
    (minuteRow : Row 2 minutes) : splitClock? (hours ++ minutes) = some (hours, minutes) := by
  have all := List.forall_mem_append.mpr ⟨row.all, minuteRow.all⟩
  have many : (hours ++ minutes).length = width + 2 := by
    rw [List.length_append, row.length, minuteRow.length]
  have front : (hours ++ minutes).take width = hours := List.take_left' row.length
  have back : (hours ++ minutes).drop width = minutes := List.drop_left' row.length
  rw [splitClock?, span_digits all]
  dsimp only
  rw [many]
  rcases few with rfl | rfl <;> exact congrArg some (Prod.ext front back)

/-- Hours and minutes that a clock is split into are told by it, if they are digits. -/
theorem tells_of_splitClock (splits : splitClock? clock = some (hours, minutes))
    (present : hours ≠ []) (few : hours.length ≤ 2)
    (all : ∀ digit ∈ hours ++ minutes, isDigit digit = true) :
    TellsClock clock (ofDigits hours) (ofDigits minutes) := by
  rw [List.forall_mem_append] at all
  have some : 0 < hours.length := List.length_pos_iff.mpr present
  have row : Row hours.length hours := ⟨rfl, all.1⟩
  have width : hours.length = 1 ∨ hours.length = 2 := by omega
  have whole : clock.takeWhile (· ≠ ':') ++ clock.dropWhile (· ≠ ':') = clock :=
    List.takeWhile_append_dropWhile
  unfold splitClock? at splits
  rw [List.span_eq_takeWhile_dropWhile] at splits
  split at splits
  next front back same =>
    rw [Prod.mk.injEq] at same
    split at splits
    next two =>
      cases splits
      rw [same.1, same.2] at whole
      have parted := TellsClock.minutes row width (.inr rfl) ⟨two, all.2⟩
      rwa [List.append_assoc, List.singleton_append, whole] at parted
    next => cases splits
  next front back unlike same =>
    rw [Prod.mk.injEq] at same
    -- Without a colon all characters stand in front of it.
    have none : clock.dropWhile (· ≠ ':') = [] := by
      cases left : clock.dropWhile (· ≠ ':') with
      | nil => rfl
      | cons next others =>
          have stop := List.head?_dropWhile_not (· ≠ ':') clock
          rw [left] at stop
          obtain rfl : next = ':' := by simpa using stop
          exact absurd (same.2.symm.trans left) (unlike _)
    rw [same.1, none, List.append_nil] at whole
    subst whole
    split at splits
    case h_1 | h_2 =>
      cases splits
      exact .hours row width
    case h_3 many | h_4 many =>
      cases splits
      have two : (front.drop (front.length - 2)).length = 2 := by
        rw [List.length_drop]
        omega
      have joined := TellsClock.minutes row width (.inl rfl) ⟨two, all.2⟩
      rwa [List.append_nil, List.take_append_drop] at joined
    case h_5 => cases splits

/-- A clock of figures is read as a timezone of its distance. -/
theorem ofClock?_of_splitClock (negative : Bool) {width : Nat}
    (splits : splitClock? clock = some (hours, minutes)) (row : Row width hours)
    (few : width = 1 ∨ width = 2) (all : ∀ digit ∈ minutes, isDigit digit = true)
    (inDay : ofDigits hours ≤ 23) (inHour : ofDigits minutes ≤ 59) :
    ofClock? negative clock =
      ofSeconds? (Decimal.signed negative (ofDigits hours * 3600 + ofDigits minutes * 60)) := by
  have figures : ¬ (hours.isEmpty || decide (2 < hours.length) ||
      !(hours ++ minutes).all isDigit) = true := by
    have length := row.length
    have digits : (hours ++ minutes).all isDigit = true :=
      List.all_eq_true.mpr (List.forall_mem_append.mpr ⟨row.all, all⟩)
    have present : hours.isEmpty = false := by
      rw [List.isEmpty_eq_false_iff, ← List.length_pos_iff]
      omega
    have short : ¬ 2 < hours.length := by omega
    rw [present, digits, decide_eq_false short]
    decide
  have inRange : ¬ (23 < ofDigits hours ∨ 59 < ofDigits minutes) := by omega
  rw [ofClock?, splits]
  change (if _ then none else if (decide (23 < ofDigits hours) || decide (59 < ofDigits minutes)) =
    true then none else ofSeconds? _) = _
  rw [if_neg figures, ← Bool.decide_or, if_neg (by rwa [decide_eq_true_eq])]

/-- What is read behind a sign is a clock within a day, and its distance. -/
theorem ofClock?_eq_some_iff {negative : Bool} {timezone : Timezone} :
    ofClock? negative clock = some timezone ↔ ∃ hours minutes, TellsClock clock hours minutes ∧
      hours ≤ 23 ∧ minutes ≤ 59 ∧
      timezone.seconds = Decimal.signed negative (hours * 3600 + minutes * 60) := by
  constructor
  · intro known
    obtain ⟨⟨hours, minutes⟩, splits, known⟩ := Option.bind_eq_some_iff.mp known
    dsimp only at known
    split at known
    next => cases known
    next figures =>
      split at known
      next => cases known
      next inRange =>
        simp only [Bool.or_eq_true, List.isEmpty_iff, decide_eq_true_eq, Bool.not_eq_true',
          not_or, Bool.not_eq_false, List.all_eq_true] at figures inRange
        obtain ⟨⟨present, few⟩, all⟩ := figures
        exact ⟨_, _, tells_of_splitClock splits present (Nat.le_of_not_lt few) all,
          Nat.le_of_not_lt inRange.1, Nat.le_of_not_lt inRange.2, seconds_of_ofSeconds known⟩
  · rintro ⟨hours, minutes, told, inDay, inHour, same⟩
    have back := ofSeconds?_seconds timezone
    rw [same] at back
    cases told with
    | hours row few =>
        exact (ofClock?_of_splitClock negative (splitClock?_hours row few) row few
          (List.forall_mem_nil _) inDay inHour).trans back
    | @minutes width hours colon minutes row few between minuteRow =>
        rw [← back]
        rcases between with rfl | rfl
        · rw [List.append_nil]
          exact ofClock?_of_splitClock negative (splitClock?_joined row few minuteRow) row few
            minuteRow.all inDay inHour
        · rw [List.append_assoc, List.singleton_append]
          exact ofClock?_of_splitClock negative (splitClock?_colon row.all minuteRow.length) row few
            minuteRow.all inDay inHour

end Clock

/-- A sign stands behind a name of UTC in capitals or behind none. -/
theorem dropName_eq_iff {text clock : List Char} {sign : Char} (signed : sign = '+' ∨ sign = '-') :
    dropName text = sign :: clock ↔
      ∃ name ∈ ["", "UTC", "GMT"], text = name.toList ++ sign :: clock := by
  constructor
  · intro same
    unfold dropName at same
    split at same
    next => exact ⟨"UTC", by decide, by rw [same]; rfl⟩
    next => exact ⟨"GMT", by decide, by rw [same]; rfl⟩
    next => exact ⟨"", by decide, same⟩
  · rintro ⟨name, known, rfl⟩
    rw [List.mem_cons, List.mem_cons, List.mem_singleton] at known
    rcases known with rfl | rfl | rfl <;> rcases signed with rfl | rfl <;> rfl

/-- No name of UTC has a sign in it. -/
theorem upperAscii_not_mem {ahead clock : List Char} {sign : Char}
    (signed : sign = '+' ∨ sign = '-') :
    Text.upperAscii (String.ofList (ahead ++ sign :: clock)) ∉ ["UTC", "Z", "GMT"] := by
  intro listed
  have member :
      sign.toUpper ∈ (Text.upperAscii (String.ofList (ahead ++ sign :: clock))).toList := by
    rw [Text.upperAscii, String.toList_ofList, String.toList_ofList]
    exact List.mem_map_of_mem (List.mem_append_right ahead List.mem_cons_self)
  generalize Text.upperAscii (String.ofList (ahead ++ sign :: clock)) = name at listed member
  rw [List.mem_cons, List.mem_cons, List.mem_singleton] at listed
  rcases listed with rfl | rfl | rfl <;> rcases signed with rfl | rfl <;>
    exact absurd member (by decide)

/-- The names of UTC are in capitals. -/
theorem capitals_of_mem {name : String} (known : name ∈ ["UTC", "Z", "GMT"]) :
    ∀ capital ∈ name.toList, 65 ≤ capital.toNat ∧ capital.toNat ≤ 90 := by
  have all : (name.toList.all fun capital => 65 ≤ capital.toNat ∧ capital.toNat ≤ 90) = true := by
    rw [List.mem_cons, List.mem_cons, List.mem_singleton] at known
    rcases known with rfl | rfl | rfl <;> rfl
  intro capital member
  exact of_decide_eq_true (List.all_eq_true.mp all capital member)

/-- A timezone is read from a text exactly if the text spells its distance, blanks around it left
out. -/
theorem parse?_eq_some_iff {text : String} {timezone : Timezone} :
    parse? text = some timezone ↔ Spells (Text.trimChars text.toList) timezone.seconds := by
  constructor
  · intro known
    unfold parse? at known
    dsimp only at known
    split at known
    next listed =>
      rw [← Option.some.inj known]
      exact .name listed ((Text.upperAscii_eq_iff (capitals_of_mem listed)).mp rfl)
    next =>
      have figures {sign : Char} {clock : List Char} (signed : sign = '+' ∨ sign = '-')
          (begins : dropName (Text.trimChars text.toList) = sign :: clock)
          (known : ofClock? (sign = '-') clock = some timezone) :
          Spells (Text.trimChars text.toList) timezone.seconds := by
        obtain ⟨name, listed, same⟩ := (dropName_eq_iff signed).mp begins
        obtain ⟨hours, minutes, told, inDay, inHour, distance⟩ := ofClock?_eq_some_iff.mp known
        rw [same, distance]
        exact .figures listed signed told inDay inHour
      split at known
      next clock begins => exact figures (.inl rfl) begins known
      next clock begins => exact figures (.inr rfl) begins known
      next => cases known
  · intro spells
    unfold parse?
    dsimp only
    generalize Text.trimChars text.toList = trimmed at spells
    generalize distance : timezone.seconds = seconds at spells
    cases spells with
    | @name text name known written =>
        have listed := (Text.upperAscii_eq_iff (capitals_of_mem known)).mpr written
        rw [listed, if_pos known, ← ofSeconds?_seconds timezone, distance]
        rfl
    | @figures name sign clock hours minutes known signed told inDay inHour =>
        have begins : dropName (name.toList ++ sign :: clock) = sign :: clock :=
          (dropName_eq_iff signed).mpr ⟨name, known, rfl⟩
        have read : ofClock? (sign = '-') clock = some timezone :=
          ofClock?_eq_some_iff.mpr ⟨hours, minutes, told, inDay, inHour, distance⟩
        rw [if_neg (upperAscii_not_mem signed), begins]
        rcases signed with rfl | rfl <;> exact read

section Stored

variable {timezone : Timezone}

/-- The text of a distance of full minutes spells that distance. -/
theorem spells_offsetText (full : timezone.seconds % 60 = 0) :
    Spells timezone.offsetText.toList timezone.seconds := by
  have inDay := timezone.inDay
  have hours : timezone.seconds.natAbs / 3600 < 24 := by omega
  have minutes : timezone.seconds.natAbs / 60 % 60 < 60 := Nat.mod_lt _ (by decide)
  obtain ⟨hourRow, hour⟩ := row_padded (by decide : 0 < 2) (Nat.lt_trans hours (by decide))
  obtain ⟨minuteRow, minute⟩ := row_padded (by decide : 0 < 2) (Nat.lt_trans minutes (by decide))
  have told := TellsClock.minutes hourRow (.inr rfl) (.inr rfl) minuteRow
  rw [hour, minute, List.append_assoc, List.singleton_append] at told
  have spelled {sign : Char} (signed : sign = '+' ∨ sign = '-')
      (distance : Decimal.signed (sign = '-') (timezone.seconds.natAbs / 3600 * 3600 +
        timezone.seconds.natAbs / 60 % 60 * 60) = timezone.seconds) :
      Spells (sign :: (padded 2 (timezone.seconds.natAbs / 3600) ++
        ':' :: padded 2 (timezone.seconds.natAbs / 60 % 60))) timezone.seconds := by
    have figures := Spells.figures (by decide : "" ∈ ["", "UTC", "GMT"]) signed told
      (Nat.le_of_lt_succ hours) (Nat.le_of_lt_succ minutes)
    rwa [distance] at figures
  rw [toList_offsetText full]
  by_cases west : timezone.seconds < 0
  · rw [if_pos west]
    refine spelled (.inr rfl) ?_
    change -((_ : Nat) : Int) = _
    omega
  · rw [if_neg west]
    refine spelled (.inl rfl) ?_
    change ((_ : Nat) : Int) = _
    omega

/-- The text of a distance has no blanks around it. -/
theorem trimChars_offsetText (full : timezone.seconds % 60 = 0) :
    Text.trimChars timezone.offsetText.toList = timezone.offsetText.toList := by
  obtain ⟨sign, hours, minutes, signed, row, same⟩ := offsetText_ends full
  have begun : Text.skipBlanks (sign :: hours ++ minutes) = sign :: hours ++ minutes := by
    rcases signed with rfl | rfl <;> rfl
  rw [same, ← List.cons_append]
  exact trimChars_behind begun row (by decide)

/-- A timezone of full minutes is read from its stored text. -/
theorem parse?_text (full : timezone.seconds % 60 = 0) : parse? timezone.text = some timezone := by
  rw [text]
  split
  next none =>
    have same : timezone.seconds = 0 := beq_iff_eq.mp none
    rw [← ofSeconds?_seconds timezone, same]
    rfl
  next => rw [parse?_eq_some_iff, trimChars_offsetText full]; exact spells_offsetText full

/-- A timezone that is read is read again from its stored text. -/
theorem parse?_text_of_parse {name : String} (known : parse? name = some timezone) :
    parse? timezone.text = some timezone :=
  parse?_text (minutes_of_parse known)

/-- A document is read as the timezone that its text spells. -/
theorem decode_eq_ok_iff {document : Json} : Json.decode read document = .ok timezone ↔
    ∃ name, Json.Decode.text document.sorted = .ok name ∧ parse? name = some timezone := by
  unfold Json.decode read
  -- What a spelling is plays no part in how the text is found.
  generalize parse? = spelled
  refine Outcome.bind_eq_ok_iff.trans (exists_congr fun name => and_congr_right fun _ => ?_)
  dsimp only
  cases spelled name with
  | none => exact iff_of_false nofun nofun
  | some known =>
      change (Except.ok known : Except Reading.Error Timezone) = .ok timezone ↔ _
      rw [Except.ok.injEq, Option.some.injEq]

/-- A scanned text holds a timezone as a text that it is read from. -/
theorem yields_read :
    Json.Scan.Yields (fun timezone => ∃ name, parse? name = some timezone) read := by
  refine Json.Scan.yields_step fun name => ?_
  split
  next found => exact Json.Scan.yields_pure ⟨name, found⟩
  next => exact Json.Scan.yields_throw _

theorem reads_text {name : String} (known : parse? name = some timezone) :
    Json.Scan.Reads read (.string name) timezone := by
  refine (Json.Scan.reads_text name).bind fun budget rest => ?_
  rw [known]
  exact Json.Scan.takes_pure timezone rest

end Stored

/-- Timezones are read from their spellings alone, and the numbers in a spelling always make a
distance of less than a day. A timezone that is read is read again from its own text, in whatever
form it is stored. -/
theorem spellings_stable :
    (∀ text, (∃ timezone, parse? text = some timezone) ↔
      ∃ seconds, Spells (Text.trimChars text.toList) seconds) ∧
    (∀ text timezone, parse? text = some timezone ↔
      Spells (Text.trimChars text.toList) timezone.seconds) ∧
    (∀ negative hours minutes, hours ≤ 23 → minutes ≤ 59 → ∃ timezone,
      ofSeconds? (Decimal.signed negative (hours * 3600 + minutes * 60)) = some timezone) ∧
    (∀ text timezone, parse? text = some timezone → parse? timezone.text = some timezone) ∧
    (∀ document timezone, Json.decode read document = .ok timezone →
      Json.decode read (.string timezone.text) = .ok timezone) ∧
    ∀ content timezone, Json.Scan.run read content = .ok timezone →
      Json.Scan.run read (Json.compact (.string timezone.text)) = .ok timezone := by
  refine ⟨fun text => ⟨?_, ?_⟩, fun text timezone => parse?_eq_some_iff,
    fun negative hours minutes => exists_ofSeconds? negative,
    fun text timezone => parse?_text_of_parse, fun document timezone known => ?_,
    fun content timezone known => ?_⟩
  · rintro ⟨timezone, known⟩
    exact ⟨timezone.seconds, parse?_eq_some_iff.mp known⟩
  · rintro ⟨seconds, spells⟩
    obtain ⟨timezone, rfl⟩ := spells.exists_timezone
    exact ⟨timezone, parse?_eq_some_iff.mpr spells⟩
  · obtain ⟨name, -, found⟩ := decode_eq_ok_iff.mp known
    exact decode_eq_ok_iff.mpr ⟨timezone.text, rfl, parse?_text_of_parse found⟩
  · obtain ⟨name, found⟩ := yields_read.run known
    have shallow : (Json.string timezone.text).depth < Json.Scan.budget :=
      (by decide : 0 < Json.Scan.budget)
    exact (reads_text (parse?_text_of_parse found)).run shallow

end DashboardFilters.Timezone

namespace DashboardFilters

namespace Sample

/-- Five hours and a half west of UTC. -/
def westward : Timezone where
  seconds := -19800

end Sample

open Sample

/-- Three digits behind a sign are read with blanks around them, stored with a colon, and read
again. -/
theorem Timezone.westward_stable :
    (∃ timezone, ofSeconds? (Decimal.signed true (5 * 3600 + 30 * 60)) = some timezone) ∧
    (parse? " GMT-530 " = some westward ∧ westward.text = "-05:30" ∧
      parse? westward.text = some westward) ∧
    (Json.decode read (.string " GMT-530 ") = .ok westward ∧
      Json.decode read (.string westward.text) = .ok westward) ∧
    Json.Scan.run read "\" GMT-530 \"" = .ok westward ∧
      Json.Scan.run read (Json.compact (.string westward.text)) = .ok westward := by
  obtain ⟨-, -, inRange, again, decoded, scanned⟩ := spellings_stable
  have parsed : parse? " GMT-530 " = some westward := by decide
  have found : Json.decode read (.string " GMT-530 ") = .ok westward :=
    decode_eq_ok_iff.mpr ⟨" GMT-530 ", rfl, parsed⟩
  have taken : Json.Scan.run read "\" GMT-530 \"" = .ok westward := by rfl
  exact ⟨inRange true 5 30 (by decide) (by decide), ⟨parsed, by decide, again _ _ parsed⟩,
    ⟨found, decoded _ _ found⟩, taken, scanned _ _ taken⟩

end DashboardFilters
