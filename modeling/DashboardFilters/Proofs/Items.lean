import DashboardFilters.Text.Pieces
import Mathlib.Data.List.DropRight

namespace DashboardFilters.Text

variable {text : List Char}

/-- Whether a text has no blank at either of its ends. -/
def Trimmed (text : List Char) : Prop :=
  (∀ first ∈ text.head?, isBlank first = false) ∧ ∀ last ∈ text.getLast?, isBlank last = false

theorem dropTrailingBlanks_eq (text : List Char) :
    dropTrailingBlanks text = text.rdropWhile isBlank :=
  rfl

/-- A text that does not end with a blank has none to drop there. -/
theorem dropTrailingBlanks_eq_self (visible : ∀ last ∈ text.getLast?, isBlank last = false) :
    dropTrailingBlanks text = text := by
  rw [dropTrailingBlanks_eq, List.rdropWhile_eq_self_iff]
  intro some
  rw [visible _ (List.getLast?_eq_some_getLast some)]
  exact Bool.false_ne_true

/-- What is left of a text has no blank at either of its ends. -/
theorem trimmed_trimChars (text : List Char) : Trimmed (trimChars text) := by
  rw [trimChars, dropTrailingBlanks_eq, skipBlanks]
  constructor
  · intro first found
    have some : (text.dropWhile isBlank).rdropWhile isBlank ≠ [] :=
      List.ne_nil_of_mem (List.mem_of_head? found)
    have kept := (List.rdropWhile_prefix isBlank (l := text.dropWhile isBlank)).head some
    rw [Option.mem_def, List.head?_eq_some_head some, Option.some_inj, kept] at found
    rw [← found]
    exact List.head_dropWhile_not isBlank _
  · intro last found
    have some : (text.dropWhile isBlank).rdropWhile isBlank ≠ [] :=
      List.ne_nil_of_mem (List.mem_of_getLast? found)
    rw [Option.mem_def, List.getLast?_eq_some_getLast some, Option.some_inj] at found
    rw [← found]
    exact Bool.eq_false_iff.mpr (List.rdropWhile_last_not isBlank _ some)

/-- Trimming changes nothing just if there is no blank at either end. -/
theorem trimChars_eq_self_iff : trimChars text = text ↔ Trimmed text := by
  refine ⟨fun same => same ▸ trimmed_trimChars text, fun trimmed => ?_⟩
  have begun : skipBlanks text = text := by
    cases text with
    | nil => rfl
    | cons first rest =>
        have visible := trimmed.1 first rfl
        exact List.dropWhile_cons_of_neg (visible ▸ Bool.false_ne_true)
  rw [trimChars, begun, dropTrailingBlanks_eq_self trimmed.2]

theorem mem_of_mem_trimChars {character : Char} (inside : character ∈ trimChars text) :
    character ∈ text :=
  (List.dropWhile_sublist isBlank).subset
    ((List.rdropWhile_prefix isBlank (l := text.dropWhile isBlank)).subset inside)

/-- Whether a text can be an item of a list: it is not empty, has no comma in it and no blank at
either of its ends. -/
structure Tidy (text : String) : Prop where
  some : text ≠ ""
  whole : ',' ∉ text.toList
  trimmed : Trimmed text.toList

/-- Pieces between separators have none in them. -/
theorem not_mem_of_mem_splitOn {separator : Char} {piece : List Char}
    (inside : piece ∈ text.splitOn separator) : separator ∉ piece := by
  induction text generalizing piece with
  | nil =>
      obtain rfl : piece = [] := List.mem_singleton.mp inside
      exact List.not_mem_nil
  | cons first rest ih =>
      rw [List.splitOn_cons_eq_if_modifyHead] at inside
      split at inside
      next =>
        rcases List.mem_cons.mp inside with rfl | later
        · exact List.not_mem_nil
        · exact ih later
      next other =>
        cases pieces : rest.splitOn separator with
        | nil => exact absurd pieces (List.splitOn_ne_nil separator rest)
        | cons front later =>
            rw [pieces, List.modifyHead_cons] at inside
            rw [pieces] at ih
            have apart : separator ≠ first := fun same => other (beq_iff_eq.mpr same.symm)
            rcases List.mem_cons.mp inside with rfl | inside
            · exact List.not_mem_cons_of_ne_of_not_mem apart (ih List.mem_cons_self)
            · exact ih (List.mem_cons_of_mem front inside)

theorem tidy_of_mem_listItems {item text : String} (inside : item ∈ listItems text) :
    Tidy item := by
  rw [listItems, List.mem_filter] at inside
  obtain ⟨made, some⟩ := inside
  obtain ⟨piece, there, rfl⟩ := List.mem_map.mp made
  have whole : ',' ∉ trimChars piece := fun comma =>
    not_mem_of_mem_splitOn there (mem_of_mem_trimChars comma)
  refine ⟨of_decide_eq_true some, ?_, ?_⟩
  · rwa [String.toList_ofList]
  · rw [String.toList_ofList]
    exact trimmed_trimChars piece

/-- A tidy text is its own only item. -/
theorem listItems_of_tidy {text : String} (tidy : Tidy text) : listItems text = [text] := by
  have trimmed := trimChars_eq_self_iff.mpr tidy.trimmed
  rw [listItems, List.splitOn_eq_singleton tidy.whole, List.map_singleton, trimmed,
    String.ofList_toList]
  exact List.filter_cons_of_pos (decide_eq_true tidy.some)

/-- Where two texts are put together with a comma, the items of one follow those of the other. -/
theorem listItems_append_comma (first second : String) :
    listItems (first ++ "," ++ second) = listItems first ++ listItems second := by
  have apart : (first ++ "," ++ second).toList = first.toList ++ ',' :: second.toList := by
    rw [String.toList_append, String.toList_append, List.append_assoc]
    rfl
  rw [listItems, apart, List.splitOn_append_cons_self, List.map_append, List.filter_append]
  rfl

/-- The items of texts put together with commas are those of each of them, in their order. -/
theorem listItems_joinWith (texts : List String) :
    listItems (joinWith "," texts) = texts.flatMap listItems := by
  induction texts with
  | nil => rfl
  | cons text rest ih =>
      cases rest with
      | nil => rw [joinWith, String.intercalate_singleton, List.flatMap_singleton]
      | cons next others =>
          rw [joinWith, String.intercalate_cons_cons, listItems_append_comma, ← joinWith, ih]
          exact List.flatMap_cons.symm

/-- Texts are their own items just if all of them are tidy. -/
theorem flatMap_listItems_eq_self_iff {texts : List String} :
    texts.flatMap listItems = texts ↔ ∀ text ∈ texts, Tidy text := by
  constructor
  · intro same text inside
    rw [← same] at inside
    obtain ⟨_, -, item⟩ := List.mem_flatMap.mp inside
    exact tidy_of_mem_listItems item
  · intro tidy
    rw [List.flatMap_congr fun text inside => listItems_of_tidy (tidy text inside)]
    exact (List.flatMap_pure_eq_map id texts).trans (List.map_id texts)

/-- A text that ends in what is not blank has none to drop there. -/
theorem trimEnd_of_last {text : String} {front : List Char} {last : Char}
    (ends : text.toList = front ++ [last]) (visible : isBlank last = false) :
    trimEnd text = text := by
  rw [trimEnd, dropTrailingBlanks_eq_self, String.ofList_toList]
  intro other found
  rw [ends, List.getLast?_concat, Option.mem_some_iff] at found
  exact found ▸ visible

theorem trimEnd_space (text : String) : trimEnd (text ++ " ") = trimEnd text := by
  have spaced : (text ++ " ").toList = text.toList ++ [' '] := String.toList_append
  rw [trimEnd, spaced, dropTrailingBlanks_eq, List.rdropWhile_concat_pos _ _ _ (by decide)]
  rfl

/-- A tidy text ends in what is not blank. -/
theorem Tidy.exists_last {text : String} (tidy : Tidy text) :
    ∃ front last, text.toList = front ++ [last] ∧ isBlank last = false := by
  rcases List.eq_nil_or_concat text.toList with none | ⟨front, last, ends⟩
  · exact absurd (String.toList_eq_nil_iff.mp none) tidy.some
  · rw [List.concat_eq_append] at ends
    refine ⟨front, last, ends, tidy.trimmed.2 last ?_⟩
    rw [ends, List.getLast?_concat]
    rfl

/-- Texts that are tidy, put together, end in what is not blank. -/
theorem exists_last_joinWith (separator : String) {texts : List String} (some : texts ≠ [])
    (tidy : ∀ text ∈ texts, Tidy text) :
    ∃ front last, (joinWith separator texts).toList = front ++ [last] ∧ isBlank last = false := by
  obtain ⟨others, text, rfl⟩ := List.eq_nil_or_concat' texts |>.resolve_left some
  obtain ⟨front, last, ends, visible⟩ :=
    (tidy text (List.mem_append_right others List.mem_cons_self)).exists_last
  cases others with
  | nil =>
      rw [List.nil_append, joinWith, String.intercalate_singleton]
      exact ⟨front, last, ends, visible⟩
  | cons other rest =>
      have joined : (joinWith separator (other :: rest ++ [text])).toList =
          (joinWith separator (other :: rest) ++ separator).toList ++ front ++ [last] := by
        rw [joinWith, String.intercalate_append_of_ne_nil (List.cons_ne_nil _ _)
          (List.cons_ne_nil _ _), String.intercalate_singleton, String.toList_append, ends,
          List.append_assoc]
        rfl
      exact ⟨_, last, joined, visible⟩

end DashboardFilters.Text
