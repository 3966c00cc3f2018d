import DashboardFilters.Config.Expansion
import Mathlib.Data.List.Infix

/-!
Replacing the spelling of a reference everywhere in a text. A spelling closes with the only closing
brace in it, so two occurrences never overlap, and a text is replaced piece by piece between them.
-/

namespace DashboardFilters.Config

/-- What follows a text in front of another one. -/
theorem dropLeading?_eq_some_iff {leading text rest : List Char} :
    Text.dropLeading? leading text = some rest ↔ text = leading ++ rest := by
  fun_induction Text.dropLeading? leading text with
  | case1 text => exact Option.some_inj
  | case2 expected leading => exact iff_of_false nofun nofun
  | case3 leading actual text ih => rw [ih, List.cons_append, List.cons_inj_right]
  | case4 expected leading actual text other =>
      refine iff_of_false nofun fun same => other ?_
      exact (List.cons.inj same).1.symm

variable {pattern replacement : List Char}

/-- A character with which no occurrence begins stays. -/
theorem replaceAll_other {character : Char} {rest : List Char}
    (other : ¬ pattern <+: character :: rest) :
    replaceAll pattern replacement (character :: rest) =
      character :: replaceAll pattern replacement rest := by
  have none : Text.dropLeading? pattern (character :: rest) = .none := by
    rw [Option.eq_none_iff_forall_ne_some]
    intro after found
    exact other ⟨after, (dropLeading?_eq_some_iff.mp found).symm⟩
  rw [replaceAll, List.length_cons, replaceAllWithin, none]
  rfl

/-- A text without any occurrence stays as it is. -/
theorem replaceAll_absent {text : List Char} (none : ¬ pattern <:+: text) :
    replaceAll pattern replacement text = text := by
  induction text with
  | nil => rfl
  | cons character rest ih =>
      rw [List.infix_cons_iff, not_or] at none
      rw [replaceAll_other none.1, ih none.2]

section

variable (some : pattern ≠ [])

include some

/-- More characters to look at than there are make no difference. -/
theorem replaceAllWithin_congr {text : List Char} {fuel other : Nat} (enough : text.length ≤ fuel)
    (enoughToo : text.length ≤ other) : replaceAllWithin pattern replacement fuel text =
      replaceAllWithin pattern replacement other text := by
  induction fuel generalizing text other with
  | zero =>
      obtain rfl := List.length_eq_zero_iff.mp (Nat.le_zero.mp enough)
      cases other <;> rfl
  | succ fuel ih =>
      cases text with
      | nil => cases other <;> rfl
      | cons character rest =>
          obtain ⟨other, rfl⟩ := Nat.exists_eq_succ_of_ne_zero (Nat.ne_zero_of_lt enoughToo)
          rw [replaceAllWithin, replaceAllWithin]
          split
          next after found =>
            have shorter : after.length ≤ rest.length := by
              have length := congrArg List.length (dropLeading?_eq_some_iff.mp found)
              have pattern := List.length_pos_iff.mpr some
              rw [List.length_cons, List.length_append] at length
              omega
            rw [List.length_cons] at enough enoughToo
            rw [ih (by omega) (show after.length ≤ other by omega)]
          next =>
            exact congrArg (character :: ·)
              (ih (Nat.le_of_succ_le_succ enough) (Nat.le_of_succ_le_succ enoughToo))

/-- An occurrence in front is replaced. -/
theorem replaceAll_found (rest : List Char) :
    replaceAll pattern replacement (pattern ++ rest) =
      replacement ++ replaceAll pattern replacement rest := by
  obtain ⟨first, others, rfl⟩ := List.exists_cons_of_ne_nil some
  have found : Text.dropLeading? (first :: others) (first :: (others ++ rest)) = .some rest :=
    dropLeading?_eq_some_iff.mpr rfl
  rw [replaceAll, List.cons_append, List.length_cons, replaceAllWithin, found]
  have shorter : rest.length ≤ (others ++ rest).length := by
    rw [List.length_append]
    exact Nat.le_add_left ..
  exact congrArg (replacement ++ ·) (replaceAllWithin_congr some shorter le_rfl)

/-- A text is empty, begins with an occurrence of a pattern, or with another character. -/
theorem pattern_induction {holds : List Char → Prop} (nil : holds [])
    (found : ∀ rest, holds rest → holds (pattern ++ rest))
    (other : ∀ character rest, ¬ pattern <+: character :: rest → holds rest →
      holds (character :: rest)) (text : List Char) : holds text := by
  induction length : text.length using Nat.strong_induction_on generalizing text with
  | _ _ ih =>
      subst length
      cases text with
      | nil => exact nil
      | cons character rest =>
          by_cases begins : pattern <+: character :: rest
          · obtain ⟨after, same⟩ := begins
            have shorter : after.length < (character :: rest).length := by
              have pattern := List.length_pos_iff.mpr some
              rw [← same, List.length_append]
              omega
            exact same ▸ found after (ih _ shorter after rfl)
          · exact other character rest begins (ih _ (Nat.lt_succ_self _) rest rfl)

/-- A text does not get shorter if what is replaced does not. -/
theorem length_le_replaceAll (longer : pattern.length ≤ replacement.length) (text : List Char) :
    text.length ≤ (replaceAll pattern replacement text).length := by
  induction text using pattern_induction some with
  | nil => exact Nat.zero_le _
  | found rest ih =>
      rw [replaceAll_found some, List.length_append, List.length_append]
      exact Nat.add_le_add longer ih
  | other character rest other ih =>
      rw [replaceAll_other other]
      exact Nat.succ_le_succ ih

end

variable {name : List Char}

theorem spelling_ne_nil (name : List Char) : spelling name ≠ [] :=
  List.cons_ne_nil _ _

/-- The last characters of a spelling close it, and nothing before does. -/
theorem eq_of_suffix_spelling (closed : '\x7d' ∉ name) {back : List Char}
    (ends : back <:+ spelling name) (some : back ≠ []) :
    ∃ front, back = front ++ ['\x7d'] ∧ front <:+ ['$', '\x7b'] ++ name ∧ '\x7d' ∉ front := by
  obtain ⟨front, last, rfl⟩ := (List.eq_nil_or_concat' back).resolve_left some
  obtain ⟨before, whole⟩ := ends
  rw [spelling, ← List.append_assoc] at whole
  obtain ⟨same, lastSame⟩ := List.append_inj' whole rfl
  obtain rfl := List.singleton_inj.mp lastSame
  have inside : front <:+ ['$', '\x7b'] ++ name := ⟨before, same⟩
  refine ⟨front, rfl, inside, fun closes => ?_⟩
  have somewhere := inside.subset closes
  rw [List.mem_append] at somewhere
  exact somewhere.elim (by decide) closed

/-- An occurrence that begins before another one ends before it. -/
theorem prefix_of_prefix_append (closed : '\x7d' ∉ name) {front back : List Char}
    (begins : spelling name <+: front ++ (spelling name ++ back)) (some : front ≠ []) :
    spelling name <+: front := by
  by_cases short : (spelling name).length ≤ front.length
  · exact List.prefix_of_prefix_length_le begins (List.prefix_append _ _) short
  · exfalso
    obtain ⟨rest, whole⟩ := List.prefix_of_prefix_length_le (List.prefix_append front _) begins
      (by omega)
    have overlap : rest <+: spelling name ++ back := by
      rw [← List.prefix_append_right_inj front, whole]
      exact begins
    have positive := List.length_pos_iff.mpr some
    have lengths := congrArg List.length whole
    rw [List.length_append] at lengths
    obtain ⟨after, same⟩ := List.prefix_of_prefix_length_le overlap (List.prefix_append _ _)
      (by omega)
    have restSome : rest ≠ [] := by
      rintro rfl
      rw [List.append_nil] at whole
      exact short (whole ▸ le_rfl)
    have afterSome : after ≠ [] := by
      rintro rfl
      have length := congrArg List.length same
      rw [List.append_nil] at length
      omega
    -- Both what is before the overlap's end and what comes after it would have to close.
    obtain ⟨restFront, rfl, -, -⟩ := eq_of_suffix_spelling closed ⟨front, whole⟩ restSome
    obtain ⟨wholeFront, closes, -, only⟩ :=
      eq_of_suffix_spelling closed (List.suffix_refl _) (spelling_ne_nil name)
    obtain ⟨afterFront, rfl, -, -⟩ := eq_of_suffix_spelling closed ⟨_, same⟩ afterSome
    rw [closes, ← List.append_assoc] at same
    obtain ⟨beforeLast, -⟩ := List.append_inj' same rfl
    apply only
    rw [← beforeLast]
    simp

/-- A text is replaced piece by piece between occurrences. -/
theorem replaceAll_between (closed : '\x7d' ∉ name) (replacement front back : List Char) :
    replaceAll (spelling name) replacement (front ++ (spelling name ++ back)) =
      replaceAll (spelling name) replacement front ++
        (replacement ++ replaceAll (spelling name) replacement back) := by
  have some := spelling_ne_nil name
  induction front using pattern_induction some with
  | nil => exact replaceAll_found some back
  | found rest ih =>
      rw [List.append_assoc, replaceAll_found some, replaceAll_found some, ih, List.append_assoc]
  | other character rest other ih =>
      have still : ¬ spelling name <+: character :: (rest ++ (spelling name ++ back)) :=
        fun begins => other (prefix_of_prefix_append closed begins (List.cons_ne_nil _ _))
      rw [List.cons_append, replaceAll_other still, replaceAll_other other, ih,
        List.cons_append]

section

variable {last : Char} (someName : name ≠ []) (closed : '\x7d' ∉ name) (noBrace : last ≠ '\x7d')
  (other : name.getLast? ≠ some last)

include someName closed noBrace other

/-- What a spelling can end with was there before references to its name were replaced by a
character and a closing brace, if the name ends with another character. -/
theorem prefix_of_prefix_replaceAll {back text : List Char} (ends : back <:+ spelling name)
    (begins : back <+: replaceAll (spelling name) [last, '\x7d'] text) : back <+: text := by
  have some := spelling_ne_nil name
  induction text using pattern_induction some generalizing back with
  | nil => exact begins
  | found rest ih =>
      rw [replaceAll_found some] at begins
      by_cases none : back = []
      · exact none ▸ List.nil_prefix
      · exfalso
        obtain ⟨front, rfl, inside, only⟩ := eq_of_suffix_spelling closed ends none
        obtain _ | ⟨first, _ | ⟨second, others⟩⟩ := front
        · exact noBrace (List.cons_prefix_cons.mp begins).1.symm
        · obtain ⟨rfl, -⟩ := List.cons_prefix_cons.mp begins
          obtain ⟨before, same⟩ := inside
          have lastSame := congrArg List.getLast? same
          rw [List.getLast?_concat, List.getLast?_append_of_ne_nil _ someName] at lastSame
          exact other lastSame.symm
        · obtain ⟨-, later⟩ := List.cons_prefix_cons.mp begins
          obtain ⟨rfl, -⟩ := List.cons_prefix_cons.mp later
          exact only (List.mem_cons_of_mem _ List.mem_cons_self)
  | other character rest none ih =>
      rw [replaceAll_other none] at begins
      cases back with
      | nil => exact List.nil_prefix
      | cons first others =>
          obtain ⟨rfl, later⟩ := List.cons_prefix_cons.mp begins
          exact List.cons_prefix_cons.mpr
            ⟨rfl, ih ((List.suffix_cons first others).trans ends) later⟩

/-- After references to a name were replaced by a character and a closing brace, there is none to
it, if the name ends with another character. -/
theorem not_infix_replaceAll (text : List Char) :
    ¬ spelling name <:+: replaceAll (spelling name) [last, '\x7d'] text := by
  have some := spelling_ne_nil name
  induction text using pattern_induction some with
  | nil => exact fun inside => some (List.infix_nil.mp inside)
  | found rest ih =>
      rw [replaceAll_found some]
      intro inside
      rcases List.infix_cons_iff.mp inside with begins | inside
      · obtain ⟨-, begins⟩ := List.cons_prefix_cons.mp begins
        exact absurd (List.cons_prefix_cons.mp begins).1 (by decide)
      · rcases List.infix_cons_iff.mp inside with begins | inside
        · exact absurd (List.cons_prefix_cons.mp begins).1 (by decide)
        · exact ih inside
  | other character rest none ih =>
      rw [replaceAll_other none]
      intro inside
      rcases List.infix_cons_iff.mp inside with begins | inside
      · obtain ⟨rfl, later⟩ := List.cons_prefix_cons.mp begins
        have before := prefix_of_prefix_replaceAll someName closed noBrace other
          (List.suffix_cons '$' _) later
        exact none (List.cons_prefix_cons.mpr ⟨rfl, before⟩)
      · exact ih inside

end

end DashboardFilters.Config
