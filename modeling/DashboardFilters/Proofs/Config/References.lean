import DashboardFilters.Proofs.Config.Replacement
import Mathlib.Data.List.Flatten
import Mathlib.Data.List.TakeWhile

namespace DashboardFilters.Config

structure IsName (name : List Char) : Prop where
  some : name ≠ []
  closed : '\x7d' ∉ name

inductive Piece where
  | plain (character : Char)
  | reference (name : List Char)

/-- How a text is cut: a reference wherever one begins, from left to right, and single characters
else. -/
inductive Scanned : List Char → List Piece → Prop where
  | nil : Scanned [] []
  | plain {character : Char} {rest : List Char} {pieces : List Piece}
      (other : ∀ name, IsName name → ¬ spelling name <+: character :: rest)
      (later : Scanned rest pieces) : Scanned (character :: rest) (.plain character :: pieces)
  | reference {name rest : List Char} {pieces : List Piece} (named : IsName name)
      (later : Scanned rest pieces) : Scanned (spelling name ++ rest) (.reference name :: pieces)

/-- The names in the references among some pieces, from left to right. -/
def names : List Piece → List (List Char)
  | [] => []
  | .plain _ :: rest => names rest
  | .reference name :: rest => name :: names rest

/-- What stands in a text for a piece, where references to some names have values. -/
def Piece.under (values : List Char → Option (List Char)) : Piece → List Char
  | .plain character => [character]
  | .reference name => (values name).getD (spelling name)

def Piece.spelled : Piece → List Char :=
  Piece.under fun _ => none

theorem mem_names_iff {name : List Char} {pieces : List Piece} :
    name ∈ names pieces ↔ .reference name ∈ pieces := by
  induction pieces with
  | nil => exact iff_of_false List.not_mem_nil List.not_mem_nil
  | cons piece rest ih =>
      cases piece with
      | plain character => simp [names, ih]
      | reference other => simp [names, ih]

theorem spelling_append (name rest : List Char) :
    spelling name ++ rest = '$' :: '\x7b' :: (name ++ '\x7d' :: rest) := by
  simp [spelling]

theorem bracedName?_eq_some_iff {text name after : List Char} :
    bracedName? text = some (name, after) ↔
      IsName name ∧ text = '\x7b' :: (name ++ '\x7d' :: after) := by
  constructor
  · intro found
    unfold bracedName? at found
    split at found
    next rest =>
      split at found
      next => cases found
      next front behind notNil split =>
        cases found
        rw [List.span_eq_takeWhile_dropWhile, Prod.mk.injEq] at split
        have whole :=
          List.takeWhile_append_dropWhile (p := fun c => decide (c ≠ '\x7d')) (l := rest)
        rw [split.1, split.2] at whole
        refine ⟨⟨notNil, fun closes => ?_⟩, by rw [whole]⟩
        rw [← split.1] at closes
        have other : decide ('\x7d' ≠ '\x7d') = true :=
          List.mem_takeWhile_imp (p := fun c => decide (c ≠ '\x7d')) closes
        exact absurd other (by decide)
      next => cases found
    next => cases found
  · rintro ⟨⟨some, closed⟩, rfl⟩
    have inside : ∀ character ∈ name, decide (character ≠ '\x7d') = true := fun character inside =>
      decide_eq_true fun closes => closed (closes ▸ inside)
    have split : (name ++ '\x7d' :: after).span (fun c => decide (c ≠ '\x7d')) =
        (name, '\x7d' :: after) := by
      rw [List.span_eq_takeWhile_dropWhile, List.takeWhile_append_of_pos inside,
        List.dropWhile_append_of_pos inside, List.takeWhile_cons_of_neg (by decide),
        List.dropWhile_cons_of_neg (by decide), List.append_nil]
    obtain ⟨first, others, rfl⟩ := List.exists_cons_of_ne_nil some
    rw [bracedName?, split]
    rfl

/-- A reference is known by how a text begins. -/
theorem spelling_append_inj {name other rest others : List Char} (named : IsName name)
    (namedToo : IsName other) (same : spelling name ++ rest = spelling other ++ others) :
    name = other ∧ rest = others := by
  rw [spelling_append, spelling_append, List.cons_inj_right] at same
  have found : bracedName? ('\x7b' :: (name ++ '\x7d' :: rest)) = some (name, rest) :=
    bracedName?_eq_some_iff.mpr ⟨named, rfl⟩
  have foundToo := bracedName?_eq_some_iff.mpr ⟨namedToo, same⟩
  rw [found, Option.some_inj, Prod.mk.injEq] at foundToo
  exact foundToo

namespace Scanned

variable {text : List Char} {pieces : List Piece}

/-- A reference begins with a dollar only. -/
theorem plain_of_ne {character : Char} (other : character ≠ '$') (later : Scanned text pieces) :
    Scanned (character :: text) (.plain character :: pieces) :=
  .plain (fun _ _ begins => other (List.cons_prefix_cons.mp begins).1.symm) later

/-- The pieces of a text make it up. -/
theorem spelled (scanned : Scanned text pieces) : pieces.flatMap Piece.spelled = text := by
  induction scanned with
  | nil => rfl
  | plain other later ih => rw [List.flatMap_cons, ih]; rfl
  | reference named later ih => rw [List.flatMap_cons, ih]; rfl

/-- The references of a text have names. -/
theorem isName (scanned : Scanned text pieces) : ∀ name ∈ names pieces, IsName name := by
  induction scanned with
  | nil => exact List.forall_mem_nil _
  | plain other later ih => exact ih
  | reference named later ih => exact List.forall_mem_cons.mpr ⟨named, ih⟩

/-- What follows some pieces of a text is cut into those that follow them. -/
theorem drop (front : List Piece) {back : List Piece} (scanned : Scanned text (front ++ back)) :
    ∃ rest, Scanned rest back := by
  induction front generalizing text with
  | nil => exact ⟨text, scanned⟩
  | cons piece front ih =>
      cases scanned with
      | plain other later => exact ih later
      | reference named later => exact ih later

/-- A text has a cut into pieces. -/
theorem exists_pieces (text : List Char) : ∃ pieces, Scanned text pieces := by
  induction length : text.length using Nat.strong_induction_on generalizing text with
  | _ _ ih =>
      subst length
      cases text with
      | nil => exact ⟨[], .nil⟩
      | cons character rest =>
          by_cases begins : ∃ name, IsName name ∧ spelling name <+: character :: rest
          · obtain ⟨name, named, after, same⟩ := begins
            have shorter : after.length < (character :: rest).length := by
              rw [← same, spelling_append, List.length_cons, List.length_cons, List.length_append,
                List.length_cons]
              omega
            obtain ⟨pieces, later⟩ := ih _ shorter after rfl
            exact ⟨.reference name :: pieces, same ▸ Scanned.reference named later⟩
          · obtain ⟨pieces, later⟩ := ih _ (Nat.lt_succ_self _) rest rfl
            exact ⟨_, .plain (fun name named found => begins ⟨name, named, found⟩) later⟩

/-- A text has only one cut into pieces. -/
theorem unique {other : List Piece} (scanned : Scanned text pieces)
    (scannedToo : Scanned text other) : other = pieces := by
  induction scanned generalizing other with
  | nil =>
      generalize whole : ([] : List Char) = text at scannedToo
      cases scannedToo with
      | nil => rfl
      | plain => cases whole
      | reference => rw [spelling_append] at whole; cases whole
  | @plain character rest pieces none later ih =>
      generalize whole : character :: rest = text at scannedToo
      cases scannedToo with
      | nil => cases whole
      | plain none' later' =>
          cases whole
          rw [ih later']
      | reference named later' => exact absurd ⟨_, whole.symm⟩ (none _ named)
  | @reference name rest pieces named later ih =>
      generalize whole : spelling name ++ rest = text at scannedToo
      cases scannedToo with
      | nil => rw [spelling_append] at whole; cases whole
      | plain none' later' => exact absurd ⟨_, whole⟩ (none' _ named)
      | reference named' later' =>
          obtain ⟨rfl, rfl⟩ := spelling_append_inj named named' whole
          rw [ih later']

/-- The references that are looked for are those of the pieces. -/
theorem references_eq (scanned : Scanned text pieces) : references text = names pieces := by
  have within (fuel : Nat) (enough : text.length ≤ fuel) :
      referencesWithin fuel text = names pieces := by
    induction scanned generalizing fuel with
    | nil => cases fuel <;> rfl
    | @plain character rest pieces none later ih =>
        obtain ⟨fuel, rfl⟩ := Nat.exists_eq_succ_of_ne_zero (Nat.ne_zero_of_lt enough)
        have kept := ih fuel (Nat.le_of_succ_le_succ enough)
        by_cases dollar : character = '$'
        · subst dollar
          have plain : bracedName? rest = .none := by
            rw [Option.eq_none_iff_forall_ne_some]
            rintro ⟨name, after⟩ found
            obtain ⟨named, rfl⟩ := bracedName?_eq_some_iff.mp found
            exact none name named ⟨after, spelling_append name after⟩
          rw [referencesWithin, plain]
          exact kept
        · rw [referencesWithin]
          · exact kept
          · exact dollar
    | @reference name rest pieces named later ih =>
        rw [spelling_append] at enough ⊢
        obtain ⟨fuel, rfl⟩ := Nat.exists_eq_succ_of_ne_zero (Nat.ne_zero_of_lt enough)
        have shorter : rest.length ≤ fuel := by
          rw [List.length_cons, List.length_cons, List.length_append, List.length_cons] at enough
          omega
        rw [referencesWithin, bracedName?_eq_some_iff.mpr ⟨named, rfl⟩]
        exact congrArg (name :: ·) (ih fuel shorter)
  exact within _ le_rfl

end Scanned

end DashboardFilters.Config
