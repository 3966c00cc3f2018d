import DashboardFilters.Proofs.Config.References

namespace DashboardFilters.Config

variable {values : List Char → Option (List Char)} {name value text : List Char}
  {pieces run : List Piece}

/-- Whether no reference can begin in a text, whatever follows it: each dollar in it is followed,
within it, by another character than an opening brace. -/
def Calm (text : List Char) : Prop :=
  ∀ back, '$' :: back <:+ text → ∃ next rest, back = next :: rest ∧ next ≠ '\x7b'

/-- Whether nothing in some pieces can be taken for a reference once values are put in: no value and
no name goes on to one, and no value stands right behind a dollar. -/
structure Apart (values : List Char → Option (List Char)) (pieces : List Piece) : Prop where
  contents : ∀ name value, .reference name ∈ pieces → values name = some value → Calm value
  names : ∀ name, .reference name ∈ pieces → Calm (name ++ ['\x7d'])
  dollars : ∀ name, values name ≠ none → ¬ [.plain '$', .reference name] <:+: pieces

theorem Apart.mono (apart : Apart values pieces) (part : run <:+: pieces) : Apart values run where
  contents name value inside := apart.contents name value (part.subset inside)
  names name inside := apart.names name (part.subset inside)
  dollars name given inside := apart.dollars name given (inside.trans part)

theorem Calm.never_begins (calm : Calm text) {back : List Char} (ends : back <:+ text)
    (some : back ≠ []) (rest : List Char) : ¬ spelling name <+: back ++ rest := by
  intro begins
  obtain ⟨first, others, rfl⟩ := List.exists_cons_of_ne_nil some
  obtain ⟨rfl, later⟩ := List.cons_prefix_cons.mp begins
  obtain ⟨next, _, rfl, other⟩ := calm others ends
  exact other (List.cons_prefix_cons.mp later).1.symm

/-- An occurrence in two texts put together begins in the first of them, or is in the second. -/
theorem not_infix_append {pattern front back : List Char} (none : ¬ pattern <:+: back)
    (noBegin : ∀ rest, rest <:+ front → rest ≠ [] → ¬ pattern <+: rest ++ back) :
    ¬ pattern <:+: front ++ back := by
  induction front with
  | nil => exact none
  | cons character rest ih =>
      rw [List.cons_append, List.infix_cons_iff, not_or]
      refine ⟨noBegin _ (List.suffix_refl _) (List.cons_ne_nil _ _), ih ?_⟩
      exact fun part ends => noBegin part (ends.trans (List.suffix_cons _ _))

/-- Where a dollar and an opening brace begin no reference, no closing brace follows, or at once. -/
theorem Scanned.closed
    (scanned : Scanned text (.plain '$' :: .plain '\x7b' :: pieces)) :
    (∀ piece ∈ pieces, '\x7d' ∉ piece.spelled) ∨ ∃ others, pieces = .plain '\x7d' :: others := by
  obtain _ | ⟨none, later⟩ := scanned
  obtain _ | ⟨-, later⟩ := later
  next rest =>
    by_cases closes : '\x7d' ∈ rest
    · right
      obtain ⟨name, after, whole, closed⟩ := List.eq_append_cons_of_mem closes
      cases name with
      | nil =>
          cases later with
          | nil => cases whole
          | plain none later =>
              cases whole
              exact ⟨_, rfl⟩
          | reference named later =>
              rw [spelling_append] at whole
              cases whole
      | cons first others =>
          have named : IsName (first :: others) := ⟨List.cons_ne_nil _ _, closed⟩
          refine absurd ⟨after, ?_⟩ (none _ named)
          rw [spelling_append, whole]
    · left
      intro piece inside there
      rw [← later.spelled] at closes
      exact closes (List.mem_flatMap.mpr ⟨piece, inside, there⟩)

/-- How the pieces of a text stand in it while references to a name are still to be replaced: other
references by their spellings or values. -/
structure Shows (values : List Char → Option (List Char)) (name : List Char)
    (shown : Piece → List Char) (pieces : List Piece) : Prop where
  plain : ∀ character, shown (.plain character) = [character]
  reference : ∀ other, .reference other ∈ pieces → values other = some (shown (.reference other)) ∨
    shown (.reference other) = spelling other ∧ other ≠ name

/-- No occurrence of a spelling begins with a dollar that is no reference, if no value stands right
behind it. -/
theorem Scanned.never_begins {after : List Piece} {shown : Piece → List Char} {character : Char}
    (scanned : Scanned text (.plain character :: run ++ after))
    (apart : Apart values (.plain character :: run)) (named : IsName name)
    (shows : Shows values name shown run) :
    ¬ spelling name <+: character :: run.flatMap shown := by
  intro begins
  obtain ⟨rfl, brace⟩ := List.cons_prefix_cons.mp begins
  obtain _ | ⟨piece, rest⟩ := run
  · cases List.prefix_nil.mp brace
  rw [List.flatMap_cons] at brace
  cases piece with
  | reference other =>
      rcases shows.reference other List.mem_cons_self with given | ⟨spelled, -⟩
      · have set : values other ≠ none := given ▸ Option.some_ne_none _
        exact apart.dollars other set ⟨[], rest, rfl⟩
      · rw [spelled, spelling_append] at brace
        exact absurd (List.cons_prefix_cons.mp brace).1 (by decide)
  | plain second =>
      rw [shows.plain] at brace
      obtain ⟨rfl, closes⟩ := List.cons_prefix_cons.mp brace
      rcases scanned.closed with unclosed | ⟨others, same⟩
      · have there : '\x7d' ∈ rest.flatMap shown := closes.subset (by simp)
        obtain ⟨piece, inside, closes⟩ := List.mem_flatMap.mp there
        have none := unclosed piece (List.mem_append_left after inside)
        cases piece with
        | plain character =>
            rw [shows.plain] at closes
            exact none closes
        | reference other => exact none (List.mem_append_right _ List.mem_cons_self)
      · obtain ⟨first, tail, rfl⟩ := List.exists_cons_of_ne_nil named.some
        obtain _ | ⟨piece, others⟩ := rest
        · cases List.prefix_nil.mp closes
        · obtain ⟨rfl, -⟩ := List.cons_eq_cons.mp same
          rw [List.flatMap_cons, shows.plain] at closes
          obtain ⟨rfl, -⟩ := List.cons_prefix_cons.mp closes
          exact named.closed List.mem_cons_self

/-- Between the references to a name there is no other occurrence of its spelling. -/
theorem Scanned.never_occurs {after : List Piece} {shown : Piece → List Char}
    (scanned : Scanned text (run ++ after)) (apart : Apart values run) (named : IsName name)
    (shows : Shows values name shown run) : ¬ spelling name <:+: run.flatMap shown := by
  induction run generalizing text with
  | nil => exact fun inside => spelling_ne_nil name (List.infix_nil.mp inside)
  | cons piece rest ih =>
      have part : rest <:+: piece :: rest := (List.suffix_cons piece rest).isInfix
      have showsRest : Shows values name shown rest :=
        ⟨shows.plain, fun other inside => shows.reference other (List.mem_cons_of_mem _ inside)⟩
      obtain ⟨remaining, later⟩ := Scanned.drop [piece] scanned
      rw [List.flatMap_cons]
      refine not_infix_append (ih later (apart.mono part) showsRest) fun back ends some => ?_
      cases piece with
      | plain character =>
          rw [shows.plain] at ends
          obtain rfl := (List.suffix_cons_iff.mp ends).resolve_right fun ends =>
            some (List.suffix_nil.mp ends)
          exact scanned.never_begins apart named showsRest
      | reference other =>
          rcases shows.reference other List.mem_cons_self with given | ⟨spelled, different⟩
          · exact (apart.contents other _ List.mem_cons_self given).never_begins ends some _
          · rw [spelled] at ends
            have namedToo : IsName other := scanned.isName other List.mem_cons_self
            rcases List.suffix_cons_iff.mp ends with rfl | ends
            · rintro ⟨after, same⟩
              exact different (spelling_append_inj named namedToo same).1.symm
            · rcases List.suffix_cons_iff.mp ends with rfl | ends
              · exact fun begins => absurd (List.cons_prefix_cons.mp begins).1 (by decide)
              · exact (apart.names other List.mem_cons_self).never_begins ends some _

/-- References to one name are replaced all at once if there is no other occurrence of its spelling
between them. -/
theorem replaceAll_pieces (closed : '\x7d' ∉ name) {before after : Piece → List Char}
    (same : ∀ piece ∈ pieces, piece ≠ .reference name → after piece = before piece)
    (spelled : before (.reference name) = spelling name) (put : after (.reference name) = value)
    (gaps : ∀ run, run <:+: pieces → .reference name ∉ run →
      ¬ spelling name <:+: run.flatMap before) :
    replaceAll (spelling name) value (pieces.flatMap before) = pieces.flatMap after := by
  induction length : pieces.length using Nat.strong_induction_on generalizing pieces with
  | _ _ ih =>
      subst length
      have kept {run : List Piece} (part : run <:+: pieces) (none : .reference name ∉ run) :
          replaceAll (spelling name) value (run.flatMap before) = run.flatMap after := by
        rw [replaceAll_absent (gaps run part none)]
        exact List.flatMap_congr fun piece inside =>
          (same piece (part.subset inside) fun reference => none (reference ▸ inside)).symm
      by_cases there : .reference name ∈ pieces
      · obtain ⟨run, rest, rfl, none⟩ := List.eq_append_cons_of_mem there
        have front : run <:+: run ++ .reference name :: rest := List.infix_append' [] run _
        have back : rest <:+: run ++ .reference name :: rest :=
          ((List.suffix_cons _ rest).trans (List.suffix_append run _)).isInfix
        have later := ih rest.length (by simp; omega)
          (fun piece inside => same piece (back.subset inside))
          (fun part inside => gaps part (inside.trans back)) rfl
        rw [List.flatMap_append, List.flatMap_cons, spelled, replaceAll_between closed,
          kept front none, later, List.flatMap_append, List.flatMap_cons, put]
      · exact kept (List.infix_refl pieces) there

def valueOf (environment : String → Option String) (name : List Char) : Option (List Char) :=
  (environment (String.ofList name)).map String.toList

/-- The text after one name has been replaced by its value, if it has one. -/
def replaceName (values : List Char → Option (List Char)) (text name : List Char) : List Char :=
  match values name with
  | some value => replaceAll (spelling name) value text
  | none => text

theorem expand_eq (environment : String → Option String) (text : String) :
    expand environment text = String.ofList
      ((references text.toList).foldl (replaceName (valueOf environment)) text.toList) := by
  apply congrArg fun step => String.ofList ((references text.toList).foldl step text.toList)
  funext text name
  unfold replaceName valueOf
  cases environment (String.ofList name) <;> rfl

theorem replaceName_of_some (given : values name = some value) :
    replaceName values text name = replaceAll (spelling name) value text := by
  rw [replaceName, given]

/-- The values of those names that have been replaced. -/
def upTo (values : List Char → Option (List Char)) (done : List (List Char)) (name : List Char) :
    Option (List Char) :=
  if name ∈ done then values name else none

variable {done : List (List Char)}

/-- A name without a value makes no difference. -/
theorem upTo_cons_of_none (none : values name = none) :
    upTo values (name :: done) = upTo values done := by
  funext other
  by_cases same : other = name
  · subst same
    simp [upTo, none]
  · simp [upTo, same]

theorem shows_upTo (given : values name = some value)
    (apart : ∀ other, .reference other ∈ pieces → name ∈ done ∨ other ≠ name) :
    Shows values name (Piece.under (upTo values done)) pieces := by
  refine ⟨fun _ => rfl, fun other inside => ?_⟩
  by_cases replaced : other ∈ done
  · cases known : values other with
    | none =>
        right
        refine ⟨by simp [Piece.under, upTo, known], ?_⟩
        rintro rfl
        cases known.symm.trans given
    | some other => exact .inl (by simp [Piece.under, upTo, replaced, known])
  · right
    refine ⟨by simp [Piece.under, upTo, replaced], ?_⟩
    rintro rfl
    exact (apart other inside).elim replaced fun different => different rfl

/-- Replacing one name puts in its value, if nothing else is taken for a reference to it. -/
theorem replaceName_upTo (scanned : Scanned text pieces) (apart : Apart values pieces)
    (named : IsName name) :
    replaceName values (pieces.flatMap (Piece.under (upTo values done))) name =
      pieces.flatMap (Piece.under (upTo values (name :: done))) := by
  unfold replaceName
  split
  next value given =>
    have gaps (run : List Piece) (part : run <:+: pieces)
        (none : ∀ other, .reference other ∈ run → name ∈ done ∨ other ≠ name) :
        ¬ spelling name <:+: run.flatMap (Piece.under (upTo values done)) := by
      obtain ⟨front, back, rfl⟩ := part
      rw [List.append_assoc] at scanned
      obtain ⟨rest, scanned⟩ := scanned.drop front
      exact scanned.never_occurs (apart.mono ⟨front, back, rfl⟩) named (shows_upTo given none)
    by_cases before : name ∈ done
    · have kept : upTo values (name :: done) = upTo values done := by
        funext other
        by_cases same : other = name
        · simp [upTo, same, before]
        · simp [upTo, same]
      rw [kept]
      exact replaceAll_absent (gaps pieces (List.infix_refl _) fun _ _ => .inl before)
    · refine replaceAll_pieces named.closed (fun piece _ other => ?_) ?_ ?_ fun run part none => ?_
      · cases piece with
        | plain character => rfl
        | reference other' =>
            have different : other' ≠ name := fun same => other (same ▸ rfl)
            simp [Piece.under, upTo, different]
      · simp [Piece.under, upTo, before]
      · simp [Piece.under, upTo, given]
      · exact gaps run part fun other inside => .inr fun same => none (same ▸ inside)
  next none => rw [upTo_cons_of_none none]

/-- Replacing one name after another puts in the values of all of them. -/
theorem foldl_replaceName (scanned : Scanned text pieces) (apart : Apart values pieces)
    {todo : List (List Char)} (named : ∀ name ∈ todo, IsName name) :
    todo.foldl (replaceName values) (pieces.flatMap (Piece.under (upTo values done))) =
      pieces.flatMap (Piece.under (upTo values (todo.reverse ++ done))) := by
  induction todo generalizing done with
  | nil => rfl
  | cons name rest ih =>
      rw [List.forall_mem_cons] at named
      rw [List.foldl_cons, replaceName_upTo scanned apart named.1, ih named.2,
        List.reverse_cons, List.append_assoc, List.singleton_append]

/-- Where nothing that is put in is taken for a reference, all values are put in at once. -/
theorem Scanned.replaceName_eq (scanned : Scanned text pieces) (apart : Apart values pieces) :
    (names pieces).foldl (replaceName values) text = pieces.flatMap (Piece.under values) := by
  have start : text = pieces.flatMap (Piece.under (upTo values [])) := by
    rw [← scanned.spelled]
    refine List.flatMap_congr fun piece _ => ?_
    cases piece <;> simp [Piece.spelled, Piece.under, upTo]
  have stop : pieces.flatMap (Piece.under (upTo values ((names pieces).reverse ++ []))) =
      pieces.flatMap (Piece.under values) := by
    refine List.flatMap_congr fun piece inside => ?_
    cases piece with
    | plain character => rfl
    | reference name => simp [Piece.under, upTo, mem_names_iff, inside]
  rw [← stop, ← foldl_replaceName scanned apart scanned.isName, ← start]

/-- Where no name has a value, the pieces make up the text. -/
theorem Scanned.flatMap_under (scanned : Scanned text pieces)
    (none : ∀ name ∈ names pieces, values name = none) :
    pieces.flatMap (Piece.under values) = text := by
  rw [← scanned.spelled]
  refine List.flatMap_congr fun piece inside => ?_
  cases piece with
  | plain character => rfl
  | reference name => rw [Piece.under, none name (mem_names_iff.mpr inside)]; rfl

/-- Where all references are to one name, its value is put in at once. -/
theorem Scanned.replaceAll_alone (scanned : Scanned text pieces)
    (values : List Char → Option (List Char)) (named : IsName name)
    (alone : ∀ other ∈ names pieces, other = name) (given : values name = some value) :
    replaceAll (spelling name) value text = pieces.flatMap (Piece.under values) := by
  have same (piece : Piece) (inside : piece ∈ pieces) (other : piece ≠ .reference name) :
      Piece.under values piece = piece.spelled := by
    cases piece with
    | plain character => rfl
    | reference name' =>
        exact absurd (congrArg Piece.reference (alone name' (mem_names_iff.mpr inside))) other
  have gaps (run : List Piece) (part : run <:+: pieces) (none : .reference name ∉ run) :
      ¬ spelling name <:+: run.flatMap Piece.spelled := by
    obtain ⟨front, back, rfl⟩ := part
    rw [List.append_assoc] at scanned
    obtain ⟨rest, scannedRun⟩ := scanned.drop front
    have noReference (other : List Char) : .reference other ∉ run := by
      intro inside
      have there : other ∈ names (front ++ run ++ back) :=
        mem_names_iff.mpr (List.mem_append_left back (List.mem_append_right front inside))
      exact none (alone other there ▸ inside)
    have apart : Apart (fun _ => .none) run :=
      ⟨fun other _ inside => absurd inside (noReference other),
        fun other inside => absurd inside (noReference other), fun _ given => absurd rfl given⟩
    exact scannedRun.never_occurs apart named
      ⟨fun _ => rfl, fun other inside => absurd inside (noReference other)⟩
  have put : Piece.under values (.reference name) = value := by
    rw [Piece.under, given]
    rfl
  rw [← replaceAll_pieces named.closed same rfl put gaps, scanned.spelled]

/-- A single value is put in at once. -/
theorem Scanned.replaceName_single (scanned : Scanned text pieces)
    (single : (names pieces).length ≤ 1) :
    (names pieces).foldl (replaceName values) text = pieces.flatMap (Piece.under values) := by
  obtain none | ⟨name, alone⟩ := Nat.le_one_iff_eq_zero_or_eq_one.mp single |>.imp
    List.length_eq_zero_iff.mp List.length_eq_one_iff.mp
  · rw [scanned.flatMap_under (by simp [none]), none]
    rfl
  · rw [alone, List.foldl_cons, List.foldl_nil, replaceName]
    split
    next value given =>
      have named : IsName name := scanned.isName name (by simp [alone])
      exact scanned.replaceAll_alone values named (by simp [alone]) given
    next none => exact (scanned.flatMap_under (by simp [alone, none])).symm

/-- A text with a reference gets longer when its spelling is doubled. -/
theorem length_lt_replaceAll (closed : '\x7d' ∉ name) (there : spelling name <:+: text) :
    text.length < (replaceAll (spelling name) (spelling name ++ spelling name) text).length := by
  have longer : (spelling name).length ≤ (spelling name ++ spelling name).length := by
    rw [List.length_append]
    exact Nat.le_add_right _ _
  obtain ⟨front, back, rfl⟩ := there
  have grows := length_le_replaceAll (spelling_ne_nil name) longer
  have frontGrows := grows front
  have backGrows := grows back
  have some := List.length_pos_iff.mpr (spelling_ne_nil name)
  rw [List.append_assoc, replaceAll_between closed]
  simp only [List.length_append]
  omega

/-- For every name, a name that is referred to twice. -/
def doubled (name _other : List Char) : Option (List Char) :=
  some (spelling name ++ spelling name)

/-- References to one name only are not put in at once when their value doubles them. -/
theorem Scanned.ne_of_doubled (scanned : Scanned text pieces) {rest : List (List Char)}
    (several : names pieces = name :: name :: rest) (alone : ∀ other ∈ rest, other = name) :
    (names pieces).foldl (replaceName (doubled name)) text ≠
      pieces.flatMap (Piece.under (doubled name)) := by
  have named : IsName name := scanned.isName name (by simp [several])
  have all : ∀ other ∈ names pieces, other = name := by
    rw [several]
    simpa using alone
  have step (text : List Char) : replaceName (doubled name) text name =
      replaceAll (spelling name) (spelling name ++ spelling name) text :=
    rfl
  have once := scanned.replaceAll_alone (doubled name) named all rfl
  have there : spelling name <:+: pieces.flatMap (Piece.under (doubled name)) := by
    have inside : .reference name ∈ pieces := mem_names_iff.mp (by simp [several])
    have half : spelling name <:+: Piece.under (doubled name) (.reference name) :=
      (List.prefix_append _ _).isInfix
    exact half.trans (List.infix_of_mem_flatten (List.mem_map_of_mem inside))
  have twice := length_lt_replaceAll named.closed there
  have later (todo : List (List Char)) (known : ∀ other ∈ todo, other = name) (text : List Char) :
      text.length ≤ (todo.foldl (replaceName (doubled name)) text).length := by
    induction todo generalizing text with
    | nil => exact le_rfl
    | cons other todo ih =>
        rw [List.forall_mem_cons] at known
        obtain ⟨rfl, known⟩ := known
        refine le_trans (length_le_replaceAll (spelling_ne_nil _) ?_ text) (ih known _)
        rw [List.length_append]
        exact Nat.le_add_right _ _
  intro same
  rw [several, List.foldl_cons, List.foldl_cons, step, step, once] at same
  have lengths := later rest alone (replaceAll (spelling name) (spelling name ++ spelling name)
    (pieces.flatMap (Piece.under (doubled name))))
  rw [same] at lengths
  omega

/-- References are not put in at once when an earlier one has the last one as its value. -/
theorem Scanned.ne_of_forwarded (scanned : Scanned text pieces) {front : List (List Char)}
    {last : List Char} (ends : names pieces = front ++ [last]) (inside : name ∈ front)
    (other : name ≠ last) : ∃ values, (names pieces).foldl (replaceName values) text ≠
      pieces.flatMap (Piece.under values) := by
  have named : IsName last := scanned.isName last (by simp [ends])
  obtain ⟨character, noBrace, different⟩ : ∃ character, character ≠ '\x7d' ∧
      last.getLast? ≠ some character := by
    by_cases isX : last.getLast? = some 'x'
    · exact ⟨'y', by decide, by rw [isX]; decide⟩
    · exact ⟨'x', by decide, isX⟩
  let values (name : List Char) : Option (List Char) :=
    if name = last then some [character, '\x7d'] else some (spelling last)
  refine ⟨values, fun same => ?_⟩
  have none := not_infix_replaceAll named.some named.closed noBrace different
    (front.foldl (replaceName values) text)
  have final : (names pieces).foldl (replaceName values) text =
      replaceAll (spelling last) [character, '\x7d'] (front.foldl (replaceName values) text) := by
    rw [ends, List.foldl_append, List.foldl_cons, List.foldl_nil,
      replaceName_of_some (if_pos rfl)]
  have there : .reference name ∈ pieces := mem_names_iff.mp (by simp [ends, inside])
  have put : Piece.under values (.reference name) = spelling last := by
    simp [Piece.under, values, other]
  apply none
  rw [← final, same, ← put]
  exact List.infix_of_mem_flatten (List.mem_map_of_mem there)

/-- Where there is more than one reference, some values are not put in at once. -/
theorem Scanned.exists_ne (scanned : Scanned text pieces) (several : 1 < (names pieces).length) :
    ∃ values, (names pieces).foldl (replaceName values) text ≠
      pieces.flatMap (Piece.under values) := by
  obtain ⟨front, last, ends⟩ := (List.eq_nil_or_concat' (names pieces)).resolve_left fun none => by
    rw [none] at several
    exact absurd several (by decide)
  by_cases forwarded : ∃ name ∈ front, name ≠ last
  · obtain ⟨name, inside, other⟩ := forwarded
    exact scanned.ne_of_forwarded ends inside other
  · have alone : ∀ name ∈ front, name = last := by
      simpa using forwarded
    obtain _ | ⟨first, rest⟩ := front
    · rw [ends] at several
      exact absurd several (by simp)
    · obtain rfl := alone first List.mem_cons_self
      obtain ⟨second, others, same⟩ : ∃ second others, rest ++ [first] = second :: others := by
        cases rest with
        | nil => exact ⟨_, _, rfl⟩
        | cons second rest => exact ⟨_, _, rfl⟩
      have known : ∀ name ∈ second :: others, name = first := by
        rw [← same]
        simp only [List.mem_append, List.mem_singleton]
        rintro name (inside | rfl)
        · exact alone name (List.mem_cons_of_mem _ inside)
        · rfl
      obtain rfl := known second List.mem_cons_self
      rw [List.cons_append, same] at ends
      exact ⟨_, scanned.ne_of_doubled ends fun name inside =>
        known name (List.mem_cons_of_mem _ inside)⟩

/-- The text with values in the place of all references at once. -/
def substituted (environment : String → Option String) (pieces : List Piece) : String :=
  String.ofList (pieces.flatMap (Piece.under (valueOf environment)))

/-- A configuration text has one cut into references and other characters. The values of variables
are put in for all references at once, whatever they are, just if there is one reference at most;
and for more of them, where nothing that is put in is taken for a reference. -/
theorem expand_substituted (text : String) : ∃ pieces, Scanned text.toList pieces ∧
    (∀ other, Scanned text.toList other → other = pieces) ∧
    ((∀ environment, expand environment text = substituted environment pieces) ↔
      (names pieces).length ≤ 1) ∧
    ∀ environment, Apart (valueOf environment) pieces →
      expand environment text = substituted environment pieces := by
  obtain ⟨pieces, scanned⟩ := Scanned.exists_pieces text.toList
  have expanded (environment : String → Option String) : expand environment text =
      String.ofList ((names pieces).foldl (replaceName (valueOf environment)) text.toList) := by
    rw [expand_eq, scanned.references_eq]
  refine ⟨pieces, scanned, fun _ => scanned.unique, ⟨fun always => ?_, fun single _ => ?_⟩,
    fun environment apart => ?_⟩
  · by_contra several
    obtain ⟨values, different⟩ := scanned.exists_ne (Nat.lt_of_not_le several)
    let environment (name : String) : Option String := (values name.toList).map String.ofList
    have known : valueOf environment = values := by
      funext name
      simp [valueOf, environment, Function.comp_def]
    have same := always environment
    rw [expanded, substituted, known, String.ofList_inj] at same
    exact different same
  · rw [expanded, substituted, scanned.replaceName_single single]
  · rw [expanded, substituted, scanned.replaceName_eq apart]

end DashboardFilters.Config

namespace DashboardFilters

namespace Sample

/-- An environment where a format for times refers to one for dates. -/
def nestedFormats (name : String) : Option String :=
  [("TIMES", "$\x7bDATES\x7d"), ("DATES", "%d")].lookup name

/-- A text that refers to both of them. -/
def bothFormats : String :=
  "$\x7bTIMES\x7d $\x7bDATES\x7d"

def bothPieces : List Config.Piece :=
  [.reference "TIMES".toList, .plain ' ', .reference "DATES".toList]

/-- A text that refers to dates twice, and in between to a variable that is not set. -/
def repeatedFormats : String :=
  "${DATES}${ZONE} ${DATES}"

def repeatedPieces : List Config.Piece :=
  [.reference "DATES".toList, .reference "ZONE".toList, .plain ' ', .reference "DATES".toList]

end Sample

open Sample Config

/-- Both references to dates get their value, and the reference to what is not set stays. -/
theorem Config.expand_repeatedFormats : ∃ pieces, Scanned repeatedFormats.toList pieces ∧
    (names pieces).length = 3 ∧ Apart (valueOf nestedFormats) pieces ∧
    expand nestedFormats repeatedFormats = substituted nestedFormats pieces ∧
    substituted nestedFormats pieces = "%d${ZONE} %d" := by
  have whole : repeatedFormats.toList = spelling "DATES".toList ++ (spelling "ZONE".toList ++
      (' ' :: (spelling "DATES".toList ++ []))) := by decide
  have dates : IsName "DATES".toList := ⟨by decide, by decide⟩
  have zone : IsName "ZONE".toList := ⟨by decide, by decide⟩
  have scanned : Scanned repeatedFormats.toList repeatedPieces :=
    whole ▸ .reference dates (.reference zone (.plain_of_ne (by decide) (.reference dates .nil)))
  have calm (text : List Char) (none : '$' ∉ text) : Calm text :=
    fun back ends => absurd (ends.subset List.mem_cons_self) none
  have named (name : List Char) (inside : .reference name ∈ repeatedPieces) :
      name = "DATES".toList ∨ name = "ZONE".toList := by
    simpa only [repeatedPieces, List.mem_cons, List.not_mem_nil, Piece.reference.injEq,
      reduceCtorEq, or_false, false_or, or_comm, or_self_left] using inside
  have apart : Apart (valueOf nestedFormats) repeatedPieces := by
    refine ⟨fun name value inside given => ?_, fun name inside => ?_, fun name _ inside => ?_⟩
    · rcases named name inside with rfl | rfl
      · obtain rfl : "%d".toList = value := Option.some_inj.mp (given ▸ by decide)
        exact calm _ (by decide)
      · have unset : valueOf nestedFormats "ZONE".toList = none := by decide
        rw [unset] at given
        cases given
    · rcases named name inside with rfl | rfl <;> exact calm _ (by decide)
    · have there : Piece.plain '$' ∈ repeatedPieces := inside.subset List.mem_cons_self
      simp [repeatedPieces] at there
  obtain ⟨pieces, -, only, -, substitutes⟩ := expand_substituted repeatedFormats
  obtain rfl := only _ scanned
  exact ⟨_, scanned, rfl, apart, substitutes nestedFormats apart, by decide⟩

/-- What one variable refers to is put in where only its value should be. -/
theorem Config.expand_nestedFormats : Scanned bothFormats.toList bothPieces ∧
    expand nestedFormats bothFormats = "%d %d" ∧
    substituted nestedFormats bothPieces = "$\x7bDATES\x7d %d" := by
  have whole : bothFormats.toList =
      spelling "TIMES".toList ++ (' ' :: (spelling "DATES".toList ++ [])) := by decide
  have times : IsName "TIMES".toList := ⟨by decide, by decide⟩
  have dates : IsName "DATES".toList := ⟨by decide, by decide⟩
  have scanned : Scanned bothFormats.toList bothPieces :=
    whole ▸ .reference times (.plain_of_ne (by decide) (.reference dates .nil))
  exact ⟨scanned, by decide, by decide⟩

end DashboardFilters
