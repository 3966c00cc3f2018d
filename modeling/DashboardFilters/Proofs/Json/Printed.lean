import DashboardFilters.Proofs.Json.Quoted
import Mathlib.Data.List.Forall2

namespace DashboardFilters.Json

namespace Scan

open Reading (Error Field Record)

variable {α β σ : Type} {budget : Nat} {text middle rest : List Char}

section Nesting

/-- The place of an error plays no part where there is none. -/
theorem takes_placed {scan : Scan α} {value : α} (takes : Takes scan budget text value rest) :
    Takes (placed scan) budget text value rest := by
  intro cursor same
  obtain ⟨left, yields, stands⟩ := takes cursor same
  refine ⟨left, ?_, stands⟩
  rw [placed, tryCatch_apply, yields]

/-- What follows in any case follows what is taken. -/
theorem takes_thenAlways {scan : Scan α} {after : Scan Unit} {value : α}
    (first : Takes scan budget text value middle) (second : Takes after budget middle () rest) :
    Takes (thenAlways scan after) budget text value rest := by
  have kept : Takes (tryCatch (do return Except.ok (← scan)) fun error => return Except.error error
      : Scan (Except Error α)) budget text (.ok value) middle := by
    have wrapped : Takes (do return Except.ok (← scan) : Scan (Except Error α)) budget text
        (.ok value) middle := takes_bind first (takes_pure _ middle)
    intro cursor same
    obtain ⟨left, yields, stands⟩ := wrapped cursor same
    refine ⟨left, ?_, stands⟩
    rw [tryCatch_apply, yields]
  exact takes_bind kept (takes_bind second (takes_pure value rest))

/-- An array or object is taken with its bracket and with its end, one level further down. -/
theorem takes_within {scan : Scan α} {close : Scan Unit} {value : α} {opening : Char}
    (first : Takes scan budget text value middle) (second : Takes close budget middle () rest)
    (deep : 0 < budget) : Takes (within scan close) (budget + 1) (opening :: text) value rest := by
  have inside : Takes (do skip; thenAlways scan close : Scan α) budget (opening :: text) value
      rest := takes_bind (takes_skip opening text) (takes_thenAlways first second)
  intro cursor same
  obtain ⟨left, yields, stands⟩ := inside cursor same
  refine ⟨left, ?_, stands⟩
  have enough : ¬ budget + 1 ≤ 1 := by omega
  change (if budget + 1 ≤ 1 then failNext .tooDeep
    else withReader (fun _ => budget) (do skip; thenAlways scan close) : Scan α) (budget + 1)
      cursor = _
  rw [if_neg enough]
  exact yields

end Nesting

/-- Whether a scan reads a value from the text of a document, wherever the arrays and objects of the
document may still be opened. -/
def Reads (scan : Scan α) (document : Json) (value : α) : Prop :=
  ∀ budget, document.depth < budget → ∀ rest,
    Takes scan budget (document.compact.toList ++ rest) value rest

/-- A step that takes nothing more changes what is read. -/
theorem Reads.bind {scan : Scan α} {next : α → Scan β} {document : Json} {value : α} {result : β}
    (reads : Reads scan document value)
    (continues : ∀ budget rest, Takes (next value) budget rest result rest) :
    Reads (scan >>= next) document result :=
  fun budget deep rest => takes_bind (reads budget deep rest) (continues budget rest)

/-- A document is read from its whole text. -/
theorem Reads.run {scan : Scan α} {document : Json} {value : α} (reads : Reads scan document value)
    (shallow : document.depth < Scan.budget) : Scan.run scan document.compact = .ok value := by
  have nothing : Takes peekToken Scan.budget [] none [] := by
    rintro ⟨_, line, column⟩ rfl
    exact ⟨⟨[], line, column⟩, rfl, rfl⟩
  have whole : Takes (do
      let value ← scan
      finish
      return value : Scan α) Scan.budget document.compact.toList value [] := by
    have all := reads Scan.budget shallow []
    rw [List.append_nil] at all
    exact takes_bind all (takes_bind (takes_bind nothing (takes_pure () [])) (takes_pure value []))
  obtain ⟨left, yields, -⟩ := whole (Cursor.start document.compact) rfl
  exact congrArg Prod.fst yields

theorem takes_ofResult {result : Except Error α} {value : α} (known : result = .ok value)
    (text : List Char) : Takes (ofResult result) budget text value text := by
  rw [known]
  exact takes_pure value text

section Texts

/-- A string is taken as it is printed, whatever was expected. -/
theorem takes_textAs (expected value : String) (rest : List Char) :
    Takes (textAs expected) budget ((stringText value).toList ++ rest) value rest := by
  rw [toList_stringText]
  exact takes_bind (takes_peekToken (by decide) _)
    (takes_bind (takes_skip '"' _) (takes_string value rest))

theorem reads_text (value : String) : Reads Scan.text (.string value) value :=
  fun _ _ rest => takes_textAs _ value rest

/-- A variant is read from its name. -/
theorem reads_variant {variants : List (String × α)} {name : String} {value : α}
    (known : variants.lookup name = some value) :
    Reads (variant variants) (.string name) value := by
  intro budget _ rest
  have chosen : Reading.choose variants name = .ok value := by
    rw [Reading.choose, known]
  have named : Takes (placed (do
      let name ← textAs "variant identifier"
      ofResult (Reading.choose variants name))) budget ((stringText name).toList ++ rest) value
      rest := takes_placed (takes_bind (takes_textAs _ name rest) (takes_ofResult chosen rest))
  change Takes _ budget ((stringText name).toList ++ rest) value rest
  rw [toList_stringText] at named ⊢
  exact takes_bind (takes_peekToken (by decide) _) named

end Texts

/-- There is one text for every item. -/
theorem length_compactItems (items : List Json) : (compactItems items).length = items.length := by
  induction items with
  | nil => rfl
  | cons item rest ih => rw [compactItems, List.length_cons, List.length_cons, ih]

/-- There is one text for every member. -/
theorem length_compactMembers (members : List (String × Json)) :
    (compactMembers members).length = members.length := by
  induction members with
  | nil => rfl
  | cons member rest ih => rw [compactMembers, List.length_cons, List.length_cons, ih]

theorem toList_compact_array (items : List Json) (rest : List Char) :
    (Json.array items).compact.toList ++ rest =
      '[' :: ((String.intercalate "," (compactItems items)).toList ++ ']' :: rest) := by
  rw [compact, String.toList_append, String.toList_append, List.append_assoc, List.append_assoc]
  rfl

theorem toList_compact_object (members : List (String × Json)) (rest : List Char) :
    (Json.object members).compact.toList ++ rest =
      '{' :: ((String.intercalate "," (compactMembers members)).toList ++ '}' :: rest) := by
  rw [compact, String.toList_append, String.toList_append, List.append_assoc, List.append_assoc]
  rfl

/-- Whether the text of a document begins with a quote, a bracket or a brace. -/
def Enclosed (document : Json) : Prop :=
  ∃ text, document.compact.toList = '"' :: text ∨ document.compact.toList = '[' :: text ∨
    document.compact.toList = '{' :: text

theorem enclosed_string (value : String) : Enclosed (.string value) := by
  have same := toList_stringText value []
  rw [List.append_nil] at same
  exact ⟨_, .inl same⟩

theorem enclosed_object (members : List (String × Json)) : Enclosed (.object members) := by
  have same := toList_compact_object members []
  rw [List.append_nil] at same
  exact ⟨_, .inr (.inr same)⟩

/-- What may be null is read where it is not. -/
theorem reads_optional {scan : Scan α} {document : Json} {value : α} (enclosed : Enclosed document)
    (reads : Reads scan document value) : Reads (optional scan) document (some value) := by
  intro budget deep rest
  have present : Takes (do return some (← scan) : Scan (Option α)) budget
      (document.compact.toList ++ rest) (some value) rest :=
    takes_bind (reads budget deep rest) (takes_pure (some value) rest)
  rcases enclosed with ⟨text, same | same | same⟩ <;> rw [same] at present ⊢ <;>
    exact takes_bind (takes_peekToken (by decide) _) present

section Items

/-- Pieces with a comma in front of each of them. -/
def commas (pieces : List String) : List Char :=
  pieces.flatMap fun piece => ',' :: piece.toList

/-- Commas stand in front of all pieces but the first. -/
theorem toList_intercalate (piece : String) (pieces : List String) :
    (String.intercalate "," (piece :: pieces)).toList = piece.toList ++ commas pieces := by
  rw [String.toList_intercalate, List.map_cons]
  induction pieces generalizing piece with
  | nil => simp [commas]
  | cons other pieces ih =>
      rw [List.map_cons, List.intercalate_cons_cons, ih]
      simp [commas]

/-- There are at least as many characters as pieces. -/
theorem length_le_commas (pieces : List String) : pieces.length ≤ (commas pieces).length := by
  induction pieces with
  | nil => exact Nat.le_refl 0
  | cons piece pieces ih =>
      have more : (commas (piece :: pieces)).length =
          piece.toList.length + 1 + (commas pieces).length := by
        rw [commas, List.flatMap_cons, List.length_append, List.length_cons]
        rfl
      rw [List.length_cons, more]
      omega

/-- An array goes on with its first item. -/
theorem takes_nextItem_first {document : Json} (enclosed : Enclosed document) (rest : List Char) :
    Takes (nextItem true) budget (document.compact.toList ++ rest) true
      (document.compact.toList ++ rest) := by
  rcases enclosed with ⟨text, same | same | same⟩ <;> rw [same] <;>
    exact takes_bind (takes_peekToken (by decide) _) (takes_pure true _)

/-- An array goes on behind a comma. -/
theorem takes_nextItem_later {document : Json} (enclosed : Enclosed document) (rest : List Char) :
    Takes (nextItem false) budget (',' :: (document.compact.toList ++ rest)) true
      (document.compact.toList ++ rest) := by
  rcases enclosed with ⟨text, same | same | same⟩ <;> rw [same] <;>
    exact takes_bind (takes_peekToken (by decide) _) (takes_bind (takes_skip ',' _)
      (takes_bind (takes_peekToken (by decide) _) (takes_pure true _)))

/-- An array ends with its bracket. -/
theorem takes_nextItem_end (first : Bool) (rest : List Char) :
    Takes (nextItem first) budget (']' :: rest) false (']' :: rest) :=
  takes_bind (takes_peekToken (by decide) _) (takes_pure false _)

variable {item : Scan α} {documents : List Json} {values : List α}

/-- Items behind commas are read one after the other. -/
theorem takes_itemsWithin (reads : List.Forall₂ (Reads item) documents values)
    (enclosed : ∀ document ∈ documents, Enclosed document) {fuel : Nat}
    (enough : documents.length < fuel) (deep : depthItems documents < budget) (rest : List Char) :
    Takes (itemsWithin item fuel false) budget (commas (compactItems documents) ++ ']' :: rest)
      values (']' :: rest) := by
  induction reads generalizing fuel with
  | nil =>
      obtain ⟨fuel, rfl⟩ := Nat.exists_eq_succ_of_ne_zero (Nat.ne_of_gt enough)
      exact takes_bind (takes_nextItem_end false rest) (takes_pure [] _)
  | @cons document value documents values first others ih =>
      obtain ⟨fuel, rfl⟩ := Nat.exists_eq_succ_of_ne_zero (Nat.ne_zero_of_lt enough)
      rw [List.forall_mem_cons] at enclosed
      rw [depthItems, Nat.max_lt] at deep
      have text : commas (compactItems (document :: documents)) ++ ']' :: rest =
          ',' :: (document.compact.toList ++ (commas (compactItems documents) ++ ']' :: rest)) := by
        rw [compactItems, commas, List.flatMap_cons, List.cons_append, List.cons_append,
          List.append_assoc]
        rfl
      rw [text]
      exact takes_bind (takes_nextItem_later enclosed.1 _) (takes_bind (first budget deep.1 _)
        (takes_bind (ih enclosed.2 (Nat.lt_of_succ_lt_succ enough) deep.2) (takes_pure _ _)))

/-- All items of an array are read. -/
theorem takes_items (reads : List.Forall₂ (Reads item) documents values)
    (enclosed : ∀ document ∈ documents, Enclosed document) (deep : depthItems documents < budget)
    (rest : List Char) :
    Takes (items item) budget
      ((String.intercalate "," (compactItems documents)).toList ++ ']' :: rest) values
      (']' :: rest) := by
  refine takes_get fun cursor same => ?_
  cases reads with
  | nil => exact takes_bind (takes_nextItem_end true rest) (takes_pure [] _)
  | @cons document value documents values first others =>
      rw [List.forall_mem_cons] at enclosed
      rw [depthItems, Nat.max_lt] at deep
      rw [compactItems, toList_intercalate, List.append_assoc] at same ⊢
      have enough : documents.length < cursor.rest.length := by
        have many := length_le_commas (compactItems documents)
        rw [length_compactItems] at many
        simp only [same, List.length_append, List.length_cons]
        omega
      exact takes_bind (takes_nextItem_first enclosed.1 _) (takes_bind (first budget deep.1 _)
        (takes_bind (takes_itemsWithin others enclosed.2 enough deep.2 rest) (takes_pure _ _)))

/-- An array is read item by item. -/
theorem reads_list (reads : List.Forall₂ (Reads item) documents values)
    (enclosed : ∀ document ∈ documents, Enclosed document) :
    Reads (list item) (.array documents) values := by
  intro budget deep rest
  rw [depth] at deep
  obtain ⟨budget, rfl⟩ := Nat.exists_eq_succ_of_ne_zero (Nat.ne_zero_of_lt deep)
  have closes : Takes closeArray budget (']' :: rest) () rest :=
    takes_bind (takes_peekToken (by decide) _) (takes_skip ']' rest)
  have all := takes_items reads enclosed (Nat.lt_of_succ_lt_succ deep) rest
  rw [toList_compact_array]
  exact takes_bind (takes_peekToken (by decide) _) (takes_placed (takes_within all closes
    (Nat.zero_lt_of_lt (Nat.lt_of_succ_lt_succ deep))))

end Items

section Members

variable {record : Record Scan σ α} {members : List (String × Json)} {state final : σ}

/-- Members fill a record one after the other, each under the name of a field that it may still
take. -/
inductive Filled (record : Record Scan σ α) : List (String × Json) → σ → σ → Prop
  | nil (state : σ) : Filled record [] state state
  | cons {name : String} {document : Json} {members : List (String × Json)} {state next final : σ}
      {field : Field Scan σ} (known : record.field name state = .ok (some field))
      (fills : Reads (field.fill state) document next) (others : Filled record members next final) :
      Filled record ((name, document) :: members) state final

/-- A colon stands between the key of a member and its document. -/
theorem toList_member (name : String) (document : Json) (rest : List Char) :
    (stringText name ++ ":" ++ document.compact).toList ++ rest =
      (stringText name).toList ++ ':' :: (document.compact.toList ++ rest) := by
  rw [String.toList_append, String.toList_append, List.append_assoc, List.append_assoc]
  rfl

/-- A member fills its field. -/
theorem takes_fillNamed {name : String} {document : Json} {next : σ} {field : Field Scan σ}
    (known : record.field name state = .ok (some field))
    (fills : Reads (field.fill state) document next) (deep : document.depth < budget)
    (rest : List Char) :
    Takes (fillNamed record state) budget
      ((stringText name).toList ++ ':' :: (document.compact.toList ++ rest)) next rest := by
  have separates : Takes colon budget (':' :: (document.compact.toList ++ rest)) ()
      (document.compact.toList ++ rest) :=
    takes_bind (takes_peekToken (by decide) _) (takes_skip ':' _)
  exact takes_bind (takes_key name _) (takes_bind (takes_ofResult known _)
    (takes_bind separates (fills budget deep rest)))

/-- An object goes on with its first key. -/
theorem takes_nextMember_first (name : String) (rest : List Char) :
    Takes (nextMember true) budget ((stringText name).toList ++ rest) true
      ((stringText name).toList ++ rest) := by
  rw [toList_stringText]
  exact takes_bind (takes_bind (takes_peekToken (by decide) _) (takes_pure (some '"') _))
    (takes_pure true _)

/-- An object goes on behind a comma. -/
theorem takes_nextMember_later (name : String) (rest : List Char) :
    Takes (nextMember false) budget (',' :: ((stringText name).toList ++ rest)) true
      ((stringText name).toList ++ rest) := by
  rw [toList_stringText]
  exact takes_bind (takes_bind (takes_peekToken (by decide) _) (takes_bind (takes_skip ',' _)
    (takes_bind (takes_peekToken (by decide) _) (takes_pure (some '"') _)))) (takes_pure true _)

/-- An object ends with its brace. -/
theorem takes_nextMember_end (first : Bool) (rest : List Char) :
    Takes (nextMember first) budget ('}' :: rest) false ('}' :: rest) :=
  takes_bind (takes_bind (takes_peekToken (by decide) _) (takes_pure (some '}') _))
    (takes_pure false _)

/-- Members behind commas fill the record one after the other. -/
theorem takes_membersWithin (fills : Filled record members state final) {fuel : Nat}
    (enough : members.length < fuel) (deep : depthMembers members < budget) (rest : List Char) :
    Takes (membersWithin (fillNamed record) fuel false state) budget
      (commas (compactMembers members) ++ '}' :: rest) final ('}' :: rest) := by
  induction fills generalizing fuel with
  | nil =>
      obtain ⟨fuel, rfl⟩ := Nat.exists_eq_succ_of_ne_zero (Nat.ne_of_gt enough)
      exact takes_bind (takes_nextMember_end false rest) (takes_pure _ _)
  | @cons name document members state next final field known fills others ih =>
      obtain ⟨fuel, rfl⟩ := Nat.exists_eq_succ_of_ne_zero (Nat.ne_zero_of_lt enough)
      rw [depthMembers, Nat.max_lt] at deep
      have text : commas (compactMembers ((name, document) :: members)) ++ '}' :: rest =
          ',' :: ((stringText name).toList ++ ':' :: (document.compact.toList ++
            (commas (compactMembers members) ++ '}' :: rest))) := by
        rw [← toList_member, compactMembers, commas, List.flatMap_cons, List.cons_append,
          List.cons_append, List.append_assoc]
        rfl
      rw [text]
      exact takes_bind (takes_nextMember_later name _)
        (takes_bind (takes_fillNamed known fills deep.1 _)
          (ih (Nat.lt_of_succ_lt_succ enough) deep.2))

/-- All members of an object fill the record. -/
theorem takes_members (fills : Filled record members state final)
    (deep : depthMembers members < budget) (rest : List Char) :
    Takes (Scan.members (fillNamed record) state) budget
      ((String.intercalate "," (compactMembers members)).toList ++ '}' :: rest) final
      ('}' :: rest) := by
  refine takes_get fun cursor same => ?_
  cases fills with
  | nil => exact takes_bind (takes_nextMember_end true rest) (takes_pure _ _)
  | @cons name document members state next final field known fills others =>
      rw [depthMembers, Nat.max_lt] at deep
      rw [compactMembers, toList_intercalate, List.append_assoc, toList_member] at same ⊢
      have enough : members.length < cursor.rest.length := by
        have many := length_le_commas (compactMembers members)
        rw [length_compactMembers] at many
        simp only [same, List.length_append, List.length_cons]
        omega
      exact takes_bind (takes_nextMember_first name _)
        (takes_bind (takes_fillNamed known fills deep.1 _)
          (takes_membersWithin others enough deep.2 rest))

/-- A record is read from an object whose members fill it. -/
theorem reads_record {value : α} (fills : Filled record members record.start final)
    (finished : record.finish final = .ok value) :
    Reads (Scan.record record) (.object members) value := by
  intro budget deep rest
  rw [depth] at deep
  obtain ⟨budget, rfl⟩ := Nat.exists_eq_succ_of_ne_zero (Nat.ne_zero_of_lt deep)
  have closes : Takes closeObject budget ('}' :: rest) () rest :=
    takes_bind (takes_peekToken (by decide) _) (takes_skip '}' rest)
  have all : Takes (do ofResult (record.finish (← Scan.members (fillNamed record) record.start)))
      budget ((String.intercalate "," (compactMembers members)).toList ++ '}' :: rest) value
      ('}' :: rest) :=
    takes_bind (takes_members fills (Nat.lt_of_succ_lt_succ deep) rest) (takes_ofResult finished _)
  rw [toList_compact_object]
  exact takes_bind (takes_peekToken (by decide) _) (takes_placed (takes_within all closes
    (Nat.zero_lt_of_lt (Nat.lt_of_succ_lt_succ deep))))

/-- A member for a field of one value fills it. -/
theorem Filled.field {β : Type} {name : String} {needed : Bool} {taken : σ → Option β}
    {put : σ → Option β → σ} {read : Scan β} {document : Json} {value : β}
    (known : record.field name state = .ok (some (.of name needed taken put read)))
    (reads : Reads read document value)
    (others : Filled record members (put state (some value)) final) :
    Filled record ((name, document) :: members) state final :=
  .cons known (reads.bind fun _ rest => takes_pure _ rest) others

/-- A member that may be left out fills its field, or leaves it empty. -/
theorem Filled.toList {β : Type} {name : String} {needed : Bool} {taken : σ → Option β}
    {put : σ → Option β → σ} {read : Scan β} {document? : Option Json} {value? : Option β}
    (known : record.field name state = .ok (some (.of name needed taken put read)))
    (empty : put state none = state) (reads : Option.Rel (Reads read) document? value?)
    (others : Filled record members (put state value?) final) :
    Filled record ((document?.map fun document => (name, document)).toList ++ members) state
      final := by
  cases reads with
  | none =>
      rw [empty] at others
      exact others
  | some reads => exact .field known reads others

end Members

end Scan

end DashboardFilters.Json
