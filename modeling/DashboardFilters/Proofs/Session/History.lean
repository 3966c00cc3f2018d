import DashboardFilters.Proofs.Tree.RoundTrip
import DashboardFilters.Session
import Mathlib.Data.List.Induction
import Mathlib.Data.Set.Function

namespace DashboardFilters

/-- A tree that can be stored is read from its sorted document. -/
theorem Block.read_sorted_toJson {block : Block Value} (wellFormed : block.WellFormed) :
    Json.decode Block.read (block.toJson Value.toJson).sorted = .ok block := by
  rw [Json.decode, Json.sorted_sorted]
  exact Block.read_toJson wellFormed

namespace Session

/-- A change of what is stored for a dash. -/
inductive Call where
  | apply (key : SessionKey) (block : Block Value)
  | reset (key : SessionKey)

namespace Call

def key : Call → SessionKey
  | .apply key _ => key
  | .reset key => key

/-- The tree that a call leaves for its dash. -/
def tree? : Call → Option (Block Value)
  | .apply _ block => some block
  | .reset _ => none

def WellFormed (call : Call) : Prop :=
  ∀ block ∈ call.tree?, block.WellFormed

/-- The tree that the last call for a dash has left. -/
def lastTree? (key : SessionKey) (calls : List Call) : Option (Block Value) :=
  (calls.filter fun call => call.key = key).getLast?.bind tree?

variable {key : SessionKey} {call : Call} {calls : List Call}

/-- A later call for the dash decides. -/
theorem lastTree?_concat_of_eq (same : call.key = key) :
    lastTree? key (calls ++ [call]) = call.tree? := by
  simp [lastTree?, same]

/-- A later call for another dash decides nothing. -/
theorem lastTree?_concat_of_ne (apart : call.key ≠ key) :
    lastTree? key (calls ++ [call]) = lastTree? key calls := by
  simp [lastTree?, apart]

end Call

def perform (session : Session) : Call → Session
  | .apply key block => session.apply key block
  | .reset key => session.reset key

/-- The session after some calls, of which the first one finds nothing stored. -/
def after (scope : Option String) (calls : List Call) : Session :=
  calls.foldl perform { scope }

/-- The same store under another namespace. -/
def withScope (session : Session) (scope : Option String) : Session :=
  { session with scope }

/-- What applies to a dash: the tree that a call has left for it, or else the defaults, or else a
fresh block, for which alone an identifier is drawn. -/
def answer (tree? defaults : Option (Block Value)) (ids : IdSequence) :
    Block Value × IdSequence :=
  match tree?.or defaults with
  | some block => (block, ids)
  | none => Block.fresh ids

variable {session : Session} {call : Call} {key : SessionKey} {scope : Option String}

theorem after_concat (scope : Option String) (calls : List Call) (call : Call) :
    after scope (calls ++ [call]) = (after scope calls).perform call :=
  List.foldl_concat ..

/-- A call keeps the namespace. -/
theorem withScope_perform (session : Session) (call : Call) :
    (session.perform call).withScope session.scope = session.perform call := by
  cases call <;> rfl

/-- Calls keep the namespace. -/
theorem scope_after (scope : Option String) (calls : List Call) :
    (after scope calls).scope = scope := by
  induction calls using List.reverseRecOn with
  | nil => rfl
  | append_singleton calls call ih => rw [after_concat, ← withScope_perform, withScope, ih]

/-- A call sets or takes away the document under its own path and no other. -/
theorem get?_perform (session : Session) (call : Call) (path : String) :
    (session.perform call).get? path =
      if call.key.path session.scope = path
      then call.tree?.map fun block => (block.toJson Value.toJson).sorted
      else session.get? path := by
  cases call with
  | apply key block => exact Keyed.get?_put ..
  | reset key => exact Keyed.get?_erase ..

/-- What is stored for a dash depends on the document under its path. -/
theorem stored_congr {other : Session}
    (same : session.get? (key.path session.scope) = other.get? (key.path other.scope)) :
    session.stored key = other.stored key := by
  rw [stored, stored, same]

/-- The document of a tree stands for the tree, and no document for none. -/
theorem stored_of_get? {tree? : Option (Block Value)}
    (wellFormed : ∀ block ∈ tree?, block.WellFormed)
    (found : session.get? (key.path session.scope) =
      tree?.map fun block => (block.toJson Value.toJson).sorted) :
    session.stored key = .ok tree? := by
  cases tree? with
  | none => rw [stored, found, Option.map_none]
  | some block =>
      have reads := Block.read_sorted_toJson (wellFormed block rfl)
      simp only [stored, found, Option.map_some, reads]

/-- A call changes nothing for a dash of another path, whatever the namespace of that dash. -/
theorem stored_perform_of_ne (apart : call.key.path session.scope ≠ key.path scope) :
    ((session.perform call).withScope scope).stored key = (session.withScope scope).stored key := by
  apply stored_congr
  change (session.perform call).get? (key.path scope) = session.get? (key.path scope)
  rw [get?_perform, if_neg apart]

/-- A call leaves its tree for every dash of its path. -/
theorem stored_perform_of_eq (wellFormed : call.WellFormed)
    (same : call.key.path session.scope = key.path scope) :
    ((session.perform call).withScope scope).stored key = .ok call.tree? := by
  apply stored_of_get? wellFormed
  change (session.perform call).get? (key.path scope) = _
  rw [get?_perform, if_pos same]

/-- What applies to a dash follows from what is stored for it. -/
theorem applied_of_stored {tree? : Option (Block Value)} (stored : session.stored key = .ok tree?)
    (defaults : Option (Block Value)) (ids : IdSequence) :
    session.applied key defaults ids = .ok (answer tree? defaults ids) := by
  unfold applied
  rw [stored]
  cases tree? with
  | some block => rfl
  | none => cases defaults <;> rfl

section Distinct

-- Paths that are distinct are asked for once, for the dashes in use; nothing else about the texts
-- of the keys matters.
variable {keys : Set SessionKey} {calls : List Call}

/-- A call for a dash in use changes nothing for the others. -/
theorem stored_concat_of_ne (distinct : keys.InjOn fun key => key.path scope)
    (known : call.key ∈ keys) (used : key ∈ keys) (apart : call.key ≠ key) :
    (after scope (calls ++ [call])).stored key =
      (after scope calls).stored key := by
  have kept : (after scope calls).scope = scope := scope_after scope calls
  rw [after_concat, ← withScope_perform]
  generalize after scope calls = session at kept ⊢
  subst kept
  exact stored_perform_of_ne fun same => apart (distinct known used same)

/-- What is stored for a dash is the tree that the last call for it has left. -/
theorem stored_after (distinct : keys.InjOn fun key => key.path scope)
    (allowed : ∀ call ∈ calls, call.key ∈ keys ∧ call.WellFormed) (used : key ∈ keys) :
    (after scope calls).stored key = .ok (Call.lastTree? key calls) := by
  induction calls using List.reverseRecOn with
  | nil => rfl
  | append_singleton calls call ih =>
      rw [List.forall_mem_append, List.forall_mem_singleton] at allowed
      obtain ⟨earlier, known, wellFormed⟩ := allowed
      by_cases own : call.key = key
      · rw [Call.lastTree?_concat_of_eq own, after_concat, ← withScope_perform]
        exact stored_perform_of_eq wellFormed (by rw [own])
      · rw [Call.lastTree?_concat_of_ne own, stored_concat_of_ne distinct known used own]
        exact ih earlier

/-- After any calls for dashes of distinct paths, the tree that the last call for a dash has left
applies to it, or else the defaults, or else a fresh block. A further call for another dash does
not change that. -/
theorem applied_after_calls (distinct : keys.InjOn fun key => key.path scope)
    (allowed : ∀ call ∈ calls, call.key ∈ keys ∧ call.WellFormed) (used : key ∈ keys)
    (defaults : Option (Block Value)) (ids : IdSequence) :
    (after scope calls).applied key defaults ids =
        .ok (answer (Call.lastTree? key calls) defaults ids) ∧
      ∀ call : Call, call.key ∈ keys → call.key ≠ key →
        (after scope (calls ++ [call])).applied key defaults ids =
          (after scope calls).applied key defaults ids := by
  refine ⟨applied_of_stored (stored_after distinct allowed used) defaults ids, ?_⟩
  intro call known apart
  unfold applied
  rw [stored_concat_of_ne distinct known used apart]

end Distinct

end Session

namespace Sample

def arrivalsDash : SessionKey :=
  ⟨"d1", "w7"⟩

def departuresDash : SessionKey :=
  ⟨"d1", "w8"⟩

/-- Both dashes get a tree of their own, and the second one loses it again. -/
def calls : List Session.Call :=
  [.apply arrivalsDash recent, .apply departuresDash (Block.bare "b-1"), .reset departuresDash]

end Sample

/-- In a tenant's session the first dash has its tree and the second one gets a fresh block. -/
theorem Session.applied_after_visits :
    Set.InjOn (fun key : SessionKey => key.path (some "tenant"))
        {Sample.arrivalsDash, Sample.departuresDash} ∧
      (∀ call ∈ Sample.calls, call.key ∈ ({Sample.arrivalsDash, Sample.departuresDash} :
        Set SessionKey) ∧ call.WellFormed) ∧
      (after (some "tenant") Sample.calls).applied Sample.arrivalsDash none ⟨"b", 2⟩ =
        .ok (Sample.recent, ⟨"b", 2⟩) ∧
      (after (some "tenant") Sample.calls).applied Sample.departuresDash none ⟨"b", 2⟩ =
        .ok (Block.bare "b-2", ⟨"b", 3⟩) := by
  have distinct : Set.InjOn (fun key : SessionKey => key.path (some "tenant"))
      {Sample.arrivalsDash, Sample.departuresDash} := by
    rintro key (rfl | rfl) other (rfl | rfl) same
    · rfl
    · exact absurd same (by decide)
    · exact absurd same (by decide)
    · rfl
  have recent : Sample.recent.WellFormed :=
    ⟨List.forall_mem_singleton.mpr Period.noConfusion, trivial⟩
  have bare : (Block.bare "b-1" : Block Value).WellFormed :=
    ⟨List.forall_mem_nil _, trivial⟩
  have allowed : ∀ call ∈ Sample.calls, call.key ∈ ({Sample.arrivalsDash,
      Sample.departuresDash} : Set SessionKey) ∧ call.WellFormed := by
    refine List.forall_mem_cons.mpr ⟨⟨.inl rfl, ?_⟩, List.forall_mem_cons.mpr ⟨⟨.inr rfl, ?_⟩,
      List.forall_mem_singleton.mpr ⟨.inr rfl, ?_⟩⟩⟩
    · rintro block ⟨⟩
      exact recent
    · rintro block ⟨⟩
      exact bare
    · rintro block ⟨⟩
  exact ⟨distinct, allowed,
    (applied_after_calls distinct allowed (.inl rfl) none ⟨"b", 2⟩).1,
    (applied_after_calls distinct allowed (.inr rfl) none ⟨"b", 2⟩).1⟩

end DashboardFilters
