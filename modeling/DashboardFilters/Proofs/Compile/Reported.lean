import DashboardFilters.Compile

/-!
Outcomes with reports form a lawful monad. An outcome splits into its effect, which fails and
reports, and its value, which later steps use; a loop over outcomes is then one pass of effects
followed by a computation on values.
-/

namespace DashboardFilters

attribute [ext] Reported

namespace Reported

variable {α β σ : Type}

/-- A value alone reports nothing and succeeds. -/
@[simp] theorem result_pure (value : α) : (pure value : Reported α).result = .ok value := rfl

@[simp] theorem notices_pure (value : α) : (pure value : Reported α).notices = [] := rfl

@[simp] theorem result_ofExcept (result : Except Failure α) : (ofExcept result).result = result :=
  rfl

@[simp] theorem notices_ofExcept (result : Except Failure α) : (ofExcept result).notices = [] :=
  rfl

/-- The result of two steps depends on their results alone. -/
theorem result_bind (first : Reported α) (next : α → Reported β) :
    (first >>= next).result = first.result >>= fun value => (next value).result := by
  rcases first with ⟨result, notices⟩
  cases result <;> rfl

/-- A step that succeeds hands its value on and its reports come first. -/
theorem bind_ok (value : α) (notices : List Failure) (next : α → Reported β) :
    (⟨.ok value, notices⟩ : Reported α) >>= next =
      ⟨(next value).result, notices ++ (next value).notices⟩ := rfl

/-- A value at the end reports nothing more. -/
theorem notices_bind_pure (first : Reported α) (compute : α → β) :
    (first >>= fun value => pure (compute value)).notices = first.notices := by
  rcases first with ⟨result, notices⟩
  cases result with
  | error failure => rfl
  | ok value => exact List.append_nil notices

/-- Steps may be grouped in any way. -/
theorem bind_regroup (first : Reported α) (next : α → Reported β) (last : β → Reported σ) :
    first >>= next >>= last = first >>= fun value => next value >>= last := by
  rcases first with ⟨result, notices⟩
  cases result with
  | error failure => rfl
  | ok value =>
      rw [bind_ok, bind_ok]
      rcases next value with ⟨middle, reported⟩
      cases middle with
      | error failure => rfl
      | ok other =>
          rw [bind_ok, bind_ok]
          exact Reported.ext rfl (List.append_assoc notices reported _)

instance : LawfulMonad Reported :=
  LawfulMonad.mk' Reported
    (fun outcome => by
      rcases outcome with ⟨result, notices⟩
      cases result with
      | error failure => rfl
      | ok value => exact Reported.ext rfl (List.append_nil notices))
    (fun value next => Reported.ext rfl (List.nil_append (next value).notices))
    bind_regroup

/-- What an outcome fails with and reports. -/
def effect (outcome : Reported α) : Reported PUnit := do
  let _ ← outcome
  return ⟨⟩

/-- What an outcome is used for, with a standing value where it fails. -/
def value [Inhabited α] (outcome : Reported α) : α :=
  match outcome.result with
  | .ok value => value
  | .error _ => default

theorem value_of_result [Inhabited α] {outcome : Reported α} {value : α}
    (succeeds : outcome.result = .ok value) : outcome.value = value := by
  rw [Reported.value, succeeds]

/-- The effect of an outcome succeeds together with it. -/
theorem result_effect_ok_iff (outcome : Reported α) :
    outcome.effect.result = .ok ⟨⟩ ↔ ∃ value, outcome.result = .ok value := by
  rw [effect, result_bind]
  rcases outcome with ⟨result, notices⟩
  cases result with
  | error failure => simp [bind, Except.bind]
  | ok value => simp [bind, Except.bind]

/-- A step that follows an outcome follows its effect and uses its value. -/
theorem bind_eq_effect [Inhabited α] (outcome : Reported α) (next : α → Reported β) :
    outcome >>= next = outcome.effect >>= fun _ => next outcome.value := by
  rcases outcome with ⟨result, notices⟩
  cases result with
  | error failure => rfl
  | ok given =>
      change Reported.mk _ (notices ++ _) = Reported.mk _ ((notices ++ []) ++ _)
      rw [List.append_nil]
      rfl

/-- A list of outcomes is one pass of their effects and the list of their values. -/
theorem mapM_eq_forM_effect [Inhabited α] (read : β → Reported α) (items : List β) :
    items.mapM read = (do
      forM items fun item => (read item).effect
      return items.map fun item => (read item).value) := by
  induction items with
  | nil => simp
  | cons item rest ih =>
      rw [List.mapM_cons, bind_eq_effect, ih]
      simp

/-- A loop whose steps each have an effect that no state changes is one pass of effects followed by
a loop over states. -/
theorem foldlM_eq_forM (step : σ → β → Reported σ) (effect : β → Reported PUnit) (next : σ → β → σ)
    (items : List β)
    (splits : ∀ item ∈ items, ∀ state, step state item = (do effect item; return next state item))
    (state : σ) :
    items.foldlM step state = (do forM items effect; return items.foldl next state) := by
  induction items generalizing state with
  | nil => simp
  | cons item rest ih =>
      rw [List.forall_mem_cons] at splits
      rw [List.foldlM_cons, splits.1, List.forM_cons]
      simp [ih splits.2]

/-- A pass over the parts of some wholes is a pass over the wholes that passes over each one's
parts. -/
theorem forM_flatMap (items : List β) (parts : β → List α) (effect : α → Reported PUnit) :
    forM (items.flatMap parts) effect = forM items fun item => forM (parts item) effect := by
  induction items with
  | nil => rfl
  | cons item rest ih => rw [List.flatMap_cons, List.forM_append, ih, List.forM_cons]

/-- A pass is the same when each of its effects is. -/
theorem forM_congr {items : List β} {effect other : β → Reported PUnit}
    (same : ∀ item ∈ items, effect item = other item) : forM items effect = forM items other := by
  induction items with
  | nil => rfl
  | cons item rest ih =>
      rw [List.forall_mem_cons] at same
      rw [List.forM_cons, List.forM_cons, same.1, ih same.2]

/-- A pass of effects succeeds exactly when every outcome does. -/
theorem result_forM_effect_ok_iff (read : β → Reported α) (items : List β) :
    (forM items fun item => (read item).effect).result = .ok ⟨⟩ ↔
      ∀ item ∈ items, ∃ value, (read item).result = .ok value := by
  induction items with
  | nil => simp
  | cons item rest ih =>
      rw [List.forM_cons, result_bind, List.forall_mem_cons, ← ih, ← result_effect_ok_iff]
      cases (read item).effect.result with
      | error failure => simp [bind, Except.bind]
      | ok done => simp [bind, Except.bind]

/-- The effect of an outcome fails as the outcome does. -/
theorem result_effect (outcome : Reported α) :
    outcome.effect.result = outcome.result.map fun _ => ⟨⟩ := by
  rw [effect, result_bind]
  rcases outcome with ⟨result, notices⟩
  cases result with
  | error failure => rfl
  | ok value => rfl

theorem notices_effect (outcome : Reported α) : outcome.effect.notices = outcome.notices :=
  notices_bind_pure outcome fun _ => PUnit.unit

/-- A pass of effects fails with the failure of the first outcome that fails. -/
theorem result_forM_effect_error_iff (read : β → Reported α) (items : List β) (failure : Failure) :
    (forM items fun item => (read item).effect).result = .error failure ↔
      ∃ before item after, items = before ++ item :: after ∧
        (∀ earlier ∈ before, ∃ value, (read earlier).result = .ok value) ∧
        (read item).result = .error failure := by
  induction items with
  | nil => simp
  | cons first rest ih =>
      rw [List.forM_cons, result_bind, result_effect]
      cases known : (read first).result with
      | error other =>
          simp only [Except.map, bind, Except.bind, Except.error.injEq]
          constructor
          · rintro rfl
            exact ⟨[], first, rest, rfl, List.forall_mem_nil _, known⟩
          · rintro ⟨before, item, after, split, succeed, fails⟩
            -- Nothing stands before an item that is not the first one but the first one.
            cases before with
            | nil =>
                obtain ⟨rfl, -⟩ := List.cons.inj split
                exact Except.error.inj (known.symm.trans fails)
            | cons earlier between =>
                obtain ⟨rfl, -⟩ := List.cons.inj split
                obtain ⟨value, succeeds⟩ := succeed first List.mem_cons_self
                exact absurd (known.symm.trans succeeds) (by simp)
      | ok value =>
          simp only [Except.map, bind, Except.bind]
          rw [ih]
          constructor
          · rintro ⟨before, item, after, rfl, succeed, fails⟩
            refine ⟨first :: before, item, after, rfl, ?_, fails⟩
            rw [List.forall_mem_cons]
            exact ⟨⟨value, known⟩, succeed⟩
          · rintro ⟨before, item, after, split, succeed, fails⟩
            cases before with
            | nil =>
                obtain ⟨rfl, -⟩ := List.cons.inj split
                exact absurd (known.symm.trans fails) (by simp)
            | cons earlier between =>
                obtain ⟨-, rfl⟩ := List.cons.inj split
                exact ⟨between, item, after, rfl, (List.forall_mem_cons.mp succeed).2, fails⟩

/-- A pass of effects that succeeds reports what the outcomes do, in their order. -/
theorem notices_forM_effect (read : β → Reported α) (items : List β)
    (succeed : ∀ item ∈ items, ∃ value, (read item).result = .ok value) :
    (forM items fun item => (read item).effect).notices =
      items.flatMap fun item => (read item).notices := by
  induction items with
  | nil => rfl
  | cons item rest ih =>
      rw [List.forall_mem_cons] at succeed
      obtain ⟨value, succeeds⟩ := succeed.1
      have known : (read item).effect = ⟨.ok ⟨⟩, (read item).notices⟩ :=
        Reported.ext (by rw [result_effect, succeeds]; rfl) (notices_effect _)
      rw [List.forM_cons, known, bind_ok, ih succeed.2, List.flatMap_cons]

/-- Two passes of effects have the same result when the outcomes fail in the same way. -/
theorem result_forM_effect_congr {read : β → Reported α} {other : β → Reported σ} {items : List β}
    (same : ∀ item ∈ items, (read item).effect.result = (other item).effect.result) :
    (forM items fun item => (read item).effect).result =
      (forM items fun item => (other item).effect).result := by
  induction items with
  | nil => rfl
  | cons item rest ih =>
      rw [List.forall_mem_cons] at same
      rw [List.forM_cons, List.forM_cons, result_bind, result_bind, same.1, ih same.2]

end Reported

end DashboardFilters
