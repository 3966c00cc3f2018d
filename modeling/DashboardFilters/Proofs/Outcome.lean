import Mathlib.Data.List.Forall2

namespace DashboardFilters.Outcome

variable {ε α β : Type}

/-- Two steps give a value when the first one gives a value for which the second one does. -/
theorem bind_eq_ok_iff {first : Except ε α} {next : α → Except ε β} {value : β} :
    first >>= next = .ok value ↔ ∃ middle, first = .ok middle ∧ next middle = .ok value := by
  cases first with
  | error failure => simp [bind, Except.bind]
  | ok middle => simp [bind, Except.bind]

/-- A computation on a result gives a value when the result is one. -/
theorem map_eq_ok_iff {first : Except ε α} {compute : α → β} {value : β} :
    first.map compute = .ok value ↔ ∃ middle, first = .ok middle ∧ compute middle = value := by
  cases first with
  | error failure => simp [Except.map]
  | ok middle => simp [Except.map]

/-- A result is a value when it is one for those who do not look at failures. -/
theorem toOption_eq_some_iff {result : Except ε α} {value : α} :
    result.toOption = some value ↔ result = .ok value := by
  cases result with
  | error failure => simp [Except.toOption]
  | ok other => simp [Except.toOption]

/-- Two steps fail when the first one does, or when the second one does after it. -/
theorem bind_eq_error_iff {first : Except ε α} {next : α → Except ε β} {failure : ε} :
    first >>= next = .error failure ↔
      first = .error failure ∨ ∃ middle, first = .ok middle ∧ next middle = .error failure := by
  cases first with
  | error other => simp [bind, Except.bind]
  | ok middle => simp [bind, Except.bind]

/-- A computation on a result fails when the result does. -/
theorem map_eq_error_iff {first : Except ε α} {compute : α → β} {failure : ε} :
    first.map compute = .error failure ↔ first = .error failure := by
  cases first with
  | error other => simp [Except.map]
  | ok middle => simp [Except.map]

/-- A computation on the result of two steps is one on that of the second step. -/
theorem map_of_bind {γ : Type} {first : Except ε α} {next : α → Except ε β} {compute : β → γ} :
    (first >>= next).map compute = first >>= fun value => (next value).map compute := by
  cases first <;> rfl

/-- Two results that look the same may be followed by steps that agree on what looks the same. -/
theorem bind_congr_of_map {γ δ : Type} {first : Except ε α} {other : Except ε β} {look : α → γ}
    {view : β → γ} {next : α → Except ε δ} {follow : β → Except ε δ}
    (same : first.map look = other.map view)
    (agree : ∀ value seen, look value = view seen → next value = follow seen) :
    first >>= next = other >>= follow := by
  cases first with
  | error failure =>
      rw [map_eq_error_iff.mp same.symm]
      rfl
  | ok value =>
      obtain ⟨seen, rfl, alike⟩ := map_eq_ok_iff.mp same.symm
      exact agree value seen alike.symm

/-- A computation on a result gives some value when the result is one. -/
theorem exists_map_eq_ok_iff {first : Except ε α} {compute : α → β} :
    (∃ value, first.map compute = .ok value) ↔ ∃ middle, first = .ok middle := by
  cases first with
  | error failure => simp [Except.map]
  | ok middle => simp [Except.map]

/-- A step for each item gives the values that the steps give. -/
theorem mapM_eq_ok_iff {step : α → Except ε β} {items : List α} {values : List β} :
    items.mapM step = .ok values ↔
      List.Forall₂ (fun item value => step item = .ok value) items values := by
  induction items generalizing values with
  | nil =>
      rw [List.mapM_nil, List.forall₂_nil_left_iff]
      constructor
      · rintro ⟨⟩
        rfl
      · rintro rfl
        rfl
  | cons item rest ih =>
      rw [List.mapM_cons, bind_eq_ok_iff, List.forall₂_cons_left_iff]
      constructor
      · rintro ⟨value, first, remaining⟩
        obtain ⟨others, known, ⟨⟩⟩ := bind_eq_ok_iff.mp remaining
        exact ⟨value, others, first, ih.mp known, rfl⟩
      · rintro ⟨value, others, first, known, rfl⟩
        exact ⟨value, first, bind_eq_ok_iff.mpr ⟨others, ih.mpr known, rfl⟩⟩

/-- A check for each item succeeds when each check does. -/
theorem forM_eq_ok_iff {check : α → Except ε Unit} {items : List α} :
    items.forM check = .ok () ↔ ∀ item ∈ items, check item = .ok () := by
  induction items with
  | nil => exact iff_of_true rfl (List.forall_mem_nil _)
  | cons item rest ih =>
      show (check item >>= fun _ => rest.forM check) = .ok () ↔ _
      rw [bind_eq_ok_iff, List.forall_mem_cons, ← ih]
      exact ⟨fun ⟨⟨⟩, both⟩ => both, fun both => ⟨⟨⟩, both⟩⟩

/-- A step for each item gives values when each step gives one. -/
theorem exists_mapM {step : α → Except ε β} {items : List α}
    (steps : ∀ item ∈ items, ∃ value, step item = .ok value) :
    ∃ values, items.mapM step = .ok values := by
  induction items with
  | nil => exact ⟨[], rfl⟩
  | cons item rest ih =>
      rw [List.forall_mem_cons] at steps
      obtain ⟨⟨value, first⟩, others⟩ := steps
      obtain ⟨values, remaining⟩ := ih others
      rw [List.mapM_cons]
      exact ⟨value :: values, bind_eq_ok_iff.mpr ⟨value, first,
        bind_eq_ok_iff.mpr ⟨values, remaining, rfl⟩⟩⟩

/-- A step for each item fails as the first step that fails does. -/
theorem mapM_eq_error_iff {step : α → Except ε β} {items : List α} {failure : ε} :
    items.mapM step = .error failure ↔ ∃ before item after, items = before ++ item :: after ∧
      (∀ earlier ∈ before, ∃ value, step earlier = .ok value) ∧ step item = .error failure := by
  induction items with
  | nil =>
      refine iff_of_false (fun fails => nomatch fails) ?_
      rintro ⟨before, item, after, split, -⟩
      exact absurd split.symm (List.append_ne_nil_of_right_ne_nil before (List.cons_ne_nil item after))
  | cons first rest ih =>
      rw [List.mapM_cons, bind_eq_error_iff]
      constructor
      · rintro (fails | ⟨value, succeeds, later⟩)
        · exact ⟨[], first, rest, rfl, List.forall_mem_nil _, fails⟩
        · rcases bind_eq_error_iff.mp later with others | ⟨_, -, ⟨⟩⟩
          obtain ⟨before, item, after, rfl, succeed, fails⟩ := ih.mp others
          exact ⟨first :: before, item, after, rfl,
            List.forall_mem_cons.mpr ⟨⟨value, succeeds⟩, succeed⟩, fails⟩
      · rintro ⟨before, item, after, split, succeed, fails⟩
        cases before with
        | nil =>
            obtain ⟨rfl, -⟩ := List.cons.inj split
            exact Or.inl fails
        | cons earlier between =>
            obtain ⟨rfl, others⟩ := List.cons.inj split
            obtain ⟨⟨value, succeeds⟩, succeed⟩ := List.forall_mem_cons.mp succeed
            refine Or.inr ⟨value, succeeds, bind_eq_error_iff.mpr (Or.inl (ih.mpr ?_))⟩
            exact ⟨between, item, after, others, succeed, fails⟩

/-- A step for each item fails as the step for one of them does. -/
theorem exists_of_mapM_eq_error {step : α → Except ε β} {items : List α} {failure : ε}
    (fails : items.mapM step = .error failure) : ∃ item ∈ items, step item = .error failure := by
  obtain ⟨before, item, after, rfl, -, refused⟩ := mapM_eq_error_iff.mp fails
  exact ⟨item, List.mem_append_right before List.mem_cons_self, refused⟩

/-- Each item of a list is matched with one of the other. -/
theorem exists_of_forall₂ {related : α → β → Prop} {items : List α} {values : List β}
    (known : List.Forall₂ related items values) : ∀ item ∈ items, ∃ value, related item value :=
  ((List.forall₂_and_left items values).mp
    (known.imp fun _ value same => ⟨⟨value, same⟩, same⟩)).1

/-- What is the same for matched items is the same for all items. -/
theorem forall_mem_iff {first : α → Prop} {second : β → Prop} {items : List α} {values : List β}
    (same : List.Forall₂ (fun item value => first item ↔ second value) items values) :
    (∀ item ∈ items, first item) ↔ ∀ value ∈ values, second value := by
  induction same with
  | nil => exact iff_of_true (List.forall_mem_nil _) (List.forall_mem_nil _)
  | cons matched _ ih => rw [List.forall_mem_cons, List.forall_mem_cons, matched, ih]

/-- Each of the values that steps give comes from an item. -/
theorem exists_of_mem_mapM {step : α → Except ε β} {items : List α} {values : List β}
    (made : items.mapM step = .ok values) : ∀ value ∈ values, ∃ item, step item = .ok value :=
  exists_of_forall₂ (List.Forall₂.flip (mapM_eq_ok_iff.mp made))

/-- Steps on the values of other steps give what each pair of steps gives. -/
theorem mapM_mapM {γ : Type} {step : α → Except ε β} {next : β → Except ε γ} {expected : α → γ}
    (follows : ∀ item value, step item = .ok value → next value = .ok (expected item))
    {items : List α} {values : List β} (made : items.mapM step = .ok values) :
    values.mapM next = .ok (items.map expected) := by
  rw [mapM_eq_ok_iff, List.forall₂_map_right_iff]
  exact List.Forall₂.flip ((mapM_eq_ok_iff.mp made).imp follows)

end DashboardFilters.Outcome
