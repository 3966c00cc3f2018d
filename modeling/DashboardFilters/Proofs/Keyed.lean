import DashboardFilters.Keyed
import Mathlib.Data.List.Induction
import Mathlib.Data.List.Perm.Basic

namespace DashboardFilters.Keyed

variable {κ α β : Type} [DecidableEq κ]

/-- The list without later copies grows at its end by a new member only. -/
theorem eraseDups_concat (keys : List κ) (key : κ) :
    (keys ++ [key]).eraseDups =
      if key ∈ keys.eraseDups then keys.eraseDups else keys.eraseDups ++ [key] := by
  rw [List.eraseDups_append]
  by_cases present : key ∈ keys <;> simp [List.removeAll, List.eraseDups_cons, present]

/-- No member is left twice. -/
theorem nodup_eraseDups (keys : List κ) : keys.eraseDups.Nodup := by
  induction keys using List.reverseRecOn with
  | nil => simp
  | append_singleton keys key ih =>
      rw [eraseDups_concat]
      split
      · exact ih
      · next absent =>
          rw [List.nodup_append]
          refine ⟨ih, by simp, ?_⟩
          intro other present last same
          rw [List.mem_singleton] at same
          intro equal
          exact absent (same ▸ equal ▸ present)

/-- An entry that is not there yet comes last. -/
theorem change_fresh (key : κ) (start : α) (edit : α → α) {entries : List (κ × α)}
    (fresh : key ∉ entries.map Prod.fst) :
    change key start edit entries = entries ++ [(key, edit start)] := by
  induction entries with
  | nil => rfl
  | cons entry rest ih =>
      rw [List.map_cons, List.mem_cons, not_or] at fresh
      rw [change, if_neg fresh.1, ih fresh.2, List.cons_append]

/-- The last entry is changed in place. -/
theorem change_last (key : κ) (start value : α) (edit : α → α) {entries : List (κ × α)}
    (fresh : key ∉ entries.map Prod.fst) :
    change key start edit (entries ++ [(key, value)]) = entries ++ [(key, edit value)] := by
  induction entries with
  | nil => simp [change]
  | cons entry rest ih =>
      rw [List.map_cons, List.mem_cons, not_or] at fresh
      rw [List.cons_append, change, if_neg fresh.1, ih fresh.2, List.cons_append]

/-- A change of entries that are a function of their keys is a change of that function. -/
theorem change_map (key : κ) (start : α) (edit : α → α) (entry : κ → α) {keys : List κ}
    (distinct : keys.Nodup) (absent : key ∉ keys → entry key = start) :
    change key start edit (keys.map fun other => (other, entry other)) =
      (if key ∈ keys then keys else keys ++ [key]).map fun other =>
        (other, if other = key then edit (entry other) else entry other) := by
  induction keys with
  | nil => simp [change, absent]
  | cons other rest ih =>
      rw [List.nodup_cons] at distinct
      by_cases same : key = other
      · subst same
        have kept : ∀ later ∈ rest, later ≠ key := by
          rintro later present rfl
          exact distinct.1 present
        simpa [change] using fun later present equal => absurd equal (kept later present)
      · have later : key ∉ rest → entry key = start := fun missing =>
          absent (by simp [same, missing])
        rw [List.map_cons, change, if_neg same, ih distinct.2 later]
        by_cases present : key ∈ rest <;> simp [present, same, Ne.symm same]

/-- Entries that are made from their keys are found under those keys. -/
theorem get?_map (key : κ) (keys : List κ) (entry : κ → α) :
    get? key (keys.map fun other => (other, entry other)) =
      if key ∈ keys then some (entry key) else none := by
  unfold get?
  induction keys with
  | nil => rfl
  | cons other rest ih =>
      by_cases same : other = key
      · simp [same]
      · simpa [same, Ne.symm same] using ih

/-- Under distinct keys an entry is found under its own. -/
theorem get?_eq_some_iff {entries : List (κ × α)} (distinct : (entries.map Prod.fst).Nodup)
    {key : κ} {value : α} : get? key entries = some value ↔ (key, value) ∈ entries := by
  unfold get?
  induction entries with
  | nil => simp
  | cons entry rest ih =>
      obtain ⟨own, kept⟩ := entry
      rw [List.map_cons, List.nodup_cons] at distinct
      by_cases same : own = key
      · subst same
        have absent : (own, value) ∉ rest := fun later =>
          distinct.1 (List.mem_map.mpr ⟨_, later, rfl⟩)
        simp [absent, eq_comm]
      · simpa [same, Ne.symm same] using ih distinct.2

/-- Nothing is found under a key that is not there. -/
theorem get?_eq_none_iff {key : κ} {entries : List (κ × α)} :
    get? key entries = none ↔ key ∉ entries.map Prod.fst := by
  unfold get?
  rw [Option.map_eq_none_iff, List.find?_eq_none, List.mem_map, not_exists]
  simp only [decide_eq_true_eq, not_and]

/-- Grouping keeps the order in which the keys first come, and each group is built from the items
of its key in their order. -/
theorem foldl_change (key : β → κ) (start : α) (edit : β → α → α) (items : List β) :
    items.foldl (fun entries item => change (key item) start (edit item) entries) [] =
      (items.map key).eraseDups.map fun name =>
        (name, (items.filter fun item => key item = name).foldl
          (fun value item => edit item value) start) := by
  induction items using List.reverseRecOn with
  | nil => rfl
  | append_singleton items item ih =>
      rw [List.foldl_append, List.foldl_cons, List.foldl_nil, ih, List.map_append,
        List.map_singleton, eraseDups_concat]
      rw [change_map _ _ _ _ (nodup_eraseDups _)]
      · congr 1
        funext name
        by_cases own : name = key item
        · simp [own]
        · simp [own, Ne.symm own]
      · intro absent
        rw [List.mem_eraseDups, List.mem_map] at absent
        have none : (items.filter fun other => key other = key item) = [] := by
          rw [List.filter_eq_nil_iff]
          intro other present
          simpa using fun equal => absent ⟨other, present, equal⟩
        rw [none, List.foldl_nil]

/-- Entries under new and distinct keys come last, in their order. -/
theorem foldl_put_fresh (pairs entries : List (κ × α))
    (distinct : (entries.map Prod.fst ++ pairs.map Prod.fst).Nodup) :
    pairs.foldl (fun built pair => put pair.1 pair.2 built) entries = entries ++ pairs := by
  induction pairs generalizing entries with
  | nil => simp
  | cons pair rest ih =>
      have fresh : pair.1 ∉ entries.map Prod.fst := by
        intro present
        exact (List.nodup_append.mp distinct).2.2 _ present _ (by simp) rfl
      rw [List.foldl_cons, put, change_fresh _ _ _ fresh, ih]
      · simp
      · simpa using distinct

/-- Entries under distinct keys are made from themselves. -/
theorem ofList_self {pairs : List (κ × α)} (distinct : (pairs.map Prod.fst).Nodup) :
    ofList pairs = pairs := by
  exact foldl_put_fresh pairs [] (by simpa using distinct)

/-- Changes of one new entry make that entry and nothing else. -/
theorem foldl_change_fresh (key : κ) (start : α) (edit : β → α → α) {items : List β}
    (occupied : items ≠ []) {entries : List (κ × α)} (fresh : key ∉ entries.map Prod.fst) :
    items.foldl (fun built item => change key start (edit item) built) entries =
      entries ++ [(key, items.foldl (fun value item => edit item value) start)] := by
  induction items using List.reverseRecOn with
  | nil => exact absurd rfl occupied
  | append_singleton items item ih =>
      simp only [List.foldl_append, List.foldl_cons, List.foldl_nil]
      by_cases first : items = []
      · subst first
        exact change_fresh key start (edit item) fresh
      · rw [ih first, change_last key start _ _ fresh]

/-- Taking the items of one key after the other takes each item with one of the keys once. -/
theorem flatMap_filter_perm (key : β → κ) (items : List β) {keys : List κ}
    (distinct : keys.Nodup) :
    (keys.flatMap fun name => items.filter fun item => key item = name).Perm
      (items.filter fun item => key item ∈ keys) := by
  induction keys with
  | nil => simp
  | cons name rest ih =>
      rw [List.nodup_cons] at distinct
      have split := List.filter_append_perm (fun item => decide (key item = name))
        (items.filter fun item => key item ∈ name :: rest)
      have own : ((items.filter fun item => key item ∈ name :: rest).filter fun item =>
          decide (key item = name)) = items.filter fun item => key item = name := by
        rw [List.filter_filter]
        apply List.filter_congr
        intro item _
        by_cases same : key item = name <;> simp [same]
      have others : ((items.filter fun item => key item ∈ name :: rest).filter fun item =>
          !decide (key item = name)) = items.filter fun item => key item ∈ rest := by
        rw [List.filter_filter]
        apply List.filter_congr
        intro item _
        by_cases same : key item = name
        · simp [same, distinct.1]
        · simp [same]
      rw [own, others] at split
      rw [List.flatMap_cons]
      exact ((ih distinct.2).append_left _).trans split

/-- Grouping loses no item and takes none twice. -/
theorem groups_perm (key : β → κ) (items : List β) :
    ((items.map key).eraseDups.flatMap fun name =>
      items.filter fun item => key item = name).Perm items := by
  have gathered := flatMap_filter_perm key items (nodup_eraseDups (items.map key))
  have all : (items.filter fun item => key item ∈ (items.map key).eraseDups) = items := by
    rw [List.filter_eq_self]
    intro item present
    simpa [List.mem_eraseDups] using ⟨item, present, rfl⟩
  rwa [all] at gathered

end DashboardFilters.Keyed
