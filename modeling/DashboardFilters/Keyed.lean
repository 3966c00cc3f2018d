/-!
Lists of entries under distinct keys, in the order in which the keys first came. Setting an entry
that is there changes it in place.
-/

namespace DashboardFilters.Keyed

variable {κ α : Type} [DecidableEq κ]

/-- Changes the entry under a key; an entry that is not there yet begins with a given value. -/
def change (key : κ) (start : α) (edit : α → α) : List (κ × α) → List (κ × α)
  | [] => [(key, edit start)]
  | (other, value) :: rest =>
      if key = other then (other, edit value) :: rest
      else (other, value) :: change key start edit rest

def put (key : κ) (value : α) (entries : List (κ × α)) : List (κ × α) :=
  change key value (fun _ => value) entries

def get? (key : κ) (entries : List (κ × α)) : Option α :=
  (entries.find? fun entry => entry.1 = key).map Prod.snd

def erase (key : κ) (entries : List (κ × α)) : List (κ × α) :=
  entries.filter fun entry => entry.1 ≠ key

/-- Entries under distinct keys, made from pairs in turn. -/
def ofList (pairs : List (κ × α)) : List (κ × α) :=
  pairs.foldl (fun entries pair => put pair.1 pair.2 entries) []

/-- A change keeps the order of the keys and adds at most its own, at the end. -/
theorem keys_change (key : κ) (start : α) (edit : α → α) (entries : List (κ × α)) :
    (change key start edit entries).map Prod.fst =
      if key ∈ entries.map Prod.fst then entries.map Prod.fst
      else entries.map Prod.fst ++ [key] := by
  induction entries with
  | nil => simp [change]
  | cons entry rest ih =>
      by_cases same : key = entry.1
      · simp [change, same]
      · simp only [change, same, if_false, List.map_cons, ih, List.mem_cons, false_or]
        split <;> simp

/-- Setting a value keeps the order of the keys and adds at most its own, at the end. -/
theorem keys_put (key : κ) (value : α) (entries : List (κ × α)) :
    (put key value entries).map Prod.fst =
      if key ∈ entries.map Prod.fst then entries.map Prod.fst
      else entries.map Prod.fst ++ [key] :=
  keys_change key value _ entries

/-- A value that has been set is found under its key, and nothing changes under the others. -/
theorem get?_put (key other : κ) (value : α) (entries : List (κ × α)) :
    get? other (put key value entries) =
      if key = other then some value else get? other entries := by
  unfold put
  induction entries with
  | nil => by_cases same : key = other <;> simp [change, get?, same]
  | cons entry rest ih =>
      unfold get? at ih ⊢
      by_cases own : key = entry.1
      · by_cases same : key = other
        · simp [change, ← own, same]
        · simp [change, ← own, same]
      · by_cases found : entry.1 = other
        · have different : key ≠ other := fun same => own (same.trans found.symm)
          simp [change, found, different]
        · simpa [change, own, found] using ih

/-- Nothing is found under an erased key, and nothing changes under the others. -/
theorem get?_erase (key other : κ) (entries : List (κ × α)) :
    get? other (erase key entries) = if key = other then none else get? other entries := by
  unfold get? erase
  induction entries with
  | nil => simp
  | cons entry rest ih =>
      by_cases own : entry.1 = key
      · by_cases same : key = other
        · simp [own, same]
        · simpa [own, same] using ih
      · by_cases found : entry.1 = other
        · have different : key ≠ other := fun same => own (found.trans same.symm)
          simp [found, different, different.symm]
        · simpa [own, found] using ih

end DashboardFilters.Keyed
