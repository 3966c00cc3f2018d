import DashboardFilters.Json.Basic

namespace DashboardFilters.Json

mutual

/-- Whether every number of a document is finite, as the numbers of JSON are. -/
def Finite : Json → Prop
  | .float value => value.isFinite = true
  | .array items => FiniteItems items
  | .object members => FiniteMembers members
  | _ => True

/-- Whether every number of some documents is finite. -/
def FiniteItems : List Json → Prop
  | [] => True
  | item :: rest => Finite item ∧ FiniteItems rest

/-- Whether every number of the values of some members is finite. -/
def FiniteMembers : List (String × Json) → Prop
  | [] => True
  | (_, item) :: rest => Finite item ∧ FiniteMembers rest

end

/-- Keys in ascending order, each once. -/
def Ascending (members : List (String × Json)) : Prop :=
  (members.map Prod.fst).Pairwise (· < ·)

mutual

/-- Whether a document is canonical, with numbers that are finite. -/
def Canonical : Json → Prop
  | .float value => value.isFinite = true
  | .array items => CanonicalItems items
  | .object members => Ascending members ∧ CanonicalMembers members
  | _ => True

def CanonicalItems : List Json → Prop
  | [] => True
  | item :: rest => Canonical item ∧ CanonicalItems rest

def CanonicalMembers : List (String × Json) → Prop
  | [] => True
  | (_, item) :: rest => Canonical item ∧ CanonicalMembers rest

end

theorem canonicalItems_iff {items : List Json} :
    CanonicalItems items ↔ ∀ item ∈ items, item.Canonical := by
  induction items with
  | nil => simp [CanonicalItems]
  | cons item rest ih => rw [CanonicalItems, ih, List.forall_mem_cons]

theorem canonicalMembers_iff {members : List (String × Json)} :
    CanonicalMembers members ↔ ∀ member ∈ members, member.2.Canonical := by
  induction members with
  | nil => simp [CanonicalMembers]
  | cons member rest ih => rw [CanonicalMembers, ih, List.forall_mem_cons]

/-- Of two different keys one comes first. -/
theorem key_lt_of_not_lt {key other : String} (different : key ≠ other) (behind : ¬ key < other) :
    other < key := by
  rcases Decidable.em (other < key) with before | equal
  · exact before
  · exact absurd (String.le_antisymm (String.not_lt.mp equal) (String.not_lt.mp behind)) different

theorem putMember_nil (key : String) (value : Json) : putMember key value [] = [(key, value)] :=
  rfl

/-- A member whose key comes before the first one is put in front of it. -/
theorem putMember_before {key other : String} (before : key < other) (value kept : Json)
    (rest : List (String × Json)) : putMember key value ((other, kept) :: rest) =
      (key, value) :: (other, kept) :: rest := by
  have different : key ≠ other := String.ne_of_lt before
  rw [putMember, if_neg different, if_pos before]

/-- A member whose key comes behind the first one leaves that at its place. -/
theorem putMember_behind {key other : String} (behind : other < key) (value kept : Json)
    (rest : List (String × Json)) : putMember key value ((other, kept) :: rest) =
      (other, kept) :: putMember key value rest := by
  have different : key ≠ other := (String.ne_of_lt behind).symm
  rw [putMember, if_neg different, if_neg (String.lt_asymm behind)]

/-- A set member is the new one or was there before. -/
theorem mem_of_mem_putMember {key : String} {value : Json} {members : List (String × Json)}
    {member : String × Json} (present : member ∈ putMember key value members) :
    member = (key, value) ∨ member ∈ members := by
  induction members with
  | nil => exact .inl (List.mem_singleton.mp present)
  | cons first rest ih =>
      unfold putMember at present
      split at present
      · exact (List.mem_cons.mp present).imp_right (List.mem_cons_of_mem _)
      · split at present
        · exact List.mem_cons.mp present
        · rcases List.mem_cons.mp present with same | inside
          · exact .inr (same ▸ List.mem_cons_self)
          · exact (ih inside).imp_right (List.mem_cons_of_mem _)

/-- Setting a member keeps the keys in order. -/
theorem ascending_putMember (key : String) (value : Json) {members : List (String × Json)}
    (ascending : Ascending members) : Ascending (putMember key value members) := by
  induction members with
  | nil => exact List.pairwise_singleton _ _
  | cons first rest ih =>
      have ordered := List.pairwise_cons.mp ascending
      unfold putMember
      split
      next same =>
        subst same
        exact ascending
      next different =>
        split
        next before =>
          refine List.pairwise_cons.mpr ⟨?_, ascending⟩
          intro other present
          rcases List.mem_cons.mp present with rfl | behind
          · exact before
          · exact String.lt_trans before (ordered.1 other behind)
        next behind =>
          refine List.pairwise_cons.mpr ⟨?_, ih ordered.2⟩
          intro other present
          obtain ⟨member, inside, rfl⟩ := List.mem_map.mp present
          rcases mem_of_mem_putMember inside with rfl | old
          · exact key_lt_of_not_lt different behind
          · exact ordered.1 member.1 (List.mem_map_of_mem old)

/-- A member whose key is behind all others comes last. -/
theorem putMember_of_last {key : String} (value : Json) {members : List (String × Json)}
    (last : ∀ other ∈ members.map Prod.fst, other < key) :
    putMember key value members = members ++ [(key, value)] := by
  induction members with
  | nil => rfl
  | cons first rest ih =>
      rw [List.map_cons, List.forall_mem_cons] at last
      rw [putMember_behind last.1, ih last.2, List.cons_append]

/-- Members that come in order and behind the others stay as they are. -/
theorem foldl_putMember_of_ascending (before members : List (String × Json))
    (ascending : Ascending (before ++ members)) :
    members.foldl (fun sorted member => putMember member.1 member.2 sorted) before =
      before ++ members := by
  induction members generalizing before with
  | nil => rw [List.foldl_nil, List.append_nil]
  | cons member rest ih =>
      have last : ∀ other ∈ before.map Prod.fst, other < member.1 := by
        intro other present
        rw [Ascending, List.map_append, List.pairwise_append] at ascending
        exact ascending.2.2 other present member.1 List.mem_cons_self
      rw [List.foldl_cons, putMember_of_last member.2 last, ih]
      · rw [List.append_assoc, List.singleton_append]
      · rwa [List.append_assoc, List.singleton_append]

theorem sortMembers_of_ascending {members : List (String × Json)} (ascending : Ascending members) :
    sortMembers members = members :=
  foldl_putMember_of_ascending [] members ascending

/-- Sorting puts the keys in order. -/
theorem ascending_sortMembers (members : List (String × Json)) : Ascending (sortMembers members) := by
  suffices keeps : ∀ before, Ascending before → Ascending (members.foldl
      (fun sorted member => putMember member.1 member.2 sorted) before) from
    keeps [] List.Pairwise.nil
  induction members with
  | nil => exact fun before ascending => ascending
  | cons member rest ih =>
      intro before ascending
      rw [List.foldl_cons]
      exact ih _ (ascending_putMember member.1 member.2 ascending)

theorem mem_of_mem_sortMembers {members : List (String × Json)} {member : String × Json}
    (present : member ∈ sortMembers members) : member ∈ members := by
  suffices keeps : ∀ before, member ∈ members.foldl
      (fun sorted member => putMember member.1 member.2 sorted) before →
      member ∈ before ∨ member ∈ members from
    (keeps [] present).resolve_left List.not_mem_nil
  clear present
  induction members with
  | nil => exact fun before present => .inl present
  | cons first rest ih =>
      intro before present
      rw [List.foldl_cons] at present
      rcases ih _ present with old | inside
      · rcases mem_of_mem_putMember old with rfl | earlier
        · exact .inr List.mem_cons_self
        · exact .inl earlier
      · exact .inr (List.mem_cons_of_mem _ inside)

/-- The first member is found under its key, and under the others what the rest has. -/
theorem lookup_cons (key other : String) (value : Json) (rest : List (String × Json)) :
    ((key, value) :: rest).lookup other = if other = key then some value else rest.lookup other := by
  rw [List.lookup_cons]
  by_cases same : other = key
  · rw [if_pos same, beq_iff_eq.mpr same]
  · rw [if_neg same, beq_eq_false_iff_ne.mpr same]

/-- A set member is found under its key, and nothing changes under the others. -/
theorem lookup_putMember (key other : String) (value : Json) (members : List (String × Json)) :
    (putMember key value members).lookup other =
      if other = key then some value else members.lookup other := by
  induction members with
  | nil => exact lookup_cons key other value []
  | cons first rest ih =>
      obtain ⟨own, kept⟩ := first
      unfold putMember
      split
      next replaced =>
        subst replaced
        rw [lookup_cons, lookup_cons]
        split <;> rfl
      next different =>
        split
        next => exact lookup_cons key other value _
        next =>
          rw [lookup_cons, lookup_cons, ih]
          by_cases same : other = own
          · have apart : other ≠ key := fun equal => different (equal.symm.trans same)
            rw [if_pos same, if_neg apart, if_pos same]
          · rw [if_neg same, if_neg same]

/-- Members that are set leave what is found under other keys. -/
theorem lookup_foldl_putMember_of_not_mem {key : String} (members before : List (String × Json))
    (absent : key ∉ members.map Prod.fst) :
    (members.foldl (fun sorted member => putMember member.1 member.2 sorted) before).lookup key =
      before.lookup key := by
  induction members generalizing before with
  | nil => rfl
  | cons first rest ih =>
      rw [List.map_cons, List.mem_cons, not_or] at absent
      rw [List.foldl_cons, ih _ absent.2, lookup_putMember, if_neg absent.1]

/-- Of members with distinct keys sorting loses none. -/
theorem lookup_sortMembers {members : List (String × Json)}
    (distinct : (members.map Prod.fst).Nodup) {member : String × Json} (present : member ∈ members) :
    (sortMembers members).lookup member.1 = some member.2 := by
  suffices kept : ∀ before, (members.foldl
      (fun sorted member => putMember member.1 member.2 sorted) before).lookup member.1 =
      some member.2 from kept []
  induction members with
  | nil => exact absurd present List.not_mem_nil
  | cons first rest ih =>
      intro before
      rw [List.map_cons, List.nodup_cons] at distinct
      rw [List.foldl_cons]
      rcases List.mem_cons.mp present with rfl | later
      · rw [lookup_foldl_putMember_of_not_mem rest _ distinct.1, lookup_putMember, if_pos rfl]
      · exact ih distinct.2 later _

theorem sortedItems_eq_map (items : List Json) : sortedItems items = items.map sorted := by
  induction items with
  | nil => rfl
  | cons item rest ih => rw [sortedItems, ih, List.map_cons]

/-- Sorting the values of members keeps each of them under its key. -/
theorem sortedValues_eq_map (members : List (String × Json)) :
    sortedValues members = members.map fun member => (member.1, member.2.sorted) := by
  induction members with
  | nil => rfl
  | cons member rest ih => rw [sortedValues, ih, List.map_cons]

/-- Of an object with distinct keys the canonical form has every member. -/
theorem member?_sorted {members : List (String × Json)} (distinct : (members.map Prod.fst).Nodup)
    {member : String × Json} (present : member ∈ members) :
    (Json.object members).sorted.member? member.1 = some member.2.sorted := by
  have keys : ((sortedValues members).map Prod.fst).Nodup := by
    rw [sortedValues_eq_map, List.map_map]
    exact distinct
  have inside : (member.1, member.2.sorted) ∈ sortedValues members := by
    rw [sortedValues_eq_map]
    exact List.mem_map_of_mem present
  rw [sorted]
  exact lookup_sortMembers keys inside

mutual

theorem sorted_of_canonical : ∀ document : Json, document.Canonical → document.sorted = document
  | .array items, canonical => by rw [sorted, sortedItems_of_canonical items canonical]
  | .object members, ⟨ascending, canonical⟩ => by
      rw [sorted, sortedValues_of_canonical members canonical, sortMembers_of_ascending ascending]
  | .null, _ | .bool _, _ | .int _, _ | .float _, _ | .string _, _ => rfl

theorem sortedItems_of_canonical : ∀ items : List Json,
    CanonicalItems items → sortedItems items = items
  | [], _ => rfl
  | item :: rest, ⟨first, others⟩ => by
      rw [sortedItems, sorted_of_canonical item first, sortedItems_of_canonical rest others]

theorem sortedValues_of_canonical : ∀ members : List (String × Json),
    CanonicalMembers members → sortedValues members = members
  | [], _ => rfl
  | (key, item) :: rest, ⟨first, others⟩ => by
      rw [sortedValues, sorted_of_canonical item first, sortedValues_of_canonical rest others]

end

mutual

/-- Sorting makes a document canonical. -/
theorem canonical_sorted : ∀ document : Json, document.Finite → document.sorted.Canonical
  | .array items, finite => canonicalItems_sorted items finite
  | .object members, finite => by
      refine ⟨ascending_sortMembers _, canonicalMembers_iff.mpr ?_⟩
      intro member present
      exact canonicalMembers_iff.mp (canonicalMembers_sorted members finite) member
        (mem_of_mem_sortMembers present)
  | .float _, finite => finite
  | .null, _ | .bool _, _ | .int _, _ | .string _, _ => trivial

theorem canonicalItems_sorted : ∀ items : List Json,
    FiniteItems items → CanonicalItems (sortedItems items)
  | [], _ => trivial
  | item :: rest, ⟨first, others⟩ =>
      ⟨canonical_sorted item first, canonicalItems_sorted rest others⟩

theorem canonicalMembers_sorted : ∀ members : List (String × Json),
    FiniteMembers members → CanonicalMembers (sortedValues members)
  | [], _ => trivial
  | (_, item) :: rest, ⟨first, others⟩ =>
      ⟨canonical_sorted item first, canonicalMembers_sorted rest others⟩

end

/-- Values of members that sorting does not change stay as they are. -/
theorem sortedValues_of_fixed {members : List (String × Json)}
    (fixed : ∀ member ∈ members, member.2.sorted = member.2) : sortedValues members = members := by
  induction members with
  | nil => rfl
  | cons member rest ih =>
      rw [List.forall_mem_cons] at fixed
      rw [sortedValues, fixed.1, ih fixed.2]

mutual

/-- Sorting a second time changes nothing. -/
theorem sorted_sorted : ∀ document : Json, document.sorted.sorted = document.sorted
  | .array items => by rw [sorted, sorted, sortedItems_sortedItems items]
  | .object members => by
      have fixed : ∀ member ∈ sortMembers (sortedValues members), member.2.sorted = member.2 :=
        fun member present => sorted_of_mem_sortedValues members member
          (mem_of_mem_sortMembers present)
      rw [sorted, sorted, sortedValues_of_fixed fixed,
        sortMembers_of_ascending (ascending_sortMembers _)]
  | .null | .bool _ | .int _ | .float _ | .string _ => rfl

theorem sortedItems_sortedItems : ∀ items : List Json,
    sortedItems (sortedItems items) = sortedItems items
  | [] => rfl
  | item :: rest => by
      rw [sortedItems, sortedItems, sorted_sorted item, sortedItems_sortedItems rest]

theorem sorted_of_mem_sortedValues : ∀ members : List (String × Json),
    ∀ member ∈ sortedValues members, member.2.sorted = member.2
  | [] => by
      rw [sortedValues]
      exact List.forall_mem_nil _
  | (_, item) :: rest => by
      rw [sortedValues, List.forall_mem_cons]
      exact ⟨sorted_sorted item, sorted_of_mem_sortedValues rest⟩

end

end DashboardFilters.Json
