import DashboardFilters.Proofs.Form.RoundTrip

namespace DashboardFilters

open Outcome

variable {V W : Type}

/-- Whether a tree may be edited before or after a conversion. The conversion of whole trees comes
with that of single filters, which tells what a filter that is added becomes by itself. -/
structure FollowsEdits (single : Filter V → Except Failure (Filter W))
    (whole : Block V → Except Failure (Block W)) : Prop where
  removeFilter : ∀ tree form id, whole tree = .ok form →
    whole (tree.removeFilter id) = .ok (form.removeFilter id)
  removeBlock : ∀ tree form id, whole tree = .ok form →
    whole (tree.removeBlock id) = .ok (form.removeBlock id)
  setOperator : ∀ tree form id op, whole tree = .ok form →
    whole (tree.setOperator id op) = .ok (form.setOperator id op)
  addFilter : ∀ tree form id filter edited, whole tree = .ok form → single filter = .ok edited →
    whole (tree.addFilter id filter) = .ok (form.addFilter id edited)
  replaceFilter : ∀ tree form filter edited, whole tree = .ok form → single filter = .ok edited →
    whole (tree.replaceFilter filter) = .ok (form.replaceFilter edited)
  addBlock : ∀ tree form id child edited, whole tree = .ok form → whole child = .ok edited →
    whole (tree.addBlock id child) = .ok (form.addBlock id edited)

/-- Whether a filter is converted to another one. -/
def Filter.Becomes (codec : Codec V W) (dataset : Dataset) (filter : Filter V) (edited : Filter W) :
    Prop :=
  filter.convert codec dataset = .ok edited

/-- Whether a tree is converted to another one. -/
def Block.Becomes (codec : Codec V W) (dataset : Dataset) (tree : Block V) (form : Block W) :
    Prop :=
  tree.convert codec dataset = .ok form

variable {codec : Codec V W} {dataset : Dataset}

/-- A filter keeps its identifier. -/
theorem Filter.Becomes.id_eq {filter : Filter V} {edited : Filter W}
    (becomes : filter.Becomes codec dataset edited) : edited.id = filter.id := by
  obtain ⟨_, _, -, -, rfl⟩ := convert_eq_ok_iff.mp becomes
  rfl

namespace Block

theorem convertList_eq_mapM (blocks : List (Block V)) :
    convertList codec dataset blocks = blocks.mapM (convert codec dataset) := by
  induction blocks with
  | nil => rfl
  | cons block rest ih => rw [convertList, List.mapM_cons, ih]

/-- A block is converted when its filters and its sub-blocks are; nothing else of it changes. -/
theorem becomes_iff {tree : Block V} {form : Block W} : tree.Becomes codec dataset form ↔
    form.id = tree.id ∧ form.op = tree.op ∧
      List.Forall₂ (Filter.Becomes codec dataset) tree.filters form.filters ∧
      List.Forall₂ (Becomes codec dataset) tree.blocks form.blocks := by
  obtain ⟨id, op, filters, blocks⟩ := tree
  rw [Becomes, convert, convertList_eq_mapM]
  constructor
  · intro made
    obtain ⟨own, ownMade, made⟩ := bind_eq_ok_iff.mp made
    obtain ⟨others, othersMade, ⟨⟩⟩ := bind_eq_ok_iff.mp made
    exact ⟨rfl, rfl, mapM_eq_ok_iff.mp ownMade, mapM_eq_ok_iff.mp othersMade⟩
  · obtain ⟨formId, formOp, own, others⟩ := form
    rintro ⟨rfl, rfl, ownMade, othersMade⟩
    refine bind_eq_ok_iff.mpr ⟨own, mapM_eq_ok_iff.mpr ownMade, ?_⟩
    exact bind_eq_ok_iff.mpr ⟨others, mapM_eq_ok_iff.mpr othersMade, rfl⟩

section Filters

variable {change : List (Filter V) → List (Filter V)} {other : List (Filter W) → List (Filter W)}

mutual

/-- Changes that agree on the filters of one block agree on whole trees. -/
theorem Becomes.mapFilters (agree : ∀ {filters edited},
    List.Forall₂ (Filter.Becomes codec dataset) filters edited →
      List.Forall₂ (Filter.Becomes codec dataset) (change filters) (other edited)) :
    ∀ {tree : Block V} {form : Block W}, tree.Becomes codec dataset form →
      (tree.mapFilters change).Becomes codec dataset (form.mapFilters other)
  | ⟨id, op, filters, blocks⟩, ⟨formId, formOp, own, others⟩, becomes => by
      obtain ⟨rfl, rfl, ownBecome, othersBecome⟩ := becomes_iff.mp becomes
      rw [Block.mapFilters, Block.mapFilters, becomes_iff]
      exact ⟨rfl, rfl, agree ownBecome, forall₂_mapFiltersIn agree othersBecome⟩

theorem forall₂_mapFiltersIn (agree : ∀ {filters edited},
    List.Forall₂ (Filter.Becomes codec dataset) filters edited →
      List.Forall₂ (Filter.Becomes codec dataset) (change filters) (other edited)) :
    ∀ {blocks : List (Block V)} {forms : List (Block W)},
      List.Forall₂ (Becomes codec dataset) blocks forms →
      List.Forall₂ (Becomes codec dataset) (mapFiltersIn change blocks) (mapFiltersIn other forms)
  | [], _, .nil => .nil
  | _ :: _, _, .cons first remaining =>
      .cons (first.mapFilters agree) (forall₂_mapFiltersIn agree remaining)

end

theorem Becomes.removeFilter {tree : Block V} {form : Block W}
    (becomes : tree.Becomes codec dataset form) (id : String) :
    (tree.removeFilter id).Becomes codec dataset (form.removeFilter id) := by
  apply becomes.mapFilters
  apply List.rel_filter
  intro filter edited same
  simp [same.id_eq]

theorem Becomes.replaceFilter {tree : Block V} {form : Block W}
    (becomes : tree.Becomes codec dataset form) {filter : Filter V} {edited : Filter W}
    (single : filter.Becomes codec dataset edited) :
    (tree.replaceFilter filter).Becomes codec dataset (form.replaceFilter edited) := by
  apply becomes.mapFilters
  apply List.rel_map
  intro old oldEdited same
  dsimp only
  rw [same.id_eq, single.id_eq]
  split
  next => exact single
  next => exact same

end Filters

mutual

/-- Sub-blocks are removed before or after the conversion. -/
theorem Becomes.removeBlock (id : String) : ∀ {tree : Block V} {form : Block W},
    tree.Becomes codec dataset form →
      (tree.removeBlock id).Becomes codec dataset (form.removeBlock id)
  | ⟨ownId, op, filters, blocks⟩, ⟨formId, formOp, own, others⟩, becomes => by
      obtain ⟨rfl, rfl, ownBecome, othersBecome⟩ := becomes_iff.mp becomes
      rw [Block.removeBlock, Block.removeBlock, becomes_iff]
      exact ⟨rfl, rfl, ownBecome, forall₂_removeBlockIn id othersBecome⟩

theorem forall₂_removeBlockIn (id : String) : ∀ {blocks : List (Block V)} {forms : List (Block W)},
    List.Forall₂ (Becomes codec dataset) blocks forms →
      List.Forall₂ (Becomes codec dataset) (removeBlockIn id blocks) (removeBlockIn id forms)
  | [], _, .nil => .nil
  | ⟨childId, op, filters, blocks⟩ :: _, ⟨formId, formOp, own, others⟩ :: _,
      .cons first remaining => by
      obtain ⟨rfl, -⟩ := becomes_iff.mp first
      rw [removeBlockIn, removeBlockIn]
      split
      next => exact forall₂_removeBlockIn id remaining
      next => exact .cons (first.removeBlock id) (forall₂_removeBlockIn id remaining)

end

section First

variable {id : String} {change : Block V → Block V} {other : Block W → Block W}

mutual

/-- Changes that agree on one block meet the same block before and after the conversion. -/
theorem Becomes.editFirst? (agree : ∀ {tree form}, tree.Becomes codec dataset form →
    (change tree).Becomes codec dataset (other form)) :
    ∀ {tree : Block V} {form : Block W}, tree.Becomes codec dataset form →
      Option.Rel (Becomes codec dataset) (tree.editFirst? id change) (form.editFirst? id other)
  | ⟨ownId, op, filters, blocks⟩, ⟨formId, formOp, own, others⟩, becomes => by
      obtain ⟨rfl, rfl, ownBecome, othersBecome⟩ := becomes_iff.mp becomes
      have inside := rel_editFirstIn? agree othersBecome
      rw [Block.editFirst?, Block.editFirst?]
      split
      next => exact .some (agree becomes)
      next =>
        generalize editFirstIn? id change blocks = edited,
          editFirstIn? id other others = editedForm at inside ⊢
        cases inside with
        | none => exact .none
        | some related => exact .some (becomes_iff.mpr ⟨rfl, rfl, ownBecome, related⟩)

theorem rel_editFirstIn? (agree : ∀ {tree form}, tree.Becomes codec dataset form →
    (change tree).Becomes codec dataset (other form)) :
    ∀ {blocks : List (Block V)} {forms : List (Block W)},
      List.Forall₂ (Becomes codec dataset) blocks forms →
      Option.Rel (List.Forall₂ (Becomes codec dataset)) (editFirstIn? id change blocks)
        (editFirstIn? id other forms)
  | [], _, .nil => .none
  | block :: rest, form :: forms, .cons first remaining => by
      have here := first.editFirst? agree
      have later := rel_editFirstIn? agree remaining
      rw [editFirstIn?, editFirstIn?]
      generalize block.editFirst? id change = edited, form.editFirst? id other = editedForm
        at here ⊢
      cases here with
      | some related => exact .some (.cons related remaining)
      | none =>
          -- Neither side has the block in its first tree, so that both look further on.
          generalize editFirstIn? id change rest = edited,
            editFirstIn? id other forms = editedForm at later ⊢
          cases later with
          | none => exact .none
          | some related => exact .some (.cons first related)

end

/-- Changes that agree on one block agree on trees where the first of an identifier is changed. -/
theorem Becomes.editFirst (agree : ∀ {tree form}, tree.Becomes codec dataset form →
    (change tree).Becomes codec dataset (other form)) {tree : Block V} {form : Block W}
    (becomes : tree.Becomes codec dataset form) :
    (tree.editFirst id change).Becomes codec dataset (form.editFirst id other) := by
  have first : Option.Rel (Becomes codec dataset) (tree.editFirst? id change)
      (form.editFirst? id other) := becomes.editFirst? agree
  rw [Block.editFirst, Block.editFirst]
  generalize tree.editFirst? id change = edited, form.editFirst? id other = editedForm at first ⊢
  cases first with
  | none => exact becomes
  | some related => exact related

end First

theorem Becomes.addFilter {tree : Block V} {form : Block W}
    (becomes : tree.Becomes codec dataset form) (id : String) {filter : Filter V}
    {edited : Filter W} (single : filter.Becomes codec dataset edited) :
    (tree.addFilter id filter).Becomes codec dataset (form.addFilter id edited) := by
  apply becomes.editFirst
  intro block blockForm same
  obtain ⟨sameId, sameOp, own, others⟩ := becomes_iff.mp same
  exact becomes_iff.mpr ⟨sameId, sameOp, List.rel_append own (.cons single .nil), others⟩

theorem Becomes.addBlock {tree child : Block V} {form edited : Block W}
    (becomes : tree.Becomes codec dataset form) (id : String)
    (single : child.Becomes codec dataset edited) :
    (tree.addBlock id child).Becomes codec dataset (form.addBlock id edited) := by
  apply becomes.editFirst
  intro block blockForm same
  obtain ⟨sameId, sameOp, own, others⟩ := becomes_iff.mp same
  exact becomes_iff.mpr ⟨sameId, sameOp, own, List.rel_append others (.cons single .nil)⟩

/-- The operator of a block is set before or after the conversion. -/
theorem Becomes.setOperator {tree : Block V} {form : Block W}
    (becomes : tree.Becomes codec dataset form) (id : String) (op : LogicalOp) :
    (tree.setOperator id op).Becomes codec dataset (form.setOperator id op) := by
  apply becomes.editFirst
  intro block blockForm same
  obtain ⟨sameId, -, own, others⟩ := becomes_iff.mp same
  exact becomes_iff.mpr ⟨sameId, rfl, own, others⟩

variable (codec dataset) in
/-- Edits may come before or after any conversion of values. -/
theorem followsEdits_convert :
    FollowsEdits (Filter.convert codec dataset) (convert codec dataset) where
  removeFilter _ _ id becomes := Becomes.removeFilter becomes id
  removeBlock _ _ id becomes := Becomes.removeBlock id becomes
  setOperator _ _ id op becomes := Becomes.setOperator becomes id op
  addFilter _ _ id _ _ becomes single := Becomes.addFilter becomes id single
  replaceFilter _ _ _ _ becomes single := Becomes.replaceFilter becomes single
  addBlock _ _ id _ _ becomes single := Becomes.addBlock becomes id single

/-- Editing a form and editing the stored tree come to the same: opening an edited tree gives the
edited form of the tree, and storing an edited form gives the edited tree of the form, for all edits
of a tree that can be opened or of a form that can be stored. -/
theorem forms_follow_edits (dataset : Dataset) (timezone : Timezone) :
    FollowsEdits (Filter.convert (.toForm timezone) dataset) (toForm dataset timezone) ∧
      FollowsEdits (Filter.convert (.fromForm timezone) dataset) (fromForm dataset timezone) :=
  ⟨followsEdits_convert (.toForm timezone) dataset,
    followsEdits_convert (.fromForm timezone) dataset⟩

end Block

namespace Sample

/-- The beginning of the tenth of March 2024 in India. -/
def tenthBegins : Calendar.Instant where
  utc := ⟨.ofCivil ⟨2024, 3, 9⟩,
    { Calendar.TimeOfDay.midnight with seconds := 66600, secondsInDay := by decide }⟩
  zone := india

def arrivedAt {V : Type} (moment : V) : Filter V where
  id := "range"
  column := "arrival"
  predicate := .compare .eq (.value moment)

end Sample

open Sample

/-- A filter takes the place of the range of the sample, in the stored tree as in the form; and the
block of the range is removed from the form as from what is stored. -/
theorem Block.forms_follow_edits_of_arrivals :
    (arrivals (.text "2024-03-10")).toForm visits india =
        .ok (arrivals (.picked (.dateTime tenthBegins))) ∧
      ((arrivals (.text "2024-03-10")).replaceFilter
          (arrivedAt (.text "2024-03-09T18:30:00Z"))).toForm visits india =
        .ok ((arrivals (.picked (.dateTime tenthBegins))).replaceFilter
          (arrivedAt (.picked (.dateTime tenthBegins)))) ∧
      ((arrivals (.picked (.dateTime tenthBegins))).removeBlock
          "stay").fromForm visits india =
        .ok ((arrivals (.text "2024-03-10T00:00:00+05:30")).removeBlock "stay") := by
  obtain ⟨opened, stored⟩ := Block.forms_follow_edits visits india
  have tree : (arrivals (.text "2024-03-10")).toForm visits india =
      .ok (arrivals (.picked (.dateTime tenthBegins))) := rfl
  have filter : (arrivedAt (.text "2024-03-09T18:30:00Z")).convert (.toForm india) visits =
      .ok (arrivedAt (.picked (.dateTime tenthBegins))) := rfl
  have form : (arrivals (.picked (.dateTime tenthBegins))).fromForm visits
      india = .ok (arrivals (.text "2024-03-10T00:00:00+05:30")) := rfl
  exact ⟨tree, opened.replaceFilter _ _ _ _ tree filter, stored.removeBlock _ _ _ form⟩

end DashboardFilters
