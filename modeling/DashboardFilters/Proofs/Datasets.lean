import DashboardFilters.Dataset
import DashboardFilters.Proofs.Json.Printed
import DashboardFilters.Proofs.Json.Records
import DashboardFilters.Proofs.Keyed

namespace DashboardFilters

open Keyed (eraseDups_concat)
open Outcome (bind_eq_ok_iff)

namespace ColumnType

/-- A type that is known by some name is known by its own. -/
theorem parse_name_of_known : ∀ known ∈ names, parse known.2.name = known.2 := by
  decide

/-- The name under which a type is stored stands for the type. -/
theorem parse_name (text : String) : parse (parse text).name = parse text := by
  cases found : names.lookup (Text.lowerAscii text) with
  | none =>
      have kept : parse text = .unsupported text := by rw [parse, found, Option.getD_none]
      rw [kept]
      exact kept
  | some type =>
      have known : parse text = type := by rw [parse, found, Option.getD_some]
      obtain ⟨before, after, same, -⟩ := List.lookup_eq_some_iff.mp found
      have listed : (Text.lowerAscii text, type) ∈ names := by
        rw [same]
        exact List.mem_append_right before List.mem_cons_self
      rw [known]
      exact parse_name_of_known (Text.lowerAscii text, type) listed

end ColumnType

namespace Column

/-- Whether the type of a column is one that a name stands for. -/
def Typed (column : Column) : Prop :=
  ∃ text, column.type = .parse text

/-- Declaring a column of a new name puts it at the end. -/
theorem declare_of_absent {column : Column} {columns : List Column}
    (absent : column.name ∉ columns.map Column.name) :
    column.declare columns = columns ++ [column] := by
  induction columns with
  | nil => rfl
  | cons other rest ih =>
      rw [List.map_cons, List.mem_cons, not_or] at absent
      rw [declare, if_neg absent.1, ih absent.2, List.cons_append]

/-- After declaring a column its name stands for it, and every other name for what it did. -/
theorem find?_declare (column : Column) (columns : List Column) (name : String) :
    (column.declare columns).find? (fun other => other.name == name) =
      if column.name = name then some column
      else columns.find? fun other => other.name == name := by
  induction columns with
  | nil => by_cases same : column.name = name <;> simp [declare, same]
  | cons other rest ih =>
      rw [declare]
      by_cases replaced : column.name = other.name
      · rw [if_pos replaced]
        by_cases same : column.name = name
        · simp [same]
        · have apart : other.name ≠ name := fun found => same (replaced.trans found)
          simp [same, apart]
      · rw [if_neg replaced]
        by_cases found : other.name = name
        · have apart : column.name ≠ name := fun same => replaced (same.trans found.symm)
          simp [found, apart]
        · rw [List.find?_cons_of_neg (by rwa [beq_iff_eq]),
            List.find?_cons_of_neg (by rwa [beq_iff_eq]), ih]

/-- Names are distinct with one more at the end if that one is new. -/
theorem nodup_concat {columns : List Column} {column : Column} :
    ((columns ++ [column]).map Column.name).Nodup ↔
      (columns.map Column.name).Nodup ∧ column.name ∉ columns.map Column.name := by
  rw [List.map_append, List.map_singleton, (List.perm_append_singleton _ _).nodup_iff,
    List.nodup_cons, and_comm]

/-- Under distinct names each column is found under its own. -/
theorem find?_of_mem {column : Column} {columns : List Column}
    (distinct : (columns.map Column.name).Nodup) (member : column ∈ columns) :
    columns.find? (fun other => other.name == column.name) = some column := by
  induction columns with
  | nil => exact absurd member List.not_mem_nil
  | cons first rest ih =>
      rw [List.map_cons, List.nodup_cons] at distinct
      rcases List.mem_cons.mp member with rfl | member
      · simp
      · have apart : first.name ≠ column.name := fun same =>
          distinct.1 (List.mem_map.mpr ⟨column, member, same.symm⟩)
        rw [List.find?_cons_of_neg (by rwa [beq_iff_eq]), ih distinct.2 member]

/-- A declared column is the new one or one of the others. -/
theorem mem_declare {column other : Column} {columns : List Column}
    (member : other ∈ column.declare columns) : other = column ∨ other ∈ columns := by
  induction columns with
  | nil => exact .inl (List.mem_singleton.mp member)
  | cons first rest ih =>
      rw [declare] at member
      split at member
      next =>
        rw [List.mem_cons] at member ⊢
        exact member.imp_right .inr
      next =>
        rw [List.mem_cons] at member ⊢
        rcases member with rfl | member
        · exact .inr (.inl rfl)
        · exact (ih member).imp_right .inr

end Column

namespace Dataset

/-- A dataset is its name and its columns. -/
@[ext]
theorem ext {dataset other : Dataset} (name : dataset.name = other.name)
    (columns : dataset.columns = other.columns) : dataset = other := by
  cases dataset
  cases other
  cases name
  cases columns
  rfl

def declared (name : String) (columns : List Column) : Dataset :=
  columns.foldl withColumn (empty name)

/-- The last of some columns that has a name. -/
def lastNamed (columns : List Column) (name : String) : Option Column :=
  columns.reverse.find? fun column => column.name == name

variable {name : String} {columns : List Column}

theorem declared_concat (name : String) (columns : List Column) (column : Column) :
    declared name (columns ++ [column]) = (declared name columns).withColumn column := by
  rw [declared, List.foldl_append]
  rfl

theorem name_declared (name : String) (columns : List Column) :
    (declared name columns).name = name := by
  induction columns using List.reverseRecOn with
  | nil => rfl
  | append_singleton columns column ih => rw [declared_concat, withColumn, ih]

/-- Each name stands where it first came. -/
theorem names_declared (name : String) (columns : List Column) :
    (declared name columns).columns.map Column.name = (columns.map Column.name).eraseDups := by
  induction columns using List.reverseRecOn with
  | nil => rfl
  | append_singleton columns column ih =>
      rw [declared_concat, withColumn, Column.names_declare, ih, List.map_append,
        List.map_singleton, eraseDups_concat]

/-- The column that comes last is the last of its name. -/
theorem lastNamed_concat (columns : List Column) (column : Column) (name : String) :
    lastNamed (columns ++ [column]) name =
      if column.name = name then some column else lastNamed columns name := by
  rw [lastNamed, List.reverse_concat]
  by_cases same : column.name = name
  · simp [same]
  · rw [if_neg same, List.find?_cons_of_neg (by rwa [beq_iff_eq]), lastNamed]

/-- Each name stands for its last definition. -/
theorem column?_declared (name : String) (columns : List Column) (key : String) :
    (declared name columns).column? key = lastNamed columns key := by
  induction columns using List.reverseRecOn with
  | nil => rfl
  | append_singleton columns column ih =>
      rw [declared_concat, lastNamed_concat, ← ih]
      exact Column.find?_declare column _ key

/-- Only columns that have been declared are there. -/
theorem mem_of_mem_declared {column : Column} (member : column ∈ (declared name columns).columns) :
    column ∈ columns := by
  induction columns using List.reverseRecOn with
  | nil => exact absurd member List.not_mem_nil
  | append_singleton columns other ih =>
      rw [declared_concat] at member
      rw [List.mem_append, List.mem_singleton]
      exact (Column.mem_declare member).symm.imp_left ih

/-- The columns are those that are found under their names. -/
theorem map_some_columns (dataset : Dataset) :
    dataset.columns.map some = (dataset.columns.map Column.name).map dataset.column? := by
  rw [List.map_map]
  exact List.map_congr_left fun column member =>
    (Column.find?_of_mem dataset.distinct member).symm

section Lists

/-- A column of a known name is refused, and any other declared. -/
theorem declareNew_eq (dataset : Dataset) (column : Column) : dataset.declareNew column =
    if column.name ∈ dataset.columns.map Column.name then
      .error (.duplicateColumn dataset.name column.name)
    else .ok (dataset.withColumn column) := by
  have known : (dataset.column? column.name).isSome = true ↔
      column.name ∈ dataset.columns.map Column.name := by
    rw [column?, List.find?_isSome, List.mem_map]
    simp only [beq_iff_eq]
  simp only [declareNew, known]

/-- Columns of distinct names are declared one behind the other. -/
theorem columns_declared (distinct : (columns.map Column.name).Nodup) :
    (declared name columns).columns = columns := by
  induction columns using List.reverseRecOn with
  | nil => rfl
  | append_singleton columns column ih =>
      obtain ⟨distinct, absent⟩ := Column.nodup_concat.mp distinct
      rw [declared_concat]
      change column.declare (declared name columns).columns = _
      rw [ih distinct, Column.declare_of_absent absent]

theorem ofColumns_concat (name : String) (columns others : List Column) :
    ofColumns name (columns ++ others) = ofColumns name columns >>= fun dataset =>
      others.foldlM declareNew dataset :=
  List.foldlM_append

/-- Columns of distinct names make the dataset of their declarations. -/
theorem ofColumns_of_nodup (distinct : (columns.map Column.name).Nodup) :
    ofColumns name columns = .ok (declared name columns) := by
  induction columns using List.reverseRecOn with
  | nil => rfl
  | append_singleton columns column ih =>
      obtain ⟨distinct, absent⟩ := Column.nodup_concat.mp distinct
      rw [ofColumns_concat, ih distinct, declared_concat]
      change (declareNew (declared name columns) column >>= pure) = _
      rw [bind_pure, declareNew_eq, columns_declared distinct, if_neg absent]

/-- Whether a column is the first of some columns whose name has come before. -/
def FirstRepeated (columns : List Column) (column : Column) : Prop :=
  ∃ before after, columns = before ++ column :: after ∧ (before.map Column.name).Nodup ∧
    column.name ∈ before.map Column.name

/-- Where a name comes twice, there is a first column whose name has come before. -/
theorem exists_firstRepeated (repeated : ¬ (columns.map Column.name).Nodup) :
    ∃ column, FirstRepeated columns column := by
  induction columns using List.reverseRecOn with
  | nil => exact absurd List.nodup_nil repeated
  | append_singleton columns column ih =>
      by_cases distinct : (columns.map Column.name).Nodup
      · refine ⟨column, columns, [], rfl, distinct, ?_⟩
        by_contra absent
        exact repeated (Column.nodup_concat.mpr ⟨distinct, absent⟩)
      · obtain ⟨first, before, after, rfl, known⟩ := ih distinct
        exact ⟨first, before, after ++ [column], by rw [List.append_assoc, List.cons_append], known⟩

/-- The first column whose name has come before is refused. -/
theorem ofColumns_of_firstRepeated {column : Column} (first : FirstRepeated columns column) :
    ofColumns name columns = .error (.duplicateColumn name column.name) := by
  obtain ⟨before, after, rfl, distinct, known⟩ := first
  rw [← columns_declared distinct] at known
  rw [ofColumns_concat, ofColumns_of_nodup distinct]
  change (declareNew (declared name before) column >>= fun dataset =>
    after.foldlM declareNew dataset) = _
  rw [declareNew_eq, if_pos known, name_declared]
  rfl

/-- A list of columns is taken if its names are distinct. -/
theorem ofColumns_eq_ok_iff {dataset : Dataset} : ofColumns name columns = .ok dataset ↔
    (columns.map Column.name).Nodup ∧ dataset = declared name columns := by
  by_cases distinct : (columns.map Column.name).Nodup
  · rw [ofColumns_of_nodup distinct, Except.ok.injEq, and_iff_right distinct, eq_comm]
  · obtain ⟨column, first⟩ := exists_firstRepeated distinct
    rw [ofColumns_of_firstRepeated first]
    exact iff_of_false nofun fun same => distinct same.1

theorem ofColumns_columns (dataset : Dataset) :
    ofColumns dataset.name dataset.columns = .ok dataset :=
  ofColumns_eq_ok_iff.mpr ⟨dataset.distinct, ext (name_declared _ _).symm
    (columns_declared dataset.distinct).symm⟩

end Lists

end Dataset

section Storage

open Json.Scan (Reads Filled enclosed_string enclosed_object reads_list reads_optional reads_record
  reads_text reads_variant)

theorem TemporalKind.lookup_name (kind : TemporalKind) :
    variants.lookup kind.name = some kind := by
  cases kind <;> rfl

namespace Column

variable {column : Column}

/-- A column is made of its fields, where both of those that may be left out are as they were. -/
theorem finish_filled (name type : String) (format : Option TemporalKind) (label : Option String) :
    Draft.finish ⟨some name, some type, format.map some, label.map some⟩ =
      .ok ⟨name, .parse type, format, label⟩ := by
  cases format <;> cases label <;> rfl

/-- A column is scanned from its stored form. -/
theorem reads_toJson (typed : column.Typed) : Reads Column.read column.toJson column := by
  obtain ⟨name, type, format, label⟩ := column
  obtain ⟨text, rfl⟩ := typed
  have formats : Option.Rel (Reads (Json.Scan.optional TemporalKind.read))
      (format.map fun kind => .string kind.name) (format.map some) := by
    cases format with
    | none => exact .none
    | some kind =>
        exact .some (reads_optional (enclosed_string _) (reads_variant kind.lookup_name))
  have labels : Option.Rel (Reads (Json.Scan.optional Json.Scan.text))
      (label.map .string) (label.map some) := by
    cases label with
    | none => exact .none
    | some text => exact .some (reads_optional (enclosed_string _) (reads_text text))
  have written : Column.toJson ⟨name, .parse text, format, label⟩ =
      .object (("name", .string name) :: ("type", .string (ColumnType.parse text).name) ::
        (((format.map fun kind => .string kind.name).map fun document =>
            ("format", document)).toList ++
          (((label.map .string).map fun document => ("alias", document)).toList ++ []))) := by
    simp [Column.toJson, Function.comp_def]
  rw [written]
  refine reads_record (.field rfl (reads_text name) (.field rfl (reads_text _)
    (.toList rfl rfl formats (.toList rfl rfl labels (.nil _))))) ?_
  exact (finish_filled name _ format label).trans (by rw [ColumnType.parse_name])

/-- A column is read from its stored form as a document. -/
theorem read_toJson (typed : column.Typed) :
    (Column.read : Json.Decode Column) column.toJson.sorted = .ok column := by
  obtain ⟨name, type, format, label⟩ := column
  obtain ⟨text, rfl⟩ := typed
  generalize written : ([("name", Json.string name),
      ("type", .string (ColumnType.parse text).name)] ++
    (format.map fun kind => ("format", .string kind.name)).toList ++
      (label.map fun text => ("alias", .string text)).toList) = members
  have distinct : (members.map Prod.fst).Nodup := by
    rw [← written]
    cases format <;> cases label <;> simp
  have ascending : ["alias", "format", "name", "type"].Pairwise (· < ·) := by decide
  have labels : Json.Decode.Reads (Json.Decode.optional Json.Decode.text) (members.lookup "alias")
      (label.map some) := by
    rw [← written]
    cases format <;> cases label <;> first | exact .none | exact .some rfl
  have formats : Json.Decode.Reads (Json.Decode.optional TemporalKind.read)
      (members.lookup "format") (format.map some) := by
    rw [← written]
    rcases format with _ | kind
    · cases label <;> exact .none
    · cases label <;> cases kind <;> exact .some rfl
  have title : Json.Decode.Reads Json.Decode.text (members.lookup "name") (some name) := by
    rw [← written]
    exact .some rfl
  have type : Json.Decode.Reads Json.Decode.text (members.lookup "type")
      (some (ColumnType.parse text).name) := by
    rw [← written]
    exact .some rfl
  change (Column.read : Json.Decode Column) (Json.object _).sorted = _
  rw [written]
  refine Eq.trans (Json.Decode.record_sorted rfl distinct ascending (by decide)) ?_
  refine Outcome.bind_eq_ok_iff.mpr ⟨_, ?_, (finish_filled name _ format label).trans
    (by rw [ColumnType.parse_name])⟩
  simp only [Json.selected, List.flatMap_cons, List.flatMap_nil]
  apply Eq.trans (Json.Decode.fillNamed_toList _ rfl rfl labels)
  apply Eq.trans (Json.Decode.fillNamed_toList _ rfl rfl formats)
  apply Eq.trans (Json.Decode.fillNamed_toList _ rfl rfl title)
  apply Eq.trans (Json.Decode.fillNamed_toList _ rfl rfl type)
  rfl

/-- A column is stored without anything inside its members. -/
theorem depth_toJson (column : Column) : column.toJson.depth = 1 := by
  obtain ⟨name, type, format, label⟩ := column
  cases format <;> cases label <;> rfl

end Column

namespace Dataset

variable {dataset : Dataset}

/-- Name and columns are scanned from the stored form of a dataset. -/
theorem reads_parts (typed : ∀ column ∈ dataset.columns, column.Typed) :
    Reads readParts dataset.toJson (dataset.name, dataset.columns) := by
  have columns : Reads (Json.Scan.list Column.read) (.array (dataset.columns.map Column.toJson))
      dataset.columns := by
    refine reads_list ?_ ?_
    · rw [List.forall₂_map_left_iff, List.forall₂_same]
      exact fun column member => Column.reads_toJson (typed column member)
    · intro document member
      obtain ⟨column, -, rfl⟩ := List.mem_map.mp member
      exact enclosed_object _
  exact reads_record (.field rfl (reads_text dataset.name) (.field rfl columns (.nil _))) rfl

/-- A dataset is scanned from its stored form. -/
theorem reads_toJson (typed : ∀ column ∈ dataset.columns, column.Typed) :
    Reads Dataset.read dataset.toJson dataset := by
  refine (reads_parts typed).bind fun budget rest => ?_
  dsimp only
  rw [ofColumns_columns]
  exact Json.Scan.takes_pure dataset rest

/-- Columns stand in a list, and the list in the dataset. -/
theorem shallow_toJson (dataset : Dataset) : dataset.toJson.depth < Json.Scan.budget := by
  have columns : Json.depthItems (dataset.columns.map Column.toJson) ≤ 1 := by
    induction dataset.columns with
    | nil => exact Nat.zero_le 1
    | cons column rest ih =>
        rw [List.map_cons, Json.depthItems, Column.depth_toJson]
        exact Nat.max_le.mpr ⟨Nat.le_refl 1, ih⟩
  have budget : Json.Scan.budget = 128 := rfl
  have whole : dataset.toJson.depth =
      max 0 (max (Json.depthItems (dataset.columns.map Column.toJson) + 1) 0) + 1 := rfl
  omega

/-- A dataset is read from its stored form as a document. -/
theorem decode_toJson (typed : ∀ column ∈ dataset.columns, column.Typed) :
    Json.decode Dataset.read dataset.toJson = .ok dataset := by
  have columns : Json.Decode.items Column.read
      (Json.array (dataset.columns.map Column.toJson)).sorted = .ok dataset.columns := by
    change (Json.sortedItems (dataset.columns.map Column.toJson)).mapM
      (Column.read : Json.Decode Column) = _
    rw [Json.sortedItems_eq_map, List.map_map, Outcome.mapM_eq_ok_iff, List.forall₂_map_left_iff,
      List.forall₂_same]
    exact fun column member => Column.read_toJson (typed column member)
  have sorted : dataset.toJson.sorted = .object [
      ("columns", (Json.array (dataset.columns.map Column.toJson)).sorted),
      ("name", .string dataset.name)] := by
    simp (disch := decide) only [toJson, Json.sorted, Json.sortedValues, Json.sortMembers,
      List.foldl_cons, List.foldl_nil, Json.putMember_before, Json.putMember_nil]
  have parts : (readParts : Json.Decode (String × List Column)) dataset.toJson.sorted =
      .ok (dataset.name, dataset.columns) := by
    rw [sorted]
    refine Outcome.bind_eq_ok_iff.mpr ⟨⟨some dataset.name, some dataset.columns⟩, ?_, rfl⟩
    refine Eq.trans (Json.Decode.fillNamed_cons rfl (Json.Decode.fill_of columns)) ?_
    exact Json.Decode.fillNamed_cons rfl (Json.Decode.fill_of rfl)
  refine Outcome.bind_eq_ok_iff.mpr ⟨_, parts, ?_⟩
  dsimp only
  rw [ofColumns_columns]
  rfl

/-- A dataset is loaded from the text of its stored form. -/
theorem ofJsonText_toJson (typed : ∀ column ∈ dataset.columns, column.Typed) :
    ofJsonText dataset.toJson.compact = .ok dataset := by
  rw [ofJsonText, (reads_parts typed).run dataset.shallow_toJson]
  exact dataset.ofColumns_columns

/-- Columns that are declared one after the other stand where their names first came, each with its
last definition. A list of columns makes the same dataset if no name comes again; otherwise the
first column whose name does is refused. A dataset that is built in either way is read as it was,
from the text of its stored form and from its document. -/
theorem declared_and_stored (name : String) (columns : List Column) :
    ((declared name columns).name = name ∧
      (declared name columns).columns.map Column.name = (columns.map Column.name).eraseDups ∧
      (declared name columns).columns.map some =
        (columns.map Column.name).eraseDups.map (lastNamed columns) ∧
      ∀ key, (declared name columns).column? key = lastNamed columns key) ∧
    ((∀ dataset, ofColumns name columns = .ok dataset ↔
        (columns.map Column.name).Nodup ∧ dataset = declared name columns) ∧
      ((columns.map Column.name).Nodup → (declared name columns).columns = columns) ∧
      (¬ (columns.map Column.name).Nodup → ∃ column, FirstRepeated columns column ∧
        ofColumns name columns = .error (.duplicateColumn name column.name))) ∧
    ((∀ column ∈ columns, column.Typed) → ∀ dataset,
      dataset = declared name columns ∨ ofColumns name columns = .ok dataset →
        ofJsonText dataset.toJson.compact = .ok dataset ∧
        Json.Scan.run Dataset.read dataset.toJson.compact = .ok dataset ∧
        Json.decode Dataset.read dataset.toJson = .ok dataset) := by
  refine ⟨⟨name_declared name columns, names_declared name columns, ?_,
      column?_declared name columns⟩,
    ⟨fun dataset => ofColumns_eq_ok_iff, columns_declared, fun repeated => ?_⟩,
    fun typed dataset built => ?_⟩
  · have found : (declared name columns).column? = lastNamed columns :=
      funext (column?_declared name columns)
    rw [map_some_columns, names_declared, found]
  · obtain ⟨column, first⟩ := exists_firstRepeated repeated
    exact ⟨column, first, ofColumns_of_firstRepeated first⟩
  · obtain rfl : dataset = declared name columns :=
      built.elim id fun known => (ofColumns_eq_ok_iff.mp known).2
    have kept : ∀ column ∈ (declared name columns).columns, column.Typed :=
      fun column member => typed column (mem_of_mem_declared member)
    exact ⟨ofJsonText_toJson kept, (reads_toJson kept).run (shallow_toJson _), decode_toJson kept⟩

end Dataset

end Storage

namespace Sample

/-- A column of a type that is not supported. -/
def place : Column where
  name := "place"
  type := .parse "Geography"

/-- A column of whole numbers. -/
def key : Column where
  name := "id"
  type := .parse "INT4"

/-- A column of the same name with a label. -/
def labelledKey : Column where
  name := "id"
  type := .parse "VarChar"
  label := some "Key"

/-- A column of date and time that is compared by date. -/
def created : Column where
  name := "created"
  type := .parse "TimestampTZ"
  format := some .date

end Sample

open Sample

/-- Of two columns of one name the later one is kept at the place of the earlier one, and a list
with both is refused; a list with one of them is taken. -/
theorem Dataset.places_stored :
    ((declared "places" [key, place, labelledKey]).columns.map some =
        [some labelledKey, some place] ∧
      ¬ ([key, place, labelledKey].map Column.name).Nodup ∧
      (∃ column, FirstRepeated [key, place, labelledKey] column ∧
        ofColumns "places" [key, place, labelledKey] =
          .error (.duplicateColumn "places" column.name))) ∧
    (([created, place, labelledKey].map Column.name).Nodup ∧
      (declared "places" [created, place, labelledKey]).columns = [created, place, labelledKey]) ∧
    (∀ column ∈ [created, place, labelledKey], column.Typed) ∧
      ofJsonText (declared "places" [created, place, labelledKey]).toJson.compact =
        .ok (declared "places" [created, place, labelledKey]) := by
  have repeated : ¬ ([key, place, labelledKey].map Column.name).Nodup := by decide
  have distinct : ([created, place, labelledKey].map Column.name).Nodup := by decide
  have typed : ∀ column ∈ [created, place, labelledKey], column.Typed := by
    simp only [List.forall_mem_cons]
    exact ⟨⟨"TimestampTZ", rfl⟩, ⟨"Geography", rfl⟩, ⟨"VarChar", rfl⟩, List.forall_mem_nil _⟩
  obtain ⟨⟨-, -, last, -⟩, ⟨-, -, refused⟩, -⟩ :=
    declared_and_stored "places" [key, place, labelledKey]
  obtain ⟨-, ⟨-, kept, -⟩, stored⟩ := declared_and_stored "places" [created, place, labelledKey]
  exact ⟨⟨last.trans rfl, repeated, refused repeated⟩, ⟨distinct, kept distinct⟩, typed,
    (stored typed _ (.inl rfl)).1⟩

end DashboardFilters
