import DashboardFilters.Config.Basic
import DashboardFilters.Proofs.Outcome
import DashboardFilters.Proofs.Session.History

/-!
Which dashes have one path in a store. A namespace is a single word between dots, but the
identifiers of dashboards and dashes are any texts, so a word of an identifier can be taken for a
fixed word of the path.
-/

namespace DashboardFilters

namespace Text

/-- The words of a text between its dots. -/
def words (text : String) : List (List Char) :=
  text.toList.splitOn '.'

variable {text other : String}

theorem words_inj : words text = words other ↔ text = other := by
  constructor
  · intro same
    have joined := congrArg (List.intercalate ['.']) same
    rwa [words, words, List.intercalate_splitOn, List.intercalate_splitOn,
      String.toList_inj] at joined
  · rintro rfl
    rfl

theorem words_ne_nil : words text ≠ [] :=
  List.splitOn_ne_nil '.' text.toList

theorem words_append_dot : words (text ++ "." ++ other) = words text ++ words other := by
  rw [words, String.toList_append, String.toList_append, List.append_assoc]
  exact List.splitOn_append_cons_self ..

theorem words_of_plain (plain : '.' ∉ text.toList) : words text = [text.toList] :=
  List.splitOn_eq_singleton plain

end Text

open Text (words words_inj words_append_dot words_of_plain words_ne_nil)

/-- Two lists that are cut at members of one kind are the same if they are cut at the same place, or
if the front of one has both places and the rest of the other too. -/
theorem append_cons_eq_append_cons {α : Type} {cut : α} {front rest ahead behind : List α} :
    front ++ cut :: rest = ahead ++ cut :: behind ↔
      (front = ahead ∧ rest = behind) ∨
      (∃ middle, front = ahead ++ cut :: middle ∧ behind = middle ++ cut :: rest) ∨
      ∃ middle, ahead = front ++ cut :: middle ∧ rest = middle ++ cut :: behind := by
  rw [List.append_eq_append_iff]
  constructor
  · rintro (⟨_ | ⟨first, middle⟩, rfl, same⟩ | ⟨_ | ⟨first, middle⟩, rfl, same⟩)
    · rw [List.nil_append, List.cons.injEq] at same
      exact .inl ⟨(List.append_nil _).symm, same.2⟩
    · rw [List.cons_append, List.cons.injEq] at same
      obtain ⟨rfl, rfl⟩ := same
      exact .inr (.inr ⟨middle, rfl, rfl⟩)
    · rw [List.nil_append, List.cons.injEq] at same
      exact .inl ⟨List.append_nil _, same.2.symm⟩
    · rw [List.cons_append, List.cons.injEq] at same
      obtain ⟨rfl, rfl⟩ := same
      exact .inr (.inl ⟨middle, rfl, rfl⟩)
  · rintro (⟨rfl, rfl⟩ | ⟨middle, rfl, rfl⟩ | ⟨middle, rfl, rfl⟩)
    · exact .inl ⟨[], (List.append_nil _).symm, rfl⟩
    · exact .inr ⟨cut :: middle, rfl, rfl⟩
    · exact .inl ⟨cut :: middle, rfl, rfl⟩

namespace SessionKey

variable {key other : SessionKey} {scope otherScope : Option String}

/-- Whether the words of two dashes overlap: the first dashboard goes on behind the second one with
the fixed word and some words more, and the second dash has those in front of the fixed word and the
first dash. -/
def Overlaps (key other : SessionKey) : Prop :=
  ∃ middle, words key.dashboard = words other.dashboard ++ "dashes".toList :: middle ∧
    words other.dash = middle ++ "dashes".toList :: words key.dash

/-- Whether two dashes have one path in the same namespace. -/
def Confused (key other : SessionKey) : Prop :=
  key = other ∨ key.Overlaps other ∨ other.Overlaps key

theorem confused_comm : key.Confused other ↔ other.Confused key := by
  rw [Confused, Confused, eq_comm, Or.comm (a := key.Overlaps other)]

/-- The dash whose path without a namespace is the path of a dash in the namespace that is called
like the first word of every path. -/
def nested (key : SessionKey) : SessionKey :=
  { key with dashboard := "dashboards." ++ key.dashboard }

/-- Whether two dashes have one path, each in its namespace. -/
def SharePath (key : SessionKey) (scope : Option String) (other : SessionKey)
    (otherScope : Option String) : Prop :=
  match scope, otherScope with
  | none, none => key.Confused other
  | some name, some otherName => name = otherName ∧ key.Confused other
  | none, some otherName => otherName = "dashboards" ∧ key.Confused other.nested
  | some name, none => name = "dashboards" ∧ key.nested.Confused other

theorem words_path (key : SessionKey) : words (key.path none) =
    "dashboards".toList :: (words key.dashboard ++ "dashes".toList :: words key.dash) ++
      ["filters".toList] := by
  have spelled : key.path none = "dashboards" ++ "." ++ key.dashboard ++ "." ++ "dashes" ++ "." ++
      key.dash ++ "." ++ "filters" := by
    rw [path, show "dashboards." = "dashboards" ++ "." from rfl,
      show ".dashes." = "." ++ "dashes" ++ "." from rfl, show ".filters" = "." ++ "filters" from rfl]
    simp only [String.append_assoc]
  have start : words "dashboards" = ["dashboards".toList] := words_of_plain (by decide)
  have between : words "dashes" = ["dashes".toList] := words_of_plain (by decide)
  have last : words "filters" = ["filters".toList] := words_of_plain (by decide)
  simp only [spelled, words_append_dot, start, between, last, List.append_assoc,
    List.cons_append, List.nil_append]

theorem path_some (name : String) : key.path (some name) = name ++ "." ++ key.path none :=
  rfl

theorem path_nested (key : SessionKey) : key.nested.path none = key.path (some "dashboards") := by
  simp only [path, nested, String.append_assoc]
  rfl

/-- Without a namespace the paths of dashes are the same where the words of their identifiers run
together in the same way. -/
theorem path_none_eq_iff : key.path none = other.path none ↔ key.Confused other := by
  have same : key = other ↔ words key.dashboard = words other.dashboard ∧
      words key.dash = words other.dash := by
    rw [words_inj, words_inj, ← SessionKey.mk.injEq]
  rw [← words_inj, words_path, words_path, List.append_left_inj, List.cons.injEq,
    append_cons_eq_append_cons, ← same]
  exact and_iff_right rfl

/-- A namespace is the first word of its paths. -/
theorem words_path_some {name : String} (plain : '.' ∉ name.toList) (key : SessionKey) :
    words (key.path (some name)) = name.toList :: words (key.path none) := by
  rw [path_some, words_append_dot, words_of_plain plain, List.singleton_append]

/-- The other paths begin with a fixed word, which can be a namespace too. -/
theorem path_none_eq_path_some_iff {name : String} (plain : '.' ∉ name.toList) :
    key.path none = other.path (some name) ↔
      name = "dashboards" ∧ key.Confused other.nested := by
  constructor
  · intro same
    have heads := congrArg (fun text => (words text).head?) same
    rw [words_path, words_path_some plain] at heads
    obtain rfl : "dashboards" = name := String.toList_inj.mp (Option.some.inj heads)
    rw [← path_nested] at same
    exact ⟨rfl, path_none_eq_iff.mp same⟩
  · rintro ⟨rfl, confused⟩
    rw [← path_nested]
    exact path_none_eq_iff.mpr confused

/-- The paths of two dashes are the same where they share one, if the namespaces are words. -/
theorem path_eq_path_iff (plain : ∀ name ∈ scope, '.' ∉ name.toList)
    (otherPlain : ∀ name ∈ otherScope, '.' ∉ name.toList) :
    key.path scope = other.path otherScope ↔ key.SharePath scope other otherScope := by
  cases scope with
  | none =>
      cases otherScope with
      | none => exact path_none_eq_iff
      | some otherName => exact path_none_eq_path_some_iff (otherPlain otherName rfl)
  | some name =>
      cases otherScope with
      | none =>
          rw [eq_comm, path_none_eq_path_some_iff (plain name rfl), SharePath, confused_comm]
      | some otherName =>
          rw [SharePath, ← path_none_eq_iff, ← words_inj, words_path_some (plain name rfl),
            words_path_some (otherPlain otherName rfl), List.cons.injEq, String.toList_inj,
            words_inj]

/-- Whether the identifiers of a dash are words. -/
def Plain (key : SessionKey) : Prop :=
  '.' ∉ key.dashboard.toList ∧ '.' ∉ key.dash.toList

/-- No dash whose own identifier is a word is the second one of an overlap. -/
theorem not_overlaps (plain : '.' ∉ other.dash.toList) : ¬ key.Overlaps other := by
  rintro ⟨middle, -, dash⟩
  rw [words_of_plain plain, eq_comm, List.append_eq_singleton_iff] at dash
  obtain ⟨-, alone⟩ | ⟨-, none⟩ := dash
  · exact words_ne_nil (List.cons.inj alone).2
  · exact List.cons_ne_nil _ _ none

/-- Dashes whose own identifiers are words have one path without a namespace only if they are the
same. -/
theorem confused_iff_of_plain (plain : '.' ∉ key.dash.toList) (otherPlain : '.' ∉ other.dash.toList) :
    key.Confused other ↔ key = other := by
  rw [Confused, or_iff_left]
  rintro (overlap | overlap)
  · exact not_overlaps otherPlain overlap
  · exact not_overlaps plain overlap

/-- A dash of words is never the same as a nested one. -/
theorem ne_nested (plain : key.Plain) : key ≠ other.nested := by
  rintro rfl
  apply plain.1
  rw [nested, String.toList_append]
  exact List.mem_append_left _ (by decide)

/-- Dashes of words have one path only if they are the same, in the same namespace. -/
theorem sharePath_iff_of_plain (plain : key.Plain) (otherPlain : other.Plain) :
    key.SharePath scope other otherScope ↔ scope = otherScope ∧ key = other := by
  cases scope with
  | none =>
      cases otherScope with
      | none =>
          rw [SharePath, confused_iff_of_plain plain.2 otherPlain.2]
          exact (and_iff_right rfl).symm
      | some otherName =>
          have apart : key ≠ other.nested := ne_nested plain
          have dash : '.' ∉ other.nested.dash.toList := otherPlain.2
          simp only [SharePath, confused_iff_of_plain plain.2 dash, apart, and_false, reduceCtorEq,
            false_and]
  | some name =>
      cases otherScope with
      | none =>
          have apart : other ≠ key.nested := ne_nested otherPlain
          have dash : '.' ∉ key.nested.dash.toList := plain.2
          simp only [SharePath, confused_iff_of_plain dash otherPlain.2, apart.symm, and_false,
            reduceCtorEq, false_and]
      | some otherName =>
          rw [SharePath, confused_iff_of_plain plain.2 otherPlain.2, Option.some_inj]

end SessionKey

namespace Session

/-- Whether no call for a dash changes what is stored for another dash, whatever the store holds. -/
def Isolated (key : SessionKey) (scope : Option String) (other : SessionKey)
    (otherScope : Option String) : Prop :=
  ∀ (session : Session) (call : Call), session.scope = scope → call.key = key →
    ((session.perform call).withScope otherScope).stored other =
      (session.withScope otherScope).stored other

variable {key other : SessionKey} {scope otherScope : Option String}

theorem isolated_iff_path_ne :
    Isolated key scope other otherScope ↔ key.path scope ≠ other.path otherScope := by
  constructor
  · intro isolated same
    -- An applied tree shows where nothing was stored before.
    have bare : (Call.apply key (Block.bare "")).WellFormed := by
      rintro block ⟨⟩
      exact ⟨List.forall_mem_nil _, trivial⟩
    have shown : ((({ scope } : Session).perform (.apply key (Block.bare ""))).withScope
        otherScope).stored other = .ok (some (Block.bare "")) := stored_perform_of_eq bare same
    rw [isolated { scope } _ rfl rfl] at shown
    exact absurd (Except.ok.inj shown) (Option.some_ne_none _).symm
  · rintro apart session call rfl rfl
    exact stored_perform_of_ne apart

end Session

namespace Config

/-- The namespace of a valid configuration is a word. -/
theorem plain_of_validate {config : Config} (valid : config.validate = .ok ()) :
    ∀ name ∈ config.session.scope, '.' ∉ name.toList := by
  intro name present dotted
  obtain ⟨_, -, checks⟩ := Outcome.bind_eq_ok_iff.mp valid
  obtain ⟨_, -, checked⟩ := Outcome.bind_eq_ok_iff.mp checks
  rw [show config.session.scope = some name from present, checkNamespace, if_pos] at checked
  · cases checked
  · rw [List.contains_iff_mem.mpr dotted, Bool.or_true]

end Config

/-- Two dashes have one path, each in the namespace of a valid configuration, in the cases of
`SharePath` and no others; and where they have different paths, no call for one of them changes what
is stored for the other. -/
theorem Session.isolated_iff {config otherConfig : Config} (valid : config.validate = .ok ())
    (otherValid : otherConfig.validate = .ok ()) (key other : SessionKey) :
    (key.path config.session.scope = other.path otherConfig.session.scope ↔
      key.SharePath config.session.scope other otherConfig.session.scope) ∧
    (Isolated key config.session.scope other otherConfig.session.scope ↔
      ¬ key.SharePath config.session.scope other otherConfig.session.scope) ∧
    (key.Plain → other.Plain → (config.session.scope, key) ≠ (otherConfig.session.scope, other) →
      Isolated key config.session.scope other otherConfig.session.scope) := by
  have paths : key.path config.session.scope = other.path otherConfig.session.scope ↔
      key.SharePath config.session.scope other otherConfig.session.scope :=
    SessionKey.path_eq_path_iff (Config.plain_of_validate valid)
      (Config.plain_of_validate otherValid)
  refine ⟨paths, ?_, ?_⟩
  · rw [isolated_iff_path_ne, Ne, paths]
  · intro plain otherPlain different
    rw [isolated_iff_path_ne, Ne, paths, SessionKey.sharePath_iff_of_plain plain otherPlain,
      ← Prod.mk.injEq]
    exact different

namespace Sample

def tenantConfig : Config where
  session := { scope := some "tenant" }

/-- A configuration whose namespace is the first word of every path. -/
def dashboardsConfig : Config where
  session := { scope := some "dashboards" }

end Sample

/-- A dash of a tenant keeps its filters whatever happens to the same dash without a namespace. -/
theorem Session.arrivals_isolated :
    ({} : Config).validate = .ok () ∧ Sample.tenantConfig.validate = .ok () ∧
      Isolated Sample.arrivalsDash none Sample.arrivalsDash (some "tenant") := by
  have valid : ({} : Config).validate = .ok () := rfl
  have otherValid : Sample.tenantConfig.validate = .ok () := rfl
  have plain : Sample.arrivalsDash.Plain := by
    constructor <;> decide
  refine ⟨valid, otherValid, ?_⟩
  apply (isolated_iff valid otherValid Sample.arrivalsDash Sample.arrivalsDash).2.2 plain plain
  intro same
  cases (Prod.mk.inj same).1

/-- Two dashes of different dashboards have one path, so that the filters applied to the first one
are stored for the second one. Likewise a dash in the namespace that is the first word of every
path, and a dash of another dashboard without a namespace. -/
theorem Session.dashes_meet :
    ({} : Config).validate = .ok () ∧ Sample.dashboardsConfig.validate = .ok () ∧
      (⟨"a", "b.dashes.c"⟩ : SessionKey) ≠ ⟨"a.dashes.b", "c"⟩ ∧
      SessionKey.path ⟨"a", "b.dashes.c"⟩ none = SessionKey.path ⟨"a.dashes.b", "c"⟩ none ∧
      SessionKey.path ⟨"a", "b"⟩ (some "dashboards") =
        SessionKey.path ⟨"dashboards.a", "b"⟩ none ∧
      ({} : Session).stored ⟨"a.dashes.b", "c"⟩ = .ok none ∧
      (({} : Session).apply ⟨"a", "b.dashes.c"⟩ (Block.bare "x")).stored ⟨"a.dashes.b", "c"⟩ =
        .ok (some (Block.bare "x")) := by
  refine ⟨rfl, rfl, by decide, by decide, by decide, rfl, ?_⟩
  rfl

end DashboardFilters
