import DashboardFilters.Keyed
import DashboardFilters.Tree.Ids
import DashboardFilters.Tree.Persisted

namespace DashboardFilters

structure SessionKey where
  dashboard : String
  dash : String
  deriving DecidableEq, Repr

/-- The path of a dash's filters, behind a namespace if there is one. -/
def SessionKey.path (key : SessionKey) (scope : Option String) : String :=
  let path := "dashboards." ++ key.dashboard ++ ".dashes." ++ key.dash ++ ".filters"
  match scope with
  | some name => name ++ "." ++ path
  | none => path

/-- Documents under distinct paths. -/
abbrev Store := List (String × Json)

/-- The filters of a session: a store, and the namespace of its paths. -/
structure Session where
  scope : Option String := none
  store : Store := []

namespace Session

def get? (session : Session) (path : String) : Option Json :=
  Keyed.get? path session.store

/-- Puts a document under a path, in place of the one before. -/
def set (session : Session) (path : String) (document : Json) : Session :=
  { session with store := Keyed.put path document session.store }

def remove (session : Session) (path : String) : Session :=
  { session with store := Keyed.erase path session.store }

/-- Stores filters for a dash. -/
def apply (session : Session) (key : SessionKey) (block : Block Value) : Session :=
  session.set (key.path session.scope) (block.toJson Value.toJson).sorted

/-- Forgets what is stored for a dash. -/
def reset (session : Session) (key : SessionKey) : Session :=
  session.remove (key.path session.scope)

/-- The filters stored for a dash. What can no longer be read is a failure, so that the user can be
asked to reset it. -/
def stored (session : Session) (key : SessionKey) : Except Failure (Option (Block Value)) :=
  match session.get? (key.path session.scope) with
  | none => .ok none
  | some document =>
      match Json.decode Block.read document with
      | .ok block => .ok (some block)
      | .error error => .error ((Failure.deserialization error.message).withCause error.message)

/-- The filters that apply to a dash: the stored ones, or the defaults, or a fresh block. -/
def applied (session : Session) (key : SessionKey) (defaults : Option (Block Value))
    (ids : IdSequence) : Except Failure (Block Value × IdSequence) := do
  match ← session.stored key with
  | some block => return (block, ids)
  | none =>
      match defaults with
      | some block => return (block, ids)
      | none => return Block.fresh ids

end Session

end DashboardFilters
