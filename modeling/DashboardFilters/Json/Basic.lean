/-!
JSON documents. An object keeps its members in written order; the canonical form of a document has
the members of every object in ascending order of their keys, each key once.
-/

namespace DashboardFilters

/-- A number keeps the kind of its spelling: whole, or with a fraction or exponent. -/
inductive Json where
  | null
  | bool (value : Bool)
  | int (value : Int)
  | float (value : Float)
  | string (value : String)
  | array (items : List Json)
  | object (members : List (String × Json))
  deriving BEq, Inhabited

namespace Json

mutual

/-- The number of nested arrays and objects on the longest way down. -/
def depth : Json → Nat
  | .array items => depthItems items + 1
  | .object members => depthMembers members + 1
  | _ => 0

def depthItems : List Json → Nat
  | [] => 0
  | item :: rest => max item.depth (depthItems rest)

def depthMembers : List (String × Json) → Nat
  | [] => 0
  | (_, item) :: rest => max item.depth (depthMembers rest)

end

/-- Members in ascending order of keys, with one of them set. -/
def putMember (key : String) (value : Json) : List (String × Json) → List (String × Json)
  | [] => [(key, value)]
  | (other, kept) :: rest =>
      if key = other then (key, value) :: rest
      else if key < other then (key, value) :: (other, kept) :: rest
      else (other, kept) :: putMember key value rest

/-- Of several members with one key the last one counts. -/
def sortMembers (members : List (String × Json)) : List (String × Json) :=
  members.foldl (fun sorted member => putMember member.1 member.2 sorted) []

mutual

/-- The canonical form. -/
def sorted : Json → Json
  | .array items => .array (sortedItems items)
  | .object members => .object (sortMembers (sortedValues members))
  | other => other

def sortedItems : List Json → List Json
  | [] => []
  | item :: rest => item.sorted :: sortedItems rest

/-- The members in their order, each value sorted. -/
def sortedValues : List (String × Json) → List (String × Json)
  | [] => []
  | (key, item) :: rest => (key, item.sorted) :: sortedValues rest

end

/-- The value of a member, if the document is an object that has it. -/
def member? (document : Json) (key : String) : Option Json :=
  match document with
  | .object members => members.lookup key
  | _ => none

end Json

end DashboardFilters
