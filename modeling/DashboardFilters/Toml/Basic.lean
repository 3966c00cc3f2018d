/-!
TOML documents, and how they grow while the lines of a file are read. A table may be written in
pieces: by its header, by headers of its parts, and by dotted keys; the rules below say which pieces
may follow each other.
-/

namespace DashboardFilters.Toml

/-- A finished value. Dates and times are kept as their text. -/
inductive Value where
  | string (value : String)
  | integer (value : Int)
  | float (value : Float)
  | boolean (value : Bool)
  | datetime (text : String)
  | array (items : List Value)
  | table (entries : List (String × Value))
  deriving BEq, Inhabited

mutual

/-- The number of nested arrays and tables on the longest way down. -/
def Value.depth : Value → Nat
  | .array items => depthItems items + 1
  | .table entries => depthEntries entries + 1
  | _ => 0

def depthItems : List Value → Nat
  | [] => 0
  | item :: rest => max item.depth (depthItems rest)

def depthEntries : List (String × Value) → Nat
  | [] => 0
  | (_, item) :: rest => max item.depth (depthEntries rest)

end

/-- How a table came to be. -/
inductive Origin where
  /-- It has a header of its own. -/
  | header
  /-- It is only named in the header of one of its parts. -/
  | implied
  /-- It is only named in dotted keys. -/
  | dotted
  deriving DecidableEq, Repr

/-- What a key stands for while the document grows. -/
inductive Node where
  | value (value : Value)
  | table (origin : Origin) (entries : List (String × Node))
  | tables (elements : List (List (String × Node)))

/-- The keys of a growing table, in the order in which they first came. -/
abbrev Entries := List (String × Node)

mutual

/-- The value of a node once all lines have been read. -/
def Node.finished : Node → Value
  | .value value => value
  | .table _ entries => .table (finishedEntries entries)
  | .tables elements => .array (finishedElements elements)

def finishedEntries : List (String × Node) → List (String × Value)
  | [] => []
  | (key, node) :: rest => (key, node.finished) :: finishedEntries rest

def finishedElements : List (List (String × Node)) → List Value
  | [] => []
  | entries :: rest => .table (finishedEntries entries) :: finishedElements rest

end

/-- The entries with one of them set, in place or at the end. -/
def putEntry (key : String) (node : Node) : Entries → Entries
  | [] => [(key, node)]
  | (other, kept) :: rest =>
      if key = other then (key, node) :: rest else (other, kept) :: putEntry key node rest

def changeLast? {α : Type} (change : α → Option α) : List α → Option (List α)
  | [] => none
  | [last] => (change last).map ([·])
  | first :: rest => (changeLast? change rest).map (first :: ·)

/-- A change of the table that a path leads to. Tables on the way that are not there yet come to be
with the given origin. Dotted keys lead only through tables without a header; a header leads also
into the last element of an array of tables. The change is told whether the table it gets comes
from dotted keys. -/
def changeAt? (origin : Origin) (change : Bool → Entries → Option Entries) :
    List String → Bool → Entries → Option Entries
  | [], fromDotted, entries => change fromDotted entries
  | key :: path, _, entries =>
      match entries.lookup key with
      | none => do
          let inner ← changeAt? origin change path (origin == .dotted) []
          some (entries ++ [(key, .table origin inner)])
      | some (.value _) => none
      | some (.tables elements) => do
          let changed ← changeLast? (changeAt? origin change path false) elements
          some (putEntry key (.tables changed) entries)
      | some (.table known inner) =>
          if origin = .dotted && known = .header then none
          else do
            let changed ← changeAt? origin change path (known == .dotted) inner
            some (putEntry key (.table known changed) entries)

/-- A key with its value. -/
structure Assignment where
  path : List String
  key : String
  value : Value

/-- A dotted key may only add to a table that dotted keys made, a plain key only to another. -/
def assign? (entries : Entries) (assignment : Assignment) : Option Entries :=
  changeAt? .dotted (fun fromDotted table =>
    if fromDotted == assignment.path.isEmpty then none
    else if (table.lookup assignment.key).isSome then none
    else some (table ++ [(assignment.key, .value assignment.value)]))
    assignment.path false entries

def assignAll? (entries : Entries) (assignments : List Assignment) : Option Entries :=
  assignments.foldlM assign? entries

/-- The value of a table written inside braces. -/
def inlineTable? (assignments : List Assignment) : Option Value :=
  (assignAll? [] assignments).map fun entries => .table (finishedEntries entries)

/-- The lines from one header to the next. -/
structure Section where
  /-- The tables around the one that the header names. -/
  outer : List String
  name : String
  /-- Whether the header adds an element to an array of tables. -/
  element : Bool
  assignments : List Assignment

/-- A table gets its header only once; an array of tables takes any number of elements. -/
def addSection? (root : Entries) (part : Section) : Option Entries :=
  changeAt? .implied (fun _ parent =>
    if part.element then
      match parent.lookup part.name with
      | none => do
          let element ← assignAll? [] part.assignments
          some (putEntry part.name (.tables [element]) parent)
      | some (.tables elements) => do
          let element ← assignAll? [] part.assignments
          some (putEntry part.name (.tables (elements ++ [element])) parent)
      | some _ => none
    else
      match parent.lookup part.name with
      | none => do
          let entries ← assignAll? [] part.assignments
          some (putEntry part.name (.table .header entries) parent)
      | some (.table .implied known) => do
          let entries ← assignAll? known part.assignments
          some (putEntry part.name (.table .header entries) parent)
      | some _ => none)
    part.outer false root

/-- The document of the lines before the first header and of all sections. -/
def document? (assignments : List Assignment) (sections : List Section) : Option Value := do
  let root ← assignAll? [] assignments
  let entries ← sections.foldlM addSection? root
  some (.table (finishedEntries entries))

end DashboardFilters.Toml
