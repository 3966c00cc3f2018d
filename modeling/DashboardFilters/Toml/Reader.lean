import DashboardFilters.Toml.Lexical

namespace DashboardFilters.Toml

namespace Read

/-- The number of arrays and tables that may be open at once, and one more. -/
def depthLimit : Nat := 80

def isKeyCharacter (character : Char) : Bool :=
  ('a' ≤ character && character ≤ 'z') || ('A' ≤ character && character ≤ 'Z') ||
    Decimal.isDigit character || character == '_' || character == '-'

/-- One part of a key, with quotes or without. -/
def simpleKey : Read String := do
  match ← peek with
  | some '"' => lineString '"'
  | some '\'' => lineString '\''
  | _ =>
      let characters ← many isKeyCharacter
      if characters.isEmpty then failure else return String.ofList characters

/-- The parts of a key after each other, with points between them. -/
def keyWithin : Nat → Read (List String)
  | 0 => failure
  | fuel + 1 => do
      blanks
      let first ← simpleKey
      blanks
      if (← peek) == some '.' then
        literal ['.']
        return first :: (← keyWithin fuel)
      else return [first]

/-- A key: the tables it leads through, and its last part. -/
def key : Read (List String × String) := do
  let parts ← keyWithin (depthLimit - 1)
  match parts.getLast? with
  | some last => return (parts.dropLast, last)
  | none => failure

/-- Words that are no array and no table. -/
def scalar : Read Value := do
  match ← peek with
  | some '"' => return .string (← string '"')
  | some '\'' => return .string (← string '\'')
  | some 't' =>
      literal "true".toList
      return .boolean true
  | some 'f' =>
      literal "false".toList
      return .boolean false
  | _ => datetime <|> fractional <|> wordNumber <|> integer

/-- The items of an array up to its bracket; the last one may be followed by a comma. -/
def itemsWithin (item : Read Value) : Nat → Read (List Value)
  | 0 => failure
  | fuel + 1 => do
      space
      if (← peek) == some ']' then
        literal [']']
        return []
      let first ← item
      space
      match ← one fun character => character == ',' || character == ']' with
      | ',' => return first :: (← itemsWithin item fuel)
      | _ => return [first]

def assignment (value : Read Value) : Read Assignment := do
  let (path, key) ← key
  literal ['=']
  blanks
  return ⟨path, key, ← value⟩

/-- The assignments of a table inside braces, from the first key on. -/
def assignmentsWithin (value : Read Value) : Nat → Read (List Assignment)
  | 0 => failure
  | fuel + 1 => do
      let first ← assignment value
      blanks
      match ← one fun character => character == ',' || character == '\x7d' with
      | ',' => return first :: (← assignmentsWithin value fuel)
      | _ => return [first]

/-- A value with at most the given number of arrays and tables inside each other. -/
def valueWithin : Nat → Read Value
  | 0 => scalar
  | depth + 1 => do
      match ← peek with
      | some '[' =>
          literal ['[']
          return .array (← itemsWithin (valueWithin depth) ((← get).length + 1))
      | some '\x7b' =>
          literal ['\x7b']
          blanks
          if (← peek) == some '\x7d' then
            literal ['\x7d']
            return .table []
          let assignments ← assignmentsWithin (valueWithin depth) ((← get).length + 1)
          match inlineTable? assignments with
          | some table => return table
          | none => failure
      | _ => scalar

def value : Read Value :=
  valueWithin (depthLimit - 1)

/-- The assignments up to the next header, each on a line of its own. -/
def assignmentLines : Nat → Read (List Assignment)
  | 0 => failure
  | fuel + 1 => do
      blanks
      match ← peek with
      | none | some '[' => return []
      | some '#' | some '\n' | some '\r' =>
          lineEnd
          assignmentLines fuel
      | _ =>
          let first ← assignment value
          lineEnd
          return first :: (← assignmentLines fuel)

/-- The line that names a table or an array of tables: whether it is the latter, and the key. -/
def header : Read (Bool × List String × String) := do
  literal ['[']
  if (← peek) == some '[' then
    literal ['[']
    let key ← key
    literal [']', ']']
    lineEnd
    return (true, key)
  else
    let key ← key
    literal [']']
    lineEnd
    return (false, key)

/-- All sections; each of them takes at least its header from the text. -/
def sectionsWithin : Nat → Read (List Section)
  | 0 => failure
  | fuel + 1 => do
      if (← peek).isNone then return []
      let (element, outer, name) ← header
      let assignments ← assignmentLines ((← get).length + 1)
      return { outer, name, element, assignments } :: (← sectionsWithin fuel)

/-- A byte order mark in front does not count. -/
def document : Read Value := do
  if (← peek) == some '\uFEFF' then literal ['\uFEFF']
  let assignments ← assignmentLines ((← get).length + 1)
  let sections ← sectionsWithin ((← get).length + 1)
  match document? assignments sections with
  | some document => return document
  | none => failure

end Read

/-- The document a text holds; nothing if the text is no TOML. -/
def parse? (text : String) : Option Value :=
  match Read.document text.toList with
  | some (document, []) => some document
  | _ => none

end DashboardFilters.Toml
