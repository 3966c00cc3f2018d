import DashboardFilters.Reading.Fault

/-!
Scanning JSON text. A scan moves a cursor over the characters and knows how many more arrays and
objects may be opened. It leaves the cursor where it stopped also when it fails, because the place
of some errors is the place where the surrounding array or object ends.
-/

namespace DashboardFilters.Json

open Reading (Error Fault Position SyntaxFault)

/-- The characters still to be read, and where they begin. -/
structure Cursor where
  rest : List Char
  line : Nat
  column : Nat
  deriving Repr

/-- The beginning of a text: line one, column zero. -/
def Cursor.start (text : String) : Cursor :=
  ⟨text.toList, 1, 0⟩

def Cursor.place (cursor : Cursor) : Position :=
  ⟨cursor.line, cursor.column⟩

def Cursor.next (cursor : Cursor) : Cursor :=
  match cursor.rest with
  | [] => cursor
  | '\n' :: rest => ⟨rest, cursor.line + 1, 0⟩
  | character :: rest => ⟨rest, cursor.line, cursor.column + character.utf8Size⟩

/-- The place a number of bytes further, which may lie inside a character. -/
def placeAfter (bytes line column : Nat) : List Char → Position
  | [] => ⟨line, column⟩
  | character :: rest =>
      if bytes = 0 then ⟨line, column⟩
      else if character = '\n' then placeAfter (bytes - 1) (line + 1) 0 rest
      else
        let size := character.utf8Size
        placeAfter (bytes - size) line (column + min bytes size) rest

/-- The place a number of bytes behind the cursor. -/
def Cursor.placeAfter (cursor : Cursor) (bytes : Nat) : Position :=
  Json.placeAfter bytes cursor.line cursor.column cursor.rest

def Cursor.finish (cursor : Cursor) : Cursor :=
  let place := cursor.placeAfter (cursor.rest.foldl (fun size c => size + c.utf8Size) 0)
  ⟨[], place.line, place.column⟩

/-- The cursor behind all characters at its place that satisfy the test. -/
def Cursor.dropWhile (test : Char → Bool) (cursor : Cursor) : Cursor :=
  (cursor.rest.takeWhile test).foldl (fun moved _ => moved.next) cursor

/-- A step over the text that yields a value or an error. -/
abbrev Scan := ReaderT Nat (ExceptT Error (StateM Cursor))

namespace Scan

def place : Scan Position :=
  return (← get).place

/-- The fault lies at the given place. -/
def failAt {α : Type} (fault : SyntaxFault) (place : Position) : Scan α :=
  throw { fault := .badSyntax fault, position := some place }

/-- The fault lies where the cursor is. -/
def failHere {α : Type} (fault : SyntaxFault) : Scan α := do
  failAt fault (← get).place

/-- The fault lies right after the next byte, or at the end if there is none. -/
def failNext {α : Type} (fault : SyntaxFault) : Scan α := do
  failAt fault ((← get).placeAfter 1)

/-- The next character, which stays. -/
def peek : Scan (Option Char) :=
  return (← get).rest.head?

def skip : Scan Unit :=
  modify Cursor.next

def isBlank (character : Char) : Bool :=
  character == ' ' || character == '\n' || character == '\t' || character == '\r'

def blanks : Scan Unit :=
  modify (·.dropWhile isBlank)

/-- The characters at the cursor that satisfy the test. -/
def takeWhile (test : Char → Bool) : Scan (List Char) := do
  let cursor ← get
  set (cursor.dropWhile test)
  return cursor.rest.takeWhile test

/-- The next character behind any blanks. -/
def peekToken : Scan (Option Char) := do
  blanks
  peek

/-- The letters of a word that has to follow. -/
def letters : List Char → Scan Unit
  | [] => pure ()
  | expected :: rest => do
      match ← peek with
      | none => failHere .endInValue
      | some actual =>
          if actual = expected then
            skip
            letters rest
          else failNext .wordExpected

/-- Opens one more array or object. -/
def nested {α : Type} (body : Scan α) : Scan α := do
  let budget ← read
  if budget ≤ 1 then failNext .tooDeep
  else withReader (fun _ => budget - 1) body

/-- An error without a place gets the place where the scan stopped. -/
def placed {α : Type} (body : Scan α) : Scan α :=
  tryCatch body fun error => do throw (error.at (← get).place)

/-- The second scan runs also if the first one fails; the error of the first counts more. -/
def thenAlways {α : Type} (body : Scan α) (after : Scan Unit) : Scan α := do
  let outcome ← (tryCatch (do return Except.ok (← body)) fun error => return Except.error error
    : Scan (Except Error α))
  match outcome with
  | .ok value =>
      after
      return value
  | .error error =>
      tryCatch after fun _ => pure ()
      throw error

/-- Nothing but blanks may follow. -/
def finish : Scan Unit := do
  if (← peekToken).isSome then failNext .trailingCharacters

/-- The number of arrays and objects that one may find inside each other, and one more. -/
def budget : Nat := 128

def run {α : Type} (scan : Scan α) (text : String) : Except Error α :=
  ((do
    let value ← scan
    finish
    return value : Scan α) budget (Cursor.start text)).1

end Scan

end DashboardFilters.Json
