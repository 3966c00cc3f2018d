import DashboardFilters.Json.Scan

namespace DashboardFilters.Json.Scan

open Reading (SyntaxFault)

/-- The value of a hexadecimal digit of either case. -/
def hexValue? (digit : Char) : Option Nat :=
  if '0' ≤ digit && digit ≤ '9' then some (digit.toNat - '0'.toNat)
  else if 'a' ≤ digit && digit ≤ 'f' then some (digit.toNat - 'a'.toNat + 10)
  else if 'A' ≤ digit && digit ≤ 'F' then some (digit.toNat - 'A'.toNat + 10)
  else none

def ofHex? (digits : List Char) : Option Nat :=
  digits.foldlM (fun number digit => (hexValue? digit).map (16 * number + ·)) 0

/-- Leaves nothing of the text and fails. -/
def failAtEnd {α : Type} : Scan α := do
  modify Cursor.finish
  failHere .endInString

/-- Four hexadecimal digits; a wrong one is only noticed after all four bytes. -/
def hexUnit : Scan Nat := do
  let cursor ← get
  let size := cursor.rest.foldl (fun size character => size + character.utf8Size) 0
  if size < 4 then failAtEnd
  else
    let digits := cursor.rest.take 4
    match ofHex? digits with
    | some unit =>
        skip; skip; skip; skip
        return unit
    | none => failAt .invalidEscape (cursor.placeAfter 4)

/-- One given character, where the second half of a surrogate pair has to begin. -/
def pairPart (expected : Char) : Scan Unit := do
  match ← peek with
  | none => failAtEnd
  | some actual => if actual = expected then skip else failNext .endInHexEscape

/-- The character of an escape by number: one unit, or two that form a surrogate pair. -/
def unicodeEscape : Scan Char := do
  let first ← hexUnit
  if 0xDC00 ≤ first && first ≤ 0xDFFF then failHere .loneSurrogate
  else if 0xD800 ≤ first && first ≤ 0xDBFF then
    pairPart '\\'
    pairPart 'u'
    let second ← hexUnit
    if second < 0xDC00 || 0xDFFF < second then failHere .loneSurrogate
    else return Char.ofNat (0x10000 + (first - 0xD800) * 0x400 + (second - 0xDC00))
  else return Char.ofNat first

/-- The character that one letter behind a backslash stands for. -/
def shortEscape? : Char → Option Char
  | '"' => some '"'
  | '\\' => some '\\'
  | '/' => some '/'
  | 'b' => some '\x08'
  | 'f' => some '\x0c'
  | 'n' => some '\n'
  | 'r' => some '\r'
  | 't' => some '\t'
  | _ => none

/-- What follows a backslash. -/
def escape : Scan Char := do
  match ← peek with
  | none => failAtEnd
  | some 'u' =>
      skip
      unicodeEscape
  | some letter =>
      match shortEscape? letter with
      | some character =>
          skip
          return character
      | none => failNext .invalidEscape

/-- The characters up to the closing quote; there are at most as many as the text has left. -/
def stringWithin : Nat → Scan (List Char)
  | 0 => failAtEnd
  | fuel + 1 => do
      match ← peek with
      | none => failAtEnd
      | some '"' =>
          skip
          return []
      | some '\\' =>
          skip
          let character ← escape
          return character :: (← stringWithin fuel)
      | some character =>
          if character.toNat < 0x20 then failNext .controlCharacter
          else
            skip
            return character :: (← stringWithin fuel)

/-- A string, from behind its opening quote. -/
def string : Scan String := do
  return String.ofList (← stringWithin ((← get).rest.length + 1))

/-- An escape that nobody asks for. -/
def skipEscape : Scan Unit := do
  match ← peek with
  | none => failAtEnd
  | some 'u' =>
      skip
      let _ ← hexUnit
  | some letter => if (shortEscape? letter).isSome then skip else failNext .invalidEscape

/-- The characters up to the closing quote, none of them kept. -/
def skipStringWithin : Nat → Scan Unit
  | 0 => failAtEnd
  | fuel + 1 => do
      match ← peek with
      | none => failAtEnd
      | some '"' => skip
      | some '\\' =>
          skip
          skipEscape
          skipStringWithin fuel
      | some character =>
          if character.toNat < 0x20 then failHere .controlCharacter
          else
            skip
            skipStringWithin fuel

/-- A string that nobody asks for. -/
def skipString : Scan Unit := do
  skipStringWithin ((← get).rest.length + 1)

end DashboardFilters.Json.Scan
