import DashboardFilters.Calendar.Date
import DashboardFilters.Json.Strings
import DashboardFilters.Toml.Basic

namespace DashboardFilters.Toml

/-- A reader of the front of a text. -/
abbrev Read := StateT (List Char) Option

namespace Read

open Decimal (isDigit)

def peek : Read (Option Char) :=
  return (← get).head?

def one (test : Char → Bool) : Read Char := fun
  | character :: rest => if test character then some (character, rest) else none
  | [] => none

def literal (expected : List Char) : Read Unit :=
  fun text => (Text.dropLeading? expected text).map fun rest => ((), rest)

/-- All characters in front that satisfy the test, possibly none. -/
def many (test : Char → Bool) : Read (List Char) :=
  fun text => some (text.span test)

/-- Spaces and tabs, possibly none. -/
def blanks : Read Unit := do
  let _ ← many fun character => character == ' ' || character == '\t'

def newline : Read Unit := do
  if (← peek) == some '\r' then literal ['\r']
  literal ['\n']

/-- Every character but the controls; a tab is none of them. -/
def isVisible (character : Char) : Bool :=
  character == '\t' || (0x20 ≤ character.toNat && character.toNat ≠ 0x7F)

def comment : Read Unit := do
  literal ['#']
  let _ ← many isVisible

/-- What may stand behind the last word of a line, and the end of the line. -/
def lineEnd : Read Unit := do
  blanks
  if (← peek) == some '#' then comment
  if !(← get).isEmpty then newline

/-- Blanks, line ends and comments between the items of an array; each costs a character. -/
def spaceWithin : Nat → Read Unit
  | 0 => failure
  | fuel + 1 => do
      blanks
      match ← peek with
      | some '#' =>
          comment
          spaceWithin fuel
      | some '\n' | some '\r' =>
          newline
          spaceWithin fuel
      | _ => return ()

/-- Blanks, line ends and comments, possibly none. -/
def space : Read Unit := do
  spaceWithin ((← get).length + 1)

/-- Hexadecimal digits, exactly as many as asked for, that are the number of a character. -/
def charByNumber (count : Nat) : Read Char := do
  let digits := (← get).take count
  modify (·.drop count)
  match Json.Scan.ofHex? digits with
  | some number =>
      if digits.length = count && number.isValidChar then return Char.ofNat number
      else failure
  | none => failure

/-- What follows a backslash. -/
def escape : Read Char := do
  match ← one fun _ => true with
  | 'b' => return '\x08'
  | 't' => return '\t'
  | 'n' => return '\n'
  | 'f' => return '\x0c'
  | 'r' => return '\r'
  | '"' => return '"'
  | '\\' => return '\\'
  | 'u' => charByNumber 4
  | 'U' => charByNumber 8
  | _ => failure

def lineStringWithin (quote : Char) (escapes : Bool) : Nat → Read (List Char)
  | 0 => failure
  | fuel + 1 => do
      let character ← one isVisible
      if character = quote then return []
      else if character = '\\' && escapes then
        let meant ← escape
        return meant :: (← lineStringWithin quote escapes fuel)
      else return character :: (← lineStringWithin quote escapes fuel)

/-- Blanks and line ends behind a backslash at the end of a line. -/
def skipLinesWithin : Nat → Read Unit
  | 0 => failure
  | fuel + 1 => do
      blanks
      match ← peek with
      | some '\n' | some '\r' =>
          (do
            newline
            skipLinesWithin fuel) <|> return ()
      | _ => return ()

/-- A backslash at the end of a line, from behind the backslash. -/
def continuation : Read Unit := do
  blanks
  newline
  skipLinesWithin ((← get).length + 1)

/-- A string over several lines, up to its closing quotes. Up to two quotes belong to the string,
also right before the three that close it. -/
def longStringWithin (quote : Char) (escapes : Bool) : Nat → Read (List Char)
  | 0 => failure
  | fuel + 1 => do
      match ← peek with
      | none => failure
      | some '\r' | some '\n' =>
          newline
          return '\n' :: (← longStringWithin quote escapes fuel)
      | some character =>
          if character = quote then
            let quotes ← many (· == quote)
            if quotes.length < 3 then
              return quotes ++ (← longStringWithin quote escapes fuel)
            else if quotes.length < 6 then return quotes.drop 3
            else failure
          else if character = '\\' && escapes then
            let _ ← one fun _ => true
            (do
              continuation
              longStringWithin quote escapes fuel) <|> (do
              let meant ← escape
              return meant :: (← longStringWithin quote escapes fuel))
          else
            let character ← one isVisible
            return character :: (← longStringWithin quote escapes fuel)

def lineString (quote : Char) : Read String := do
  literal [quote]
  return String.ofList (← lineStringWithin quote (quote == '"') ((← get).length + 1))

/-- A string of either form; a line end right behind three opening quotes does not count. -/
def string (quote : Char) : Read String := do
  if (← get).take 3 = [quote, quote, quote] then
    modify (·.drop 3)
    newline <|> return ()
    return String.ofList (← longStringWithin quote (quote == '"') ((← get).length + 1))
  else lineString quote

/-- Digits with single underscores between them. -/
def underscoredWithin (test : Char → Bool) : Nat → Read (List Char)
  | 0 => return []
  | fuel + 1 => do
      let digits ← many test
      if digits.isEmpty then failure
      if (← peek) == some '_' then
        literal ['_']
        return digits ++ (← underscoredWithin test fuel)
      else return digits

/-- At least one digit, with single underscores between digits. -/
def underscored (test : Char → Bool) : Read (List Char) := do
  underscoredWithin test ((← get).length + 1)

/-- A sign, if there is one: whether it is a minus. -/
def sign : Read Bool := do
  match ← peek with
  | some '-' =>
      literal ['-']
      return true
  | some '+' =>
      literal ['+']
      return false
  | _ => return false

/-- Decimal digits without a leading zero. -/
def decimalDigits : Read (List Char) := do
  let digits ← underscored isDigit
  if digits.length > 1 && digits.head? == some '0' then failure
  return digits

/-- A whole number of 64 bits. -/
def fits (number : Int) : Read Value :=
  if -9223372036854775808 ≤ number && number ≤ 9223372036854775807 then return .integer number
  else failure

/-- Digits of a base that is a power of two, behind its mark. -/
def basedInteger (mark : List Char) (base : Nat) : Read Value := do
  literal mark
  let digits ← underscored fun character =>
    (Json.Scan.hexValue? character).any (· < base)
  let number := digits.foldl (fun number digit =>
    base * number + ((Json.Scan.hexValue? digit).getD 0)) 0
  fits number

/-- A whole number in decimal digits. -/
def decimalInteger : Read Value := do
  let negative ← sign
  fits (Decimal.signed negative (Decimal.ofDigits (← decimalDigits)))

def integer : Read Value :=
  basedInteger ['0', 'x'] 16 <|> basedInteger ['0', 'o'] 8 <|> basedInteger ['0', 'b'] 2 <|>
    decimalInteger

/-- The exponent of a number, if there is one. -/
def exponent? : Read (Option Int) := do
  match ← peek with
  | some 'e' | some 'E' =>
      let _ ← one fun _ => true
      let negative ← sign
      return some (Decimal.signed negative (Decimal.ofDigits (← underscored isDigit)))
  | _ => return none

/-- A number with a fraction or an exponent; it must not be too large. -/
def fractional : Read Value := do
  let negative ← sign
  let whole ← decimalDigits
  let fraction ← (do
    if (← peek) == some '.' then
      literal ['.']
      return some (← underscored isDigit)
    else return none : Read (Option (List Char)))
  let exponent ← exponent?
  if fraction.isNone && exponent.isNone then failure
  let digits := fraction.getD []
  let number := Decimal.nearest negative (Decimal.ofDigits (whole ++ digits))
    (exponent.getD 0 - digits.length)
  if number == 1 / 0 then failure
  return .float number

/-- The words for infinity and for no number, with an optional sign. -/
def wordNumber : Read Value := do
  let negative ← sign
  let magnitude ← ((do
    literal "inf".toList
    return 1 / 0) <|> (do
    literal "nan".toList
    return 0 / 0) : Read Float)
  return .float (if negative then -magnitude else magnitude)

def digitsExactly (count : Nat) : Read Nat := do
  let digits := (← get).take count
  modify (·.drop count)
  if digits.length = count && digits.all isDigit then return Decimal.ofDigits digits else failure

def twoDigits (low high : Nat) : Read Unit := do
  let number ← digitsExactly 2
  if number < low || high < number then failure

/-- Year, month and a day of that month. -/
def fullDate : Read Unit := do
  let year ← digitsExactly 4
  literal ['-']
  let month ← digitsExactly 2
  if month < 1 || 12 < month then failure
  literal ['-']
  twoDigits 1 (Calendar.daysOfMonth year month)

/-- Hours, minutes and seconds, with or without a fraction. -/
def partialTime : Read Unit := do
  twoDigits 0 23
  literal [':']
  twoDigits 0 59
  literal [':']
  twoDigits 0 60
  if (← peek) == some '.' then
    literal ['.']
    if (← many isDigit).isEmpty then failure

/-- A distance from UTC: a letter, or sign, hours and minutes. -/
def timeOffset : Read Unit := do
  match ← one fun _ => true with
  | 'Z' | 'z' => return ()
  | '+' | '-' =>
      twoDigits 0 23
      literal [':']
      twoDigits 0 59
  | _ => failure

/-- The text that a reader takes. -/
def taken (read : Read Unit) : Read String := do
  let before ← get
  read
  let after ← get
  return String.ofList (before.take (before.length - after.length))

/-- A date, a time, or both with or without an offset. -/
def datetime : Read Value := do
  let text ← taken ((do
    fullDate
    (do
      let _ ← one fun character => character == 'T' || character == 't' || character == ' '
      partialTime
      timeOffset <|> return ()) <|> return ()) <|> partialTime)
  return .datetime text

end Read

end DashboardFilters.Toml
