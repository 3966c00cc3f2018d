import DashboardFilters.Text.Pieces

namespace DashboardFilters.Decimal

/-- The ten digits of ASCII. -/
def isDigit (character : Char) : Bool :=
  '0' ≤ character && character ≤ '9'

def digitValue (digit : Char) : Nat :=
  digit.toNat - '0'.toNat

def ofDigits (digits : List Char) : Nat :=
  digits.foldl (fun number digit => 10 * number + digitValue digit) 0

def spanDigits (text : List Char) : List Char × List Char :=
  text.span isDigit

/-- A sign in front, if there is one: whether it is a minus, and the rest. -/
def splitSign : List Char → Bool × List Char
  | '-' :: rest => (true, rest)
  | '+' :: rest => (false, rest)
  | text => (false, text)

def signed (negative : Bool) (magnitude : Nat) : Int :=
  if negative then -(magnitude : Int) else magnitude

/-- A whole number: an optional sign and at least one digit, nothing else. -/
def integer? (text : List Char) : Option Int :=
  let (negative, digits) := splitSign text
  if digits.isEmpty || !digits.all isDigit then none
  else some (signed negative (ofDigits digits))

/-- The double nearest to `count * 10 ^ exponent`; beyond 400 places every number is infinite or
zero. -/
def nearest (negative : Bool) (count : Nat) (exponent : Int) : Float :=
  let magnitude : Float :=
    if count = 0 then 0
    else
      let places := exponent + (Nat.toDigits 10 count).length
      if places > 400 then 1 / 0
      else if places < -400 then 0
      else Float.ofScientific count (exponent < 0) exponent.natAbs
  if negative then -magnitude else magnitude

/-- The exponent after `e`: absent, or a whole number. -/
def exponent? : List Char → Option Int
  | [] => some 0
  | 'e' :: rest | 'E' :: rest => integer? rest
  | _ => none

/-- Digits with an optional point among them, at least one digit in all. -/
def decimal? (text : List Char) : Option (Nat × Int) :=
  let (whole, rest) := spanDigits text
  let (fraction, rest) := match rest with
    | '.' :: after => spanDigits after
    | _ => ([], rest)
  if whole.isEmpty && fraction.isEmpty then none
  else (exponent? rest).map fun exponent =>
    (ofDigits (whole ++ fraction), exponent - fraction.length)

/-- A double as typed by a user. -/
def float? (text : List Char) : Option Float :=
  let (negative, body) := splitSign text
  let word := body.map Char.toLower
  if word = "inf".toList || word = "infinity".toList then
    some (if negative then -1 / 0 else 1 / 0)
  else if word = "nan".toList then some (0 / 0)
  else (decimal? body).map fun (count, exponent) => nearest negative count exponent

end DashboardFilters.Decimal
