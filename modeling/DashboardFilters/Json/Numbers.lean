import DashboardFilters.Json.Scan

/-!
Numbers in JSON text. A whole number that fits 64 bits stays whole; every other number becomes a
double by one multiplication or division with a power of ten, so that the last bit of a long number
need not be the nearest.
-/

namespace DashboardFilters.Json

/-- The significand times a power of ten; nothing if that is no finite number. -/
def scaled? (fuel : Nat) (significand : Float) (exponent : Int) : Option Float :=
  if exponent.natAbs ≤ 308 then
    let power := Float.ofScientific 1 false exponent.natAbs
    if 0 ≤ exponent then
      let product := significand * power
      if product.isFinite then some product else none
    else some (significand / power)
  else if significand == 0 then some significand
  else if 0 ≤ exponent then none
  else match fuel with
    | 0 => some 0
    | fuel + 1 => scaled? fuel (significand / 1e308) (exponent + 308)

/-- A 64 bit significand divided four times by `1e308` is zero. -/
def double? (negative : Bool) (significand : Nat) (exponent : Int) : Option Float :=
  (scaled? 4 (UInt64.ofNat significand).toFloat exponent).map fun magnitude =>
    if negative then -magnitude else magnitude

/-- Digits read into a 64 bit number as long as it does not overflow, and the digits left over. -/
def fillWord (word : Nat) : List Char → Nat × List Char
  | [] => (word, [])
  | digit :: rest =>
      let next := 10 * word + Decimal.digitValue digit
      if UInt64.size ≤ next then (word, digit :: rest) else fillWord next rest

/-- The whole number of the text, if it fits: 64 bits without a sign, or with one. Minus zero is a
double. -/
def whole? (negative : Bool) (magnitude : Nat) : Option Json :=
  if negative then
    if magnitude = 0 || 9223372036854775808 < magnitude then none else some (.int (-(magnitude : Int)))
  else if magnitude < UInt64.size then some (.int magnitude)
  else none

namespace Scan

open Decimal (isDigit)

/-- The double of a significand and an exponent; too large ones end here. -/
def finishDouble (negative : Bool) (significand : Nat) (exponent : Int) : Scan Json :=
  match double? negative significand exponent with
  | some number => return .float number
  | none => failHere .numberOutOfRange

/-- Exponents are read as numbers of 31 bits. -/
def exponentLimit : Nat := 2147483648

/-- The digits of the exponent as far as they fit. -/
def fillExponent (exponent : Nat) : List Char → Nat × Bool
  | [] => (exponent, true)
  | digit :: rest =>
      let next := 10 * exponent + Decimal.digitValue digit
      if exponentLimit ≤ next then (exponent, false) else fillExponent next rest

/-- Skips digits up to and including the one at which the exponent no longer fits. -/
def skipToOverflow (exponent : Nat) : List Char → Scan Unit
  | [] => pure ()
  | digit :: rest => do
      skip
      let next := 10 * exponent + Decimal.digitValue digit
      if next < exponentLimit then skipToOverflow next rest

/-- The exponent, from its `e` on. A number that it makes too large is out of range where that
shows; one that it makes too small is zero. -/
def exponent (negative : Bool) (significand : Nat) (start : Int) : Scan Json := do
  skip
  let sign ← peek
  if sign == some '+' || sign == some '-' then skip
  match ← peek with
  | none => failHere .endInValue
  | some character => if !isDigit character then failNext .invalidNumber
  let digits := (← get).rest.takeWhile isDigit
  let (magnitude, fits) := fillExponent 0 digits
  if fits then
    let _ ← takeWhile isDigit
    finishDouble negative significand
      (if sign == some '-' then start - magnitude else start + magnitude)
  else if significand ≠ 0 && sign != some '-' then
    skipToOverflow 0 digits
    failHere .numberOutOfRange
  else
    let _ ← takeWhile isDigit
    return .float (if negative then -0.0 else 0.0)

/-- The exponent if one follows, and the double. -/
def exponentOrEnd (negative : Bool) (significand : Nat) (power : Int) : Scan Json := do
  match ← peek with
  | some 'e' | some 'E' => exponent negative significand power
  | _ => finishDouble negative significand power

/-- The fraction, from its point on. -/
def fraction (negative : Bool) (significand : Nat) (power : Int) : Scan Json := do
  skip
  let digits ← takeWhile isDigit
  if digits.isEmpty then
    match ← peek with
    | none => failHere .endInValue
    | some _ => failNext .invalidNumber
  else
    let (filled, left) := fillWord significand digits
    exponentOrEnd negative filled (power - (digits.length - left.length : Nat))

/-- A number, behind its minus sign if it has one. -/
def number (negative : Bool) : Scan Json := do
  match ← peek with
  | none => failHere .endInValue
  | some character => if !isDigit character then failNext .invalidNumber
  let digits ← (do
    if (← peek) == some '0' then
      skip
      if (← peek).any isDigit then failNext .invalidNumber
      return ['0']
    else takeWhile isDigit : Scan (List Char))
  let (significand, left) := fillWord 0 digits
  match ← peek with
  | some '.' => fraction negative significand left.length
  | some 'e' | some 'E' => exponent negative significand left.length
  | _ =>
      match (if left.isEmpty then whole? negative significand else none) with
      | some value => return value
      | none => finishDouble negative significand left.length

/-- The exponent of a number that nobody asks for. -/
def skipExponent : Scan Unit := do
  skip
  let sign ← peek
  if sign == some '+' || sign == some '-' then skip
  let digits ← takeWhile isDigit
  if digits.isEmpty then failNext .invalidNumber

/-- A number that nobody asks for, behind its minus sign if it has one. -/
def skipNumber : Scan Unit := do
  match ← peek with
  | some '0' =>
      skip
      if (← peek).any isDigit then failNext .invalidNumber
  | _ =>
      let digits ← takeWhile isDigit
      if digits.isEmpty then failNext .invalidNumber
  if (← peek) == some '.' then
    skip
    let digits ← takeWhile isDigit
    if digits.isEmpty then failNext .invalidNumber
  if (← peek).any fun character => character == 'e' || character == 'E' then skipExponent

end Scan

end DashboardFilters.Json
