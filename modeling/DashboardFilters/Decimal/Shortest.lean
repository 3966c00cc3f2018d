/-!
The shortest decimal of a binary floating point number: among the decimals that lie in the interval
of reals rounding to the number, one with the fewest digits, and of those the nearest.
-/

namespace DashboardFilters.Decimal

/-- The value `significand * 2 ^ exponent`. -/
structure Binary where
  significand : Nat
  exponent : Int
  deriving DecidableEq, Repr

/-- What a double stands for. -/
inductive Reading where
  | finite (negative : Bool) (magnitude : Binary)
  | infinite (negative : Bool)
  | notNumber
  deriving DecidableEq, Repr

/-- The leading bit of a normal significand, the fifty-third, is not stored. -/
def implicitBit : Nat := 4503599627370496

/-- The sign, exponent and fraction fields of a double, taken apart. -/
def Reading.ofFloat (number : Float) : Reading :=
  let bits : Nat := number.toBits.toNat
  let negative : Bool := bits / (2048 * implicitBit) == 1
  let field : Nat := bits / implicitBit % 2048
  let fraction : Nat := bits % implicitBit
  if field = 2047 then
    if fraction = 0 then .infinite negative else .notNumber
  else if field = 0 then .finite negative ⟨fraction, -1074⟩
  else .finite negative ⟨implicitBit + fraction, (field : Int) - 1075⟩

/-- Significant digits, the first one standing at the place of `10 ^ exponent`. -/
structure Digits where
  digits : List Char
  exponent : Int
  deriving DecidableEq, Repr

/-- Which of two equally near decimals is taken. -/
inductive Tie where
  | toEven
  | up
  deriving DecidableEq, Repr

/-- The digits of `count * 10 ^ place`, without zeros at the end. -/
def Digits.ofCount (count : Nat) (place : Int) : Digits :=
  let written := Nat.toDigits 10 count
  let kept := (written.reverse.dropWhile (· == '0')).reverse
  ⟨if kept.isEmpty then ['0'] else kept, place + written.length - 1⟩

def decimalLength (number : Nat) : Nat :=
  (Nat.toDigits 10 number).length

/-- The place of the first digit of `numerator / denominator`. -/
def leadingPlace (numerator denominator : Nat) : Int :=
  if denominator ≤ numerator then
    (decimalLength (numerator / denominator) : Int) - 1
  else
    -(decimalLength ((denominator - 1) / numerator) : Int)

/-- The value and the ends of the interval that rounds to it, in quarters of its last bit. -/
structure Neighbourhood where
  low : Nat
  middle : Nat
  high : Nat
  closed : Bool
  exponent : Int
  deriving DecidableEq, Repr

/-- Below a power of two the doubles lie twice as close as above it. -/
def Binary.neighbourhood (value : Binary) : Neighbourhood :=
  let middle := 4 * value.significand
  let narrow := value.significand == implicitBit && value.exponent != -1074
  { low := if narrow then middle - 1 else middle - 2
    middle
    high := middle + 2
    closed := value.significand % 2 == 0
    exponent := value.exponent - 2 }

/-- The decimal on the grid of step `10 ^ place` that reads back as the number, if there is one. -/
def Neighbourhood.onGrid? (interval : Neighbourhood) (tie : Tie) (place : Int) : Option Nat :=
  let step := Nat.pow 10 place.toNat * Nat.pow 2 (-interval.exponent).toNat
  let quarter := Nat.pow 2 interval.exponent.toNat * Nat.pow 10 (-place).toNat
  let inside (count : Nat) : Bool :=
    let point := count * step
    if interval.closed then
      interval.low * quarter ≤ point && point ≤ interval.high * quarter
    else
      interval.low * quarter < point && point < interval.high * quarter
  let middle := interval.middle * quarter
  let below := middle / step
  let above := below + 1
  match inside below, inside above with
  | false, false => none
  | true, false => some below
  | false, true => some above
  | true, true =>
      let down := middle - below * step
      let rise := above * step - middle
      if down < rise then some below
      else if rise < down then some above
      else match tie with
        | .toEven => some (if below % 2 = 0 then below else above)
        | .up => some above

/-- Seventeen digits always suffice, so the search ends there. -/
def Binary.shortest (tie : Tie) (value : Binary) : Digits :=
  if value.significand = 0 then ⟨['0'], 0⟩
  else
    let leading := leadingPlace (value.significand * Nat.pow 2 value.exponent.toNat)
      (Nat.pow 2 (-value.exponent).toNat)
    let found := (List.range 17).findSome? fun (extra : Nat) =>
      let place := leading - extra
      (value.neighbourhood.onGrid? tie place).map fun count => Digits.ofCount count place
    found.getD ⟨['0'], 0⟩

end DashboardFilters.Decimal
