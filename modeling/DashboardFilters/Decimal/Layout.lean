import DashboardFilters.Decimal.Shortest

namespace DashboardFilters.Decimal

/-- The decisions of a way to write doubles. -/
structure Layout where
  /-- The choice between two equally near shortest decimals. -/
  tie : Tie
  /-- Whether a number whose first digit has this exponent is written without an exponent. -/
  positional : Int → Bool
  /-- Whether a whole number keeps a zero after the point. -/
  keepsFraction : Bool
  notNumber : String
  infinity : String
  negativeInfinity : String

def zeros (count : Nat) : List Char :=
  List.replicate count '0'

def Digits.positional (number : Digits) (keepsFraction : Bool) : List Char :=
  if number.exponent < 0 then
    ['0', '.'] ++ zeros (-number.exponent - 1).toNat ++ number.digits
  else
    let whole := number.exponent.toNat + 1
    if number.digits.length ≤ whole then
      number.digits ++ zeros (whole - number.digits.length) ++
        if keepsFraction then ['.', '0'] else []
    else number.digits.take whole ++ '.' :: number.digits.drop whole

/-- One digit before the point, and the exponent with its sign. -/
def Digits.scientific (number : Digits) : List Char :=
  let mantissa := match number.digits with
    | first :: second :: rest => first :: '.' :: second :: rest
    | short => short
  let sign := if number.exponent < 0 then '-' else '+'
  mantissa ++ 'e' :: sign :: Nat.toDigits 10 number.exponent.natAbs

def Layout.text (layout : Layout) (number : Float) : String :=
  match Reading.ofFloat number with
  | .notNumber => layout.notNumber
  | .infinite negative => if negative then layout.negativeInfinity else layout.infinity
  | .finite negative magnitude =>
      let digits := magnitude.shortest layout.tie
      let body :=
        if layout.positional digits.exponent then digits.positional layout.keepsFraction
        else digits.scientific
      String.ofList (if negative then '-' :: body else body)

/-- People read numbers without exponents, and whole numbers without a fraction. -/
def display : Layout where
  tie := .up
  positional := fun _ => true
  keepsFraction := false
  notNumber := "NaN"
  infinity := "inf"
  negativeInfinity := "-inf"

end DashboardFilters.Decimal
