-- SUMMARY: Writing floating-point numbers with their shortest digits, positional or with an exponent.
import ControlDependence.Decimal.Shortest

/-!
# Decimal notation
-/
namespace ControlDependence.Decimal

/-- How numbers are written. The exponent is the place of the first digit. -/
structure Style where
  /-- The least exponent that is written positionally. -/
  least : Int
  /-- The least exponent above that which is not. -/
  bound : Int
  /-- The fewest digits of an exponent with a minus sign; one with a plus sign has two. -/
  exponentDigits : Nat
  deriving Repr, DecidableEq

/-- Plain notation from 0.0001 up to a million. -/
def compact : Style where
  least := -4
  bound := 6
  exponentDigits := 2

/-- Plain notation from a millionth up to 10^21. -/
def broad : Style where
  least := -6
  bound := 21
  exponentDigits := 1

def zeros (n : Nat) : String := String.ofList (List.replicate n '0')

/-- Digits without an exponent; `point` of them stand before the point. -/
def positional (digits : List Char) (point : Int) : String :=
  if point ≤ 0 then "0." ++ zeros (-point).toNat ++ String.ofList digits
  else
    let n := point.toNat
    if digits.length ≤ n then String.ofList digits ++ zeros (n - digits.length)
    else String.ofList (digits.take n) ++ "." ++ String.ofList (digits.drop n)

/-- Digits with one of them before the point, and an exponent. -/
def scientific (style : Style) (digits : List Char) (exponent : Int) : String :=
  let mantissa :=
    match digits with
    | [] => "0"
    | [d] => d.toString
    | d :: ds => d.toString ++ "." ++ String.ofList ds
  let n := toString exponent.natAbs
  let width := if exponent < 0 then style.exponentDigits else 2
  mantissa ++ "e" ++ (if exponent < 0 then "-" else "+") ++ zeros (width - n.length) ++ n

def finite (style : Style) (d : Digits) : String :=
  if d.digits = 0 then "0"
  else
    let digits := Nat.toDigits 10 d.digits
    let exponent := d.scale + digits.length - 1
    if exponent < style.least || style.bound ≤ exponent then scientific style digits exponent
    else positional digits (exponent + 1)

/-- A number in a style. -/
def write (style : Style) (x : Float) : String :=
  match formOf x with
  | .nan => "NaN"
  | .infinite negative => if negative then "-Inf" else "+Inf"
  | .finite negative d => (if negative then "-" else "") ++ finite style d

end ControlDependence.Decimal
