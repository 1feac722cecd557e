-- SUMMARY: The fewest decimal digits that read back as the same floating-point number.

/-!
# Shortest decimals

A finite number is `m * 2^q`. The reals that round to it form an interval, with its ends
when `m` is even. Of the decimals inside that have the fewest digits, the nearest to the
number itself is taken.
-/
namespace ControlDependence.Decimal

/-- The decimal `digits * 10^scale`. -/
structure Digits where
  digits : Nat
  scale : Int
  deriving Repr, DecidableEq

/-- Takes zeros off the end of a decimal. -/
def Digits.strip : Nat → Digits → Digits
  | 0, d => d
  | fuel + 1, d =>
    if d.digits ≠ 0 && d.digits % 10 = 0 then
      Digits.strip fuel { digits := d.digits / 10, scale := d.scale + 1 }
    else d

/-- A finite, positive number and the interval that rounds to it, all as multiples of
`1 / unit`. -/
structure Interval where
  low : Nat
  value : Nat
  high : Nat
  unit : Nat
  /-- Whether the ends belong to the interval. -/
  closed : Bool

/-- The interval of `mantissa * 2^exponent`. It is narrower below where the mantissa is the
least of its binade. -/
def Interval.of (mantissa : Nat) (exponent : Int) (least : Bool) : Interval :=
  let below := if least then 1 else 2
  let scale := fun (n : Nat) => if 0 ≤ exponent then n * Nat.pow 2 exponent.toNat else n
  { low := scale (4 * mantissa - below)
    value := scale (4 * mantissa)
    high := scale (4 * mantissa + 2)
    unit := 4 * if 0 ≤ exponent then 1 else Nat.pow 2 (-exponent).toNat
    closed := mantissa % 2 = 0 }

namespace Interval

/-- Whether the decimal `d * 10^scale` lies in the interval. -/
def contains (i : Interval) (d : Nat) (scale : Int) : Bool :=
  let left := if 0 ≤ scale then d * Nat.pow 10 scale.toNat * i.unit else d * i.unit
  let grow := fun (n : Nat) => if 0 ≤ scale then n else n * Nat.pow 10 (-scale).toNat
  if i.closed then grow i.low ≤ left && left ≤ grow i.high
  else grow i.low < left && left < grow i.high

/-- The greatest `d` such that `d * 10^scale` is not above the value, and whether the one
after it is nearer. -/
def neighbour (i : Interval) (scale : Int) : Nat × Bool :=
  let num := if 0 ≤ scale then i.value else i.value * Nat.pow 10 (-scale).toNat
  let den := if 0 ≤ scale then i.unit * Nat.pow 10 scale.toNat else i.unit
  let d := num / den
  let twice := 2 * (num % den)
  (d, den < twice || (twice = den && d % 2 = 1))

/-- The nearest decimal inside the interval on the grid of a scale, if there is one. -/
def onGrid (i : Interval) (scale : Int) : Option Digits :=
  let (d, upper) := i.neighbour scale
  let low := i.contains d scale
  let high := i.contains (d + 1) scale
  if low && !(high && upper) then some { digits := d, scale }
  else if high then some { digits := d + 1, scale }
  else none

/-- The first hit on finer and finer grids. -/
def search (i : Interval) : Nat → Int → Digits
  | 0, scale => { digits := (i.neighbour scale).1, scale }
  | fuel + 1, scale =>
    match i.onGrid scale with
    | some d => d
    | none => search i fuel (scale - 1)

/-- The least `k` such that the value is below `10^k`, found from below. -/
def magnitude (i : Interval) : Nat → Int → Int
  | 0, k => k
  | fuel + 1, k =>
    let below := if 0 ≤ k then i.value < Nat.pow 10 k.toNat * i.unit else i.value * Nat.pow 10 (-k).toNat < i.unit
    if below then k else magnitude i fuel (k + 1)

def shortest (i : Interval) : Digits :=
  let k := i.magnitude 700 (-330)
  (i.search 17 (k - 1)).strip 20

end Interval

/-- What a floating-point number is. -/
inductive Form where
  | nan
  | infinite (negative : Bool)
  | finite (negative : Bool) (digits : Digits)

/-- The form of a number, with its shortest decimal. -/
def formOf (x : Float) : Form :=
  let bits := x.toBits.toNat
  let negative := Nat.pow 2 63 ≤ bits
  let exponent : Nat := bits / Nat.pow 2 52 % Nat.pow 2 11
  let fraction : Nat := bits % Nat.pow 2 52
  if exponent = 2047 then if fraction = 0 then .infinite negative else .nan
  else if exponent = 0 then
    if fraction = 0 then .finite negative { digits := 0, scale := 0 }
    else .finite negative (Interval.of fraction (-1074) false).shortest
  else
    let mantissa := Nat.pow 2 52 + fraction
    .finite negative (Interval.of mantissa ((exponent : Int) - 1075) (fraction = 0 && 1 < exponent)).shortest

end ControlDependence.Decimal
