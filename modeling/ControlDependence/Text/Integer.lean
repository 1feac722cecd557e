-- SUMMARY: Integers in decimal.

/-!
# Integers in decimal
-/
namespace ControlDependence.Text

/-- A decimal integer with an optional sign that fits 64 bits. -/
def readInt? (s : String) : Option Int :=
  let (sign, ds) :=
    match s.toList with
    | '+' :: ds => (1, ds)
    | '-' :: ds => (-1, ds)
    | ds => (1, ds)
  if ds.isEmpty || !ds.all Char.isDigit then none
  else
    let n : Int := sign * (ds.foldl (fun (n : Nat) c => n * 10 + (c.toNat - '0'.toNat)) 0 : Nat)
    if -9223372036854775808 ≤ n && n ≤ 9223372036854775807 then some n else none

end ControlDependence.Text
