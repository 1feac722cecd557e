-- SUMMARY: Sets of characters given by ascending ranges of code points.

/-!
# Ranges of code points
-/
namespace ControlDependence.Text

/-- Ascending, disjoint ranges, each with its first and last member. -/
abbrev Ranges := Array (Nat × Nat)

namespace Ranges

/-- Binary search between two positions. -/
def searchBetween (r : Ranges) (n lo hi : Nat) : Bool :=
  if lo < hi then
    let mid := (lo + hi) / 2
    match r[mid]? with
    | none => false
    | some (first, last) =>
      if n < first then searchBetween r n lo mid
      else if last < n then searchBetween r n (mid + 1) hi
      else true
  else false
termination_by hi - lo

def contains (r : Ranges) (c : Char) : Bool := searchBetween r c.toNat 0 r.size

end Ranges

end ControlDependence.Text
