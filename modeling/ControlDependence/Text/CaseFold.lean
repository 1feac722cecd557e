-- SUMMARY: Characters that differ only in case.
import ControlDependence.Text.LowerCase

/-!
# Case folding

Two characters differ only in case when they have the same lower case, one character for
one. Some letters have further forms besides.
-/
namespace ControlDependence.Text

/-- Lower-case letters that are another form of a letter. -/
def caseForms : List (Nat × Nat) := [
  (0xB5, 0x3BC), (0x17F, 0x73), (0x345, 0x3B9), (0x3C2, 0x3C3), (0x3D0, 0x3B2), (0x3D1, 0x3B8),
  (0x3D5, 0x3C6), (0x3D6, 0x3C0), (0x3F0, 0x3BA), (0x3F1, 0x3C1), (0x3F5, 0x3B5), (0x1E9B, 0x1E61),
  (0x1FBE, 0x3B9), (0x1C80, 0x432), (0x1C81, 0x434), (0x1C82, 0x43E), (0x1C83, 0x441), (0x1C84, 0x442),
  (0x1C85, 0x442), (0x1C86, 0x44A), (0x1C87, 0x463), (0x1C88, 0xA64B)]

/-- The dotted capital I, whose lower case is that of another letter. -/
def dottedI : Nat := 0x130

/-- The form that stands for all that differ only in case. -/
def foldCase (n : Nat) : Nat :=
  match caseForms.lookup n with
  | some m => m
  | none => if n = dottedI then n else (lowerChar (Char.ofNat n)).toNat

/-- All characters that differ from one in no more than case. -/
def caseVariants (n : Nat) : List Nat :=
  let base := foldCase n
  let capitals := caseRuns.filterMap fun r =>
    let m : Int := base - r.shift
    if 0 ≤ m && r.covers m.toNat && m.toNat != dottedI then some m.toNat else none
  n :: base :: capitals ++ (caseForms.filter fun (_, m) => m == base).map (·.1)

end ControlDependence.Text
