-- SUMMARY: Sets of edges, and the orders in which their members can be gone through.
import Std.Data.TreeSet.Lemmas

/-!
# Sets of edges

An edge is a pair of positions, its source and its target. A set has no order of its own:
what goes through its members does so in some traversal, and should not depend on which.
-/
namespace ControlDependence

abbrev EdgeSet := Std.TreeSet (Nat × Nat) lexOrd.compare

/-- A way to go through the edges of any set, each once. -/
structure Traversal where
  list : EdgeSet → List (Nat × Nat)
  perm : ∀ s, (list s).Perm s.toList

/-- By sources, and by targets where these are the same. -/
def Traversal.ascending : Traversal := ⟨fun s => s.toList, fun s => .refl s.toList⟩

end ControlDependence
