-- SUMMARY: Control flow of one method as successor and predecessor lists by position.

/-!
# Flow graphs

The analysis reads a method as a list of positions, each with the positions that
may execute next and those that may have executed before, both in a fixed order.
Positions outside the graph have no neighbours.
-/
namespace ControlDependence

/-- The neighbours of one instruction. -/
structure Links where
  succs : List Nat
  preds : List Nat
  deriving Repr, DecidableEq

/-- A method's control flow: the neighbours of every position. -/
structure Flow where
  links : Array Links
  deriving Repr, DecidableEq

namespace Flow

def size (g : Flow) : Nat := g.links.size

def succs (g : Flow) (i : Nat) : List Nat :=
  match g.links[i]? with
  | some l => l.succs
  | none => []

def preds (g : Flow) (i : Nat) : List Nat :=
  match g.links[i]? with
  | some l => l.preds
  | none => []

/-- An exit has nowhere to go. -/
def isExit (g : Flow) (i : Nat) : Bool := (g.succs i).isEmpty

/-- A branch has a choice to make. -/
def isBranch (g : Flow) (i : Nat) : Bool := 2 ≤ (g.succs i).length

/-- The branches of the graph, in ascending order. -/
def branches (g : Flow) : List Nat := (List.range g.size).filter g.isBranch

end Flow

end ControlDependence
