-- SUMMARY: The contract of instruction graphs and the check that finds its first violation.
import ControlDependence.Graph.EdgeSet
import ControlDependence.Graph.Wiring

/-!
# The graph contract

A wiring is well formed when every position holds an instruction that carries its
position as index, every neighbour is the wiring's own instruction at the index it
carries, no adjacency list names an instruction twice, and successor and
predecessor lists are reciprocal. `Wiring.check` reports the first violation: the
successor lists are scanned first, then the predecessor lists, and last the
successor edges that no predecessor list mentions, in lexicographic order.

A scan stamps each position it meets with the instruction whose list it is in, so
that a position met twice in one list shows. The first scan notes down its edges, and
the second crosses off those that it meets again; what it leaves may be gone through
in any order.
-/
namespace ControlDependence

/-- The two adjacency lists of an instruction. -/
inductive Role where
  | successor
  | predecessor
  deriving Repr, DecidableEq

def Role.name : Role → String
  | .successor => "successor"
  | .predecessor => "predecessor"

/-- The ways in which a wiring can break the contract. -/
inductive Violation where
  | missingInstruction
  | misplacedIndex
  | absentNeighbour (role : Role)
  | danglingNeighbour (role : Role)
  | foreignNeighbour (role : Role)
  | duplicateNeighbour (role : Role)
  /-- The neighbour named in the list of this role does not name the instruction back. -/
  | unreciprocated (role : Role)
  deriving Repr, DecidableEq

def Violation.reason : Violation → String
  | .missingInstruction => "missing instruction"
  | .misplacedIndex => "index does not match position"
  | .absentNeighbour r => "nil " ++ r.name
  | .danglingNeighbour r => "dangling " ++ r.name
  | .foreignNeighbour r => r.name ++ " is not part of the body"
  | .duplicateNeighbour r => "duplicate " ++ r.name
  | .unreciprocated .successor => "successor does not list instruction as predecessor"
  | .unreciprocated .predecessor => "predecessor does not list instruction as successor"

/-- A violation with the instruction it was found at and the index of the
neighbour involved, `-1` when there is none. -/
structure Fault where
  instruction : Nat
  neighbour : Int
  violation : Violation
  deriving Repr, DecidableEq

/-- What a check has noted down. -/
structure Ledger where
  /-- By position, the instruction in whose list it was met last, counted from 1. -/
  stamps : Array Nat
  /-- The edges of the successor lists that no predecessor list has answered yet. -/
  unanswered : EdgeSet

namespace Ledger

def empty (size : Nat) : Ledger := { stamps := Array.replicate size 0, unanswered := ∅ }

/-- Whether the position was met before in the list of the instruction `owner`. -/
def isStamped (l : Ledger) (owner j : Nat) : Bool := l.stamps.getD j 0 = owner + 1

def stamp (l : Ledger) (owner j : Nat) : Ledger := { l with stamps := l.stamps.setIfInBounds j (owner + 1) }

/-- Takes all stamps away, so that the other lists can be gone through. -/
def clear (l : Ledger) : Ledger := { l with stamps := l.stamps.map fun _ => 0 }

def note (l : Ledger) (e : Nat × Nat) : Ledger := { l with unanswered := l.unanswered.insert e }

def crossOff (l : Ledger) (e : Nat × Nat) : Ledger := { l with unanswered := l.unanswered.erase e }

end Ledger

/-- The one of two edges that comes first in lexicographic order. -/
def firstOf (first e : Nat × Nat) : Nat × Nat :=
  if e.1 < first.1 ∨ e.1 = first.1 ∧ e.2 < first.2 then e else first

/-- The first of some edges between so many positions. -/
def leastEdge (size : Nat) (edges : List (Nat × Nat)) : Nat × Nat := edges.foldl firstOf (size, size)

namespace Wiring

/-- The position of a neighbour that is the wiring's own instruction at its index. -/
def resolve (w : Wiring) (owner : Nat) (role : Role) (n : Neighbour) : Except Fault Nat :=
  match w.indexOf n with
  | none => .error ⟨owner, -1, .absentNeighbour role⟩
  | some j =>
    if j < 0 ∨ (w.size : Int) ≤ j then .error ⟨owner, j, .danglingNeighbour role⟩
    else if w.isAt j.toNat n then .ok j.toNat
    else .error ⟨owner, j, .foreignNeighbour role⟩

/-- Notes down the next successor of the instruction at `i`. -/
def noteSucc (w : Wiring) (i : Nat) (l : Ledger) (n : Neighbour) : Except Fault Ledger := do
  let j ← w.resolve i .successor n
  if l.isStamped i j then throw ⟨i, j, .duplicateNeighbour .successor⟩
  return (l.stamp i j).note (i, j)

/-- Crosses off the edge that the next predecessor of the instruction at `j` answers. -/
def crossOffPred (w : Wiring) (j : Nat) (l : Ledger) (n : Neighbour) : Except Fault Ledger := do
  let i ← w.resolve j .predecessor n
  if l.isStamped j i then throw ⟨j, i, .duplicateNeighbour .predecessor⟩
  if (i, j) ∉ l.unanswered then throw ⟨j, i, .unreciprocated .predecessor⟩
  return (l.stamp j i).crossOff (i, j)

/-- Notes down the successors of the instruction at `i`. -/
def noteSuccs (w : Wiring) (l : Ledger) (i : Nat) : Except Fault Ledger :=
  match w.node? i with
  | none => .error ⟨i, -1, .missingInstruction⟩
  | some n => if n.index ≠ i then .error ⟨i, -1, .misplacedIndex⟩ else n.succs.foldlM (w.noteSucc i) l

/-- Crosses off what the predecessors of the instruction at `j` answer. -/
def crossOffPreds (w : Wiring) (l : Ledger) (j : Nat) : Except Fault Ledger :=
  match w.node? j with
  | none => .error ⟨j, -1, .missingInstruction⟩
  | some n => n.preds.foldlM (w.crossOffPred j) l

/-- The first violation of the graph contract, if any, with the unanswered edges gone through
in some order. -/
def checkIn (order : Traversal) (w : Wiring) : Except Fault Unit := do
  let l ← (List.range w.size).foldlM w.noteSuccs (.empty w.size)
  let l ← (List.range w.size).foldlM w.crossOffPreds l.clear
  if l.unanswered.isEmpty then return ()
  let first := leastEdge w.size (order.list l.unanswered)
  throw ⟨first.1, first.2, .unreciprocated .successor⟩

/-- The first violation of the graph contract, if any. -/
def check (w : Wiring) : Except Fault Unit := w.checkIn .ascending

end Wiring

end ControlDependence
