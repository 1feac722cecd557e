-- SUMMARY: Hand-wired instruction graphs, whose entries may be missing, misnumbered or foreign.
import ControlDependence.Graph.Flow

/-!
# Hand-wired graphs

A wiring is an instruction graph as its producer handed it over. Nothing about it
is guaranteed: a position may hold no instruction, an instruction may carry an
index other than its position, and a neighbour may be absent or belong to some
other body. `Graph.Contract` says which wirings are well formed.
-/
namespace ControlDependence

/-- What an entry of an adjacency list refers to. Two instructions are the same
only when they are the same object, so an outside instruction never stands for
the wiring's own instruction with the same index. -/
inductive Neighbour where
  /-- The entry is empty. -/
  | absent
  /-- The wiring's own instruction at a position. -/
  | own (position : Nat)
  /-- An instruction of another body, with the index it carries. -/
  | outside (index : Int)
  deriving Repr, DecidableEq

/-- An instruction with the index it claims and its adjacency lists. -/
structure Node where
  index : Int
  succs : List Neighbour
  preds : List Neighbour
  deriving Repr, DecidableEq

/-- A graph by position; `none` where the body has no instruction. -/
structure Wiring where
  nodes : Array (Option Node)
  deriving Repr, DecidableEq

namespace Wiring

def size (w : Wiring) : Nat := w.nodes.size

/-- The instruction held at a position. -/
def node? (w : Wiring) (i : Nat) : Option Node := (w.nodes[i]?).join

/-- The index a neighbour carries. An `own` entry whose position holds nothing
counts as an outside instruction of that index. -/
def indexOf (w : Wiring) : Neighbour → Option Int
  | .absent => none
  | .own p =>
    match w.node? p with
    | some n => some n.index
    | none => some p
  | .outside i => some i

/-- Whether a neighbour is the very instruction the wiring holds at position `j`. -/
def isAt (w : Wiring) (j : Nat) : Neighbour → Bool
  | .own p => p = j && (w.node? j).isSome
  | _ => false

/-- The in-range positions a list of neighbours names, in order. -/
def positions (w : Wiring) (ns : List Neighbour) : List Nat :=
  ns.filterMap fun n =>
    match w.indexOf n with
    | some (.ofNat j) => if j < w.size then some j else none
    | _ => none

/-- Whether every position holds an instruction, and every neighbour names a position. -/
def isReadable (w : Wiring) : Bool :=
  w.nodes.all (·.any fun n =>
    (w.positions n.succs).length == n.succs.length && (w.positions n.preds).length == n.preds.length)

/-- The flow graph read off the indices that the neighbours carry. Nothing is left out of it if
the wiring is readable. -/
def flow (w : Wiring) : Flow where
  links := w.nodes.map fun
    | some n => { succs := w.positions n.succs, preds := w.positions n.preds }
    | none => { succs := [], preds := [] }

end Wiring

end ControlDependence
