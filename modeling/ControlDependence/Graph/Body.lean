-- SUMMARY: Labelled instruction bodies built edge by edge, and the code a method may carry.
import ControlDependence.Graph.Contract

/-!
# Code bodies

A body grows by appending instructions and adding edges until it is frozen. An edge is
kept three times: in a set, which tells whether it is there already, and in the
adjacency lists of its ends, which keep the order in which edges were added. A change
is made in place, one write after the other, so it leaves a body behind even where it
is refused.

A method's code is either such a body or a hand-wired graph. Only the former has
labels.
-/
namespace ControlDependence

structure Instruction where
  label : String
  succs : List Nat
  preds : List Nat
  deriving Repr, DecidableEq

structure Body where
  instructions : Array Instruction
  edges : EdgeSet
  frozen : Bool
  deriving Repr

/-- Why a body refuses a change. -/
inductive BodyError where
  | frozen
  | noSource (index : Int)
  | noTarget (index : Int)
  | duplicateEdge (source target : Nat)
  deriving Repr, DecidableEq

def BodyError.message : BodyError → String
  | .frozen => "code body is frozen and cannot be modified"
  | .noSource i => s!"instruction not found: source {i}"
  | .noTarget i => s!"instruction not found: target {i}"
  | .duplicateEdge u v => s!"duplicate edge: {u} -> {v}"

namespace Body

/-- A change of a body that may be refused. -/
abbrev Change := EStateM BodyError Body

def empty : Body := { instructions := #[], edges := ∅, frozen := false }

/-- An empty body with room for so many instructions; no room is made for a negative number. -/
def withCapacity (capacity : Int) : Body :=
  { empty with instructions := Array.emptyWithCapacity capacity.toNat }

def size (b : Body) : Nat := b.instructions.size

def edgeCount (b : Body) : Nat := b.edges.size

/-- The position an index names, if the body holds an instruction there. -/
def position? (b : Body) (index : Int) : Option Nat :=
  if 0 ≤ index ∧ index < b.size then some index.toNat else none

def instruction? (b : Body) (index : Int) : Option Instruction :=
  (b.position? index).bind (b.instructions[·]?)

/-- The label at an index, empty where there is no instruction. -/
def label (b : Body) (index : Int) : String :=
  match b.instruction? index with
  | some i => i.label
  | none => ""

/-- Appends an instruction and gives its index, the number of instructions before it. -/
def addInstruction (label : String) : Change Nat := do
  let b ← get
  if b.frozen then throw .frozen
  set { b with instructions := b.instructions.push { label, succs := [], preds := [] } }
  return b.size

def appendSucc (b : Body) (u v : Nat) : Body :=
  { b with instructions := b.instructions.modify u fun n => { n with succs := n.succs ++ [v] } }

def appendPred (b : Body) (v u : Nat) : Body :=
  { b with instructions := b.instructions.modify v fun n => { n with preds := n.preds ++ [u] } }

/-- Adds an edge to the set, to the successors of its source and to the predecessors of its
target. -/
def addEdge (source target : Int) : Change Unit := do
  let b ← get
  if b.frozen then throw .frozen
  let some u := b.position? source | throw (.noSource source)
  let some v := b.position? target | throw (.noTarget target)
  if (u, v) ∈ b.edges then throw (.duplicateEdge u v)
  modify fun b => { b with edges := b.edges.insert (u, v) }
  modify fun b => b.appendSucc u v
  modify fun b => b.appendPred v u

/-- Makes the body read-only. -/
def freeze (b : Body) : Body := { b with frozen := true }

/-- A change asked of a body. -/
inductive Edit where
  | addInstruction (label : String)
  | addEdge (source target : Int)
  | freeze
  deriving Repr, DecidableEq

def apply : Edit → Change Unit
  | .addInstruction l => do let _ ← addInstruction l
  | .addEdge u v => addEdge u v
  | .freeze => modify freeze

/-- The body that an edit leaves behind, taken or refused. -/
def after (b : Body) (e : Edit) : Body :=
  match (apply e).run b with
  | .ok _ b' => b'
  | .error _ b' => b'

/-- The body that edits leave behind one after the other. -/
def afterAll (b : Body) (es : List Edit) : Body := es.foldl after b

/-- The body after an edit that is not refused. -/
def edit (b : Body) (e : Edit) : Except BodyError Body :=
  match (apply e).run b with
  | .ok _ b' => .ok b'
  | .error f _ => .error f

/-- A body from labels and edges; the first refused edge fails the whole. -/
def ofEdges (labels : List String) (edges : List (Int × Int)) : Except BodyError Body :=
  (labels.map Edit.addInstruction ++ edges.map fun e => Edit.addEdge e.1 e.2).foldlM edit empty

def flow (b : Body) : Flow where
  links := b.instructions.map fun n => { succs := n.succs, preds := n.preds }

/-- The body as a wiring of its own instructions. -/
def wiring (b : Body) : Wiring where
  nodes := b.instructions.mapIdx fun i n =>
    some { index := i, succs := n.succs.map .own, preds := n.preds.map .own }

end Body

/-- How an instruction of a body is written: its index, then its label if it has one. -/
def Instruction.render (n : Instruction) (index : Nat) : String :=
  if n.label.isEmpty then toString index else s!"{index}:{n.label}"

/-- The code of a method. -/
inductive Code where
  | built (body : Body)
  | wired (wiring : Wiring)
  deriving Repr

namespace Code

def wiring : Code → Wiring
  | .built b => b.wiring
  | .wired w => w

def flow : Code → Flow
  | .built b => b.flow
  | .wired w => w.flow

def size (c : Code) : Nat := c.flow.size

/-- The label at an index, empty for hand-wired code. -/
def label : Code → Int → String
  | .built b, i => b.label i
  | .wired _, _ => ""

def check (c : Code) : Except Fault Unit := c.wiring.check

def isReadable (c : Code) : Bool := c.wiring.isReadable

end Code

end ControlDependence
