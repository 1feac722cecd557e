-- SUMMARY: Lowering a routine of basic blocks to a body of instructions.
import ControlDependence.Graph.Body
import ControlDependence.Lowering.Routine

/-!
# Lowering

Instructions are numbered along the layout of the blocks. Within a block each leads to
the next, and the last leads to the first of each successor, once. A successor that is not
a block of the routine is left out.
-/
namespace ControlDependence.Lowering

inductive LoweringError where
  /-- There is no routine. -/
  | noRoutine
  /-- A routine has no blocks. -/
  | noBody (routine : String)
  | emptyBlock (routine : String) (index : Nat)
  | body (routine : String) (cause : BodyError)
  deriving Repr, DecidableEq

namespace LoweringError

def message : LoweringError → String
  | .noRoutine => "ssaview: nil function: function has no body"
  | .noBody r => s!"ssaview: {r}: function has no body"
  | .emptyBlock r i => s!"ssaview: {r} block {i}: basic block has no instructions"
  | .body r e => s!"ssaview: {r}: {e.message}"

end LoweringError

/-- The index of each block's first instruction, the first being at `start`. -/
def starts (start : Nat) : List Block → List Nat
  | [] => []
  | b :: bs => start :: starts (start + b.statements.length) bs

/-- Where a block starts in a layout: at its last place there. -/
def startOf? (layout : List Block) (index : Nat) : Option Nat :=
  ((layout.zip (starts 0 layout)).reverse.find? (·.1.index = index)).map (·.2)

/-- The edges inside a block of `length` instructions that starts at `start`. -/
def chainEdges (start length : Nat) : List (Int × Int) :=
  (List.range (length - 1)).map fun k => (((start + k : Nat) : Int), ((start + k + 1 : Nat) : Int))

/-- The first instructions of a block's successors, each once. -/
def targets (layout : List Block) (b : Block) : List Nat :=
  (b.succs.filterMap (startOf? layout)).eraseDups

/-- The edges that leave the instructions of a block. -/
def blockEdges (layout : List Block) (b : Block) : List (Int × Int) :=
  match startOf? layout b.index with
  | none => []
  | some start =>
    chainEdges start b.statements.length ++
      (targets layout b).map fun (t : Nat) =>
        (((start + b.statements.length - 1 : Nat) : Int), (t : Int))

/-- A routine with the body of its instructions. -/
structure Lowered where
  name : String
  layout : List Block
  body : Body

namespace Lowered

/-- The instructions in the order of their indices. -/
def statements (l : Lowered) : List Statement := l.layout.flatMap (·.statements)

/-- The blocks of the instructions and their places in them, in the order of their indices. -/
def origins (l : Lowered) : List (Nat × Nat) :=
  l.layout.flatMap fun b => (List.range b.statements.length).map (b.index, ·)

/-- The index of an instruction given by its block and its place there. -/
def indexOf? (l : Lowered) (block place : Nat) : Option Nat :=
  lastIdx? (· == (block, place)) l.origins

def label (l : Lowered) (i : Int) : String := l.body.label i

/-- Where an instruction stands in its source file. -/
def position (l : Lowered) : Int → Position
  | .ofNat i => (l.statements[i]?.map (·.position)).getD .unknown
  | .negSucc _ => .unknown

end Lowered

/-- Lowers a possible routine. -/
def lower : Option Routine → Except LoweringError Lowered
  | none => .error .noRoutine
  | some r =>
    let layout := r.layout
    if layout.isEmpty then .error (.noBody r.name)
    else
      match layout.find? (·.statements.isEmpty) with
      | some b => .error (.emptyBlock r.name b.index)
      | none =>
        let labels := layout.flatMap fun b => b.statements.map (·.label)
        match Body.ofEdges labels (layout.flatMap (blockEdges layout)) with
        | .error e => .error (.body r.name e)
        | .ok body => .ok { name := r.name, layout, body := body.freeze }

end ControlDependence.Lowering
