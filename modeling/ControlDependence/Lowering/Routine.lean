-- SUMMARY: Routines made of basic blocks, and the order in which their blocks are laid out.
import ControlDependence.Position

/-!
# Basic blocks

A routine is a list of basic blocks that name their successors by index. One index stands
for one block, so a block may be listed more than once.
-/
namespace ControlDependence.Lowering

/-- How an instruction can end a routine. -/
inductive Exit where
  | none
  | returns
  | panics
  deriving Repr, DecidableEq

/-- An instruction of a block. -/
structure Statement where
  /-- The name of its value, empty if it has none. -/
  name : String := ""
  text : String
  exit : Exit := .none
  position : Position := .unknown
  deriving Repr, DecidableEq

/-- What an instruction is called: the value that it defines, if any, and its text. -/
def Statement.label (s : Statement) : String :=
  if s.name.isEmpty then s.text else s.name ++ " = " ++ s.text

structure Block where
  index : Nat
  statements : List Statement
  succs : List Nat
  deriving Repr, DecidableEq

namespace Block

/-- How the last instruction of a block ends the routine. -/
def exit (b : Block) : Exit :=
  match b.statements.getLast? with
  | some s => s.exit
  | none => .none

end Block

structure Routine where
  name : String
  blocks : List Block
  deriving Repr, DecidableEq

/-- The last place in a list at which a test holds. -/
def lastIdx? {α : Type} (p : α → Bool) (xs : List α) : Option Nat :=
  (xs.reverse.findIdx? p).map fun i => xs.length - 1 - i

namespace Routine

/-- The place of the block that is laid out last: the last one that returns or, if none
does, the last that panics. -/
def exitPlace? (r : Routine) : Option Nat :=
  (lastIdx? (·.exit = .returns) r.blocks).or (lastIdx? (·.exit = .panics) r.blocks)

/-- The blocks in the order of the instructions, with the exit block moved to the end. -/
def layout (r : Routine) : List Block :=
  match r.exitPlace? with
  | none => r.blocks
  | some i => r.blocks.eraseIdx i ++ r.blocks[i]?.toList

end Routine

end ControlDependence.Lowering
