-- SUMMARY: Modules written as text, one line for each instruction.
import ControlDependence.Program.Module
import ControlDependence.Text.Integer

/-!
# Modules as text

Lines that begin with `module`, `package` and `func` give the name of what follows. Any other line
is an instruction: what it is called, where it stands in a file and the numbers of its successors,
with tabs between them. A position may be empty; its file is relative to a directory.
-/
namespace ControlDependence.Program

/-- A position in a file below a directory. -/
def readPosition (directory s : String) : Position :=
  match (s.splitOn ":").reverse with
  | column :: line :: file =>
    { file := directory ++ "/" ++ ":".intercalate file.reverse
      line := (Text.readInt? line).getD 0
      column := (Text.readInt? column).getD 0 }
  | _ => .unknown

def readNumbers (s : String) : List Nat :=
  (s.splitOn ",").filterMap fun n => (Text.readInt? n).map Int.toNat

/-- An instruction as a block of its own, which comes after so many others. -/
def readInstruction (directory line : String) (index : Nat) : Lowering.Block :=
  match line.splitOn "\t" with
  | [text, position, succs] =>
    { index
      statements := [{ text, position := readPosition directory position }]
      succs := readNumbers succs }
  | _ => { index, statements := [{ text := line }], succs := [] }

namespace Module

/-- Adds an instruction to the routine that is being read. -/
def addInstruction (directory line : String) (r : Lowering.Routine) : Lowering.Routine :=
  { r with blocks := r.blocks ++ [readInstruction directory line r.blocks.length] }

/-- Changes the last member of a list. -/
def onLast {α : Type} (f : α → α) : List α → List α
  | [] => []
  | [x] => [f x]
  | x :: xs => x :: onLast f xs

def onPackage (m : Module) (f : LoadedPackage → LoadedPackage) : Module :=
  { m with packages := onLast f m.packages }

/-- Takes a line in. -/
def addLine (directory : String) (m : Module) (line : String) : Module :=
  match line.splitOn " " with
  | ["module", path] => { m with path }
  | ["package", path] => { m with packages := m.packages ++ [{ path, routines := [] }] }
  | ["func", name] =>
    m.onPackage fun p => { p with routines := p.routines ++ [{ name, blocks := [] }] }
  | _ =>
    if line.isEmpty then m
    else m.onPackage fun p => { p with routines := onLast (addInstruction directory line) p.routines }

/-- Reads a module whose files are in a directory. -/
def read (directory text : String) : Module :=
  (text.splitOn "\n").foldl (addLine directory) { path := "", packages := [] }

end Module

end ControlDependence.Program
