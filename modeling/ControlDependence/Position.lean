-- SUMMARY: Places in source files.

/-!
# Source positions
-/
namespace ControlDependence

/-- A place in a file. -/
structure Position where
  file : String
  line : Int
  column : Int
  deriving Repr, DecidableEq

namespace Position

/-- A position that says nothing. -/
def unknown : Position := { file := "", line := 0, column := 0 }

def isValid (p : Position) : Bool := 0 < p.line

def render (p : Position) : String :=
  let place := if p.column = 0 then toString p.line else s!"{p.line}:{p.column}"
  if !p.isValid then if p.file.isEmpty then "-" else p.file
  else if p.file.isEmpty then place
  else s!"{p.file}:{place}"

end Position

end ControlDependence
