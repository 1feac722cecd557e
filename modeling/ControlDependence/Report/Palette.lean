-- SUMMARY: Styled pieces of terminal text: colours by terminal profile and padding of lines.
import ControlDependence.Text.Width

/-!
# Styled text

A styled piece has each of its lines wrapped in an escape sequence, and lines shorter than
its widest padded with spaces. A terminal without colours gets the padding alone.
-/
namespace ControlDependence.Report

/-- What a terminal can show. -/
inductive Profile where
  | ascii
  | ansi
  | ansi256
  | trueColor
  deriving Repr, DecidableEq

/-- The kinds of pieces in a report. -/
inductive Piece where
  | title
  | method
  | muted
  | error
  | index
  deriving Repr, DecidableEq

namespace Piece

/-- The codes that switch a style on. -/
def codes : Piece → Profile → Option String
  | _, .ascii => none
  | .index, _ => some "1"
  | .title, .trueColor => some "1;38;2;44;215;199"
  | .title, .ansi256 => some "1;38;5;44"
  | .title, .ansi => some "1;96"
  | .method, .trueColor => some "1;38;2;32;185;179"
  | .method, .ansi256 => some "1;38;5;37"
  | .method, .ansi => some "1;36"
  | .muted, .trueColor => some "38;2;44;73;84"
  | .muted, .ansi256 => some "38;5;23"
  | .muted, .ansi => some "36"
  | .error, .trueColor => some "38;2;231;76;60"
  | .error, .ansi256 => some "38;5;167"
  | .error, .ansi => some "91"

end Piece

/-- Tabs are shown as four spaces. -/
def expandTabs (s : String) : String :=
  String.join (s.toList.map fun c => if c == '\t' then "    " else c.toString)

/-- A carriage return before a line feed is dropped. -/
def dropReturns : List Char → List Char
  | '\r' :: '\n' :: cs => '\n' :: dropReturns cs
  | c :: cs => c :: dropReturns cs
  | [] => []

def wrap (codes : Option String) (line : String) : String :=
  match codes with
  | none => line
  | some codes => s!"\x1b[{codes}m{line}\x1b[0m"

/-- How pieces are shown: not at all, or for a profile. -/
structure Palette where
  profile : Option Profile

namespace Palette

def paint (p : Palette) (piece : Piece) (s : String) : String :=
  let s := expandTabs s
  match p.profile with
  | none => s
  | some profile =>
    let lines := (String.ofList (dropReturns s.toList)).splitOn "\n"
    let widest := lines.foldl (fun w l => max w (Text.width l)) 0
    "\n".intercalate (lines.map fun l =>
      wrap (piece.codes profile) l ++ String.ofList (List.replicate (widest - Text.width l) ' '))

end Palette

end ControlDependence.Report
