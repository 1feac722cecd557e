-- SUMMARY: Help texts of commands.
import ControlDependence.CommandLine.Command

/-!
# Help texts
-/
namespace ControlDependence.CommandLine

def padRight (width : Nat) (s : String) : String :=
  s ++ String.ofList (List.replicate (width - s.length) ' ')

namespace Flag

/-- How a flag is written on the command line. -/
def form (f : Flag) : String :=
  let value :=
    match f.type with
    | .text => " string"
    | .int => " int"
    | .truth => ""
  match f.letter with
  | some c => s!"  -{c}, --{f.name}{value}"
  | none => s!"      --{f.name}{value}"

end Flag

namespace Flags

def sorted (fs : Flags) : Flags := fs.mergeSort fun a b => decide (a.name ≤ b.name)

/-- One line for each flag, by name. -/
def lines (fs : Flags) : String :=
  let width := ((fs.map fun f => f.form.length).max?.getD 0)
  String.join (fs.sorted.map fun f => padRight width f.form ++ "   " ++ f.usage ++ "\n")

end Flags

namespace Program

/-- The flag that asks for help on a command. -/
def helpFlag (p : Program) (c : Command) : Flag where
  name := "help"
  letter := some 'h'
  type := .truth
  usage := "help for " ++ c.name p.name

/-- A part of a help text under its heading. -/
def part (heading body : String) : String := if body.isEmpty then "" else s!"\n{heading}:\n{body}"

def commandLine (p : Program) (c : Command) : String :=
  "  " ++ padRight 11 (c.name p.name) ++ " " ++ c.short ++ "\n"

/-- How a command is used. The flags are those that it is known to have. -/
def usage (p : Program) (c : Command) (flags : Flags) : String :=
  let inner := (p.inside c).mergeSort fun a b => decide (a.name p.name ≤ b.name p.name)
  let own :=
    if c.runs then
      "  " ++ p.pathOf c ++ (if c.operands.isEmpty then "" else " " ++ c.operands) ++
        (if c.mentionsFlags then " [flags]" else "") ++ "\n"
    else ""
  let called := if inner.isEmpty then "" else "  " ++ p.pathOf c ++ " [command]\n"
  let isRoot := c.path.isEmpty
  "Usage:\n" ++ own ++ called ++
  part "Available Commands" (String.join (inner.map p.commandLine)) ++
  part "Flags" (Flags.lines (if isRoot then flags ++ p.globals else flags)) ++
  part "Global Flags" (if isRoot then "" else Flags.lines p.globals) ++
  if inner.isEmpty then ""
  else s!"\nUse \"{p.pathOf c} [command] --help\" for more information about a command.\n"

/-- The help text of a command. -/
def help (p : Program) (c : Command) : String :=
  (if c.long.isEmpty then c.short else c.long) ++ "\n\n" ++ p.usage c (c.flags ++ [p.helpFlag c])

end Program

end ControlDependence.CommandLine
