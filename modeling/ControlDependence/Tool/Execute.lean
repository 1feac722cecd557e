-- SUMMARY: Running the tool on its arguments.
import ControlDependence.Tool.Analyze
import ControlDependence.Tool.Commands

/-!
# Running the tool
-/
namespace ControlDependence.Tool

open CommandLine

/-- What a run comes to. -/
structure Outcome where
  output : Output := {}
  failure : Option Failure := none
  /-- Whether a logger was made. -/
  logged : Bool := false
  logPath : Option String := none

/-- A text between backquotes if it can stand there, else as a quoted one. -/
def backquoted (s : String) : String :=
  let plain := s.toList.all fun c =>
    c != '`' && c.toNat != 0xFEFF && c.toNat != 0x7F && (0x20 ≤ c.toNat || c == '\t')
  if plain then "`" ++ s ++ "`" else Text.quoted s

/-- Help on the command that words name. -/
def helpOn (ws : List String) : String :=
  match program.called ws with
  | .ok (c, _) => program.help c
  | .error _ =>
    "Unknown help topic [" ++ " ".intercalate (ws.map backquoted) ++ "]\n" ++
      program.usage program.root program.root.flags

/-- Runs a command that does something. -/
def runCommand (h : Host) (c : Command) (a : Arguments) : Outcome :=
  match setup h a with
  | .error e => { failure := some e }
  | .ok s =>
    let outcome := fun (failure : Option Failure) (output : Output) =>
      ({ output, failure, logged := true, logPath := s.logPath } : Outcome)
    match c.path with
    | ["cdeps"] =>
      let (failure, output) := analyze h s a {}
      outcome failure output
    | ["version"] => outcome none (({} : Output).print h.stdout s!"{name} {version}\n")
    | ["help"] => outcome none (({} : Output).print h.stdout (helpOn a.rest))
    | _ => outcome none {}

/-- The command that is called, with its arguments. -/
def readCall (args : List String) : Except Failure (Command × Arguments) := do
  let (c, rest) ← (program.called args).mapError .command
  let flags := program.helpFlag c :: program.flagsOf c
  let a ← (readArguments flags rest.length {} rest).mapError .flag
  return (c, a)

/-- Runs the tool. -/
def execute (h : Host) (args : List String) : Outcome :=
  match readCall args with
  | .error e => { failure := some e }
  | .ok (c, a) =>
    if a.truth "help" || !c.runs then
      { output := ({} : Output).print h.stdout (program.help c) }
    else
      match program.excess? c a.rest with
      | some u => { failure := some (.command u) }
      | none => runCommand h c a

end ControlDependence.Tool
