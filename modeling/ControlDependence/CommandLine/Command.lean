-- SUMMARY: Commands inside one another, which of them arguments call, and what is close to a name.
import ControlDependence.CommandLine.Flag
import ControlDependence.Text.LowerCase

/-!
# Commands

Arguments call the innermost command that their first words name. Flags may stand between the
words; which of them are followed by a value is judged by the flags of the command found so far.
-/
namespace ControlDependence.CommandLine

/-- A command without those inside it. -/
structure Command where
  /-- The words that call it, without that of the program. -/
  path : List String
  /-- What follows the words in its usage line. -/
  operands : String := ""
  short : String
  long : String := ""
  flags : Flags := []
  /-- Whether it does something itself. -/
  runs : Bool := true
  /-- Whether it takes words after those that call it. -/
  takesWords : Bool := true
  /-- Whether its usage line mentions flags. -/
  mentionsFlags : Bool := true
  deriving Repr, DecidableEq

def Command.name (c : Command) (program : String) : String := c.path.getLast?.getD program

/-- A program with all its commands. The one without a path is the program itself. -/
structure Program where
  name : String
  /-- The flags that every command has. -/
  globals : Flags
  root : Command
  commands : List Command
  deriving Repr, DecidableEq

namespace Program

def find? (p : Program) (path : List String) : Option Command :=
  (p.root :: p.commands).find? (·.path == path)

/-- The commands directly inside one. -/
def inside (p : Program) (c : Command) : List Command :=
  p.commands.filter fun d => d.path.dropLast == c.path && d.path.length == c.path.length + 1

def flagsOf (p : Program) (c : Command) : Flags := c.flags ++ p.globals

/-- The words of a command with that of the program. -/
def pathOf (p : Program) (c : Command) : String := " ".intercalate (p.name :: c.path)

end Program

/-! ## Which command is called -/

/-- Whether the argument after this one is its value. -/
def wantsNext (fs : Flags) (s : String) : Bool :=
  match s.toList with
  | '-' :: '-' :: name =>
    !name.contains '=' && ((fs.named? (String.ofList name)).bind (·.impliedValue?)).isNone
  | ['-', c] => c != '=' && c.toNat < 0x80 && ((fs.lettered? c).bind (·.impliedValue?)).isNone
  | _ => false

/-- The words among arguments. A flag that wants the last argument ends them. -/
def words (fs : Flags) : List String → List String
  | [] => []
  | s :: args =>
    if s == "--" then []
    else if wantsNext fs s then
      match args with
      | _ :: t :: rest => words fs (t :: rest)
      | _ => []
    else if s.isEmpty || s.startsWith "-" then words fs args
    else s :: words fs args

/-- The arguments without the first word of a name. -/
def withoutWord (fs : Flags) (w : String) : List String → List String
  | [] => []
  | s :: args =>
    if s == "--" then s :: args
    else if wantsNext fs s then
      match args with
      | v :: rest => s :: v :: withoutWord fs w rest
      | [] => [s]
    else if s == w then args
    else s :: withoutWord fs w args

namespace Program

/-- The innermost command that arguments name, from one on, with the arguments that are left. The
fuel bounds how deep commands are inside one another. -/
def locate (p : Program) : Nat → Command → List String → Command × List String
  | 0, c, args => (c, args)
  | fuel + 1, c, args =>
    match words (p.flagsOf c) args with
    | [] => (c, args)
    | w :: _ =>
      match p.find? (c.path ++ [w]) with
      | some d => locate p fuel d (withoutWord (p.flagsOf c) w args)
      | none => (c, args)

/-- The depth of the commands inside one another. -/
def depth (p : Program) : Nat := (p.commands.map (·.path.length)).max?.getD 0

end Program

/-! ## Names that are close -/

/-- One row of the table of distances, from the row above it: how many bytes have to be changed,
added or left out to get from one text to the first bytes of another. -/
def distanceRow (b : UInt8) (corner above : Nat) (left : Nat) : List UInt8 → List Nat → List Nat
  | c :: cs, next :: row =>
    let here := if b == c then corner else 1 + min corner (min above left)
    here :: distanceRow b above next here cs row
  | [c], [] => [if b == c then corner else 1 + min corner (min above left)]
  | _, _ => []

/-- How many bytes have to be changed, added or left out to get from one text to another. -/
def distance (s t : List UInt8) : Nat :=
  let start := List.range (t.length + 1)
  let last := s.foldl
    (fun row b =>
      match row with
      | corner :: above :: rest => (corner + 1) :: distanceRow b corner above (corner + 1) t rest
      | row => row.map (· + 1))
    start
  last.getLast?.getD 0

/-- Whether someone who typed one name may have meant another. -/
def isClose (typed name : String) : Bool :=
  let typed := Text.lower typed
  let name := Text.lower name
  distance typed.toUTF8.toList name.toUTF8.toList ≤ 2 || name.startsWith typed

/-- The name of the command that explains the others. -/
def helpName : String := "help"

/-- An argument that names no command. -/
structure UnknownCommand where
  word : String
  program : String
  suggestions : List String
  deriving Repr, DecidableEq

def UnknownCommand.message (u : UnknownCommand) : String :=
  s!"unknown command {Text.quoted u.word} for {Text.quoted u.program}" ++
  if u.suggestions.isEmpty then ""
  else "\n\nDid you mean this?\n" ++ String.join (u.suggestions.map fun s => "\t" ++ s ++ "\n")

namespace Program

/-- The first word that a command was given and does not take. -/
def excess? (p : Program) (c : Command) (given : List String) : Option UnknownCommand :=
  if c.takesWords then none
  else given.head?.map fun word => { word, program := p.pathOf c, suggestions := [] }

/-- The commands that a word may have been meant for. -/
def suggestions (p : Program) (word : String) : List String :=
  ((p.inside p.root).map (·.name p.name)).filter fun n => n != helpName && isClose word n

/-- The command that arguments call, with those that are left. The program itself takes no words. -/
def called (p : Program) (args : List String) : Except UnknownCommand (Command × List String) :=
  let (c, rest) := p.locate (p.depth + 1) p.root args
  match words (p.flagsOf c) rest with
  | w :: _ =>
    if c.path.isEmpty then
      .error { word := w, program := p.name, suggestions := p.suggestions w }
    else .ok (c, rest)
  | [] => .ok (c, rest)

end Program

end ControlDependence.CommandLine
