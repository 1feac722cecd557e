-- SUMMARY: Flags of a command line and how they are read.
import ControlDependence.CommandLine.Integer
import ControlDependence.Text.Quoted

/-!
# Flags

Flags may stand anywhere before a double dash. A flag that takes a value has it after an equals
sign, directly after its letter or as the next argument; one that is a truth value needs none.
-/
namespace ControlDependence.CommandLine

inductive FlagType where
  | text
  | int
  | truth
  deriving Repr, DecidableEq

structure Flag where
  name : String
  letter : Option Char := none
  type : FlagType := .text
  usage : String
  deriving Repr, DecidableEq

namespace Flag

/-- The value of a flag that is given without one. -/
def impliedValue? (f : Flag) : Option String :=
  match f.type with
  | .truth => some "true"
  | _ => none

/-- How messages call a flag. -/
def title (f : Flag) : String :=
  match f.letter with
  | some c => s!"-{c}, --{f.name}"
  | none => s!"--{f.name}"

end Flag

inductive FlagError where
  | badSyntax (argument : String)
  | unknown (name : String)
  | unknownLetter (byte : Char) (letters : String)
  | needsValue (name : String)
  | letterNeedsValue (letter : Char) (letters : String)
  | notInteger (flag : Flag) (value : String) (cause : IntegerError)
  | notTruth (flag : Flag) (value : String)
  deriving Repr, DecidableEq

/-- A character between apostrophes. -/
def quotedChar (c : Char) : String :=
  let inner := String.ofList ((Text.quoted c.toString).toList.drop 1).dropLast
  let inner := if c == '"' then "\"" else if c == '\'' then "\\'" else inner
  "'" ++ inner ++ "'"

namespace FlagError

def message : FlagError → String
  | .badSyntax a => "bad flag syntax: " ++ a
  | .unknown n => "unknown flag: --" ++ n
  | .unknownLetter c ls => "unknown shorthand flag: " ++ quotedChar c ++ " in -" ++ ls
  | .needsValue n => "flag needs an argument: --" ++ n
  | .letterNeedsValue c ls => "flag needs an argument: " ++ quotedChar c ++ " in -" ++ ls
  | .notInteger f v c =>
    s!"invalid argument {Text.quoted v} for {Text.quoted f.title} flag: " ++
      s!"strconv.ParseInt: parsing {Text.quoted v}: {c.message}"
  | .notTruth f v =>
    s!"invalid argument {Text.quoted v} for {Text.quoted f.title} flag: " ++
      s!"strconv.ParseBool: parsing {Text.quoted v}: invalid syntax"

end FlagError

/-! ## Values -/

/-- The values given to flags, the last one first, and the other arguments. -/
structure Arguments where
  values : List (String × String) := []
  rest : List String := []
  deriving Repr, DecidableEq

namespace Arguments

/-- The last text given to a flag, empty if there is none. -/
def text (a : Arguments) (name : String) : String := (a.values.lookup name).getD ""

def int (a : Arguments) (name : String) : Int :=
  match (a.values.lookup name).map readInteger with
  | some (.ok n) => n
  | _ => 0

def truth (a : Arguments) (name : String) : Bool := ((a.values.lookup name).bind readTruth?).getD false

/-- Takes a value in that fits its flag. -/
def set (a : Arguments) (f : Flag) (value : String) : Except FlagError Arguments :=
  let a' := { a with values := (f.name, value) :: a.values }
  match f.type with
  | .text => .ok a'
  | .int =>
    match readInteger value with
    | .ok _ => .ok a'
    | .error c => .error (.notInteger f value c)
  | .truth => if (readTruth? value).isSome then .ok a' else .error (.notTruth f value)

def addRest (a : Arguments) (s : String) : Arguments := { a with rest := a.rest ++ [s] }

end Arguments

/-! ## Reading -/

/-- A list of flags. -/
abbrev Flags := List Flag

def Flags.named? (fs : Flags) (name : String) : Option Flag := fs.find? (·.name == name)

def Flags.lettered? (fs : Flags) (c : Char) : Option Flag := fs.find? (·.letter == some c)

/-- The first byte of a text as a character of its own. -/
def firstByte (s : String) : Char := Char.ofNat ((s.toUTF8.toList.head?.map UInt8.toNat).getD 0)

/-- A text cut at its first equals sign. -/
def splitEquals (s : List Char) : List Char × Option (List Char) :=
  let name := s.takeWhile (· != '=')
  (name, (s.drop name.length).tail?)

/-- A flag given by its name, after the two dashes, and the arguments that are left. -/
def readNamed (fs : Flags) (whole : String) (name : List Char) (args : List String) (a : Arguments) :
    Except FlagError (Arguments × List String) :=
  match name with
  | [] => .error (.badSyntax whole)
  | '-' :: _ => .error (.badSyntax whole)
  | '=' :: _ => .error (.badSyntax whole)
  | _ =>
    let (name, value) := splitEquals name
    match fs.named? (String.ofList name) with
    | none => .error (.unknown (String.ofList name))
    | some f =>
      match value, f.impliedValue? with
      | some v, _ => (a.set f (String.ofList v)).map (·, args)
      | none, some v => (a.set f v).map (·, args)
      | none, none =>
        match args with
        | v :: args => (a.set f v).map (·, args)
        | [] => .error (.needsValue (String.ofList name))

/-- Flags given by their letters, after the dash, and the arguments that are left. -/
def readLetters (fs : Flags) (args : List String) (a : Arguments) :
    List Char → Except FlagError (Arguments × List String)
  | [] => .ok (a, args)
  | c :: cs =>
    match fs.lettered? c with
    | none => .error (.unknownLetter (firstByte c.toString) (String.ofList (c :: cs)))
    | some f =>
      match cs, f.impliedValue? with
      | '=' :: d :: ds, _ => (a.set f (String.ofList (d :: ds))).map (·, args)
      | cs, some v =>
        match a.set f v with
        | .ok a => readLetters fs args a cs
        | .error e => .error e
      | [], none =>
        match args with
        | v :: args => (a.set f v).map (·, args)
        | [] => .error (.letterNeedsValue c (String.ofList [c]))
      | cs, none => (a.set f (String.ofList cs)).map (·, args)

/-- Reads all arguments. Each step takes one up, so the fuel is their number. -/
def readArguments (fs : Flags) : Nat → Arguments → List String → Except FlagError Arguments
  | 0, a, _ => .ok a
  | _ + 1, a, [] => .ok a
  | fuel + 1, a, s :: args =>
    match s.toList with
    | '-' :: '-' :: [] => .ok { a with rest := a.rest ++ args }
    | '-' :: '-' :: name =>
      match readNamed fs s name args a with
      | .ok (a, args) => readArguments fs fuel a args
      | .error e => .error e
    | '-' :: c :: cs =>
      match readLetters fs args a (c :: cs) with
      | .ok (a, args) => readArguments fs fuel a args
      | .error e => .error e
    | _ => readArguments fs fuel (a.addRest s) args

end ControlDependence.CommandLine
