-- SUMMARY: The functions of a program that have bodies of their own, by name.
import ControlDependence.Text.Property

/-!
# Listing functions

A function is listed under its full name, together with the function literals inside it. Methods
are listed when their receiver's type is exported. Of a generic function the declaration is listed
once, and the literals of each instance of it besides.
-/
namespace ControlDependence.Program

/-- The type that a method belongs to. -/
structure Receiver where
  name : String
  pointer : Bool
  deriving Repr, DecidableEq

structure Declaration where
  name : String
  receiver : Option Receiver := none
  /-- How many function literals are in the body. -/
  closures : Nat := 0
  hasBody : Bool := true
  /-- The types that a generic function is used at; none for one that is not generic. -/
  instances : Option (List String) := none
  deriving Repr, DecidableEq

structure Package where
  path : String
  declarations : List Declaration
  deriving Repr, DecidableEq

/-- Whether a name starts with an upper-case letter. -/
def isExported (name : String) : Bool :=
  match name.toList with
  | c :: _ => ((Text.property? "Lu").getD []).any fun r => Text.Ranges.contains r c
  | [] => false

/-- A function and its literals, which are numbered. -/
def withClosures (name : String) (closures : Nat) : List String :=
  name :: (List.range closures).map fun i => s!"{name}${i + 1}"

/-- The name of the type that a word of a type stands for. -/
def typeWord : String → String
  | "byte" => "uint8"
  | "rune" => "int32"
  | "any" => "interface\x7b\x7d"
  | w => w

/-- The words and other characters of a type, with what the words stand for. -/
def typeParts : (word : List Char) → List Char → List String
  | word, [] => [typeWord (String.ofList word.reverse)]
  | word, c :: cs =>
    if c.isAlphanum || c == '_' then typeParts (c :: word) cs
    else typeWord (String.ofList word.reverse) :: c.toString :: typeParts [] cs

/-- What two ways to write one type have in common. -/
def typeKey (type : String) : String := String.join (typeParts [] type.toList)

/-- The different types of a list, each as it is written first. -/
def distinctTypes : List String → List String
  | [] => []
  | t :: ts => t :: (distinctTypes ts).filter fun u => typeKey u ≠ typeKey t

namespace Declaration

/-- The name inside its package. Initialisers are numbered from 1. -/
def localName (d : Declaration) (initialisers : Nat) : String :=
  if d.name = "init" && d.receiver.isNone then s!"init#{initialisers}" else d.name

def fullName (d : Declaration) (path : String) (initialisers : Nat) : String :=
  match d.receiver with
  | none => s!"{path}.{d.localName initialisers}"
  | some r => if r.pointer then s!"(*{path}.{r.name}).{d.name}" else s!"({path}.{r.name}).{d.name}"

def isReachable (d : Declaration) : Bool :=
  d.hasBody && (d.receiver.elim true fun r => isExported r.name)

/-- The functions that a declaration brings. -/
def functions (d : Declaration) (path : String) (initialisers : Nat) : List String :=
  let full := d.fullName path initialisers
  (if d.isReachable then withClosures full d.closures else []) ++
  match d.instances with
  | none => []
  | some types =>
    ((distinctTypes types).flatMap fun t => (withClosures s!"{full}[{t}]" d.closures).tail)
      ++ [s!"{path}.use{d.name}"]

end Declaration

namespace Package

/-- The functions of declarations, after so many initialisers. -/
def functionsFrom (path : String) : Nat → List Declaration → List String
  | _, [] => []
  | inits, d :: ds =>
    let inits := if d.name = "init" && d.receiver.isNone then inits + 1 else inits
    d.functions path inits ++ functionsFrom path inits ds

def functions (p : Package) : List String := functionsFrom p.path 0 p.declarations

end Package

/-- The functions of the wanted packages in ascending order. -/
def functions (packages : List Package) (wanted : List Int) : List String :=
  let chosen := packages.zipIdx.filter fun (_, i) => wanted.contains (i : Int)
  (chosen.flatMap fun (p, _) => p.functions).mergeSort fun a b => decide (a ≤ b)

end ControlDependence.Program
