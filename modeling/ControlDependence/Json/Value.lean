-- SUMMARY: JSON values and how they are written.
import ControlDependence.Text.Quoted

/-!
# JSON

Objects keep the order of their fields.
-/
namespace ControlDependence.Json

inductive Value where
  | null
  | bool (b : Bool)
  | int (n : Int)
  | text (s : String)
  | list (items : List Value)
  | object (fields : List (String × Value))

/-- The characters that are written by their code though the format would let them stand. -/
structure Escapes where
  extra : List Char

/-- A character of a text. -/
def escape (e : Escapes) (c : Char) : String :=
  match c with
  | '"' => "\\\""
  | '\\' => "\\\\"
  | '\n' => "\\n"
  | '\r' => "\\r"
  | '\t' => "\\t"
  | c =>
    match c.toNat with
    | 0x08 => "\\b"
    | 0x0C => "\\f"
    | n => if n < 0x20 || e.extra.contains c then "\\u" ++ Text.hex 4 n else c.toString

def quoted (e : Escapes) (s : String) : String :=
  "\"" ++ String.join (s.toList.map (escape e)) ++ "\""

/-- A line break and two spaces for each level. -/
def newline (depth : Nat) : String := "\n" ++ String.ofList (List.replicate (2 * depth) ' ')

namespace Value

mutual

/-- A value with each member of a list or object on a line of its own. -/
def pretty (e : Escapes) (depth : Nat) : Value → String
  | .null => "null"
  | .bool b => if b then "true" else "false"
  | .int n => toString n
  | .text s => quoted e s
  | .list [] => "[]"
  | .list (v :: vs) =>
    "[" ++ newline (depth + 1) ++ v.pretty e (depth + 1) ++ prettyItems e (depth + 1) vs
      ++ newline depth ++ "]"
  | .object [] => "\x7b\x7d"
  | .object ((k, v) :: fs) =>
    "\x7b" ++ newline (depth + 1) ++ quoted e k ++ ": " ++ v.pretty e (depth + 1)
      ++ prettyFields e (depth + 1) fs ++ newline depth ++ "\x7d"

/-- The members of a list after its first. -/
def prettyItems (e : Escapes) (depth : Nat) : List Value → String
  | [] => ""
  | v :: vs => "," ++ newline depth ++ v.pretty e depth ++ prettyItems e depth vs

/-- The fields of an object after its first. -/
def prettyFields (e : Escapes) (depth : Nat) : List (String × Value) → String
  | [] => ""
  | (k, v) :: fs =>
    "," ++ newline depth ++ quoted e k ++ ": " ++ v.pretty e depth ++ prettyFields e depth fs

end

end Value

end ControlDependence.Json
