-- SUMMARY: Reading JSON whose numbers are whole.
import ControlDependence.Json.Value

/-!
# Reading JSON

Each reader gives what it has read and the rest of the text. Numbers are whole ones without an
exponent.
-/
namespace ControlDependence.Json

def isBlank (c : Char) : Bool := c == ' ' || c == '\n' || c == '\r' || c == '\t'

def skipBlanks (cs : List Char) : List Char := cs.dropWhile isBlank

/-! ## Texts -/

def hexDigit? (c : Char) : Option Nat :=
  if c.isDigit then some (c.toNat - '0'.toNat)
  else if 'a' ≤ c && c ≤ 'f' then some (c.toNat - 'a'.toNat + 10)
  else if 'A' ≤ c && c ≤ 'F' then some (c.toNat - 'A'.toNat + 10)
  else none

/-- The number that four hexadecimal digits give. -/
def hexFour? (a b c d : Char) : Option Nat := do
  return (((← hexDigit? a) * 16 + (← hexDigit? b)) * 16 + (← hexDigit? c)) * 16 + (← hexDigit? d)

/-- The character that a letter after a backslash stands for. -/
def escaped? : Char → Option Char
  | '"' => some '"'
  | '\\' => some '\\'
  | '/' => some '/'
  | 'b' => some (Char.ofNat 8)
  | 'f' => some (Char.ofNat 12)
  | 'n' => some '\n'
  | 'r' => some '\r'
  | 't' => some '\t'
  | _ => none

/-- The characters up to the closing quote. A character beyond the first plane may be given by two
codes. -/
def readText : List Char → Option (List Char × List Char)
  | [] => none
  | '"' :: rest => some ([], rest)
  | '\\' :: 'u' :: a :: b :: c :: d :: '\\' :: 'u' :: a' :: b' :: c' :: d' :: rest =>
    match hexFour? a b c d, hexFour? a' b' c' d' with
    | some high, some low =>
      if 0xD800 ≤ high && high < 0xDC00 && 0xDC00 ≤ low && low < 0xE000 then
        (readText rest).map fun (s, r) =>
          (Char.ofNat (0x10000 + (high - 0xD800) * 0x400 + (low - 0xDC00)) :: s, r)
      else
        (readText ('\\' :: 'u' :: a' :: b' :: c' :: d' :: rest)).map fun (s, r) =>
          (Char.ofNat high :: s, r)
    | _, _ => none
  | '\\' :: 'u' :: a :: b :: c :: d :: rest =>
    match hexFour? a b c d with
    | some n => (readText rest).map fun (s, r) => (Char.ofNat n :: s, r)
    | none => none
  | '\\' :: c :: rest =>
    match escaped? c with
    | some e => (readText rest).map fun (s, r) => (e :: s, r)
    | none => none
  | c :: rest =>
    if c.toNat < 0x20 || c == '\\' then none else (readText rest).map fun (s, r) => (c :: s, r)

/-! ## Numbers -/

def digitsToNat (ds : List Char) : Nat := ds.foldl (fun n c => n * 10 + (c.toNat - '0'.toNat)) 0

/-- A number, of which further zeros may not come first. -/
def readNat (cs : List Char) : Option (Nat × List Char) :=
  let ds := cs.takeWhile Char.isDigit
  match ds with
  | [] => none
  | '0' :: _ :: _ => none
  | _ => some (digitsToNat ds, cs.drop ds.length)

def readInt : List Char → Option (Int × List Char)
  | '-' :: cs => (readNat cs).map fun (n, r) => (-(n : Int), r)
  | cs => (readNat cs).map fun (n, r) => ((n : Int), r)

/-! ## Values -/

/-- What follows a character and blanks before it. -/
def expect? (c : Char) (cs : List Char) : Option (List Char) :=
  match skipBlanks cs with
  | d :: rest => if c == d then some rest else none
  | [] => none

mutual

/-- A value at most so deep and long. -/
def readValue : Nat → List Char → Option (Value × List Char)
  | 0, _ => none
  | fuel + 1, cs =>
    match skipBlanks cs with
    | 'n' :: 'u' :: 'l' :: 'l' :: r => some (.null, r)
    | 't' :: 'r' :: 'u' :: 'e' :: r => some (.bool true, r)
    | 'f' :: 'a' :: 'l' :: 's' :: 'e' :: r => some (.bool false, r)
    | '"' :: r => (readText r).map fun (s, r) => (.text (String.ofList s), r)
    | '[' :: r =>
      match expect? ']' r with
      | some r => some (.list [], r)
      | none => (readItems fuel r).map fun (vs, r) => (.list vs, r)
    | '\x7b' :: r =>
      match expect? '\x7d' r with
      | some r => some (.object [], r)
      | none => (readFields fuel r).map fun (fs, r) => (.object fs, r)
    | cs => (readInt cs).map fun (n, r) => (.int n, r)

/-- The members of a list, of which there is one, and its end. -/
def readItems : Nat → List Char → Option (List Value × List Char)
  | 0, _ => none
  | fuel + 1, cs =>
    match readValue fuel cs with
    | none => none
    | some (v, r) =>
      match expect? ',' r with
      | some r => (readItems fuel r).map fun (vs, r) => (v :: vs, r)
      | none => (expect? ']' r).map fun r => ([v], r)

/-- The fields of an object, of which there is one, and its end. -/
def readFields : Nat → List Char → Option (List (String × Value) × List Char)
  | 0, _ => none
  | fuel + 1, cs =>
    match (expect? '"' cs).bind readText with
    | none => none
    | some (k, r) =>
      match (expect? ':' r).bind (readValue fuel) with
      | none => none
      | some (v, r) =>
        match expect? ',' r with
        | some r => (readFields fuel r).map fun (fs, r) => ((String.ofList k, v) :: fs, r)
        | none => (expect? '\x7d' r).map fun r => ([(String.ofList k, v)], r)

end

namespace Value

/-- The value that a text is. Every step takes up a character, so twice the length is fuel
enough. -/
def parse? (s : String) : Option Value :=
  let cs := s.toList
  match readValue (2 * cs.length + 1) cs with
  | some (v, r) => if (skipBlanks r).isEmpty then some v else none
  | none => none

/-! ## Looking up -/

/-- A field of an object, null if there is none. -/
def field (v : Value) (key : String) : Value :=
  match v with
  | .object fs => (fs.lookup key).getD .null
  | _ => .null

def asText : Value → String
  | .text s => s
  | _ => ""

def asInt : Value → Int
  | .int n => n
  | _ => 0

/-- The members of a list, if it is one. -/
def asList? : Value → Option (List Value)
  | .list vs => some vs
  | _ => none

def asList (v : Value) : List Value := v.asList?.getD []

@[simp] theorem asText_text (s : String) : (Value.text s).asText = s := rfl

@[simp] theorem asInt_int (n : Int) : (Value.int n).asInt = n := rfl

@[simp] theorem asList?_list (vs : List Value) : (Value.list vs).asList? = some vs := rfl

@[simp] theorem asList?_null : Value.null.asList? = none := rfl

end Value

end ControlDependence.Json
