-- SUMMARY: Writing trees of texts and integers as YAML in block style.
import ControlDependence.Text.Quoted
import ControlDependence.Yaml.Character
import ControlDependence.Yaml.Plain

/-!
# Writing YAML

Maps and lists are written in block style, two columns a level. A text is written plain
where that reads back as the same text, as a literal block where it has several lines,
and between quotes otherwise.
-/
namespace ControlDependence.Yaml

inductive Tree where
  | int (n : Int)
  | text (s : String)
  | list (items : List Tree)
  | map (fields : List (String × Tree))

/-! ## How a text is written -/

inductive Style where
  | plain
  | singleQuoted
  | doubleQuoted
  | literal
  deriving Repr, DecidableEq

/-- Whether a special character is in the text. A tab is not one. -/
def hasSpecial (cs : List Char) : Bool := cs.any fun c => c ≠ '\t' && !isShown c

/-- Whether somewhere in the text `p` holds of a character and `q` of the next. -/
def hasPair (p q : Char → Bool) : List Char → Bool
  | a :: b :: cs => (p a && q b) || hasPair p q (b :: cs)
  | _ => false

/-- Whether the first character, or the first three, would be taken for a mark. -/
def startsWithMark (cs : List Char) : Bool :=
  cs.take 3 == ['-', '-', '-'] || cs.take 3 == ['.', '.', '.'] ||
  match cs with
  | [] => false
  | c :: rest =>
    "#,[]{}&*!|>'\"%@`".toList.contains c ||
      ((c == '?' || c == ':' || c == '-') && rest.head?.elim true isSpaceOrTab)

/-- Whether a colon before a blank or a number sign after one is in the text. -/
def hasInnerMark (cs : List Char) : Bool :=
  hasPair (· == ':') isSpaceOrTab cs || cs.getLast? == some ':' ||
    hasPair (fun c => isSpaceOrTab c || isBreak c || c.toNat = 0) (· == '#') cs

/-- Whether a space or line break is at either end. -/
def hasLooseEnd (cs : List Char) : Bool :=
  let loose := fun (c : Option Char) => c.elim false fun c => c == ' ' || isBreak c
  loose cs.head? || loose cs.getLast?

/-- Whether single quotes keep the text. -/
def fitsSingleQuotes (cs : List Char) : Bool :=
  !hasSpecial cs && !cs.contains '\t' && !hasPair (· == ' ') isBreak cs && !hasPair isBreak (· == ' ') cs

/-- Whether a literal block keeps the text. -/
def fitsLiteral (cs : List Char) : Bool :=
  cs.getLast? ≠ some ' ' && !hasPair (· == ' ') isBreak cs && !hasSpecial cs

/-- Whether the text may be written without quotes. -/
def fitsPlain (cs : List Char) : Bool :=
  !hasLooseEnd cs && fitsSingleQuotes cs && !cs.any isBreak && !startsWithMark cs && !hasInnerMark cs

def styleOf (s : String) : Style :=
  let cs := s.toList
  if cs.contains '\n' then if fitsLiteral cs then .literal else .doubleQuoted
  else if !readsAsText s then .doubleQuoted
  else if fitsPlain cs then .plain
  else if fitsSingleQuotes cs then .singleQuoted
  else .doubleQuoted

/-- A character between double quotes. -/
def escape (c : Char) : String :=
  let upper := fun (width n : Nat) => (Text.hex width n).map Char.toUpper
  if isShown c && !isBreak c && c ≠ '"' && c ≠ '\\' then c.toString
  else
    match c.toNat with
    | 0x00 => "\\0"
    | 0x07 => "\\a"
    | 0x08 => "\\b"
    | 0x09 => "\\t"
    | 0x0A => "\\n"
    | 0x0B => "\\v"
    | 0x0C => "\\f"
    | 0x0D => "\\r"
    | 0x1B => "\\e"
    | 0x22 => "\\\""
    | 0x5C => "\\\\"
    | 0x85 => "\\N"
    | 0x2028 => "\\L"
    | 0x2029 => "\\P"
    | n =>
      if n ≤ 0xFF then "\\x" ++ upper 2 n
      else if n ≤ 0xFFFF then "\\u" ++ upper 4 n
      else "\\U" ++ upper 8 n

/-- What follows the bar of a literal block: a digit when the text starts with white
space, and how its last line ends. -/
def literalHints (cs : List Char) : String :=
  let start := if cs.head?.elim false fun c => c == ' ' || isBreak c then "2" else ""
  let last :=
    match cs.reverse with
    | [] => "-"
    | [c] => if isBreak c then "+" else "-"
    | c :: d :: _ => if !isBreak c then "-" else if isBreak d then "+" else ""
  start ++ last

/-! ## The text under way -/

/-- The end of the text written so far. -/
structure Cursor where
  out : String := ""
  column : Nat := 0
  /-- Only spaces and list marks have been written on this line. -/
  fresh : Bool := true
  /-- What comes next needs no space before it. -/
  spaced : Bool := true

namespace Cursor

def put (k : Cursor) (c : Char) : Cursor := { k with out := k.out.push c, column := k.column + 1 }

/-- Writes a line break. -/
def newline (k : Cursor) : Cursor := { k with out := k.out.push '\n', column := 0, fresh := true }

/-- Writes a character that ends a line. -/
def putBreak (k : Cursor) (c : Char) : Cursor :=
  { k with out := k.out.push c, column := 0, fresh := true }

def putAll (k : Cursor) (cs : List Char) : Cursor := cs.foldl put k

/-- Goes to a column, on a new line if this one has text. -/
def indent (k : Cursor) (column : Nat) : Cursor :=
  let k := if !k.fresh || column < k.column || (k.column = column && !k.spaced) then k.newline else k
  { k.putAll (List.replicate (column - k.column) ' ') with spaced := true }

/-- Writes a mark, after a space if it needs one. -/
def mark (k : Cursor) (s : String) (apart : Bool) (staysFresh : Bool) : Cursor :=
  let k := if apart && !k.spaced then k.put ' ' else k
  { k.putAll s.toList with spaced := false, fresh := k.fresh && staysFresh }

def plain (k : Cursor) (s : String) : Cursor :=
  if s.isEmpty then { k with fresh := false }
  else
    let k := if k.spaced then k else k.put ' '
    { k.putAll s.toList with spaced := false, fresh := false }

/-- Writes lines, each after a break starting at a column. -/
def lines (column : Nat) (atBreak : Bool) (encode : Char → List Char) : Cursor → List Char → Cursor
  | k, [] => k
  | k, c :: cs =>
    if isBreak c then lines column true encode (k.putBreak c) cs
    else
      let k := if atBreak then k.indent column else k
      lines column false encode { k.putAll (encode c) with fresh := false } cs

def scalar (k : Cursor) (column : Nat) (s : String) : Cursor :=
  match styleOf s with
  | .plain => k.plain s
  | .singleQuoted =>
    let k := lines column false (fun c => if c == '\'' then ['\'', '\''] else [c]) (k.mark "'" true false) s.toList
    k.mark "'" false false
  | .doubleQuoted =>
    let k := (k.mark "\"" true false).putAll (s.toList.flatMap fun c => (escape c).toList)
    k.mark "\"" false false
  | .literal =>
    let k := k.mark ("|" ++ literalHints s.toList) true false
    lines column true (fun c => [c]) { k with spaced := true } s.toList

end Cursor

mutual

/-- Writes a tree after a map key or a list dash at a column. -/
def writeValue (k : Cursor) (column : Nat) : Tree → Cursor
  | .int n => k.plain (toString n)
  | .text s => k.scalar (column + 2) s
  | .list [] => k.mark "[]" true false
  | .list items => writeItems k (column + 2) items
  | .map [] => k.mark "\x7b\x7d" true false
  | .map fields => writeFields k (column + 2) fields

def writeFields (k : Cursor) (column : Nat) : List (String × Tree) → Cursor
  | [] => k
  | (key, v) :: rest =>
    let k := ((k.indent column).plain key).mark ":" false false
    writeFields (writeValue k column v) column rest

def writeItems (k : Cursor) (column : Nat) : List Tree → Cursor
  | [] => k
  | item :: rest =>
    let k := (k.indent column).mark "-" true true
    writeItems (writeValue k column item) column rest

end

/-- A whole document with a map at its root. -/
def document (fields : List (String × Tree)) : String :=
  ((writeFields {} 0 fields).indent 0).out

end ControlDependence.Yaml
