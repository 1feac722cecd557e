-- SUMMARY: Reading plain, quoted and block scalars.
import ControlDependence.Yaml.Token.Reader
import ControlDependence.Yaml.Number

/-!
# Reading scalars

Where a plain or quoted scalar goes on to the next line, the line break is read as a
space, and further line breaks as themselves. Every reading function stops by fuel, of
which a caller gives as much as there are characters.
-/
namespace ControlDependence.Yaml

/-- A scalar read so far, with the blanks and line breaks at its end held back. -/
structure Folding where
  text : String := ""
  blanks : String := ""
  /-- Whether a line break has been held back. -/
  broken : Bool := false
  firstBreak : String := ""
  moreBreaks : String := ""

namespace Folding

def isPending (f : Folding) : Bool := f.broken || !f.blanks.isEmpty

/-- Adds what was held back. -/
def join (f : Folding) : Folding :=
  if f.broken then
    if f.firstBreak.startsWith "\n" then
      { text := f.text ++ if f.moreBreaks.isEmpty then " " else f.moreBreaks }
    else { text := f.text ++ f.firstBreak ++ f.moreBreaks }
  else { text := f.text ++ f.blanks }

def push (f : Folding) (c : Char) : Folding := { f.join with text := f.join.text.push c }

def append (f : Folding) (s : String) : Folding := { f.join with text := f.join.text ++ s }

/-- Holds a blank back; at the start of a line it is dropped. -/
def blank (f : Folding) (c : Char) : Folding :=
  if f.broken then f else { f with blanks := f.blanks.push c }

/-- Holds a line break back. -/
def line (f : Folding) (s : String) : Folding :=
  if f.broken then { f with moreBreaks := f.moreBreaks ++ s }
  else { f with blanks := "", firstBreak := s, broken := true }

end Folding

/-! ## Plain scalars -/

/-- Whether a plain scalar ends here. -/
def endsPlain (inFlow : Bool) (r : Reader) (c : Char) : Bool :=
  (c == ':' && r.isBlankAt 1)
    || (inFlow && (c == ',' || c == '?' || c == '[' || c == ']' || c == '{' || c == '}'))

/-- Reads a plain scalar whose further lines start at column `indent` or later. -/
def readPlain (inFlow : Bool) (indent : Nat) :
    Nat → (fresh : Bool) → Reader → Folding → Option (Folding × Reader)
  | 0, _, _, _ => none
  | fuel + 1, fresh, r, f =>
    match r.rest with
    | [] => some (f, r)
    | c :: _ =>
      if isSpaceOrTab c then
        if f.broken && r.column < indent && c == '\t' then none
        else readPlain inFlow indent fuel true r.skip (f.blank c)
      else if isBreak c then readPlain inFlow indent fuel true r.skipLine (f.line r.lineText)
      else if !inFlow && f.isPending && r.column < indent then some (f, r)
      else if fresh && (r.atDocumentMark || c == '#') then some (f, r)
      else if endsPlain inFlow r c then some (f, r)
      else readPlain inFlow indent fuel false r.skip (f.push c)

/-! ## Quoted scalars -/

/-- The character of a code in hexadecimal digits, and what follows them. -/
def readCode (digits : Nat) (r : Reader) : Option (Char × Reader) :=
  let ds := r.rest.take digits
  if ds.length < digits then none
  else do
    let n ← digits? 16 ds
    if n < 0x110000 && !(0xD800 ≤ n && n ≤ 0xDFFF) then some (Char.ofNat n, r.skipMany digits) else none

/-- An escape, of which the backslash has been read. -/
def readEscape (r : Reader) : Option (Char × Reader) :=
  match r.peek with
  | none => none
  | some c =>
    let is := fun (n : Nat) => some (Char.ofNat n, r.skip)
    match c with
    | '0' => is 0x00
    | 'a' => is 0x07
    | 'b' => is 0x08
    | 't' => is 0x09
    | '\t' => is 0x09
    | 'n' => is 0x0A
    | 'v' => is 0x0B
    | 'f' => is 0x0C
    | 'r' => is 0x0D
    | 'e' => is 0x1B
    | ' ' => is 0x20
    | '"' => is 0x22
    | '/' => is 0x2F
    | '\'' => is 0x27
    | '\\' => is 0x5C
    | 'N' => is 0x85
    | '_' => is 0xA0
    | 'L' => is 0x2028
    | 'P' => is 0x2029
    | 'x' => readCode 2 r.skip
    | 'u' => readCode 4 r.skip
    | 'U' => readCode 8 r.skip
    | _ => none

/-- Reads a scalar up to its closing quote, and past it. -/
def readQuoted (quote : Char) :
    Nat → (fresh : Bool) → Reader → Folding → Option (String × Reader)
  | 0, _, _, _ => none
  | fuel + 1, fresh, r, f =>
    match r.rest with
    | [] => none
    | c :: cs =>
      if fresh && r.atDocumentMark then none
      else if isSpaceOrTab c then readQuoted quote fuel true r.skip (f.blank c)
      else if isBreak c then readQuoted quote fuel true r.skipLine (f.line r.lineText)
      else if c == quote then
        if quote == '\'' && cs.head? == some '\'' then
          readQuoted quote fuel false r.skip.skip (f.push '\'')
        else some (f.join.text, r.skip)
      else if quote == '"' && c == '\\' then
        if cs.head?.elim false isBreak then
          readQuoted quote fuel true r.skip.skipLine { f.join with broken := true }
        else
          match readEscape r.skip with
          | none => none
          | some (d, r) => readQuoted quote fuel false r (f.push d)
      else readQuoted quote fuel false r.skip (f.push c)

/-! ## Block scalars -/

/-- What happens to the line breaks at the end of a block. -/
inductive Chomping where
  | strip
  | clip
  | keep
  deriving Repr, DecidableEq

/-- The marks after the bar of a block: how it ends and how far it is indented. -/
structure BlockHeader where
  chomping : Chomping := .clip
  /-- The indentation, 0 where the text decides it. -/
  indent : Nat := 0

def chomping? (r : Reader) : Option Chomping :=
  match r.peek with
  | some '+' => some .keep
  | some '-' => some .strip
  | _ => none

/-- A digit from 1 to 9, zero being an error. -/
def indentDigit? (r : Reader) : Option (Option Nat) :=
  match r.peek with
  | some c => if c.isDigit then if c == '0' then none else some (some (digitValue c)) else some none
  | none => some none

def readBlockHeader (r : Reader) : Option (BlockHeader × Reader) :=
  match chomping? r with
  | some chomping =>
    match indentDigit? r.skip with
    | none => none
    | some (some indent) => some ({ chomping, indent }, r.skip.skip)
    | some none => some ({ chomping }, r.skip)
  | none =>
    match indentDigit? r with
    | none => none
    | some none => some ({}, r)
    | some (some indent) =>
      match chomping? r.skip with
      | some chomping => some ({ chomping, indent }, r.skip.skip)
      | none => some ({ indent }, r.skip)

/-- Reads indentation and empty lines. The result is the line breaks read and the widest
indentation met. An indentation of 0 is not known yet. -/
def readBlockBreaks (indent : Nat) :
    Nat → Reader → (breaks : String) → (widest : Nat) → Option (Reader × String × Nat)
  | 0, _, _, _ => none
  | fuel + 1, r, breaks, widest =>
    let inside := indent = 0 || r.column < indent
    match r.rest with
    | [] => some (r, breaks, max widest r.column)
    | c :: _ =>
      if inside && c == ' ' then readBlockBreaks indent fuel r.skip breaks widest
      else if inside && c == '\t' then none
      else if isBreak c then
        readBlockBreaks indent fuel r.skipLine (breaks ++ r.lineText) (max widest r.column)
      else some (r, breaks, max widest r.column)

/-- A block read so far: its text, the last line break and the empty lines after it. -/
structure BlockText where
  text : String := ""
  lastBreak : String := ""
  emptyLines : String := ""
  /-- Whether the last line started with a blank. -/
  indented : Bool := false

/-- Reads the lines of a block. -/
def readBlockLines (literal : Bool) (indent : Nat) : Nat → Reader → BlockText → Option (BlockText × Reader)
  | 0, _, _ => none
  | fuel + 1, r, b =>
    if r.column = indent && !r.rest.isEmpty then
      let indented := r.peek.elim false isSpaceOrTab
      let joined :=
        if !literal && !b.indented && !indented && b.lastBreak.startsWith "\n" then
          if b.emptyLines.isEmpty then " " else ""
        else b.lastBreak
      let (line, r) := r.readWhile (fun c => !isBreak c) fuel ""
      let text := b.text ++ joined ++ b.emptyLines ++ line
      let lastBreak := r.lineText
      let r := if r.rest.isEmpty then r else r.skipLine
      match readBlockBreaks indent (fuel + 1) r "" 0 with
      | none => none
      | some (r, emptyLines, _) =>
        readBlockLines literal indent fuel r { text, lastBreak, emptyLines, indented }
    else some (b, r)

/-- Reads a block scalar of which the bar has been read. `outer` is the indentation around it. -/
def readBlock (fuel : Nat) (literal : Bool) (outer : Int) (r : Reader) : Option (String × Reader) := do
  let (header, r) ← readBlockHeader r
  let r := r.skipWhile isSpaceOrTab fuel
  let r := if r.peek = some '#' then r.skipToLineEnd fuel else r
  if !r.atLineEnd then none
  else
    let r := r.skipLine
    let given := if header.indent = 0 then 0 else header.indent + outer.toNat
    let (r, emptyLines, widest) ← readBlockBreaks given fuel r "" 0
    let indent := if given = 0 then max widest (max (outer + 1).toNat 1) else given
    let (b, r) ← readBlockLines literal indent fuel r { emptyLines }
    let tail :=
      match header.chomping with
      | .strip => ""
      | .clip => b.lastBreak
      | .keep => b.lastBreak ++ b.emptyLines
    return (b.text ++ tail, r)

end ControlDependence.Yaml
