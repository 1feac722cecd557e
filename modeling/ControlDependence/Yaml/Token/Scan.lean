-- SUMMARY: Cutting a YAML text into tokens.
import ControlDependence.Yaml.Token.Property
import ControlDependence.Yaml.Token.Scalar

/-!
# Tokens of a text

Indentation becomes tokens that open and close blocks. A key is recognised only when the
colon after it is met, so the place of each node that might be a key is remembered, and
the tokens that mark it as one are put in afterwards.
-/
namespace ControlDependence.Yaml

/-- The place of a node that may turn out to be a key. -/
structure PossibleKey where
  /-- Whether the node must be a key, standing where a block's keys start. -/
  required : Bool
  /-- The number of tokens before it. -/
  token : Nat
  line : Nat
  column : Nat
  index : Nat

/-- A key ends on its line and is not longer than 1024 characters. -/
def PossibleKey.isCurrent (k : PossibleKey) (r : Reader) : Bool :=
  k.line = r.line && r.index ≤ k.index + 1024

structure Scanner where
  reader : Reader
  tokens : Array Token := #[]
  /-- The column of the innermost block, -1 outside all. -/
  indent : Int := -1
  /-- The columns of the blocks around it, the nearest first. -/
  outer : List Int := []
  /-- The possible key of each open bracket, the innermost first, and of the block around them. -/
  keys : List (Option PossibleKey) := [none]
  /-- Whether a key may start here. -/
  keyAllowed : Bool := true

namespace Scanner

def inFlow (s : Scanner) : Bool := 1 < s.keys.length

def emit (s : Scanner) (kind : TokenKind) : Scanner :=
  { s with tokens := s.tokens.push { kind, line := s.reader.line } }

def insert (s : Scanner) (position line : Nat) (kind : TokenKind) : Scanner :=
  { s with tokens := s.tokens.insertIdxIfInBounds position { kind, line } }

/-! ## Possible keys -/

/-- Forgets the possible key of the innermost bracket, which must not have to be one. -/
def dropKey (s : Scanner) : Option Scanner :=
  match s.keys with
  | some k :: rest => if k.required then none else some { s with keys := none :: rest }
  | _ => some s

/-- Remembers that the node that starts here may be a key. -/
def saveKey (s : Scanner) : Option Scanner :=
  if s.keyAllowed then do
    let s ← s.dropKey
    let key := {
      required := !s.inFlow && s.indent = s.reader.column
      token := s.tokens.size
      line := s.reader.line
      column := s.reader.column
      index := s.reader.index }
    some { s with keys := some key :: s.keys.tail }
  else some s

/-! ## Indentation -/

/-- Opens a block at a column further in than the innermost one. -/
def openBlock (s : Scanner) (column : Nat) (position line : Nat) (kind : TokenKind) : Scanner :=
  if s.inFlow || (column : Int) ≤ s.indent then s
  else { s.insert position line kind with indent := column, outer := s.indent :: s.outer }

/-- Closes every block further in than a column. -/
def closeBlocks (column : Int) : Nat → Scanner → Scanner
  | 0, s => s
  | fuel + 1, s =>
    if s.inFlow || s.indent ≤ column then s
    else
      let s := s.emit .blockEnd
      match s.outer with
      | i :: rest => closeBlocks column fuel { s with indent := i, outer := rest }
      | [] => { s with indent := -1 }

def closeTo (s : Scanner) (column : Int) : Scanner := closeBlocks column (s.outer.length + 1) s

/-! ## Space between tokens -/

/-- Whether blanks and line breaks lead to a comment, and where it starts. -/
def nextComment : Nat → Reader → Option Reader
  | 0, _ => none
  | fuel + 1, r =>
    match r.rest with
    | [] => none
    | c :: _ =>
      if isSpaceOrTab c then nextComment fuel r.skip
      else if isBreak c then nextComment fuel r.skipLine
      else if c == '#' then some r
      else none

/-- Moves to the end of a comment and of the comments that follow it directly. -/
def skipComments (budget : Nat) : Nat → Reader → Reader
  | 0, r => r
  | fuel + 1, r =>
    let r := r.skipToLineEnd budget
    match nextComment 512 r with
    | some next => skipComments budget fuel next
    | none => r

/-- Moves to the next token. A tab does not indent. -/
def skipSpace (budget : Nat) : Nat → Scanner → Scanner
  | 0, s => s
  | fuel + 1, s =>
    let tabs := s.inFlow || !s.keyAllowed
    let r := s.reader.skipWhile (fun c => c == ' ' || (tabs && c == '\t')) budget
    let r := if r.peek = some '#' then skipComments budget budget r else r
    match r.peek with
    | some c =>
      if isBreak c then
        skipSpace budget fuel { s with reader := r.skipLine, keyAllowed := s.keyAllowed || !s.inFlow }
      else { s with reader := r }
    | none => { s with reader := r }

/-! ## One token -/

/-- A mark of so many characters. -/
def mark (s : Scanner) (length : Nat) (kind : TokenKind) : Scanner :=
  let s := s.emit kind
  { s with reader := s.reader.skipMany length }

def directive (s : Scanner) (budget : Nat) : Option Scanner := do
  let s ← (s.closeTo (-1)).dropKey
  let (kind, r) ← readDirective budget s.reader
  return { s.emit kind with reader := r, keyAllowed := false }

def documentMark (s : Scanner) (kind : TokenKind) : Option Scanner := do
  let s ← (s.closeTo (-1)).dropKey
  return { s.mark 3 kind with keyAllowed := false }

def flowStart (s : Scanner) (kind : TokenKind) : Option Scanner := do
  let s ← s.saveKey
  return { s.mark 1 kind with keys := none :: s.keys, keyAllowed := true }

def flowEnd (s : Scanner) (kind : TokenKind) : Option Scanner := do
  let s ← s.dropKey
  return { s.mark 1 kind with keys := if s.inFlow then s.keys.tail else s.keys, keyAllowed := false }

def flowEntry (s : Scanner) : Option Scanner := do
  let s ← s.dropKey
  return { s.mark 1 .flowEntry with keyAllowed := true }

def blockEntry (s : Scanner) : Option Scanner := do
  if !s.inFlow && !s.keyAllowed then none
  else
    let s := s.openBlock s.reader.column s.tokens.size s.reader.line .blockListStart
    let s ← s.dropKey
    return { s.mark 1 .blockEntry with keyAllowed := true }

def key (s : Scanner) : Option Scanner := do
  if !s.inFlow && !s.keyAllowed then none
  else
    let s := s.openBlock s.reader.column s.tokens.size s.reader.line .blockMapStart
    let s ← s.dropKey
    return { s.mark 1 .key with keyAllowed := !s.inFlow }

/-- A colon. If a possible key comes before it on the line, that is the key. -/
def value (s : Scanner) : Option Scanner :=
  let complex : Scanner → Option Scanner := fun s =>
    if !s.inFlow && !s.keyAllowed then none
    else
      let s := s.openBlock s.reader.column s.tokens.size s.reader.line .blockMapStart
      some { s.mark 1 .value with keyAllowed := !s.inFlow }
  match s.keys with
  | some k :: rest =>
    if k.isCurrent s.reader then
      let s := { s.insert k.token k.line .key with keys := none :: rest }
      let s := s.openBlock k.column k.token k.line .blockMapStart
      some { s.mark 1 .value with keyAllowed := false }
    else if k.required then none
    else complex { s with keys := none :: rest }
  | _ => complex s

/-- A token that may be or start a key. -/
def keyLike (s : Scanner) (read : Reader → Option (TokenKind × Reader)) : Option Scanner := do
  let s ← s.saveKey
  let (kind, r) ← read s.reader
  return { s.emit kind with reader := r, keyAllowed := false }

def blockScalar (s : Scanner) (budget : Nat) (literal : Bool) : Option Scanner := do
  let s ← s.dropKey
  let (text, r) ← readBlock budget literal s.indent s.reader.skip
  return { s.emit (.scalar text false) with reader := r, keyAllowed := true }

def plainScalar (s : Scanner) (budget : Nat) : Option Scanner := do
  let s ← s.saveKey
  let (f, r) ← readPlain s.inFlow (s.indent + 1).toNat budget true s.reader {}
  return { s.emit (.scalar f.text true) with reader := r, keyAllowed := f.broken }

/-- Whether a plain scalar may start with a character. -/
def startsPlain (s : Scanner) (c : Char) : Bool :=
  !(isSpaceOrTab c || isBreak c || "-?:,[]{}#&*!|>'\"%@`".toList.contains c)
    || (c == '-' && !(s.reader.peekAt 1).elim false isSpaceOrTab)
    || (!s.inFlow && (c == '?' || c == ':') && !s.reader.isBlankAt 1)

def streamEnd (s : Scanner) : Option Scanner := do
  let r := s.reader
  let s := { s with reader := if r.column = 0 then r else { r with column := 0, line := r.line + 1 } }
  let s ← (s.closeTo (-1)).dropKey
  return { s.emit .streamEnd with keyAllowed := false }

/-- The scanner after one more token, if there is one. -/
def next (budget : Nat) (s : Scanner) : Option Scanner :=
  let s := skipSpace budget budget s
  let s := s.closeTo s.reader.column
  let r := s.reader
  match r.rest with
  | [] => s.streamEnd
  | c :: _ =>
    if !isAllowed c then none
    else if r.column = 0 && c == '%' then s.directive budget
    else if r.atDocumentMark then s.documentMark (if c == '-' then .documentStart else .documentEnd)
    else if c == '[' then s.flowStart .flowListStart
    else if c == '{' then s.flowStart .flowMapStart
    else if c == ']' then s.flowEnd .flowListEnd
    else if c == '}' then s.flowEnd .flowMapEnd
    else if c == ',' then s.flowEntry
    else if c == '-' && r.isBlankAt 1 then s.blockEntry
    else if c == '?' && (s.inFlow || r.isBlankAt 1) then s.key
    else if c == ':' && (s.inFlow || r.isBlankAt 1) then s.value
    else if c == '*' then s.keyLike fun r => (readName budget r.skip).map fun (n, r) => (.alias n, r)
    else if c == '&' then s.keyLike fun r => (readName budget r.skip).map fun (n, r) => (.anchor n, r)
    else if c == '!' then s.keyLike (readTag budget)
    else if c == '|' && !s.inFlow then s.blockScalar budget true
    else if c == '>' && !s.inFlow then s.blockScalar budget false
    else if c == '\'' || c == '"' then
      s.keyLike fun r => (readQuoted c budget false r.skip {}).map fun (t, r) => (.scalar t false, r)
    else if s.startsPlain c then s.plainScalar budget
    else none

end Scanner

/-- The tokens of a text. -/
structure Tokens where
  tokens : Array Token
  /-- Whether something that is no token follows them. -/
  cut : Bool
  /-- The tokens that might still have become keys there. -/
  pendingKeys : List Nat

namespace Scanner

def tokensSoFar (s : Scanner) : Tokens where
  tokens := s.tokens
  cut := true
  pendingKeys := (s.keys.filterMap id).map (·.token)

/-- Reads tokens to the end of the text, or as far as its first `limit` characters allow. -/
def run (budget limit : Nat) : Nat → Scanner → Tokens
  | 0, s => s.tokensSoFar
  | fuel + 1, s =>
    match s.next budget with
    | none => s.tokensSoFar
    | some s' =>
      if limit < s'.reader.index + 4 then s.tokensSoFar
      else if s'.tokens.back?.elim false (·.kind = .streamEnd) then
        { tokens := s'.tokens, cut := false, pendingKeys := [] }
      else run budget limit fuel s'

end Scanner

namespace Tokens

/-- A mark of the encoding at the start of a text is not part of it. -/
def dropMark : List Char → List Char
  | c :: cs => if c.toNat = 0xFEFF then cs else c :: cs
  | [] => []

/-- How many bytes are decoded at a time. -/
def chunkSize : Nat := 512

/-- The length of the chunks before the first that holds a character that is not allowed.
`start` is the index of the current chunk's first character, `room` what is left of it. -/
def soundLength : List Char → (index start room : Nat) → Option Nat
  | [], _, _, _ => none
  | c :: cs, index, start, room =>
    let (start, room) := if room < c.utf8Size then (index, chunkSize) else (start, room)
    if isAllowed c then soundLength cs (index + 1) start (room - c.utf8Size) else some start

/-- The tokens of a text. Nothing in a chunk with a character that is not allowed is one. -/
def ofText (s : String) : Tokens :=
  let cs := dropMark s.toList
  let budget := cs.length + 2
  let limit := (soundLength cs 0 0 chunkSize).getD (budget + 4)
  Scanner.run budget limit budget { reader := { rest := cs } }

end Tokens

end ControlDependence.Yaml
