-- SUMMARY: Reading patterns.
import ControlDependence.Pattern.Expr
import ControlDependence.Text.Property

/-!
# Reading patterns

The pattern is read from left to right. Open groups are kept on a stack, each with the
alternatives that it has so far and the pieces of the one being read.
-/
namespace ControlDependence.Pattern

inductive Fault where
  | missingParen
  | unexpectedParen
  | missingBracket
  | nestedRepetition
  | missingRepetitionArgument
  | trailingBackslash
  | characterRange
  | repeatCount
  | namedCapture
  | escape
  | groupSyntax
  deriving Repr, DecidableEq

def Fault.message : Fault → String
  | .missingParen => "missing closing )"
  | .unexpectedParen => "unexpected )"
  | .missingBracket => "missing closing ]"
  | .nestedRepetition => "invalid nested repetition operator"
  | .missingRepetitionArgument => "missing argument to repetition operator"
  | .trailingBackslash => "trailing backslash at end of expression"
  | .characterRange => "invalid character class range"
  | .repeatCount => "invalid repeat count"
  | .namedCapture => "invalid named capture"
  | .escape => "invalid escape sequence"
  | .groupSyntax => "invalid or unsupported Perl syntax"

/-- What is wrong with a pattern, and with which part of it. -/
structure ParseError where
  fault : Fault
  part : String
  deriving Repr, DecidableEq

def ParseError.message (e : ParseError) : String :=
  s!"error parsing regexp: {e.fault.message}: `{e.part}`"

/-- The part of a text before a rest of it. -/
def upTo (s rest : List Char) : String := String.ofList (s.take (s.length - rest.length))

def fail {α : Type} (fault : Fault) (part : String) : Except ParseError α := .error { fault, part }

/-! ## Escapes -/

def hexValue? (c : Char) : Option Nat :=
  if c.isDigit then some (c.toNat - '0'.toNat)
  else if 'a' ≤ c && c ≤ 'f' then some (c.toNat - 'a'.toNat + 10)
  else if 'A' ≤ c && c ≤ 'F' then some (c.toNat - 'A'.toNat + 10)
  else none

def isOctal (c : Char) : Bool := '0' ≤ c && c ≤ '7'

/-- At most so many octal digits. -/
def octal : Nat → Nat → List Char → Nat × List Char
  | 0, n, t => (n, t)
  | _ + 1, n, [] => (n, [])
  | k + 1, n, c :: t => if isOctal c then octal k (n * 8 + (c.toNat - '0'.toNat)) t else (n, c :: t)

/-- The digits of a code point up to the closing brace. On failure the rest after the character
at fault is given. -/
def bracedHex (digits n : Nat) : List Char → Except (List Char) (Nat × List Char)
  | [] => .error []
  | c :: t =>
    if c == '\x7d' then if digits = 0 then .error t else .ok (n, t)
    else
      match hexValue? c with
      | none => .error t
      | some v => if 0x10FFFF < n * 16 + v then .error t else bracedHex (digits + 1) (n * 16 + v) t

/-- A code point after the letter that announces its hexadecimal digits. -/
def hexEscape : List Char → Except (List Char) (Nat × List Char)
  | [] => .error []
  | '\x7b' :: t => bracedHex 0 0 t
  | [_] => .error []
  | x :: y :: t =>
    match hexValue? x, hexValue? y with
    | some a, some b => .ok (a * 16 + b, t)
    | _, _ => .error t

/-- The code points of control characters that have a letter. -/
def controlEscape? : Char → Option Nat
  | 'a' => some 7
  | 'f' => some 12
  | 'n' => some 10
  | 'r' => some 13
  | 't' => some 9
  | 'v' => some 11
  | _ => none

/-- A character after a backslash, at which `s` starts. -/
def readEscape (s : List Char) : Except ParseError (Nat × List Char) :=
  match s.tail with
  | [] => fail .trailingBackslash ""
  | c :: t =>
    let refuse := fun rest => fail .escape (upTo s rest)
    if c == '0' then .ok (octal 2 0 t)
    else if '1' ≤ c && c ≤ '7' then
      if (t.head?.map isOctal).getD false then .ok (octal 2 (c.toNat - '0'.toNat) t) else refuse t
    else if c == 'x' then
      match hexEscape t with
      | .ok r => .ok r
      | .error rest => refuse rest
    else
      match controlEscape? c with
      | some n => .ok (n, t)
      | none => if c.toNat < 0x80 && !c.isAlphanum then .ok (c.toNat, t) else refuse t

/-! ## Sets of characters -/

def ranges (rs : List (Char × Char)) : Text.Ranges :=
  (rs.map fun (a, b) => (a.toNat, b.toNat)).toArray

/-- Sets that a letter after a backslash stands for. -/
def letterSet? : Char → Option Item
  | 'd' => some (.tables [ranges [('0', '9')]] false)
  | 'D' => some (.tables [ranges [('0', '9')]] true)
  | 's' => some (.tables [#[(9, 10), (12, 13), (32, 32)]] false)
  | 'S' => some (.tables [#[(9, 10), (12, 13), (32, 32)]] true)
  | 'w' => some (.tables [ranges [('0', '9'), ('A', 'Z'), ('_', '_'), ('a', 'z')]] false)
  | 'W' => some (.tables [ranges [('0', '9'), ('A', 'Z'), ('_', '_'), ('a', 'z')]] true)
  | _ => none

/-- Sets with a name between colons. -/
def colonSet? : String → Option Text.Ranges
  | "alnum" => some (ranges [('0', '9'), ('A', 'Z'), ('a', 'z')])
  | "alpha" => some (ranges [('A', 'Z'), ('a', 'z')])
  | "ascii" => some #[(0, 0x7F)]
  | "blank" => some #[(9, 9), (32, 32)]
  | "cntrl" => some #[(0, 0x1F), (0x7F, 0x7F)]
  | "digit" => some (ranges [('0', '9')])
  | "graph" => some (ranges [('!', '~')])
  | "lower" => some (ranges [('a', 'z')])
  | "print" => some (ranges [(' ', '~')])
  | "punct" => some (ranges [('!', '/'), (':', '@'), ('[', '`'), ('\x7b', '~')])
  | "space" => some #[(9, 13), (32, 32)]
  | "upper" => some (ranges [('A', 'Z')])
  | "word" => some (ranges [('0', '9'), ('A', 'Z'), ('_', '_'), ('a', 'z')])
  | "xdigit" => some (ranges [('0', '9'), ('A', 'F'), ('a', 'f')])
  | _ => none

/-- What follows the first place where a text holds two characters. -/
def afterPair? (a b : Char) : List Char → Option (List Char)
  | c :: d :: t => if c == a && d == b then some t else afterPair? a b (d :: t)
  | _ => none

/-- A set with a name between colons, at whose bracket `s` starts. -/
def readColonSet (s : List Char) : Except ParseError (Option (Item × List Char)) :=
  match s with
  | '[' :: ':' :: t =>
    match afterPair? ':' ']' t with
    | none => .ok none
    | some rest =>
      let inner := t.take (t.length - rest.length - 2)
      let (negated, name) :=
        match inner with
        | '^' :: n => (true, n)
        | n => (false, n)
      match colonSet? (String.ofList name) with
      | some r => .ok (some (.tables [r] negated, rest))
      | none => fail .characterRange (upTo s rest)
  | _ => .ok none

/-- A set with the name of a property, at whose backslash `s` starts. -/
def readProperty (s : List Char) : Except ParseError (Option (Item × List Char)) :=
  match s with
  | '\\' :: p :: t =>
    if p != 'p' && p != 'P' then .ok none
    else
      let named := fun (name : List Char) (rest : List Char) =>
        let (negated, name) :=
          match name with
          | '^' :: n => (p == 'p', n)
          | n => (p == 'P', n)
        match Text.property? (String.ofList name) with
        | some sets => .ok (some (Item.tables sets negated, rest))
        | none => fail .characterRange (upTo s rest)
      match t with
      | [] => fail .characterRange (String.ofList s)
      | '\x7b' :: u =>
        let name := u.takeWhile (· != '\x7d')
        match u.drop name.length with
        | [] => fail .characterRange (String.ofList s)
        | _ :: rest => named name rest
      | c :: rest => named [c] rest
  | _ => .ok none

/-- A set that has a name, if one starts here. -/
def readNamedSet (s : List Char) : Except ParseError (Option (Item × List Char)) :=
  match s with
  | '\\' :: c :: t =>
    match letterSet? c with
    | some i => .ok (some (i, t))
    | none => readProperty s
  | _ => .ok none

/-- A character of a set whose bracket starts at `whole`. -/
def readSetChar (whole : List Char) : List Char → Except ParseError (Nat × List Char)
  | [] => fail .missingBracket (String.ofList whole)
  | '\\' :: t => readEscape ('\\' :: t)
  | c :: t => .ok (c.toNat, t)

/-- A character or range of characters of a set. -/
def readSetRange (whole s : List Char) : Except ParseError (Item × List Char) := do
  let (first, t) ← readSetChar whole s
  match t with
  | '-' :: c :: u =>
    if c == ']' then return (.range first first, t)
    let (last, rest) ← readSetChar whole (c :: u)
    if last < first then fail .characterRange (upTo s rest)
    else return (.range first last, rest)
  | _ => return (.range first first, t)

/-- The parts of a set and what follows its closing bracket. A bracket that comes first does not
close it. Each part takes up a character, so the fuel is the length of what is left. -/
def readItems (whole : List Char) :
    Nat → Bool → List Item → List Char → Except ParseError (List Item × List Char)
  | 0, _, _, _ => fail .missingBracket (String.ofList whole)
  | fuel + 1, isFirst, items, t =>
    if t.head? == some ']' && !isFirst then .ok (items.reverse, t.tail)
    else do
      match ← readColonSet t with
      | some (i, rest) => readItems whole fuel false (i :: items) rest
      | none =>
        match ← readNamedSet t with
        | some (i, rest) => readItems whole fuel false (i :: items) rest
        | none =>
          let (i, rest) ← readSetRange whole t
          readItems whole fuel false (i :: items) rest

/-- A set in brackets, at the first of which `s` starts. -/
def readSet (ignoreCase : Bool) (s : List Char) : Except ParseError (CharSet × List Char) := do
  let (negated, t) :=
    match s.tail with
    | '^' :: t => (true, t)
    | t => (false, t)
  let (items, rest) ← readItems s (t.length + 1) true [] t
  return ({ items, negated, ignoreCase }, rest)

/-! ## Repetitions -/

/-- A number without needless zeros, of which too many digits are not told apart. -/
def readCount? (t : List Char) : Option (Nat × List Char) :=
  let digits := t.takeWhile Char.isDigit
  match digits with
  | [] => none
  | '0' :: _ :: _ => none
  | _ =>
    let n := digits.foldl (fun n c => n * 10 + (c.toNat - '0'.toNat)) 0
    some (n, t.drop digits.length)

/-- The bounds between braces, at the first of which `s` starts. -/
def readBounds? (s : List Char) : Option ((Nat × Option Nat) × List Char) :=
  match readCount? s.tail with
  | none => none
  | some (least, t) =>
    match t with
    | '\x7d' :: rest => some ((least, some least), rest)
    | ',' :: '\x7d' :: rest => some ((least, none), rest)
    | ',' :: u =>
      match readCount? u with
      | some (most, '\x7d' :: rest) => some ((least, some most), rest)
      | _ => none
    | _ => none

/-- The greatest bound of a repetition. -/
def repeatLimit : Nat := 1000

/-! ## The reader -/

structure Flags where
  ignoreCase : Bool := false
  multiline : Bool := false
  /-- Whether a dot matches the end of a line. -/
  dotAll : Bool := false
  deriving Repr, DecidableEq

/-- A group that is being read. -/
structure Group where
  /-- The alternatives that are complete, the last one first. -/
  alternatives : List Expr := []
  /-- The pieces of the one being read, the last one first. -/
  pieces : List Expr := []
  /-- The flags around the group. -/
  outer : Flags := {}

namespace Group

def concatenated : List Expr → Expr
  | [] => .empty
  | [e] => e
  | e :: es => .concat (concatenated es) e

def add (g : Group) (e : Expr) : Group := { g with pieces := e :: g.pieces }

def nextAlternative (g : Group) : Group :=
  { g with alternatives := concatenated g.pieces :: g.alternatives, pieces := [] }

/-- The group as one pattern. -/
def close (g : Group) : Expr :=
  g.alternatives.foldl (fun e a => .either a e) (concatenated g.pieces)

end Group

structure Reader where
  group : Group := {}
  /-- The groups around it, the innermost first. -/
  around : List Group := []
  flags : Flags := {}
  /-- The pattern from the last repetition operator on, if that came just before. -/
  lastRepetition : Option (List Char) := none

namespace Reader

def add (r : Reader) (e : Expr) : Reader := { r with group := r.group.add e }

def addChar (r : Reader) (n : Nat) : Reader := r.add (.char (.single n r.flags.ignoreCase))

def openGroup (r : Reader) : Reader :=
  { r with group := { outer := r.flags }, around := r.group :: r.around }

/-- Repeats the piece before. The operator is what stands between `s` and `rest`. -/
def repetition (r : Reader) (least : Nat) (most : Option Nat) (s rest : List Char) :
    Except ParseError (Reader × List Char) :=
  let rest :=
    match rest with
    | '?' :: t => t
    | t => t
  match r.lastRepetition with
  | some before => fail .nestedRepetition (upTo before rest)
  | none =>
    match r.group.pieces with
    | [] => fail .missingRepetitionArgument (upTo s rest)
    | e :: es =>
      let loop := Expr.loop least most e
      if (2 ≤ least || 2 ≤ most.getD 0) && !loop.withinLimit repeatLimit then
        fail .repeatCount (upTo s rest)
      else
        .ok ({ r with group := { r.group with pieces := loop :: es }, lastRepetition := some s }, rest)

/-- The flags of a group, of which `s` is the whole, and whether a group begins after them. A
second sign, and a minus sign that nothing follows, are refused. -/
def readFlags (s : List Char) (flags : Flags) (on isSet : Bool) :
    List Char → Except ParseError (Flags × Bool × List Char)
  | [] => fail .groupSyntax (String.ofList s)
  | c :: t =>
    match c with
    | 'i' => readFlags s { flags with ignoreCase := on } on true t
    | 'm' => readFlags s { flags with multiline := on } on true t
    | 's' => readFlags s { flags with dotAll := on } on true t
    | 'U' => readFlags s flags on true t
    | '-' => if on then readFlags s flags false false t else fail .groupSyntax (upTo s t)
    | ':' => if on || isSet then .ok (flags, true, t) else fail .groupSyntax (upTo s t)
    | ')' => if on || isSet then .ok (flags, false, t) else fail .groupSyntax (upTo s t)
    | _ => fail .groupSyntax (upTo s t)

/-- A name after its opening bracket. -/
def readName (r : Reader) (s t : List Char) : Except ParseError (Reader × List Char) :=
  let name := t.takeWhile (· != '>')
  match t.drop name.length with
  | [] => fail .namedCapture (String.ofList s)
  | _ :: rest =>
    if name.isEmpty || !name.all isWordChar then fail .namedCapture (upTo s rest)
    else .ok (r.openGroup, rest)

/-- A parenthesis with a question mark, at which `s` starts. -/
def readSpecialGroup (r : Reader) (s t : List Char) : Except ParseError (Reader × List Char) :=
  match t with
  | 'P' :: '<' :: c :: u => r.readName s (c :: u)
  | '<' :: c :: u => r.readName s (c :: u)
  | _ => do
    let (flags, begins, rest) ← readFlags s r.flags true false t
    let r := if begins then r.openGroup else r
    return ({ r with flags }, rest)

def closeGroup (r : Reader) (whole : List Char) : Except ParseError Reader :=
  match r.around with
  | [] => fail .unexpectedParen (String.ofList whole)
  | g :: gs =>
    .ok { r with group := g.add r.group.close, around := gs, flags := r.group.outer }

/-- What stands between a quotation's start and its end, and the rest. -/
def quotation (t : List Char) : List Char × List Char :=
  match afterPair? '\\' 'E' t with
  | some rest => (t.take (t.length - rest.length - 2), rest)
  | none => (t, [])

/-- A backslash, at which `s` starts. -/
def readBackslash (r : Reader) (s : List Char) : Except ParseError (Reader × List Char) :=
  match s.tail with
  | 'A' :: t => .ok (r.add (.boundary .textStart), t)
  | 'b' :: t => .ok (r.add (.boundary .word), t)
  | 'B' :: t => .ok (r.add (.boundary .notWord), t)
  | 'z' :: t => .ok (r.add (.boundary .textEnd), t)
  | 'C' :: t => fail .escape (upTo s t)
  | 'Q' :: t =>
    let (quoted, rest) := quotation t
    .ok (quoted.foldl (fun r c => r.addChar c.toNat) r, rest)
  | _ => do
    match ← readNamedSet s with
    | some (i, rest) =>
      return (r.add (.char { items := [i], ignoreCase := r.flags.ignoreCase }), rest)
    | none =>
      let (n, rest) ← readEscape s
      return (r.addChar n, rest)

/-- A dot. -/
def dot (flags : Flags) : CharSet :=
  if flags.dotAll then { items := [], negated := true }
  else { items := [.range 10 10], negated := true }

/-- Reads on where the pattern is not at its end. -/
def step (whole : List Char) (r : Reader) (c : Char) (t : List Char) :
    Except ParseError (Reader × List Char) :=
  let s := c :: t
  let plain := { r with lastRepetition := none }
  match c with
  | '(' =>
    match t with
    | '?' :: u => plain.readSpecialGroup s u
    | _ => .ok (plain.openGroup, t)
  | '|' => .ok ({ plain with group := r.group.nextAlternative }, t)
  | ')' => do return (← plain.closeGroup whole, t)
  | '^' => .ok (plain.add (.boundary (if r.flags.multiline then .lineStart else .textStart)), t)
  | '$' => .ok (plain.add (.boundary (if r.flags.multiline then .lineEnd else .textEnd)), t)
  | '.' => .ok (plain.add (.char (dot r.flags)), t)
  | '[' => do
    let (set, rest) ← readSet r.flags.ignoreCase s
    return (plain.add (.char set), rest)
  | '*' => r.repetition 0 none s t
  | '+' => r.repetition 1 none s t
  | '?' => r.repetition 0 (some 1) s t
  | '\\' => plain.readBackslash s
  | c =>
    if c != '\x7b' then .ok (plain.addChar c.toNat, t)
    else
      match readBounds? s with
      | none => .ok (plain.addChar c.toNat, t)
      | some ((least, most), rest) =>
        if repeatLimit < least || repeatLimit < most.getD 0 || most.getD least < least then
          fail .repeatCount (upTo s rest)
        else r.repetition least most s rest

/-- Reads on to the end. Each step takes up a character, so the fuel is the length of what is
left. -/
def run (whole : List Char) : Nat → Reader → List Char → Except ParseError Reader
  | 0, r, _ => .ok r
  | _ + 1, r, [] => .ok r
  | fuel + 1, r, c :: t => do
    let (r, rest) ← step whole r c t
    run whole fuel r rest

end Reader

/-- Reads a pattern. -/
def Expr.parse (s : String) : Except ParseError Expr := do
  let whole := s.toList
  let r ← Reader.run whole whole.length {} whole
  if r.around.isEmpty then return r.group.close else fail .missingParen s

end ControlDependence.Pattern
