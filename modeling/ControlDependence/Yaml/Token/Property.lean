-- SUMMARY: Reading anchors, aliases, tags and directives.
import ControlDependence.Yaml.Token
import ControlDependence.Yaml.Token.Reader
import ControlDependence.Yaml.Number

/-!
# Anchors, tags and directives
-/
namespace ControlDependence.Yaml

/-- Reads the name of an anchor or alias, whose mark has been read. -/
def readName (fuel : Nat) (r : Reader) : Option (String × Reader) :=
  let (name, r) := r.readWhile isNameChar fuel ""
  let ends := r.isBlankAt 0 || r.peek.elim false fun c => "?:,]\x7d%@`".toList.contains c
  if !name.isEmpty && ends then some (name, r) else none

/-! ## Tags -/

def isTagChar (c : Char) : Bool := isNameChar c || ";/?:@&=+$,.!~*'()[]%".toList.contains c

/-- The value of an octet written with a percent sign and two digits. -/
def octet? : List Char → Option Nat
  | '%' :: a :: b :: _ => digits? 16 [a, b]
  | _ => none

/-- How many octets a character with this first octet takes. -/
def octetCount (n : Nat) : Nat :=
  if n < 0x80 then 1
  else if 0xC0 ≤ n && n < 0xE0 then 2
  else if 0xE0 ≤ n && n < 0xF0 then 3
  else if 0xF0 ≤ n && n < 0xF8 then 4
  else 0

/-- The octets after the first of a character. -/
def readOctets : Nat → Nat → Reader → Option (Nat × Reader)
  | 0, code, r => some (code, r)
  | n + 1, code, r =>
    match octet? r.rest with
    | some o =>
      if 0x80 ≤ o && o < 0xC0 then readOctets n (code * 64 + (o - 0x80)) (r.skipMany 3) else none
    | none => none

/-- A character written by its octets. -/
def readOctetChar (r : Reader) : Option (Char × Reader) := do
  let o ← octet? r.rest
  match octetCount o with
  | 1 => some (Char.ofNat o, r.skipMany 3)
  | 2 => (readOctets 1 (o - 0xC0) (r.skipMany 3)).map fun (n, r) => (Char.ofNat n, r)
  | 3 => (readOctets 2 (o - 0xE0) (r.skipMany 3)).map fun (n, r) => (Char.ofNat n, r)
  | 4 => (readOctets 3 (o - 0xF0) (r.skipMany 3)).map fun (n, r) => (Char.ofNat n, r)
  | _ => none

def readTagChars : Nat → Reader → String → Option (String × Reader)
  | 0, _, _ => none
  | fuel + 1, r, text =>
    match r.peek with
    | none => some (text, r)
    | some c =>
      if c == '%' then
        match readOctetChar r with
        | none => none
        | some (d, r) => readTagChars fuel r (text.push d)
      else if isTagChar c then readTagChars fuel r.skip (text.push c)
      else some (text, r)

/-- Reads the rest of a tag after a part that has been read already. -/
def readTagRest (fuel : Nat) (lead : String) (mustGrow : Bool) (r : Reader) : Option (String × Reader) := do
  let (text, r) ← readTagChars fuel r ""
  if mustGrow && text.isEmpty then none else some (lead ++ text, r)

/-- Reads a tag handle: an exclamation mark, a name and perhaps a second mark. -/
def readHandle (fuel : Nat) (r : Reader) : String × Reader :=
  let (name, r) := r.skip.readWhile isNameChar fuel ""
  if r.peek = some '!' then ("!" ++ name ++ "!", r.skip) else ("!" ++ name, r)

/-- Reads a tag, which starts here. -/
def readTag (fuel : Nat) (r : Reader) : Option (TokenKind × Reader) := do
  let (kind, r) ←
    if r.peekAt 1 = some '<' then do
      let (suffix, r) ← readTagRest fuel "" true r.skip.skip
      if r.peek = some '>' then some (TokenKind.tag "" suffix, r.skip) else none
    else
      let (handle, r') := readHandle fuel r
      if 1 < handle.length && handle.endsWith "!" then do
        let (suffix, r) ← readTagRest fuel "" true r'
        some (TokenKind.tag handle suffix, r)
      else do
        let (suffix, r) ← readTagRest fuel (handle.drop 1).toString false r'
        some (if suffix.isEmpty then TokenKind.tag "" "!" else TokenKind.tag "!" suffix, r)
  if r.isBlankAt 0 then some (kind, r) else none

/-! ## Directives -/

/-- Reads a number of at most nine digits. -/
def readVersionPart (fuel : Nat) (r : Reader) : Option (Nat × Reader) := do
  let (ds, r) := r.readWhile Char.isDigit fuel ""
  if ds.isEmpty || 9 < ds.length then none
  else
    let n ← digits? 10 ds.toList
    some (n, r)

def readVersion (fuel : Nat) (r : Reader) : Option (TokenKind × Reader) := do
  let (major, r) ← readVersionPart fuel (r.skipWhile isSpaceOrTab fuel)
  if r.peek = some '.' then
    let (minor, r) ← readVersionPart fuel r.skip
    some (.versionDirective major minor, r)
  else none

def readTagDirective (fuel : Nat) (r : Reader) : Option (TokenKind × Reader) := do
  let r := r.skipWhile isSpaceOrTab fuel
  if r.peek ≠ some '!' then none
  else
    let (handle, r) := readHandle fuel r
    if handle ≠ "!" && !handle.endsWith "!" then none
    else if !(r.peek.elim false isSpaceOrTab) then none
    else
      let (lead, r) ← readTagRest fuel "" true (r.skipWhile isSpaceOrTab fuel)
      if r.isBlankAt 0 then some (.tagDirective handle lead, r) else none

/-- Reads a directive, which starts here, to the end of its line. -/
def readDirective (fuel : Nat) (r : Reader) : Option (TokenKind × Reader) := do
  let (name, r) := r.skip.readWhile isNameChar fuel ""
  if name.isEmpty || !r.isBlankAt 0 then none
  else
    let (kind, r) ←
      match name with
      | "YAML" => readVersion fuel r
      | "TAG" => readTagDirective fuel r
      | _ => none
    let r := r.skipWhile isSpaceOrTab fuel
    let r := if r.peek = some '#' then r.skipToLineEnd fuel else r
    if r.atLineEnd then some (kind, r.skipLine) else none

end ControlDependence.Yaml
