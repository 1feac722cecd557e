-- SUMMARY: A place in a YAML text that is being read, and moving on from it.
import ControlDependence.Yaml.Character

/-!
# Readers

A reader is the rest of a text together with the line and column where it starts.
-/
namespace ControlDependence.Yaml

structure Reader where
  rest : List Char
  line : Nat := 1
  column : Nat := 0
  /-- How many characters have been read. -/
  index : Nat := 0

namespace Reader

def peek (r : Reader) : Option Char := r.rest.head?

def peekAt (r : Reader) (k : Nat) : Option Char := r.rest[k]?

/-- Whether the text ends, or a blank or line break stands, `k` characters on. -/
def isBlankAt (r : Reader) (k : Nat) : Bool :=
  (r.peekAt k).elim true fun c => isSpaceOrTab c || isBreak c

/-- Whether a line break stands here or the text ends. -/
def atLineEnd (r : Reader) : Bool := r.peek.elim true isBreak

/-- Moves past a character of the same line. -/
def skip (r : Reader) : Reader :=
  match r.rest with
  | [] => r
  | _ :: cs => { rest := cs, line := r.line, column := r.column + 1, index := r.index + 1 }

def skipMany : Nat → Reader → Reader
  | 0, r => r
  | n + 1, r => skipMany n r.skip

/-- Moves past a line break, of two characters if they belong together. -/
def skipLine (r : Reader) : Reader :=
  match r.rest with
  | '\r' :: '\n' :: cs => { rest := cs, line := r.line + 1, column := 0, index := r.index + 2 }
  | _ :: cs => { rest := cs, line := r.line + 1, column := 0, index := r.index + 1 }
  | [] => r

/-- What a line break here contributes to a text: its own character if it separates
lines or paragraphs, and a line feed otherwise. -/
def lineText (r : Reader) : String :=
  match r.rest with
  | c :: _ => if c.toNat = 0x2028 || c.toNat = 0x2029 then c.toString else if isBreak c then "\n" else ""
  | [] => ""

/-- Reads the characters of one line while a test holds. -/
def readWhile (p : Char → Bool) : Nat → Reader → String → String × Reader
  | 0, r, text => (text, r)
  | fuel + 1, r, text =>
    match r.rest with
    | [] => (text, r)
    | c :: _ => if p c then readWhile p fuel r.skip (text.push c) else (text, r)

/-- Moves on while a test holds of the characters of one line. -/
def skipWhile (p : Char → Bool) : Nat → Reader → Reader
  | 0, r => r
  | fuel + 1, r =>
    match r.rest with
    | [] => r
    | c :: _ => if p c then skipWhile p fuel r.skip else r

/-- Moves to the end of the line. -/
def skipToLineEnd (fuel : Nat) (r : Reader) : Reader := r.skipWhile (fun c => !isBreak c) fuel

/-- Whether a document starts or ends here. -/
def atDocumentMark (r : Reader) : Bool :=
  r.column = 0 && r.isBlankAt 3 &&
    match r.rest with
    | '-' :: '-' :: '-' :: _ => true
    | '.' :: '.' :: '.' :: _ => true
    | _ => false

end Reader

end ControlDependence.Yaml
