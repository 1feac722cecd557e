-- SUMMARY: Patterns over text and the places where they match.
import ControlDependence.Text.CaseFold
import ControlDependence.Text.Ranges

/-!
# Patterns

A pattern is matched from a place of a text on, and the result is the set of places where
such a match can end. It is found anywhere in a text if it has a match from some place on.
-/
namespace ControlDependence.Pattern

/-- A part of a set of characters. -/
inductive Item where
  /-- The code points from one to another. -/
  | range (first last : Nat)
  /-- The members of any of some tables, or all others. -/
  | tables (sets : List Text.Ranges) (negated : Bool)

structure CharSet where
  items : List Item
  negated : Bool := false
  /-- Whether what differs only in case belongs to the set. -/
  ignoreCase : Bool := false

namespace Item

def covers (i : Item) (n : Nat) : Bool :=
  match i with
  | .range first last => first ≤ n && n ≤ last
  | .tables sets _ => sets.any fun s => Text.Ranges.searchBetween s n 0 s.size

def isNegated : Item → Bool
  | .range .. => false
  | .tables _ negated => negated

/-- Whether a character belongs to a part, given all that differs from it only in case. -/
def contains (i : Item) (variants : List Nat) : Bool := variants.any i.covers != i.isNegated

end Item

namespace CharSet

def single (n : Nat) (ignoreCase : Bool) : CharSet := { items := [.range n n], ignoreCase }

def contains (s : CharSet) (c : Char) : Bool :=
  let variants := if s.ignoreCase then Text.caseVariants c.toNat else [c.toNat]
  (s.items.any fun i => i.contains variants) != s.negated

end CharSet

/-- A condition on a place. -/
inductive Boundary where
  | textStart
  | textEnd
  | lineStart
  | lineEnd
  | word
  | notWord
  deriving Repr, DecidableEq

inductive Expr where
  | empty
  | char (s : CharSet)
  | boundary (b : Boundary)
  | concat (a b : Expr)
  | either (a b : Expr)
  /-- Repetition at least so often and, unless there is no bound, at most so often. -/
  | loop (least : Nat) (most : Option Nat) (e : Expr)

/-! ## Matching -/

def isWordChar (c : Char) : Bool := c.isAlphanum || c == '_'

/-- A text as its characters. -/
abbrev Text := Array Char

namespace Boundary

def wordBefore (t : Text) (i : Nat) : Bool := 0 < i && (t[i - 1]?.map isWordChar).getD false

def wordAfter (t : Text) (i : Nat) : Bool := (t[i]?.map isWordChar).getD false

def holds (t : Text) (i : Nat) : Boundary → Bool
  | .textStart => i = 0
  | .textEnd => i = t.size
  | .lineStart => i = 0 || t[i - 1]? == some '\n'
  | .lineEnd => i = t.size || t[i]? == some '\n'
  | .word => wordBefore t i != wordAfter t i
  | .notWord => wordBefore t i == wordAfter t i

end Boundary

/-- The different places to which a step leads from any of some places. -/
def advance (step : Nat → List Nat) (places : List Nat) : List Nat :=
  (places.flatMap step).eraseDups

/-- The places after exactly so many steps. -/
def advanceTimes (step : Nat → List Nat) : Nat → List Nat → List Nat
  | 0, places => places
  | n + 1, places => advanceTimes step n (advance step places)

/-- The places after at most so many steps. -/
def advanceUpTo (step : Nat → List Nat) : Nat → List Nat → List Nat
  | 0, places => places
  | n + 1, places =>
    let new := (advance step places).filter fun p => !places.contains p
    if new.isEmpty then places else advanceUpTo step n (places ++ new)

namespace Expr

/-- The places where a match from a place on can end. A repetition without bound need not be
tried more often than there are places. -/
def ends (t : Text) : Expr → Nat → List Nat
  | .empty, i => [i]
  | .char s, i =>
    match t[i]? with
    | some c => if s.contains c then [i + 1] else []
    | none => []
  | .boundary b, i => if b.holds t i then [i] else []
  | .concat a b, i => advance (b.ends t) (a.ends t i)
  | .either a b, i => (a.ends t i ++ b.ends t i).eraseDups
  | .loop least most e, i =>
    let needed := advanceTimes (e.ends t) least [i]
    match most with
    | some m => advanceUpTo (e.ends t) (m - least) needed
    | none => advanceUpTo (e.ends t) (t.size + 1) needed

/-- Whether a pattern matches somewhere in a text. -/
def isIn (e : Expr) (s : String) : Bool :=
  let t := s.toList.toArray
  (List.range (t.size + 1)).any fun i => !(e.ends t i).isEmpty

/-- Whether the bounds of repetitions inside one another multiply to no more than a limit. -/
def withinLimit (limit : Nat) : Expr → Bool
  | .empty => true
  | .char _ => true
  | .boundary _ => true
  | .concat a b => a.withinLimit limit && b.withinLimit limit
  | .either a b => a.withinLimit limit && b.withinLimit limit
  | .loop least most e =>
    if most == some 0 then true
    else
      let m := most.getD least
      if limit < m then false else e.withinLimit (if m = 0 then limit else limit / m)

end Expr

end ControlDependence.Pattern
