-- SUMMARY: Entries and tables of immediate post-dominators, and the meet of two chains.
import ControlDependence.PostDominance.Numbering

/-!
# Tables of immediate post-dominators

The method exit is not an instruction, so an entry has three forms: not known, the
exit, or an instruction. Following entries from an instruction gives its chain,
whose top is the exit. `Table.intersect` finds where two chains meet by advancing,
of two fingers, the one at the lower rank.
-/
namespace ControlDependence

/-- An immediate post-dominator. -/
inductive PostDominator where
  | unset
  | exit
  | instruction (index : Int)
  deriving Repr, DecidableEq

namespace PostDominator

def isResolved : PostDominator → Bool
  | .unset => false
  | _ => true

def isExit : PostDominator → Bool
  | .exit => true
  | _ => false

def index? : PostDominator → Option Int
  | .instruction i => some i
  | _ => none

/-- The name of an entry's form. -/
def form : PostDominator → String
  | .unset => "unset"
  | .exit => "exit"
  | .instruction _ => "instruction"

def render : PostDominator → String
  | .instruction i => toString i
  | p => p.form

/-- The name of a form by its number. -/
def formName : UInt8 → String
  | 0 => "unset"
  | 1 => "exit"
  | 2 => "instruction"
  | _ => "unknown"

end PostDominator

/-- Entries by position. -/
abbrev Table := Array PostDominator

namespace Table

def blank (n : Nat) : Table := Array.replicate n .unset

/-- The entry at an index, unset where there is none. -/
def entry (t : Table) (index : Int) : PostDominator :=
  if index < 0 then .unset else t.getD index.toNat .unset

/-- How many entries are unset. -/
def unresolved (t : Table) : Nat := (t.toList.filter fun p => !p.isResolved).length

/-- What can go wrong on a walk along two chains. -/
inductive WalkFault where
  | endless
  | unranked (a b : PostDominator)
  deriving Repr, DecidableEq

def WalkFault.detail : WalkFault → String
  | .endless => "post-dominator chain does not terminate"
  | .unranked a b => s!"unranked instruction in post-dominator chain ({a.render}, {b.render})"

/-- The more steps a walk takes than this, the more certainly the table has a cycle. -/
def walkLimit (t : Table) : Nat := 2 * t.size + 2

/-- Walks two chains until they meet. `none` means that the walk ran into an unset
entry. -/
def walk (o : Numbering) (t : Table) : Nat → PostDominator → PostDominator →
    Except WalkFault (Option PostDominator)
  | fuel, a, b =>
    if a = b then .ok (some a)
    else
      match a, b with
      | .exit, _ => .ok (some .exit)
      | _, .exit => .ok (some .exit)
      | .unset, _ => .ok none
      | _, .unset => .ok none
      | .instruction i, .instruction j =>
        match fuel with
        | 0 => .error .endless
        | fuel + 1 =>
          if !o.isRanked i || !o.isRanked j then .error (.unranked (.instruction i) (.instruction j))
          else if o.rank i < o.rank j then walk o t fuel (t.entry i) (.instruction j)
          else walk o t fuel (.instruction i) (t.entry j)

/-- The first entry that the chains of `a` and `b` share. -/
def intersect (o : Numbering) (t : Table) (a b : PostDominator) :
    Except WalkFault (Option PostDominator) :=
  walk o t (t.walkLimit + 1) a b

/-- Meets a candidate with the chain of one more resolved successor. -/
def meetWith (o : Numbering) (t : Table) :
    PostDominator → List Nat → Except WalkFault (Option PostDominator)
  | candidate, [] => .ok (if candidate.isResolved then some candidate else none)
  | .unset, j :: rest => meetWith o t (.instruction j) rest
  | candidate, j :: rest => do
    match ← intersect o t (.instruction j) candidate with
    | some met => meetWith o t met rest
    | none => return none

/-- The meet of the resolved successors of an instruction other than itself.
`none` means that none is resolved yet or that a meet is put off. -/
def meet (g : Flow) (o : Numbering) (t : Table) (i : Nat) :
    Except WalkFault (Option PostDominator) :=
  meetWith o t .unset ((g.succs i).filter fun j => j ≠ i && (t.entry j).isResolved)

end Table

end ControlDependence
