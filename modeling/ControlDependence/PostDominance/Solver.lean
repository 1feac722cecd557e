-- SUMMARY: The fixpoint that solves a table of immediate post-dominators pass by pass.
import ControlDependence.Failure
import ControlDependence.PostDominance.Table

/-!
# Solving for post-dominators

A pass goes through the numbered instructions from the highest rank down. An exit
resolves to the method exit; any other instruction takes the meet of its resolved
successors and keeps its entry while there is none. The passes end with the first
that changes nothing. Before each pass the solver checks the bound on passes and
then whether the run has been cut off.
-/
namespace ControlDependence

/-- When a run is cut off: the first `polls` questions whether to stop are answered
with no, all later ones with `cause`. -/
structure Cutoff where
  polls : Nat
  cause : Interruption
  deriving Repr, DecidableEq

/-- The answer to a question asked after `asked` others; no cutoff never stops. -/
def Cutoff.answer (cut : Option Cutoff) (asked : Nat) : Option Interruption :=
  match cut with
  | some c => if c.polls ≤ asked then some c.cause else none
  | none => none

/-- A pass under way. After a fault the rest of the pass is skipped. -/
structure Pass where
  table : Table
  changed : Bool
  fault : Option (Nat × Table.WalkFault)
  deriving Repr, DecidableEq

namespace Pass

def start (t : Table) : Pass := { table := t, changed := false, fault := none }

/-- Stores an entry and notes whether it differs from the one before. -/
def store (p : Pass) (i : Nat) (e : PostDominator) : Pass :=
  if p.table.entry i = e then p
  else { p with table := p.table.setIfInBounds i e, changed := true }

def step (g : Flow) (o : Numbering) (p : Pass) (i : Nat) : Pass :=
  if p.fault.isSome then p
  else if g.isExit i then p.store i .exit
  else
    match p.table.meet g o i with
    | .ok (some e) => p.store i e
    | .ok none => p
    | .error f => { p with fault := some (i, f) }

/-- One pass over the sequence. -/
def run (g : Flow) (o : Numbering) (t : Table) : Pass :=
  o.sequence.foldl (step g o) (start t)

end Pass

/-- A solver between passes. -/
structure Solver where
  flow : Flow
  numbering : Numbering
  table : Table
  bound : Nat
  passes : Nat
  deriving Repr, DecidableEq

namespace Solver

/-- Two passes more than there are ranked instructions, unless a positive bound is given. -/
def boundFor (o : Numbering) (maxPasses : Int) : Nat :=
  if maxPasses ≤ 0 then o.sequence.length + 2 else maxPasses.toNat

def init (g : Flow) (o : Numbering) (maxPasses : Int) : Solver where
  flow := g
  numbering := o
  table := Table.blank g.size
  bound := boundFor o maxPasses
  passes := 0

def walkFailure (s : Solver) (owner : Int) (f : Table.WalkFault) : Failure :=
  .breakdown .invariant owner s.passes f.detail

def boundFailure (s : Solver) : Failure :=
  .breakdown .noConvergence (-1) s.passes s!"pass bound {s.bound} reached"

/-- The solver after one more pass, with whether an entry changed and the fault that
ended the pass early. -/
def pass (s : Solver) : Solver × Bool × Option (Nat × Table.WalkFault) :=
  let p := Pass.run s.flow s.numbering s.table
  ({ s with table := p.table, passes := s.passes + 1 }, p.changed, p.fault)

/-- Passes until nothing changes, as many as the fuel allows. -/
def loop (cut : Option Cutoff) : (fuel asked : Nat) → Solver → Solver × Option Failure
  | 0, _, s => (s, some s.boundFailure)
  | fuel + 1, asked, s =>
    match Cutoff.answer cut asked with
    | some c => (s, some (.interrupted c))
    | none =>
      match s.pass with
      | (s', _, some (i, f)) => (s', some (s'.walkFailure i f))
      | (s', true, none) => loop cut fuel (asked + 1) s'
      | (s', false, none) => (s', none)

/-- Solves within the bound. The passes of earlier calls count towards it. -/
def solve (cut : Option Cutoff) (s : Solver) : Solver × Option Failure :=
  loop cut (s.bound - s.passes) 0 s

/-- The meet of an instruction's successors at the current table. -/
def meet (s : Solver) (i : Nat) : Except Failure (Option PostDominator) :=
  (s.table.meet s.flow s.numbering i).mapError (s.walkFailure i)

/-- The meet of two chains of the current table, on behalf of `owner`. -/
def intersect (s : Solver) (owner : Int) (a b : PostDominator) :
    Except Failure (Option PostDominator) :=
  (s.table.intersect s.numbering a b).mapError (s.walkFailure owner)

end Solver

end ControlDependence
