-- SUMMARY: The control dependencies of one method: computing them and asking about them.
import ControlDependence.PostDominance.Solver
import ControlDependence.Dependence.Relation

/-!
# Analysing a method

`Outcome.of` checks the graph contract, numbers the reversed graph, solves for
immediate post-dominators and builds the relation. An outcome says how far it got;
`Outcome.result` is the analysis or the failure that the caller sees. The check may be
skipped for code that is known to pass it.
-/
namespace ControlDependence

structure Options where
  /-- Whether every exit is a root of the numbering, or only the last instruction. -/
  exitRoots : Bool := true
  /-- The bound on passes; automatic unless positive. -/
  maxPasses : Int := 0
  skipValidation : Bool := false
  deriving Repr, DecidableEq

/-- The figures of an analysis. -/
structure Stats where
  instructions : Int
  ranked : Int
  branches : Int
  edges : Int
  passes : Int
  unresolved : Int
  nodesWithDependencies : Int
  controllers : Int
  maxDependencies : Int
  maxDependents : Int
  deriving Repr, DecidableEq

/-- The solved control dependencies of a method. -/
structure Analysis where
  code : Code
  numbering : Numbering
  table : Table
  passes : Nat
  relation : Relation
  dependents : Std.TreeMap Int (List Int)

/-- The greatest length among the lists of a map, 0 if there is none. -/
def greatestLength (m : Std.TreeMap Int (List Int)) : Nat :=
  m.toList.foldl (fun most e => max most e.2.length) 0

namespace Analysis

def ofSolver (code : Code) (s : Solver) : Analysis :=
  let relation := Relation.ofTable s.flow s.table
  { code
    numbering := s.numbering
    table := s.table
    passes := s.passes
    relation
    dependents := relation.dependents }

def stats (a : Analysis) : Stats where
  instructions := a.code.size
  ranked := a.numbering.sequence.length
  branches := a.relation.branches
  edges := a.relation.pairs
  passes := a.passes
  unresolved := a.table.unresolved
  nodesWithDependencies := a.relation.controllers.size
  controllers := a.dependents.size
  maxDependencies := greatestLength a.relation.controllers
  maxDependents := greatestLength a.dependents

/-- The branches that decide whether an instruction executes, ascending. -/
def controllersOf (a : Analysis) (inst : Int) : List Int := a.relation.controllersOf inst

/-- The instructions whose execution a branch decides, ascending. -/
def dependentsOf (a : Analysis) (branch : Int) : List Int := a.dependents.getD branch []

/-- Binary search for the first position at which an ascending array reaches `x`. -/
def lowerBound (xs : Array Int) (x : Int) : Nat → (lo hi : Nat) → Nat
  | 0, lo, _ => lo
  | fuel + 1, lo, hi =>
    if lo < hi then
      let mid := (lo + hi) / 2
      if xs.getD mid 0 < x then lowerBound xs x fuel (mid + 1) hi else lowerBound xs x fuel lo mid
    else lo

def isDependent (a : Analysis) (inst branch : Int) : Bool :=
  let xs := (a.controllersOf inst).toArray
  xs[lowerBound xs branch xs.size 0 xs.size]? = some branch

def isController (a : Analysis) (inst : Int) : Bool := !(a.dependentsOf inst).isEmpty

/-- The branches of `deps` that are not in `chain`, appended to it in order; the
second list is what was appended. -/
def extendChain (chain deps : List Int) : List Int × List Int :=
  deps.foldl
    (fun (chain, fresh) b => if chain.contains b then (chain, fresh) else (chain ++ [b], fresh ++ [b]))
    (chain, [])

/-- Widens a chain level by level; `queue` is the level reached last. -/
def widen (a : Analysis) : Nat → (chain queue : List Int) → List Int
  | 0, chain, _ => chain
  | depth + 1, chain, queue =>
    if queue.isEmpty then chain
    else
      let (chain, fresh) := extendChain chain (queue.flatMap a.controllersOf)
      widen a depth chain fresh

/-- The controllers of an instruction, their controllers and so on, at most `depth`
levels, breadth first and each once. -/
def chain (a : Analysis) (inst depth : Int) : List Int := a.widen depth.toNat [] [inst]

def immediatePostDominator (a : Analysis) (inst : Int) : PostDominator := a.table.entry inst

/-- The rank of an instruction that the numbering reached. -/
def rank? (a : Analysis) (inst : Int) : Option Nat :=
  if a.numbering.isRanked inst then some (a.numbering.rank inst) else none

end Analysis

/-- How far an analysis got. -/
inductive Outcome where
  | noBody
  | rejected (code : Code) (fault : Fault)
  /-- The check was skipped, and the code lacks an instruction or a neighbour that it names. To
  ask for that brings down the whole program. Such code counts as crashed even if the
  analysis would never come to ask for it. -/
  | crashed (code : Code)
  | unsolved (solver : Solver) (failure : Failure)
  | solved (analysis : Analysis)

namespace Outcome

/-- Analyses a method's code. The solver asks before each pass whether it was cut off. -/
def of (opts : Options) (cut : Option Cutoff) : Option Code → Outcome
  | none => .noBody
  | some code =>
    match if opts.skipValidation then .ok () else code.check with
    | .error fault => .rejected code fault
    | .ok () =>
      if code.isReadable then
        let flow := code.flow
        let numbering := Numbering.ofFlow flow opts.exitRoots
        match (Solver.init flow numbering opts.maxPasses).solve cut with
        | (s, some f) => .unsolved s f
        | (s, none) => .solved (Analysis.ofSolver code s)
      else .crashed code

def result : Outcome → Except Failure Analysis
  | .noBody => .error .nilBody
  | .rejected _ f => .error (.noted "validate body" (.ofFault f))
  | .crashed _ => .error .crashed
  | .unsolved _ f => .error f
  | .solved a => .ok a

end Outcome

end ControlDependence
