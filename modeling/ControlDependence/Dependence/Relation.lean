-- SUMMARY: The control-dependence relation as it is built: pairs of an instruction and a branch.
import Std.Data.TreeMap
import ControlDependence.PostDominance.Table

/-!
# The control-dependence relation

The relation holds the branches that each instruction depends on, ascending. For
every branch, the walk from each successor along its post-dominator chain collects
the instructions that depend on the branch; it stops at the branch's own immediate
post-dominator, at the exit or an unset entry, and at the first pair already known.
-/
namespace ControlDependence

/-- Inserts into an ascending list, once. -/
def insertAscending (x : Int) : List Int → List Int
  | [] => [x]
  | y :: ys => if x < y then x :: y :: ys else if x = y then y :: ys else y :: insertAscending x ys

structure Relation where
  controllers : Std.TreeMap Int (List Int)
  /-- The number of pairs. -/
  pairs : Nat
  /-- The number of branches gone through. -/
  branches : Nat

namespace Relation

def empty : Relation := { controllers := ∅, pairs := 0, branches := 0 }

/-- The branches that an instruction depends on, ascending. -/
def controllersOf (r : Relation) (inst : Int) : List Int := r.controllers.getD inst []

def contains (r : Relation) (inst branch : Int) : Bool := (r.controllersOf inst).contains branch

/-- Records a pair. -/
def add (r : Relation) (inst branch : Int) : Relation :=
  if r.contains inst branch then r
  else {
    r with
    controllers := r.controllers.insert inst (insertAscending branch (r.controllersOf inst))
    pairs := r.pairs + 1 }

/-- Walks a chain from `runner` and records every instruction before the stop. -/
def walk (t : Table) (branch : Int) (stop : PostDominator) :
    Nat → PostDominator → Relation → Relation
  | fuel + 1, .instruction i, r =>
    if stop = .instruction i then r
    else if r.contains i branch then r
    else walk t branch stop fuel (t.entry i) (r.add i branch)
  | _, _, r => r

/-- Records what depends on one branch. A walk records a new pair at each step, so it
is over after as many steps as there are instructions. -/
def addBranch (g : Flow) (t : Table) (r : Relation) (branch : Nat) : Relation :=
  (g.succs branch).foldl
    (fun r (s : Nat) => walk t branch (t.entry branch) (g.size + 1) (.instruction s) r)
    { r with branches := r.branches + 1 }

/-- The relation of a whole graph. -/
def ofTable (g : Flow) (t : Table) : Relation := g.branches.foldl (addBranch g t) empty

/-- Instructions with their controllers, ascending. -/
def toList (r : Relation) : List (Int × List Int) := r.controllers.toList

/-- The instructions that each branch controls, ascending. -/
def dependents (r : Relation) : Std.TreeMap Int (List Int) :=
  r.toList.foldl
    (fun m (inst, bs) => bs.foldl (fun m b => m.insert b (m.getD b [] ++ [inst])) m) ∅

end Relation

end ControlDependence
