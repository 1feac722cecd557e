-- SUMMARY: Post-order numbering of the reversed flow graph by depth-first search with an explicit stack.
import ControlDependence.Graph.Flow

/-!
# Numbering the reversed graph

Instructions are numbered in the order in which a depth-first search along
predecessor edges leaves them. The search starts at the last instruction and, when
asked to, goes on at every other exit that it has not met, in index order. Ranks
start at 1 and are dense; an instruction the search never met has rank 0.

An instruction is met when it is first on top of the stack: its unmet predecessors
go above it, the first of them on top. It is left when it is on top again.
-/
namespace ControlDependence

structure Numbering where
  /-- Instructions in the opposite of the order in which the search left them. -/
  sequence : List Nat
  /-- Ranks by position. -/
  ranks : Array Nat
  deriving Repr, DecidableEq

namespace Numbering

/-- The rank of an index, 0 where there is none. -/
def rank (o : Numbering) (index : Int) : Nat :=
  if index < 0 then 0 else o.ranks.getD index.toNat 0

def isRanked (o : Numbering) (index : Int) : Bool := 0 < o.rank index

end Numbering

/-- A search under way. -/
structure Search where
  /-- Pending instructions, top first. -/
  stack : List Nat
  met : Array Bool
  /-- Instructions left so far, the latest first. -/
  left : List Nat
  ranks : Array Nat
  deriving Repr, DecidableEq

namespace Search

def start (n : Nat) : Search where
  stack := []
  met := Array.replicate n false
  left := []
  ranks := Array.replicate n 0

/-- Whether the search has met a position; positions outside the graph count as met. -/
def hasMet (s : Search) (i : Nat) : Bool := s.met.getD i true

/-- Handles the top of the stack. -/
def step (g : Flow) (s : Search) : Search :=
  match s.stack with
  | [] => s
  | top :: rest =>
    if s.hasMet top then
      if s.ranks.getD top 1 = 0 then
        { s with
          stack := rest
          left := top :: s.left
          ranks := s.ranks.setIfInBounds top (s.left.length + 1) }
      else { s with stack := rest }
    else
      let met := s.met.setIfInBounds top true
      let fresh := (g.preds top).filter fun p => !met.getD p true
      { s with stack := fresh ++ s.stack, met }

/-- Runs until the stack is empty or the fuel is spent. -/
def run (g : Flow) : Nat → Search → Search
  | 0, s => s
  | fuel + 1, s => if s.stack.isEmpty then s else run g fuel (s.step g)

/-- Enough steps for any search of the graph: every entry of the stack is dropped
once, every instruction is met once, and entries come from predecessor lists. -/
def budget (g : Flow) : Nat :=
  1 + g.size + (g.links.toList.map (·.preds.length)).foldr (· + ·) 0

/-- Searches from one root. -/
def visit (g : Flow) (s : Search) (root : Nat) : Search :=
  run g (budget g) { s with stack := [root] }

end Search

namespace Numbering

/-- Exits that may serve as further roots, in index order. -/
def exitRoots (g : Flow) : List Nat := (List.range (g.size - 1)).filter g.isExit

/-- Numbers the instructions that the search meets. -/
def ofFlow (g : Flow) (useExits : Bool) : Numbering :=
  if g.size = 0 then { sequence := [], ranks := #[] }
  else
    let s := (Search.start g.size).visit g (g.size - 1)
    let s :=
      if useExits then
        (exitRoots g).foldl (fun s i => if s.hasMet i then s else s.visit g i) s
      else s
    { sequence := s.left, ranks := s.ranks }

end Numbering

end ControlDependence
