-- SUMMARY: What an analysis leaves behind: its log records and its trace span.
import ControlDependence.Dependence.Analysis
import ControlDependence.Log.Record
import ControlDependence.Trace.Span

/-!
# The journal of an analysis

Both the records and the span are read off the outcome. An analysis without a body
leaves nothing, and neither does one that crashed.
-/
namespace ControlDependence.Outcome

open Log (Record)
open Trace (Span)

/-- A branch with more dependents than this is worth a warning. -/
def largeController : Int := 100

/-- The records of an analysis that took `elapsed` nanoseconds, without what ties
them to a span. -/
def records (elapsed : Nat) : Outcome → List Record
  | .noBody | .crashed _ => []
  | .rejected _ f =>
    [⟨.debug, "controldeps: malformed body", [.text "error" (Failure.ofFault f).message]⟩]
  | .unsolved s f =>
    [⟨.warn, "controldeps: post-dominator solver failed",
      [.int "passes" s.passes, .text "error" f.message]⟩]
  | .solved a =>
    let st := a.stats
    (if largeController < st.maxDependents then
      [⟨.warn, "controldeps: branch with many dependents",
        [.int "max_dependents" st.maxDependents]⟩]
    else []) ++
    [⟨.debug, "controldeps: computation complete",
      [.int "instructions" st.instructions, .int "ranked" st.ranked, .int "branches" st.branches,
        .int "edges" st.edges, .int "passes" st.passes, .duration "duration" elapsed]⟩]

def tracer : String := "slice.controldeps"

def openSpan (opts : Options) (parent : Trace.Parent) (instructions : Nat) : Span :=
  .start tracer "controldeps.Build" parent
    [.int "instruction_count" instructions, .bool "exit_roots" opts.exitRoots]

/-- The span of an analysis. -/
def span? (opts : Options) (parent : Trace.Parent) : Outcome → Option Span
  | .noBody | .crashed _ => none
  | .rejected code f =>
    some ((openSpan opts parent code.size).recordError (Failure.ofFault f).message [])
  | .unsolved s f =>
    some (((openSpan opts parent s.flow.size).addEvent "postorder_complete"
      [.int "ranked" s.numbering.sequence.length]).recordError f.message [.int "passes" s.passes])
  | .solved a =>
    let st := a.stats
    let s := openSpan opts parent a.code.size
    let s := s.addEvent "postorder_complete" [.int "ranked" st.ranked]
    let s := s.addEvent "postdom_complete" [.int "passes" st.passes]
    let s := s.addEvent "dependencies_complete" [.int "branches" st.branches, .int "edges" st.edges]
    let s := s.setAttrs [.int "edge_count" st.edges, .int "passes" st.passes,
      .int "unresolved" st.unresolved]
    some s.setOk

end ControlDependence.Outcome
