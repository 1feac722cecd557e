-- SUMMARY: Why an analysis fails: the causes, their texts and their classification.
import ControlDependence.Graph.Body

/-!
# Failures of an analysis

A failure is a cause inside any number of notes on where it happened. The text puts
the notes in front; the classification looks through them.
-/
namespace ControlDependence

/-- Why a run was asked to stop. -/
inductive Interruption where
  | canceled
  | deadlineExceeded
  deriving Repr, DecidableEq

def Interruption.message : Interruption → String
  | .canceled => "context canceled"
  | .deadlineExceeded => "context deadline exceeded"

/-- The classes of failure that metrics and reports count. -/
inductive FailureKind where
  | malformed
  | noConvergence
  | invariant
  | nilBody
  | canceled
  | other
  deriving Repr, DecidableEq

def FailureKind.name : FailureKind → String
  | .malformed => "malformed"
  | .noConvergence => "no_convergence"
  | .invariant => "invariant"
  | .nilBody => "nil_body"
  | .canceled => "canceled"
  | .other => "other"

/-- The two ways in which the fixpoint can break down. -/
inductive Breakdown where
  | noConvergence
  | invariant
  deriving Repr, DecidableEq

def Breakdown.message : Breakdown → String
  | .noConvergence => "post-dominator fixpoint did not converge"
  | .invariant => "control dependence invariant violated"

inductive Failure where
  /-- A graph breaks the contract, with no particulars. -/
  | malformed
  /-- A graph breaks the contract at an instruction and, unless negative, a neighbour. -/
  | graph (instruction neighbour : Int) (reason : String)
  /-- The fixpoint broke down, at an instruction unless that is negative. -/
  | breakdown (kind : Breakdown) (instruction passes : Int) (detail : String)
  /-- The fixpoint broke down, with no particulars. -/
  | broken (kind : Breakdown)
  | nilBody
  | interrupted (cause : Interruption)
  | body (cause : BodyError)
  | plain (text : String)
  /-- The program broke down. Nobody is left to be told. -/
  | crashed
  /-- A failure with a note on where it happened. -/
  | noted (note : String) (cause : Failure)
  /-- The failure of a method that ended a whole run. -/
  | method (name : String) (cause : Failure)
  deriving Repr, DecidableEq

namespace Failure

def malformedMessage : String := "malformed instruction graph"

def methodMessage : String := "method analysis failed"

def message : Failure → String
  | .malformed => malformedMessage
  | .graph i j reason =>
    if j < 0 then s!"{malformedMessage}: instruction {i}: {reason}"
    else s!"{malformedMessage}: instruction {i} -> {j}: {reason}"
  | .breakdown k i passes detail =>
    if i < 0 then s!"{k.message} after {passes} passes: {detail}"
    else s!"{k.message} at instruction {i} after {passes} passes: {detail}"
  | .broken k => k.message
  | .nilBody => "code body must not be nil"
  | .interrupted c => c.message
  | .body c => c.message
  | .plain t => t
  | .crashed => "crashed"
  | .noted n c => s!"{n}: {c.message}"
  | .method _ c => s!"{methodMessage}: {c.message}"

/-- The cause inside all notes. -/
def root : Failure → Failure
  | .noted _ c => c.root
  | .method _ c => c.root
  | f => f

def kind (f : Failure) : FailureKind :=
  match f.root with
  | .malformed => .malformed
  | .graph .. => .malformed
  | .breakdown .noConvergence .. => .noConvergence
  | .breakdown .invariant .. => .invariant
  | .broken .noConvergence => .noConvergence
  | .broken .invariant => .invariant
  | .nilBody => .nilBody
  | .interrupted _ => .canceled
  | _ => .other

/-- The method that ended the run, if the failure came from one. -/
def method? : Failure → Option String
  | .noted _ c => c.method?
  | .method n _ => some n
  | _ => none

def ofFault (f : Fault) : Failure := .graph f.instruction f.neighbour f.violation.reason

end Failure

end ControlDependence
