-- SUMMARY: The report on a run as a document: one section per method, one line per dependent instruction.
import ControlDependence.Batch.Report
import ControlDependence.Position

/-!
# Report documents
-/
namespace ControlDependence.Report

/-- The controllers of one instruction. -/
structure Line where
  instruction : Int
  label : String
  position : String
  /-- The branches that control the instruction; a list need not be given. -/
  controlledBy : Option (List Int)
  /-- The controllers of controllers too, where that adds any. -/
  chain : List Int
  deriving Repr, DecidableEq

/-- What is said of one method. -/
structure Section where
  name : String
  error : String
  errorKind : String
  stats : Option Stats
  lines : List Line
  deriving Repr, DecidableEq

structure Document where
  runId : String
  traceId : String
  succeeded : Int
  failed : Int
  milliseconds : Int
  /-- The sections; a list need not be given. -/
  sections : Option (List Section)
  deriving Repr, DecidableEq

/-- What the instructions of a method are called and where they stand. -/
structure Source where
  label : Int → String
  position : Int → Position

/-- Sources by method name. -/
abbrev Sources := String → Option Source

namespace Line

def of (a : Analysis) (source : Option Source) (depth : Int) (inst : Int) (controllers : List Int) :
    Line where
  instruction := inst
  label :=
    match source with
    | some s => s.label inst
    | none => a.code.label inst
  position :=
    match source with
    | some s => if (s.position inst).isValid then (s.position inst).render else ""
    | none => ""
  controlledBy := some controllers
  chain :=
    let chain := if 0 < depth then a.chain inst depth else []
    if controllers.length < chain.length then chain else []

end Line

namespace Section

/-- A section that only names its method. -/
def named (name : String) : Section := { name, error := "", errorKind := "", stats := none, lines := [] }

def ofEntry (sources : Sources) (depth : Int) (e : Batch.Entry) : Section :=
  match e.result with
  | .error f => { named e.name with error := f.message, errorKind := f.kind.name }
  | .ok none => named e.name
  | .ok (some a) =>
    { named e.name with
      stats := some a.stats
      lines := a.relation.toList.map fun (i, bs) => .of a (sources e.name) depth i bs }

end Section

namespace Document

/-- The document on a possible report. Chains are followed to a depth if that is positive. -/
def of (sources : Sources) (depth : Int) : Option Batch.Report → Document
  | none =>
    { runId := "", traceId := "", succeeded := 0, failed := 0, milliseconds := 0, sections := some [] }
  | some r =>
    { runId := r.runId
      traceId := r.traceId
      succeeded := r.succeeded
      failed := r.failed
      milliseconds := r.milliseconds
      sections := some (r.entries.map (Section.ofEntry sources depth)) }

end Document

end ControlDependence.Report
