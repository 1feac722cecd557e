-- SUMMARY: What a run leaves behind: its log records and trace spans.
import ControlDependence.Batch.Report
import ControlDependence.Dependence.Journal

/-!
# The journal of a run

Records and spans of the analyses come in the order in which the workers ended, those
of the run around them.
-/
namespace ControlDependence.Batch

open Log (Record)
open Trace (Span)

/-- What ties the records of a run to its trace: the span of the run and that of an
analysis inside it. -/
structure Ties where
  run : Option Trace.Context
  analysis : Option Trace.Context

namespace Run

/-- The record of a method after its own analysis. -/
def methodRecord (m : Method) (o : Outcome) : Record :=
  match o.result with
  | .ok a =>
    ⟨.debug, "batch: method analyzed",
      [.text "method" m.name, .int "instructions" a.stats.instructions, .int "edges" a.stats.edges]⟩
  | .error f =>
    ⟨.warn, "batch: method failed",
      [.text "method" m.name, .text "kind" f.kind.name, .text "error" f.message]⟩

def openingRecord (r : Run) : Record :=
  ⟨.info, "batch: analysis started",
    [.int "methods" r.jobs.size, .int "workers" r.settings.workers]⟩

def closingRecord (r : Run) (report : Report) : Record :=
  match r.error? with
  | some f =>
    ⟨.warn, "batch: analysis aborted",
      [.int "succeeded" report.succeeded, .int "failed" report.failed, .text "error" f.message]⟩
  | none =>
    ⟨.info, "batch: analysis complete",
      [.int "succeeded" report.succeeded, .int "failed" report.failed,
        .duration "duration" (report.milliseconds.toNat * 1000000)]⟩

/-- The records of a finished run. -/
def records (r : Run) (report : Report) (ties : Ties) : List Record :=
  let own := Record.under (Trace.Context.attrsOf ties.run ++ [.text "run_id" report.runId])
  let inner := Record.under (Trace.Context.attrsOf ties.analysis)
  [own r.openingRecord] ++
  (r.analyses.flatMap fun (m, o) => (o.records 0).map inner ++ [own (methodRecord m o)]) ++
  [own (r.closingRecord report)]

def tracer : String := "slice.batch"

def spanName : String := "batch.Analyze"

/-- The spans of a finished run in the order in which they ended. -/
def spans (r : Run) (report : Report) (parent : Trace.Parent) : List Span :=
  let run := Span.start tracer spanName parent
    [.text "run_id" report.runId, .int "method_count" r.jobs.size,
      .int "workers" r.settings.workers]
  let run := run.setAttrs [.int "succeeded" report.succeeded, .int "failed" report.failed]
  let run :=
    match r.error? with
    | some f => run.recordError f.message []
    | none => run.setOk
  (r.analyses.filterMap fun (_, o) => o.span? r.settings.options (.span spanName)) ++ [run]

end Run

end ControlDependence.Batch
