-- SUMMARY: The result of a run: one entry per method in input order, with counts and observations.
import ControlDependence.Batch.Run
import ControlDependence.Metrics.Observation

/-!
# Batch reports
-/
namespace ControlDependence.Batch

structure Entry where
  name : String
  /-- The failure, or the analysis unless it was not kept. -/
  result : Except Failure (Option Analysis)

/-- The entry of a method with a verdict. -/
def Verdict.entry (name : String) (v : Verdict) : Entry := { name, result := (v.result name).map some }

/-- The results of a run in the order of its methods. -/
structure Report where
  runId : String
  traceId : String
  entries : List Entry
  /-- How long the run took, in milliseconds. -/
  milliseconds : Int

namespace Report

def succeeded (r : Report) : Nat := r.entries.countP fun e => e.result.toOption.isSome

def failed (r : Report) : Nat := r.entries.countP fun e => e.result.toOption.isNone

/-- The report without its analyses. -/
def withoutAnalyses (r : Report) : Report :=
  { r with entries := r.entries.map fun e => { e with result := e.result.map fun _ => none } }

end Report

namespace Run

/-- One entry for each method whose verdict is known. -/
def entries (r : Run) : List Entry :=
  r.jobs.toList.filterMap fun j => j.stage.verdict?.map (Verdict.entry j.method.name)

def report (r : Run) (runId traceId : String) (milliseconds : Int) : Report :=
  { runId, traceId, entries := r.entries, milliseconds }

/-- The outcomes of the analyses that took place, in the order in which they ended. -/
def analyses (r : Run) : List (Method × Outcome) :=
  r.finished.reverse.filterMap fun i => do
    let j ← r.jobs[i]?
    match j.stage.verdict? with
    | some (.analyzed o) => some (j.method, o)
    | _ => none

end Run

/-- What one analysis reports to the instruments. -/
def observe (seconds : Float) (o : Outcome) : Metrics.Observations :=
  match o.result with
  | .ok a => [.analysis Metrics.okOutcome seconds a.stats.passes a.stats.edges]
  | .error f => [.analysis Metrics.errorOutcome seconds 0 0, .failure f.kind.name]

/-- What a run reports to the instruments, each analysis having taken no time. -/
def Run.observations (r : Run) : Metrics.Observations :=
  r.analyses.flatMap fun (_, o) => observe 0 o

end ControlDependence.Batch
