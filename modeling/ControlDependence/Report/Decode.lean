-- SUMMARY: Report documents from JSON.
import ControlDependence.Json.Parse
import ControlDependence.Report.Document

/-!
# Reading documents

A field that is missing, or is not of its kind, is read as empty.
-/
namespace ControlDependence.Report

def readStats (v : Json.Value) : Stats :=
  let n := fun key => (v.field key).asInt
  { instructions := n "instructions"
    ranked := n "ranked"
    branches := n "branches"
    edges := n "edges"
    passes := n "passes"
    unresolved := n "unresolved"
    nodesWithDependencies := n "nodes_with_dependencies"
    controllers := n "controllers"
    maxDependencies := n "max_dependencies"
    maxDependents := n "max_dependents" }

def Line.ofJson (v : Json.Value) : Line where
  instruction := (v.field "instruction").asInt
  label := (v.field "label").asText
  position := (v.field "position").asText
  controlledBy := (v.field "controlled_by").asList?.map fun bs => bs.map (·.asInt)
  chain := (v.field "chain").asList.map (·.asInt)

def Section.ofJson (v : Json.Value) : Section where
  name := (v.field "name").asText
  error := (v.field "error").asText
  errorKind := (v.field "error_kind").asText
  stats :=
    match v.field "stats" with
    | .null => none
    | s => some (readStats s)
  lines := (v.field "dependencies").asList.map Line.ofJson

def Document.ofJson (v : Json.Value) : Document where
  runId := (v.field "run_id").asText
  traceId := (v.field "trace_id").asText
  succeeded := (v.field "succeeded").asInt
  failed := (v.field "failed").asInt
  milliseconds := (v.field "duration_ms").asInt
  sections := (v.field "methods").asList?.map fun ss => ss.map Section.ofJson

end ControlDependence.Report
