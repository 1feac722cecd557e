-- SUMMARY: Configurations as JSON.
import ControlDependence.Config.Settings
import ControlDependence.Json.Parse

/-!
# Configurations as JSON

Fields have the names that they have in files, and one that is not given, or is not of its kind,
keeps its default.
-/
namespace ControlDependence.Config

/-! ## Writing -/

def Analysis.toJson (a : Analysis) : Json.Value :=
  .object [
    ("workers", .int a.workers), ("max_passes", .int a.maxPasses), ("exit_roots", .bool a.exitRoots),
    ("fail_fast", .bool a.failFast), ("max_chain_depth", .int a.maxChainDepth)]

def Logging.toJson (l : Logging) : Json.Value :=
  .object [("level", .text l.level), ("json", .bool l.json), ("log_dir", .text l.logDir)]

def Telemetry.toJson (t : Telemetry) : Json.Value :=
  .object [
    ("service_name", .text t.serviceName), ("trace_exporter", .text t.traceExporter),
    ("metric_exporter", .text t.metricExporter), ("otlp_endpoint", .text t.otlpEndpoint),
    ("metrics_addr", .text t.metricsAddr)]

def Reporting.toJson (r : Reporting) : Json.Value :=
  .object [("format", .text r.format), ("color", .text r.color)]

def toJson (c : Config) : Json.Value :=
  .object [
    ("analysis", c.analysis.toJson), ("logging", c.logging.toJson),
    ("telemetry", c.telemetry.toJson), ("report", c.report.toJson)]

/-! ## Reading -/

def readText (v : Json.Value) (default : String) : String :=
  match v with
  | .text s => s
  | _ => default

def readInt (v : Json.Value) (default : Int) : Int :=
  match v with
  | .int n => n
  | _ => default

def readTruth (v : Json.Value) (default : Bool) : Bool :=
  match v with
  | .bool b => b
  | _ => default

def Analysis.ofJson (v : Json.Value) : Analysis :=
  let d : Analysis := {}
  { workers := readInt (v.field "workers") d.workers
    maxPasses := readInt (v.field "max_passes") d.maxPasses
    exitRoots := readTruth (v.field "exit_roots") d.exitRoots
    failFast := readTruth (v.field "fail_fast") d.failFast
    maxChainDepth := readInt (v.field "max_chain_depth") d.maxChainDepth }

def Logging.ofJson (v : Json.Value) : Logging :=
  let d : Logging := {}
  { level := readText (v.field "level") d.level
    json := readTruth (v.field "json") d.json
    logDir := readText (v.field "log_dir") d.logDir }

def Telemetry.ofJson (v : Json.Value) : Telemetry :=
  let d : Telemetry := {}
  { serviceName := readText (v.field "service_name") d.serviceName
    traceExporter := readText (v.field "trace_exporter") d.traceExporter
    metricExporter := readText (v.field "metric_exporter") d.metricExporter
    otlpEndpoint := readText (v.field "otlp_endpoint") d.otlpEndpoint
    metricsAddr := readText (v.field "metrics_addr") d.metricsAddr }

def Reporting.ofJson (v : Json.Value) : Reporting :=
  let d : Reporting := {}
  { format := readText (v.field "format") d.format
    color := readText (v.field "color") d.color }

def ofJson (v : Json.Value) : Config where
  analysis := .ofJson (v.field "analysis")
  logging := .ofJson (v.field "logging")
  telemetry := .ofJson (v.field "telemetry")
  report := .ofJson (v.field "report")

theorem ofJson_toJson (c : Config) : ofJson c.toJson = c := rfl

end ControlDependence.Config
