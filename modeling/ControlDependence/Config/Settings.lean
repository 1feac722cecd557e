-- SUMMARY: The configuration: its sections, their defaults and the rules that they keep.
import ControlDependence.Text.Blank
import ControlDependence.Text.Quoted

/-!
# Configuration
-/
namespace ControlDependence

namespace Config

structure Analysis where
  /-- How many methods are analysed at once; 0 for one per processor. -/
  workers : Int := 0
  /-- The bound on passes; 0 for an automatic one. -/
  maxPasses : Int := 0
  exitRoots : Bool := true
  failFast : Bool := false
  /-- How far reports follow controllers of controllers. -/
  maxChainDepth : Int := 16
  deriving Repr, DecidableEq

structure Logging where
  level : String := "info"
  json : Bool := false
  logDir : String := ""
  deriving Repr, DecidableEq

structure Telemetry where
  serviceName : String := "aleutian-slice"
  traceExporter : String := "none"
  metricExporter : String := "none"
  otlpEndpoint : String := "localhost:4317"
  /-- Where metrics are served while a run lasts, if anywhere. -/
  metricsAddr : String := ""
  deriving Repr, DecidableEq

structure Reporting where
  format : String := "text"
  color : String := "auto"
  deriving Repr, DecidableEq

end Config

structure Config where
  analysis : Config.Analysis := {}
  logging : Config.Logging := {}
  telemetry : Config.Telemetry := {}
  report : Config.Reporting := {}
  deriving Repr, DecidableEq

namespace Config

/-! ## Rules -/

/-- A field that breaks a rule. -/
structure Violation where
  field : String
  rule : String
  value : String
  deriving Repr, DecidableEq

def Violation.message (v : Violation) : String :=
  s!"Config.{v.field} failed {Text.quoted v.rule} (value {v.value})"

def require (holds : Bool) (field rule value : String) : List Violation :=
  if holds then [] else [{ field, rule, value }]

def atLeast (field : String) (low n : Int) : List Violation :=
  require (low ≤ n) field "gte" (toString n)

/-- A number below the range breaks only the first rule. -/
def between (field : String) (low high n : Int) : List Violation :=
  if n < low then atLeast field low n else require (n ≤ high) field "lte" (toString n)

def oneOf (field : String) (choices : List String) (s : String) : List Violation :=
  require (choices.contains s) field "oneof" s

def levels : List String := ["debug", "info", "warn", "warning", "error"]

def traceExporters : List String := ["none", "otlp", "jaeger", "stdout"]

def metricExporters : List String := ["none", "prometheus", "stdout"]

namespace Analysis

def violations (a : Analysis) : List Violation :=
  between "Analysis.Workers" 0 256 a.workers
    ++ atLeast "Analysis.MaxPasses" 0 a.maxPasses
    ++ between "Analysis.MaxChainDepth" 1 1000 a.maxChainDepth

end Analysis

namespace Logging

def violations (l : Logging) : List Violation := oneOf "Logging.Level" levels l.level

end Logging

namespace Telemetry

/-- Whether traces are sent to an endpoint. -/
def needsEndpoint (t : Telemetry) : Bool := t.traceExporter = "otlp" || t.traceExporter = "jaeger"

def violations (t : Telemetry) : List Violation :=
  require (!t.serviceName.isEmpty) "Telemetry.ServiceName" "required" t.serviceName
    ++ oneOf "Telemetry.TraceExporter" traceExporters t.traceExporter
    ++ oneOf "Telemetry.MetricExporter" metricExporters t.metricExporter
    ++ require (!t.needsEndpoint || !(Text.trim t.otlpEndpoint).isEmpty)
      "Telemetry.OTLPEndpoint" "required_for_otlp" t.otlpEndpoint
    ++ require (t.metricsAddr.isEmpty || t.metricExporter = "prometheus")
      "Telemetry.MetricsAddr" "requires_prometheus" t.metricsAddr

end Telemetry

namespace Reporting

def violations (r : Reporting) : List Violation :=
  oneOf "Report.Format" ["text", "json", "yaml"] r.format
    ++ oneOf "Report.Color" ["auto", "always", "never"] r.color

end Reporting

def violations (c : Config) : List Violation :=
  c.analysis.violations ++ c.logging.violations ++ c.telemetry.violations ++ c.report.violations

/-- Fills in what a value implies: metrics that are served need their exporter. -/
def normalize (c : Config) : Config :=
  if !c.telemetry.metricsAddr.isEmpty && c.telemetry.metricExporter = "none" then
    { c with telemetry := { c.telemetry with metricExporter := "prometheus" } }
  else c

end Config

end ControlDependence
