-- SUMMARY: A configuration from YAML text, the environment and the defaults.
import ControlDependence.Config.Environment
import ControlDependence.Yaml.Decode

/-!
# Parsing a configuration
-/
namespace ControlDependence

/-- Why there is no configuration. -/
inductive ConfigError where
  /-- The text is no YAML. -/
  | malformed
  /-- The text does not fit the configuration. -/
  | faulty (faults : List Yaml.Fault)
  /-- The environment gives a number of workers that is none. -/
  | workers (value : String)
  | invalid (violations : List Config.Violation)

namespace ConfigError

def message : ConfigError → String
  | .malformed => "unmarshaling YAML: yaml: malformed document"
  | .faulty fs =>
    "unmarshaling YAML: yaml: unmarshal errors:" ++ String.join (fs.map fun f => "\n  " ++ f.message)
  | .workers v =>
    s!"invalid configuration: {Config.workersVariable}={Text.quoted v} is not an integer"
  | .invalid vs => "invalid configuration: " ++ "; ".intercalate (vs.map (·.message))

end ConfigError

namespace Config

open Yaml (Shape)

def analysisShape : Shape Analysis where
  name := "config.AnalysisConfig"
  field?
    | "workers" => some (Yaml.Target.int.into fun a n => { a with workers := n })
    | "max_passes" => some (Yaml.Target.int.into fun a n => { a with maxPasses := n })
    | "exit_roots" => some (Yaml.Target.bool.into fun a b => { a with exitRoots := b })
    | "fail_fast" => some (Yaml.Target.bool.into fun a b => { a with failFast := b })
    | "max_chain_depth" => some (Yaml.Target.int.into fun a n => { a with maxChainDepth := n })
    | _ => none

def loggingShape : Shape Logging where
  name := "config.LoggingConfig"
  field?
    | "level" => some (Yaml.Target.text.into fun l s => { l with level := s })
    | "json" => some (Yaml.Target.bool.into fun l b => { l with json := b })
    | "log_dir" => some (Yaml.Target.text.into fun l s => { l with logDir := s })
    | _ => none

def telemetryShape : Shape Telemetry where
  name := "config.TelemetryConfig"
  field?
    | "service_name" => some (Yaml.Target.text.into fun t s => { t with serviceName := s })
    | "trace_exporter" => some (Yaml.Target.text.into fun t s => { t with traceExporter := s })
    | "metric_exporter" => some (Yaml.Target.text.into fun t s => { t with metricExporter := s })
    | "otlp_endpoint" => some (Yaml.Target.text.into fun t s => { t with otlpEndpoint := s })
    | "metrics_addr" => some (Yaml.Target.text.into fun t s => { t with metricsAddr := s })
    | _ => none

def reportShape : Shape Reporting where
  name := "config.ReportConfig"
  field?
    | "format" => some (Yaml.Target.text.into fun r s => { r with format := s })
    | "color" => some (Yaml.Target.text.into fun r s => { r with color := s })
    | _ => none

def shape : Shape Config where
  name := "config.Config"
  field?
    | "analysis" => some (analysisShape.into (·.analysis) fun c x => { c with analysis := x })
    | "logging" => some (loggingShape.into (·.logging) fun c x => { c with logging := x })
    | "telemetry" => some (telemetryShape.into (·.telemetry) fun c x => { c with telemetry := x })
    | "report" => some (reportShape.into (·.report) fun c x => { c with report := x })
    | _ => none

/-- The configuration with what it implies, provided that it keeps every rule. -/
def validate (c : Config) : Except ConfigError Config :=
  match c.normalize.violations with
  | [] => .ok c.normalize
  | vs => .error (.invalid vs)

/-- The configuration that a text gives over the defaults, under an environment. -/
def parse (text : String) (e : Environment) : Except ConfigError Config :=
  match shape.read text {} with
  | .malformed => .error .malformed
  | .faulty fs => .error (.faulty fs)
  | .read c =>
    match c.override e with
    | .error v => .error (.workers v)
    | .ok c => c.validate

end Config

end ControlDependence
