-- SUMMARY: The settings of telemetry and the exporters that they name.
import ControlDependence.Config.Environment
import ControlDependence.Context
import ControlDependence.Json.Value
import ControlDependence.Metrics.Exposition

/-!
# Settings of telemetry
-/
namespace ControlDependence.Telemetry

structure Settings where
  serviceName : String := ""
  serviceVersion : String := ""
  environment : String := ""
  traceExporter : String := ""
  metricExporter : String := ""
  otlpEndpoint : String := ""
  /-- Whether the connection to the endpoint is in the clear. -/
  otlpInsecure : Bool := false
  deriving Repr, DecidableEq

/-- The value of a variable, unless it is empty. -/
def variableOr (e : Environment) (name default : String) : String :=
  let v := e.get name
  if v.isEmpty then default else v

namespace Settings

/-- The settings when only the environment says something. -/
def ofEnvironment (e : Environment) : Settings where
  serviceName := "aleutian-slice"
  serviceVersion := "1.0.0"
  environment := variableOr e "SLICE_ENV" "development"
  traceExporter := variableOr e "OTEL_TRACES_EXPORTER" "none"
  metricExporter := variableOr e "OTEL_METRICS_EXPORTER" "none"
  otlpEndpoint := variableOr e "OTEL_EXPORTER_OTLP_ENDPOINT" "localhost:4317"
  otlpInsecure := true

/-- The settings as JSON. -/
def toJson (s : Settings) : Json.Value :=
  .object [
    ("service_name", .text s.serviceName), ("service_version", .text s.serviceVersion),
    ("environment", .text s.environment), ("trace_exporter", .text s.traceExporter),
    ("metric_exporter", .text s.metricExporter), ("otlp_endpoint", .text s.otlpEndpoint),
    ("otlp_insecure", .bool s.otlpInsecure)]

/-- What describes the service, by key. -/
def resource (s : Settings) : List (String × String) := [
  ("deployment.environment", s.environment), ("service.name", s.serviceName),
  ("service.version", s.serviceVersion)]

/-- The family that describes the service. -/
def family (s : Settings) : Metrics.Family where
  name := "target_info"
  help := "Target metadata"
  kind := .gauge
  series :=
    [{ labels := [⟨"deployment_environment", s.environment⟩, ⟨"service_name", s.serviceName⟩,
        ⟨"service_version", s.serviceVersion⟩]
       point := .gauge 1 }]

end Settings

/-- Where spans go. -/
inductive TraceExporter where
  | otlp
  | stdout
  /-- Spans are kept. -/
  | memory
  deriving Repr, DecidableEq

/-- Where metrics go. -/
inductive MetricExporter where
  /-- Metrics are exposed on request. -/
  | prometheus
  | stdout
  deriving Repr, DecidableEq

inductive StartError where
  | context (cause : ContextError)
  | tracer (exporter : String)
  | meter (exporter : String)
  deriving Repr, DecidableEq

def StartError.message : StartError → String
  | .context c => c.message
  | .tracer e => s!"init tracer: unknown exporter type: {e}"
  | .meter e => s!"init meter: unknown exporter type: {e}"

namespace Settings

/-- The exporter of spans, if there is to be one. -/
def tracing (s : Settings) : Except StartError (Option TraceExporter) :=
  match s.traceExporter with
  | "" => .ok none
  | "none" => .ok none
  | "otlp" => .ok (some .otlp)
  | "jaeger" => .ok (some .otlp)
  | "stdout" => .ok (some .stdout)
  | e => .error (.tracer e)

/-- The exporter of metrics, if there is to be one. -/
def metering (s : Settings) : Except StartError (Option MetricExporter) :=
  match s.metricExporter with
  | "" => .ok none
  | "none" => .ok none
  | "prometheus" => .ok (some .prometheus)
  | "stdout" => .ok (some .stdout)
  | e => .error (.meter e)

end Settings

end ControlDependence.Telemetry
