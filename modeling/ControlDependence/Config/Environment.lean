-- SUMMARY: Environment variables and the settings that they replace.
import ControlDependence.Config.Settings
import ControlDependence.Text.Integer
import ControlDependence.Text.LowerCase

/-!
# Environment

Values are trimmed, and one that is blank replaces nothing.
-/
namespace ControlDependence

/-- The variables that are set. -/
abbrev Environment := List (String × String)

namespace Environment

/-- The value of a variable, empty if it is not set. -/
def get (e : Environment) (name : String) : String := (e.lookup name).getD ""

/-- The trimmed value of a variable, unless that is blank. -/
def nonBlank? (e : Environment) (name : String) : Option String :=
  let v := Text.trim (e.get name)
  if v.isEmpty then none else some v

end Environment

namespace Config

def workersVariable : String := "SLICE_WORKERS"

/-- The number of workers that the environment gives, which may be no number. -/
def workersFrom (e : Environment) (default : Int) : Except String Int :=
  match e.nonBlank? workersVariable with
  | none => .ok default
  | some v =>
    match Text.readInt? v with
    | some n => .ok n
    | none => .error v

/-- The settings under an environment, or the value that is no number of workers. -/
def override (c : Config) (e : Environment) : Except String Config := do
  let workers ← workersFrom e c.analysis.workers
  let lowered := fun name default => ((e.nonBlank? name).map Text.lower).getD default
  return {
    c with
    analysis := { c.analysis with workers }
    logging := { c.logging with level := lowered "SLICE_LOG_LEVEL" c.logging.level }
    telemetry := {
      c.telemetry with
      traceExporter := lowered "OTEL_TRACES_EXPORTER" c.telemetry.traceExporter
      metricExporter := lowered "OTEL_METRICS_EXPORTER" c.telemetry.metricExporter
      otlpEndpoint := (e.nonBlank? "OTEL_EXPORTER_OTLP_ENDPOINT").getD c.telemetry.otlpEndpoint } }

end Config

end ControlDependence
