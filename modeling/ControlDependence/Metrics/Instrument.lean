-- SUMMARY: The instruments of analyses: what they are called and what they read off a log.
import ControlDependence.Metrics.Exposition
import ControlDependence.Metrics.Observation

/-!
# Instruments

Instruments belong to a meter. Meters of one name share their instruments.
-/
namespace ControlDependence.Metrics

/-- An observation on the instruments of a meter. -/
structure Reading where
  meter : String
  observation : Observation

abbrev Readings := List Reading

namespace Readings

/-- The meters with readings in ascending order. -/
def meters (rs : Readings) : List String := distinct (rs.map (·.meter))

def on (rs : Readings) (meter : String) : Observations :=
  (rs.filter fun r => r.meter = meter).map (·.observation)

end Readings

/-- What describes an instrument. -/
structure Instrument where
  name : String
  help : String
  unit : String := ""
  kind : Kind
  deriving Repr, DecidableEq

namespace Instrument

def analyses : Instrument where
  name := "slice_analyses_total"
  help := "Total methods analyzed for control dependencies"
  kind := .counter

def duration : Instrument where
  name := "slice_analysis_duration_seconds"
  help := "Control-dependence analysis latency per method"
  unit := "s"
  kind := .histogram

def passes : Instrument where
  name := "slice_fixpoint_passes"
  help := "Post-dominator fixpoint passes per method"
  kind := .histogram

def edges : Instrument where
  name := "slice_dependency_edges_total"
  help := "Control-dependence pairs produced"
  kind := .counter

def errors : Instrument where
  name := "slice_errors_total"
  help := "Failed control-dependence analyses"
  kind := .counter

end Instrument

/-! ## What the instruments of a meter hold -/

namespace Observations

def durationPoint (os : Observations) (outcome : String) : Point :=
  let values := os.seconds outcome
  .histogram secondsBounds (buckets secondsBounds values) (values.foldl (· + ·) 0)

def passesPoint (os : Observations) : Point :=
  .histogram (passesBounds.map Float.ofInt) (buckets passesBounds os.passes) (Float.ofInt os.passesSum)

def edgesPoint (os : Observations) : Point := .counter (Float.ofInt os.edgesTotal)

end Observations

/-! ## All meters together -/

/-- The labels of a meter's series. -/
def scopeLabels (meter : String) : List Label :=
  [⟨"otel_scope_name", meter⟩, ⟨"otel_scope_schema_url", ""⟩, ⟨"otel_scope_version", ""⟩]

def Instrument.family (i : Instrument) (series : List Series) : Family :=
  { name := i.name, help := i.help, kind := i.kind, series }

/-- Series by meter and outcome. -/
def byOutcome (rs : Readings) (point : Observations → String × Nat → Point) : List Series :=
  rs.meters.flatMap fun m =>
    (rs.on m).analyses.map fun (o, n) =>
      { labels := scopeLabels m ++ [⟨"outcome", o⟩], point := point (rs.on m) (o, n) }

/-- Series by kind of failure and meter. -/
def byKind (rs : Readings) : List Series :=
  (distinct (rs.filterMap (·.observation.kind?))).flatMap fun k =>
    rs.meters.filterMap fun m =>
      ((rs.on m).failures.lookup k).map fun n =>
        { labels := ⟨"kind", k⟩ :: scopeLabels m, point := .counter (Float.ofNat n) }

/-- Series of the meters on which an analysis succeeded. -/
def bySuccess (rs : Readings) (point : Observations → Point) : List Series :=
  rs.meters.filterMap fun m =>
    if (rs.on m).passes.isEmpty then none
    else some { labels := scopeLabels m, point := point (rs.on m) }

/-- The families of all instruments, by name. -/
def Readings.families (rs : Readings) : List Family := [
  Instrument.analyses.family (byOutcome rs fun _ (_, n) => .counter (Float.ofNat n)),
  Instrument.duration.family (byOutcome rs fun os (o, _) => os.durationPoint o),
  Instrument.edges.family (bySuccess rs Observations.edgesPoint),
  Instrument.errors.family (byKind rs),
  Instrument.passes.family (bySuccess rs Observations.passesPoint)]

end ControlDependence.Metrics
