-- SUMMARY: The telemetry of a process: its providers, instruments and open spans.
import ControlDependence.Telemetry.Export

/-!
# Pipelines

Providers collect what is measured and traced until they are stopped. Starting the telemetry
puts providers to use; those in use before are neither stopped nor forgotten, as instruments
and spans made with them stay with them.
-/
namespace ControlDependence.Telemetry

open Trace (Span)

structure MeterProvider where
  exporter : MetricExporter
  settings : Settings
  /-- Whether what is printed can be read. -/
  captured : Bool := true
  readings : Metrics.Readings := []
  stopped : Bool := false

structure TracerProvider where
  exporter : TraceExporter
  settings : Settings
  captured : Bool := true
  /-- The spans that ended, in that order. -/
  ended : List Placed := []
  stopped : Bool := false

/-- A span that has not ended. One without a provider takes nothing in. -/
structure OpenSpan where
  placed : Placed
  provider : Option Nat

/-- The instruments that were made last. Those without a provider take nothing in. -/
structure Instruments where
  meter : String
  provider : Option Nat

structure Pipeline where
  meters : Array MeterProvider := #[]
  tracers : Array TracerProvider := #[]
  /-- The providers in use. -/
  meter : Option Nat := none
  tracer : Option Nat := none
  /-- The provider whose metrics can be asked for. -/
  exposed : Option Nat := none
  /-- The provider that keeps spans. -/
  recorder : Option Nat := none
  /-- The providers of the last start. -/
  started : Option Nat × Option Nat := (none, none)
  instruments : Option Instruments := none
  /-- The open spans, the innermost first. -/
  openSpans : List OpenSpan := []
  /-- How many spans were opened. -/
  spanCount : Nat := 0
  /-- What exporters have printed. -/
  printed : String := ""

/-- What stopping the telemetry complains of. -/
inductive StopError where
  | readerStopped
  deriving Repr, DecidableEq

def StopError.message : StopError → String
  | .readerStopped => "reader is shutdown"

/-- What asking for metrics complains of. -/
inductive ExposureError where
  | disabled
  deriving Repr, DecidableEq

def ExposureError.message : ExposureError → String
  | .disabled => "prometheus metric exporter not initialized"

namespace Pipeline

/-! ## Starting and stopping -/

/-- Puts a new provider of spans to use. -/
def useTracer (p : Pipeline) (t : TracerProvider) : Pipeline :=
  { p with tracers := p.tracers.push t, tracer := some p.tracers.size }

/-- Puts a new provider of metrics to use, which can be asked for them if it exposes them. -/
def useMeter (p : Pipeline) (m : MeterProvider) : Pipeline :=
  { p with
    meters := p.meters.push m
    meter := some p.meters.size
    exposed := if m.exporter = .prometheus then some p.meters.size else p.exposed }

/-- Stops a provider of spans, which prints what it has collected. -/
def stopTracer (p : Pipeline) (i : Nat) : Pipeline :=
  match p.tracers[i]? with
  | none => p
  | some t =>
    let printed :=
      if !t.stopped && t.captured && t.exporter = .stdout then spansText t.settings t.ended else ""
    { p with
      tracers := p.tracers.setIfInBounds i { t with stopped := true }
      printed := p.printed ++ printed }

/-- Stops a provider of metrics, which prints what it has collected. -/
def stopMeter (p : Pipeline) (i : Nat) : Except StopError Unit × Pipeline :=
  match p.meters[i]? with
  | none => (.ok (), p)
  | some m =>
    if m.stopped then (.error .readerStopped, p)
    else
      let printed :=
        if m.captured && m.exporter = .stdout then metricsText m.settings m.readings else ""
      (.ok (), {
        p with
        meters := p.meters.setIfInBounds i { m with stopped := true }
        printed := p.printed ++ printed })

/-- Starts the telemetry. Whatever comes of it, metrics can no longer be asked of a provider
of before, unless there was no context at all. -/
def start (p : Pipeline) (hasContext captured : Bool) (s : Settings) :
    Except StartError Unit × Pipeline :=
  if !hasContext then (.error (.context .missing), p)
  else
    let p := { p with exposed := none }
    match s.tracing with
    | .error e => (.error e, p)
    | .ok tracing =>
      let tracer := tracing.map fun _ => p.tracers.size
      let p := tracing.elim p fun exporter => p.useTracer { exporter, settings := s, captured }
      match s.metering with
      | .error e => (.error e, tracer.elim p p.stopTracer)
      | .ok metering =>
        let meter := metering.map fun _ => p.meters.size
        let p := metering.elim p fun exporter => p.useMeter { exporter, settings := s, captured }
        (.ok (), { p with started := (tracer, meter) })

/-- Stops what the last start put to use. -/
def stop (p : Pipeline) : Except StopError Unit × Pipeline :=
  let p := p.started.1.elim p p.stopTracer
  match p.started.2 with
  | none => (.ok (), p)
  | some i => p.stopMeter i

/-! ## Metrics -/

/-- Makes instruments on a meter. -/
def makeInstruments (p : Pipeline) (meter : String) : Pipeline :=
  let provider := p.meter.filter fun i => (p.meters[i]?.map (!·.stopped)).getD false
  { p with instruments := some { meter, provider } }

/-- Reports to the instruments that were made last. -/
def observe (p : Pipeline) (o : Metrics.Observation) : Pipeline :=
  match p.instruments with
  | some { meter, provider := some i } =>
    { p with meters := p.meters.modify i fun m => { m with readings := m.readings ++ [⟨meter, o⟩] } }
  | _ => p

/-- The text of the metrics that can be asked for. One that is stopped gives none. -/
def metrics (p : Pipeline) : Except ExposureError String :=
  match p.exposed.bind (p.meters[·]?) with
  | none => .error .disabled
  | some m =>
    .ok (if m.stopped then "" else Metrics.exposition (m.readings.families ++ [m.settings.family]))

/-! ## Spans -/

/-- Keeps the spans from now on. -/
def record (p : Pipeline) : Pipeline :=
  let p := p.useTracer { exporter := .memory, settings := {} }
  { p with recorder := p.tracer }

/-- The identifiers of the innermost open span. -/
def context (p : Pipeline) : Option Trace.Context := p.openSpans.head?.bind (·.placed.context)

/-- Opens a span inside the innermost open one. -/
def startSpan (p : Pipeline) (tracer name : String) : Pipeline :=
  let provider := p.tracer.filter fun i => (p.tracers[i]?.map (!·.stopped)).getD false
  let above := p.openSpans.head?.filter fun o => o.provider.isSome
  let n := p.spanCount + 1
  let context : Trace.Context :=
    { traceId := ((above.bind (·.placed.context)).map (·.traceId)).getD ("a" ++ Text.hex 31 n)
      spanId := "b" ++ Text.hex 15 n }
  let parent := above.elim Trace.Parent.none fun o => .span o.placed.span.name
  let placed : Placed :=
    { span := Span.start tracer name parent []
      context := provider.map fun _ => context
      parent := above.bind (·.placed.context) }
  { p with openSpans := { placed, provider } :: p.openSpans, spanCount := n }

/-- Whether the innermost open span takes anything in. -/
def isRecording (p : Pipeline) : Bool := (p.openSpans.head?.bind (·.provider)).isSome

/-- Changes the innermost open span. -/
def onSpan (p : Pipeline) (f : Span → Span) : Pipeline :=
  match p.openSpans with
  | [] => p
  | o :: os =>
    { p with openSpans := { o with placed := { o.placed with span := f o.placed.span } } :: os }

/-- Ends the innermost open span. -/
def endSpan (p : Pipeline) : Pipeline :=
  match p.openSpans with
  | [] => p
  | o :: os =>
    let p := { p with openSpans := os }
    match o.provider with
    | none => p
    | some i =>
      { p with tracers := p.tracers.modify i fun t =>
        if t.stopped then t else { t with ended := t.ended ++ [o.placed] } }

/-- The spans that were kept. -/
def recorded (p : Pipeline) : List Span :=
  ((p.recorder.bind (p.tracers[·]?)).elim [] (·.ended)).map (·.span)

end Pipeline

end ControlDependence.Telemetry
