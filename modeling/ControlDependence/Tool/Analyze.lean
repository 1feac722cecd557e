-- SUMMARY: Analysing the functions of packages and reporting on them.
import ControlDependence.Batch.Journal
import ControlDependence.Lowering.Lower
import ControlDependence.Tool.Commands
import ControlDependence.Tool.Setup

/-!
# Analysing packages
-/
namespace ControlDependence.Tool

open CommandLine (Arguments)

/-! ## Settings -/

/-- The configuration with what the command line says instead. -/
def effective (c : Config) (a : Arguments) : Config :=
  let textOr := fun flag default => if (a.text flag).isEmpty then default else a.text flag
  { c with
    analysis := {
      c.analysis with
      workers := if 0 < a.int "workers" then a.int "workers" else c.analysis.workers }
    telemetry := { c.telemetry with metricsAddr := textOr "metrics-addr" c.telemetry.metricsAddr }
    report := {
      format := textOr "format" c.report.format
      color := textOr "color" c.report.color } }

/-- The pattern that names have to match, if there is one. -/
def namePattern (a : Arguments) : Except Pattern.ParseError (Option Pattern.Expr) :=
  if (a.text "func").isEmpty then .ok none else (Pattern.Expr.parse (a.text "func")).map some

def telemetrySettings (e : Environment) (c : Config) : Telemetry.Settings :=
  { Telemetry.Settings.ofEnvironment e with
    serviceName := c.telemetry.serviceName
    serviceVersion := version
    traceExporter := c.telemetry.traceExporter
    metricExporter := c.telemetry.metricExporter
    otlpEndpoint := c.telemetry.otlpEndpoint }

/-- How a run over methods is to go. Bodies that were lowered need no validation. -/
def batchSettings (processors : Nat) (c : Config) : Batch.Settings where
  workers := if c.analysis.workers ≤ 0 then processors else c.analysis.workers.toNat
  failFast := c.analysis.failFast
  options := {
    exitRoots := c.analysis.exitRoots
    maxPasses := c.analysis.maxPasses
    skipValidation := true }

def patterns (a : Arguments) : List String := if a.rest.isEmpty then ["./..."] else a.rest

/-! ## Methods -/

/-- The routines that were lowered, and the records of those that could not be. -/
def lowerAll : List Lowering.Routine → List Lowering.Lowered × List Log.Record
  | [] => ([], [])
  | r :: rs =>
    let (ls, records) := lowerAll rs
    match Lowering.lower (some r) with
    | .ok l => (l :: ls, records)
    | .error e =>
      (ls, ⟨.warn, "skipping function", [.text "function" r.name, .text "error" e.message]⟩ :: records)

def matching (pattern : Option Pattern.Expr) (rs : List Lowering.Routine) : List Lowering.Routine :=
  rs.filter fun r => (pattern.map fun p => p.isIn r.name).getD true

def methodOf (l : Lowering.Lowered) : Batch.Method := { name := l.name, code := some (.built l.body) }

/-- What the instructions of lowered routines are called and where they stand. -/
def sourcesOf (ls : List Lowering.Lowered) : Report.Sources := fun name =>
  (ls.reverse.find? (·.name == name)).map fun l => { label := l.label, position := l.position }

/-! ## The run -/

/-- What a run has done so far. -/
structure Progress where
  output : Output
  pipeline : Telemetry.Pipeline

/-- Takes in a finished span inside the innermost open one. -/
def addSpan (p : Telemetry.Pipeline) (s : Trace.Span) : Telemetry.Pipeline :=
  ((p.startSpan s.tracer s.name).onSpan fun _ => s).endSpan

/-- Takes in the spans of a run, the last of which is open. -/
def addSpans (p : Telemetry.Pipeline) (spans : List Trace.Span) : Telemetry.Pipeline :=
  match spans.getLast? with
  | none => p
  | some run => ((spans.dropLast.foldl addSpan p).onSpan fun _ => run).endSpan

/-- Analyses methods. -/
def analyzeMethods (h : Host) (s : Setup) (c : Config) (methods : List Batch.Method) (p : Progress) :
    Batch.Run × Batch.Report × Progress :=
  let run := (Batch.Run.start (batchSettings h.processors c) methods none).oneByOne
  let opened := p.pipeline.startSpan Batch.Run.tracer Batch.Run.spanName
  let ties : Batch.Ties :=
    { run := opened.context, analysis := (opened.startSpan "" "").context }
  let report := run.report h.runId (Trace.Context.traceIdOf ties.run) 0
  let pipeline := addSpans opened (run.spans report .none)
  let pipeline := run.observations.foldl (fun p o => p.observe o) pipeline
  (run, report, { output := p.output.logAll s.logger (run.records report ties), pipeline })

/-- Why a run that was reported on fails nevertheless. -/
def verdict (run : Batch.Run) (report : Batch.Report) : Option Failure :=
  match run.error? with
  | some f => some (.run f)
  | none =>
    if 0 < report.failed then some (.methods report.failed report.entries.length) else none

/-- Loads packages, analyses their functions and reports on them. -/
def analyzePackages (h : Host) (s : Setup) (c : Config) (a : Arguments) (pattern : Option Pattern.Expr)
    (p : Progress) : Option Failure × Progress :=
  match h.load { directory := a.text "dir", patterns := patterns a, tests := a.truth "tests" } with
  | .error e => (some (.packages e), p)
  | .ok packages =>
    let (lowered, skipped) := lowerAll (matching pattern (Program.routines packages))
    let collected : Log.Record :=
      ⟨.info, "functions collected",
        [.int "packages" packages.length, .int "functions" lowered.length]⟩
    let p := {
      output := p.output.logAll s.logger (skipped ++ [collected])
      pipeline := p.pipeline.makeInstruments Batch.Run.tracer }
    let (run, report, p) := analyzeMethods h s c (lowered.map methodOf) p
    let depth := if a.truth "chains" then c.analysis.maxChainDepth else 0
    let document := Report.Document.of (sourcesOf lowered) depth (some report)
    match document.write c.report.format c.report.color (h.environment.get "NO_COLOR") h.stdout with
    | .error e => (some (.render e), p)
    | .ok text => (verdict run report, { p with output := p.output.print h.stdout text })

/-- Stops the telemetry, which may print what it has collected. -/
def stopTelemetry (s : Setup) (p : Progress) : Output :=
  let (result, pipeline) := p.pipeline.stop
  let output := p.output.warn pipeline.printed
  match result with
  | .ok _ => output
  | .error e =>
    output.log s.logger ⟨.warn, "telemetry shutdown failed", [.text "error" e.message]⟩

/-- Lets the metrics of a run be read, if they are to be: from a server while it lasts or, without
an address, on standard error at its end. -/
def exposeMetrics (h : Host) (s : Setup) (c : Config) (p : Progress)
    (run : Progress → Option Failure × Progress) : Option Failure × Progress :=
  if c.telemetry.metricExporter != "prometheus" then run p
  else if c.telemetry.metricsAddr.isEmpty then
    let (failure, p) := run p
    match p.pipeline.metrics with
    | .ok text => (failure, { p with output := p.output.warn text })
    | .error e =>
      (failure, { p with
        output := p.output.log s.logger ⟨.warn, "metrics dump failed", [.text "error" e.message]⟩ })
  else
    match Serving.Server.start p.pipeline.metrics.toOption.isSome c.telemetry.metricsAddr h.freePort with
    | .error e => (some (.serve e), p)
    | .ok server =>
      run { p with
        output := p.output.log s.logger ⟨.info, "serving metrics", [.text "address" server.url]⟩ }

/-- Runs the analysis of the command line. -/
def analyze (h : Host) (s : Setup) (a : Arguments) (o : Output) : Option Failure × Output :=
  match (effective s.config a).validate with
  | .error e => (some (.config e), o)
  | .ok c =>
    match namePattern a with
    | .error e => (some (.pattern e), o)
    | .ok pattern =>
      match ({} : Telemetry.Pipeline).start true true (telemetrySettings h.environment c) with
      | (.error e, _) => (some (.telemetry e), o)
      | (.ok _, pipeline) =>
        let (failure, p) :=
          exposeMetrics h s c { output := o, pipeline } (analyzePackages h s c a pattern)
        (failure, stopTelemetry s p)

end ControlDependence.Tool
