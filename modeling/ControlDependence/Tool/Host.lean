-- SUMMARY: What a run of the tool finds around it, what it leaves behind and why it fails.
import ControlDependence.CommandLine.Command
import ControlDependence.Config.Load
import ControlDependence.Log.Logger
import ControlDependence.Pattern.Parse
import ControlDependence.Program.Module
import ControlDependence.Report.Render
import ControlDependence.Serving.Metrics
import ControlDependence.Telemetry.Pipeline

/-!
# The surroundings of a run
-/
namespace ControlDependence.Tool

/-- Which packages to load. -/
structure LoadRequest where
  directory : String
  patterns : List String
  tests : Bool
  deriving Repr, DecidableEq

structure Host where
  environment : Environment
  disk : Disk
  /-- How many processors there are. -/
  processors : Nat
  /-- What tells this run from others. -/
  runId : String
  /-- The day, as log files have it in their names. -/
  date : String
  /-- Whether a log file can be written at a path. -/
  canLog : String → Bool
  /-- A port that is free. -/
  freePort : Int
  load : LoadRequest → Except Program.LoadError (List Program.LoadedPackage)
  /-- Where reports go. -/
  stdout : Report.Sink

/-- The name of a run for two random words: the digits of both, in groups, with those of its kind
and variant set. -/
def runName (high low : Nat) : String :=
  let digits := Text.hex 12 (high / 65536) ++ "4" ++ Text.hex 3 (high % 4096)
    ++ Text.hex 16 (9223372036854775808 + low % 4611686018427387904)
  let part := fun (first count : Nat) => ((digits.drop first).take count).toString
  "-".intercalate [part 0 8, part 8 4, part 12 4, part 16 4, part 20 12]

/-- What a run has written. -/
structure Output where
  stdout : String := ""
  stderr : String := ""
  logFile : String := ""
  deriving Repr, DecidableEq

namespace Output

/-- Writes to standard output what there is room for. -/
def print (o : Output) (sink : Report.Sink) (s : String) : Output :=
  if (sink.room.map fun (r : Int) => decide (s.utf8ByteSize ≤ r)).getD true then
    { o with stdout := o.stdout ++ s }
  else o

def warn (o : Output) (s : String) : Output := { o with stderr := o.stderr ++ s }

/-- Writes a record to console and log file. -/
def log (o : Output) (l : Log.Logger) (r : Log.Record) : Output :=
  let d := l.deliver (fun _ => true) r
  { o with stderr := o.stderr ++ d.text .console, logFile := o.logFile ++ d.text .file }

def logAll (o : Output) (l : Log.Logger) (rs : List Log.Record) : Output :=
  rs.foldl (fun o r => o.log l r) o

end Output

/-- Why a run fails. -/
inductive Failure where
  | flag (cause : CommandLine.FlagError)
  | command (cause : CommandLine.UnknownCommand)
  | load (cause : LoadError)
  | level (cause : Log.UnknownLevel)
  | config (cause : ConfigError)
  | pattern (cause : Pattern.ParseError)
  | telemetry (cause : Telemetry.StartError)
  | serve (cause : Serving.ServeError)
  | packages (cause : Program.LoadError)
  | render (cause : Report.RenderError)
  | run (cause : ControlDependence.Failure)
  /-- Some methods could not be analysed. -/
  | methods (failed total : Nat)

namespace Failure

def message : Failure → String
  | .flag e => e.message
  | .command e => e.message
  | .load e => "load config: " ++ e.message
  | .level e => e.message
  | .config e => e.message
  | .pattern e => "invalid --func pattern: " ++ e.message
  | .telemetry e => "init telemetry: " ++ e.message
  | .serve e => "serve metrics: " ++ e.message
  | .packages e => e.message
  | .render e => "render report: " ++ e.message
  | .run f => f.message
  | .methods failed total => s!"analysis failed for some functions: {failed} of {total}"

end Failure

end ControlDependence.Tool
