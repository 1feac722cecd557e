-- SUMMARY: The command line of the tool.
import ControlDependence.Log.Day
import ControlDependence.Program.Text
import ControlDependence.Tool.Execute

/-!
# The command line

Packages are read from the listing in the directory of a module. All files that a run may need are
read before it, and what it leaves behind is written after it.
-/
namespace ControlDependence

/-- The name of the file in which a module is listed. -/
def listingName : String := "module.txt"

def variableNames : List String := [
  "SLICE_WORKERS", "SLICE_LOG_LEVEL", "SLICE_ENV", "OTEL_TRACES_EXPORTER", "OTEL_METRICS_EXPORTER",
  "OTEL_EXPORTER_OTLP_ENDPOINT", "NO_COLOR"]

def readEnvironment : IO Environment :=
  variableNames.filterMapM fun name => return (← IO.getEnv name).map (name, ·)

def readState (path : String) : IO FileState := do
  try
    return .contents (← IO.FS.readFile path)
  catch
    | .noFileOrDirectory .. => return .missing
    | _ => return .directory 0

/-- The seconds since the start of 1970, which a new file tells. -/
def secondsNow : IO Nat := do
  let (_, path) ← IO.FS.createTempFile
  let made ← path.metadata
  IO.FS.removeFile path
  return made.modified.sec.toNat

/-- Sixty-four random bits. -/
def randomWord : IO Nat := IO.rand 0 18446744073709551615

/-- Packages of the module whose listing was read. -/
def loadListed (listing : FileState) (r : Tool.LoadRequest) :
    Except Program.LoadError (List Program.LoadedPackage) :=
  match listing with
  | .contents text => (Program.Module.read r.directory text).select r.patterns
  | _ => .error (.broken [s!"err: chdir {r.directory}: no such file or directory: stderr: "])

/-- Finds out what a run on arguments may need. -/
def readHost (args : List String) : IO Tool.Host := do
  let environment ← readEnvironment
  let home := (← IO.getEnv "HOME").getD "/"
  let here := toString (← IO.currentDir)
  let given := (Tool.readCall args).toOption.map (·.2)
  let text := fun flag => (given.map (·.text flag)).getD ""
  let config ← readState (Files.absolute here (Files.expandHome home (text "config")))
  let directory := if (text "dir").isEmpty then here else text "dir"
  let listing ← readState (Files.join directory listingName)
  return {
    environment
    disk := { home, here, entry := fun _ => config }
    processors := 1
    runId := Tool.runName (← randomWord) (← randomWord)
    date := (Log.Day.ofSeconds (← secondsNow)).name
    canLog := fun _ => true
    freePort := 0
    load := fun r => loadListed listing { r with directory }
    stdout := {} }

/-- Opens a log file for more lines, if that can be done. -/
def openLog (path : String) : IO (Option IO.FS.Handle) := do
  try
    IO.FS.createDirAll (Files.parent path)
    return some (← IO.FS.Handle.mk path .append)
  catch _ => return none

def runTool (args : List String) : IO UInt32 := do
  let host ← readHost args
  let outcome := Tool.execute host args
  let log ←
    match outcome.logPath with
    | some path => openLog path
    | none => pure none
  let outcome := if log.isSome then outcome else Tool.execute { host with canLog := fun _ => false } args
  (← IO.getStdout).putStr outcome.output.stdout
  (← IO.getStderr).putStr outcome.output.stderr
  if let some file := log then
    file.putStr outcome.output.logFile
  match outcome.failure with
  | none => return 0
  | some f =>
    (← IO.getStderr).putStr s!"Error: {f.message}\n"
    return 1

end ControlDependence

def main (args : List String) : IO UInt32 := ControlDependence.runTool args
