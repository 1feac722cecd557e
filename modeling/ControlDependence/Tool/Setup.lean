-- SUMMARY: The configuration and the logger of a run.
import ControlDependence.CommandLine.Flag
import ControlDependence.Tool.Host

/-!
# Setting up a run
-/
namespace ControlDependence.Tool

/-- The configuration and logger of a run. -/
structure Setup where
  config : Config
  logger : Log.Logger
  /-- The path of the log file, if there is one. -/
  logPath : Option String

/-- The configuration with the log level of the command line, if it gives one. -/
def withLevel (c : Config) (level : String) : Config :=
  if level.isEmpty then c else { c with logging := { c.logging with level } }

/-- How a configuration asks to log at a level. -/
def logSettings (c : Config) (level : Log.Level) : Log.Settings where
  level := level.severity
  json := c.logging.json
  service := "slice"
  logDir := c.logging.logDir

/-- The path of the log file, if one is asked for and can be written. -/
def logPath? (h : Host) (s : Log.Settings) : Option String :=
  if s.logDir.isEmpty then none
  else some (s.filePath h.disk.home h.date) |>.filter h.canLog

/-- The configuration and the level that a run starts with. The level has to be one, which the
configuration itself is not checked for again. -/
def configure (h : Host) (a : CommandLine.Arguments) : Except Failure (Config × Log.Level) := do
  let c ← (Config.load h.disk (a.text "config") h.environment).1.mapError .load
  let c := withLevel c (a.text "log-level")
  let level ← (Log.Level.parse c.logging.level).mapError .level
  return (c, level)

def setup (h : Host) (a : CommandLine.Arguments) : Except Failure Setup := do
  let (config, level) ← configure h a
  let settings := logSettings config level
  let logPath := logPath? h settings
  return { config, logger := Log.Logger.create settings logPath.isSome, logPath }

end ControlDependence.Tool
