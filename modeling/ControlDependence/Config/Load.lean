-- SUMMARY: Loading a configuration from a file, with the trace of doing so.
import ControlDependence.Config.Parse
import ControlDependence.Files.Path
import ControlDependence.Trace.Span

/-!
# Loading a configuration
-/
namespace ControlDependence

/-- What a path leads to. -/
inductive FileState where
  | missing
  | directory (size : Nat)
  | contents (text : String)

/-- The files that can be read. -/
structure Disk where
  home : String
  /-- The directory where relative paths start. -/
  here : String
  entry : String → FileState

inductive LoadError where
  /-- The caller gave no context to load in. -/
  | noContext
  | missing (path : String)
  | tooLarge (size : Nat)
  | directory (path : String)
  | config (cause : ConfigError)

namespace LoadError

/-- The greatest size of a configuration file, in bytes. -/
def sizeLimit : Nat := 1024 * 1024

def message : LoadError → String
  | .noContext => "config.Load: ctx must not be nil"
  | .missing p => s!"stat file: stat {p}: no such file or directory"
  | .tooLarge n => s!"config file too large: {n} bytes (max {sizeLimit})"
  | .directory p => s!"reading file: read {p}: is a directory"
  | .config c => c.message

end LoadError

namespace Config

open Trace (Span)

def tracer : String := "slice.config"

/-- Reads a file that is not too large. -/
def readFile (disk : Disk) (path : String) : Except LoadError String × Span :=
  let full := Files.absolute disk.here (Files.expandHome disk.home path)
  let span := Span.start tracer "config.ReadFile" (.span "config.Load") [.text "path" path]
  let sized := fun (n : Nat) => span.setAttrs [.int "file_size" n]
  match disk.entry full with
  | .missing => (.error (.missing full), span)
  | .directory n =>
    if LoadError.sizeLimit < n then (.error (.tooLarge n), span) else (.error (.directory full), sized n)
  | .contents t =>
    let n := t.utf8ByteSize
    if LoadError.sizeLimit < n then (.error (.tooLarge n), span) else (.ok t, sized n)

/-- The text of a configuration: that of a file, or none at all. -/
def source (disk : Disk) (path : String) : Except LoadError String × List Span :=
  if path.isEmpty then (.ok "", [])
  else
    let (text, span) := readFile disk path
    (text, [span])

/-- Loads a configuration. The spans are in the order in which they ended. -/
def load (disk : Disk) (path : String) (e : Environment) : Except LoadError Config × List Span :=
  let origin := if path.isEmpty then "embedded" else "file"
  let span := Span.start tracer "config.Load" .none [.text "source" origin]
  let (text, inner) := source disk path
  match text.bind fun t => (parse t e).mapError .config with
  | .ok c =>
    let span := span.setAttrs
      [.int "analysis.workers" c.analysis.workers, .text "logging.level" c.logging.level]
    (.ok c, inner ++ [span.setOk])
  | .error f => (.error f, inner ++ [span.recordError f.message [.text "source" origin]])

end Config

end ControlDependence
