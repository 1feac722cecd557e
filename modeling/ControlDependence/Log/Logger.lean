-- SUMMARY: Loggers that write records to a console and a file.
import ControlDependence.Files.Path
import ControlDependence.Log.Line

/-!
# Loggers

A logger hands its records to one handler. That is a destination, if there is only one. Several
destinations take part in a handler that asks each of them whether it accepts the record, and
goes on to the next one whatever becomes of the record. The console may be text or JSON; a file
is always JSON.
-/
namespace ControlDependence.Log

/-- What lines can be written to. -/
inductive Outlet where
  | console
  | file
  deriving Repr, DecidableEq

/-- Where lines go, from which level on, and what each carries. -/
structure Destination where
  outlet : Outlet
  format : Format
  threshold : Level
  scope : Scope := {}

namespace Destination

def accepts (d : Destination) (l : Level) : Bool := d.threshold.severity ≤ l.severity

def line (d : Destination) (r : Record) : String :=
  d.format.line r.level r.message (d.scope.add r.attrs)

def adding (d : Destination) (attrs : List Attribute) : Destination :=
  { d with scope := d.scope.add attrs }

def enter (d : Destination) (group : String) : Destination := { d with scope := d.scope.enter group }

end Destination

/-- A record at a destination. -/
structure Entry where
  destination : Destination
  record : Record

namespace Entry

def line (e : Entry) : String := e.destination.line e.record

def isAt (e : Entry) (o : Outlet) : Bool := e.destination.outlet = o

end Entry

/-- What has become of records at outlets. -/
structure Delivery where
  written : List Entry := []
  /-- What could not be written. -/
  failed : List Entry := []

namespace Delivery

/-- All that has reached an outlet. -/
def text (d : Delivery) (o : Outlet) : String :=
  String.join ((d.written.filter (·.isAt o)).map (·.line))

end Delivery

/-- Writes a record, whatever its level, after what was delivered before. -/
def Destination.handle (d : Destination) (works : Outlet → Bool) (r : Record) (before : Delivery) : Delivery :=
  if works d.outlet then { before with written := before.written ++ [⟨d, r⟩] }
  else { before with failed := before.failed ++ [⟨d, r⟩] }

/-- What a logger hands its records to. -/
inductive Handler where
  /-- Takes records of a level and above, and writes nothing. -/
  | discard (threshold : Level)
  | single (destination : Destination)
  | several (destinations : List Destination)

namespace Handler

/-- The handler for some destinations. -/
def of (threshold : Level) : List Destination → Handler
  | [] => .discard threshold
  | [d] => .single d
  | ds => .several ds

def destinations : Handler → List Destination
  | .discard _ => []
  | .single d => [d]
  | .several ds => ds

/-- Whether there is someone to take records of a level. -/
def accepts : Handler → Level → Bool
  | .discard threshold, l => threshold.severity ≤ l.severity
  | .single d, l => d.accepts l
  | .several ds, l => ds.any (·.accepts l)

/-- Takes a record. A destination by itself writes what it is given; several are each asked
first, also after one that could not be written to. -/
def handle (h : Handler) (works : Outlet → Bool) (r : Record) : Delivery :=
  match h with
  | .discard _ => {}
  | .single d => d.handle works r {}
  | .several ds =>
    ds.foldl (fun before d => if d.accepts r.level then d.handle works r before else before) {}

def adding (attrs : List Attribute) : Handler → Handler
  | .discard threshold => .discard threshold
  | .single d => .single (d.adding attrs)
  | .several ds => .several (ds.map (·.adding attrs))

def enter (group : String) : Handler → Handler
  | .discard threshold => .discard threshold
  | .single d => .single (d.enter group)
  | .several ds => .several (ds.map (·.enter group))

end Handler

structure Settings where
  /-- The severity from which records are kept. -/
  level : Int := 1
  json : Bool := false
  quiet : Bool := false
  service : String := ""
  logDir : String := ""
  deriving Repr, DecidableEq

namespace Settings

/-- The path of the log file on a day. -/
def filePath (s : Settings) (home date : String) : String :=
  let service := if s.service.isEmpty then "slice" else s.service
  Files.join (Files.expandHome home s.logDir) (service ++ "_" ++ date ++ ".log")

end Settings

structure Logger where
  handler : Handler

namespace Logger

/-- The console as the settings ask for it. -/
def console (s : Settings) : Destination where
  outlet := .console
  format := if s.json then .json else .text
  threshold := .threshold s.level

/-- The log file as the settings ask for it. -/
def file (s : Settings) : Destination where
  outlet := .file
  format := .json
  threshold := .threshold s.level

/-- What every record says of the service. -/
def serviceAttrs (s : Settings) : List Attribute :=
  if s.service.isEmpty then [] else [Attribute.text "service" s.service]

/-- A logger with the attributes of its service. A file that is asked for is written if it can
be opened. -/
def create (s : Settings) (opens : Bool) : Logger :=
  let destinations :=
    (if s.quiet then [] else [console s]) ++ if !s.logDir.isEmpty && opens then [file s] else []
  { handler := (Handler.of (.threshold s.level) destinations).adding (serviceAttrs s) }

/-- The logger with more attributes on every record. -/
def adding (l : Logger) (attrs : List Attribute) : Logger := { handler := l.handler.adding attrs }

/-- The logger with a group opened. -/
def enter (l : Logger) (group : String) : Logger := { handler := l.handler.enter group }

/-- Whether records of a level are kept. -/
def isEnabled (l : Logger) (level : Level) : Bool := l.handler.accepts level

/-- Whether lines go to an outlet. -/
def writesTo (l : Logger) (o : Outlet) : Bool := l.handler.destinations.any (·.outlet == o)

/-- Hands over a record that is kept, while some outlets can be written to. -/
def deliver (l : Logger) (works : Outlet → Bool) (r : Record) : Delivery :=
  if l.isEnabled r.level then l.handler.handle works r else {}

end Logger

/-! ## Sharing a file -/

/-- A logger that holds on to its file, given by its path, until it is closed. -/
structure Holder where
  logger : Logger
  file : Option String

/-- What goes wrong when a file is closed that is closed already. -/
def closedMessage (path : String) : String :=
  s!"sync log file: sync {path}: file already closed\nclose log file: close {path}: file already closed"

/-- A logger, the one derived from it that is in use, and the file that they share. -/
structure Session where
  root : Holder
  current : Holder
  /-- Whether the logger in use still is the first one. -/
  onRoot : Bool := true
  isOpen : Bool := true

namespace Session

/-- A logger with the file at a path, if that could be opened. -/
def start (s : Settings) (file : Option String) : Session :=
  let holder : Holder := { logger := Logger.create s file.isSome, file }
  { root := holder, current := holder }

/-- Writes a record. A file that was closed cannot be written to. -/
def write (s : Session) (r : Record) : Delivery :=
  s.current.logger.deliver (fun o => o = .console || s.isOpen) r

/-- Goes on with a child of the logger in use. -/
def child (s : Session) (attrs : List Attribute) : Session :=
  { s with current := { s.current with logger := s.current.logger.adding attrs }, onRoot := false }

/-- Opens a group on the logger in use. -/
def enter (s : Session) (group : String) : Session :=
  { s with current := { s.current with logger := s.current.logger.enter group } }

/-- Goes back to the first logger. -/
def toRoot (s : Session) : Session := { s with current := s.root, onRoot := true }

/-- The path of the file that the logger in use holds, empty without one. -/
def path (s : Session) : String := s.current.file.getD ""

/-- Closes the logger in use. It is a mistake if another one has closed the file. -/
def close (s : Session) : Session × Option String :=
  match s.current.file with
  | none => (s, none)
  | some f =>
    let root := if s.onRoot then { s.root with file := none } else s.root
    ({ s with root, current := { s.current with file := none }, isOpen := false },
      if s.isOpen then none else some (closedMessage f))

end Session

end ControlDependence.Log
