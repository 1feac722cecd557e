-- SUMMARY: Log levels: their order, names and spellings.
import ControlDependence.Text.Blank
import ControlDependence.Text.LowerCase
import ControlDependence.Text.Quoted

/-!
# Log levels
-/
namespace ControlDependence.Log

inductive Level where
  | debug
  | info
  | warn
  | error
  deriving Repr, DecidableEq

/-- A name that no level has. -/
structure UnknownLevel where
  name : String
  deriving Repr, DecidableEq

def UnknownLevel.message (u : UnknownLevel) : String := s!"unknown log level: {Text.quoted u.name}"

namespace Level

/-- Levels by severity. -/
def severity : Level → Nat
  | .debug => 0
  | .info => 1
  | .warn => 2
  | .error => 3

/-- How a level is written in a record. -/
def label : Level → String
  | .debug => "DEBUG"
  | .info => "INFO"
  | .warn => "WARN"
  | .error => "ERROR"

def name : Level → String
  | .debug => "debug"
  | .info => "info"
  | .warn => "warn"
  | .error => "error"

/-- The level of a severity, if there is one. -/
def ofSeverity? : Int → Option Level
  | 0 => some .debug
  | 1 => some .info
  | 2 => some .warn
  | 3 => some .error
  | _ => none

/-- The name of a severity, which need not be that of a level. -/
def severityName (n : Int) : String :=
  match ofSeverity? n with
  | some l => l.name
  | none => s!"level({n})"

/-- The level at which records are kept under a severity. -/
def threshold (n : Int) : Level := (ofSeverity? n).getD .info

/-- The level of a name, in any case and with blanks around it. Blank is `info`. -/
def parse (s : String) : Except UnknownLevel Level :=
  match Text.lower (Text.trim s) with
  | "debug" => .ok .debug
  | "info" => .ok .info
  | "" => .ok .info
  | "warn" => .ok .warn
  | "warning" => .ok .warn
  | "error" => .ok .error
  | _ => .error ⟨s⟩

end Level

end ControlDependence.Log
