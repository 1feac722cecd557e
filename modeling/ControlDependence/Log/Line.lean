-- SUMMARY: Log records as lines of text and of JSON.
import ControlDependence.Decimal.Notation
import ControlDependence.Json.Value
import ControlDependence.Log.Record

/-!
# Log lines
-/
namespace ControlDependence.Log

inductive Format where
  | text
  | json
  deriving Repr, DecidableEq

/-! ## Text -/

/-- Whether a key or value is put in quotes. -/
def needsQuotes (s : String) : Bool :=
  s.isEmpty || s.toList.any fun c =>
    if c.toNat < 0x80 then c.toNat ≤ 0x20 || c == '=' || c == '"'
    else c.toNat = 0xFFFD || Text.isBlank c || !Text.isPrintable c

def bare (s : String) : String := if needsQuotes s then Text.quoted s else s

/-- A number of units with what is left over as a fraction of as many places as the unit
has zeros. -/
def inUnits (places n : Nat) : String :=
  let unit := Nat.pow 10 places
  let rest := toString (n % unit)
  let digits := (Decimal.zeros (places - rest.length) ++ rest).toList
  let kept := (digits.reverse.dropWhile (· == '0')).reverse
  toString (n / unit) ++ if kept.isEmpty then "" else "." ++ String.ofList kept

/-- A length of time in hours, minutes and seconds, or in a smaller unit below a second. -/
def durationText (nanoseconds : Nat) : String :=
  if nanoseconds = 0 then "0s"
  else if nanoseconds < 1000 then s!"{nanoseconds}ns"
  else if nanoseconds < 1000000 then inUnits 3 nanoseconds ++ "µs"
  else if nanoseconds < 1000000000 then inUnits 6 nanoseconds ++ "ms"
  else
    let minutes := nanoseconds / 60000000000
    let seconds := inUnits 9 (nanoseconds % 60000000000) ++ "s"
    if minutes = 0 then seconds
    else if minutes < 60 then s!"{minutes}m" ++ seconds
    else s!"{minutes / 60}h{minutes % 60}m" ++ seconds

def textValue : Value → String
  | .text s => bare s
  | .int n => toString n
  | .float x => Decimal.write Decimal.compact x
  | .bool b => if b then "true" else "false"
  | .null => "<nil>"
  | .duration n => durationText n

/-- Attributes under the names of the groups around them. -/
def textAttrs (groups : String) (attrs : List Attribute) : String :=
  String.join (attrs.map fun a => " " ++ bare (groups ++ a.key) ++ "=" ++ textValue a.value)

def textGroups (outer : String) : List (String × List Attribute) → String
  | [] => ""
  | (g, attrs) :: rest => textAttrs (outer ++ g ++ ".") attrs ++ textGroups (outer ++ g ++ ".") rest

/-! ## JSON -/

def jsonEscapes : Json.Escapes where
  extra := [Char.ofNat 0x2028, Char.ofNat 0x2029]

def jsonText (s : String) : String := Json.quoted jsonEscapes s

def jsonValue : Value → String
  | .text s => jsonText s
  | .int n => toString n
  | .float x => Decimal.write Decimal.broad x
  | .bool b => if b then "true" else "false"
  | .null => "null"
  | .duration n => toString n

def jsonAttrs (attrs : List Attribute) : List String :=
  attrs.map fun a => jsonText a.key ++ ":" ++ jsonValue a.value

/-- Groups inside one another, of which one that holds nothing is left out. -/
def jsonGroups : List (String × List Attribute) → List String
  | [] => []
  | (g, attrs) :: rest =>
    match jsonAttrs attrs ++ jsonGroups rest with
    | [] => []
    | members => [jsonText g ++ ":\x7b" ++ ",".intercalate members ++ "\x7d"]

/-! ## Lines -/

namespace Format

/-- The line of a record's level, message and attributes. -/
def line (f : Format) (level : Level) (message : String) (scope : Scope) : String :=
  match f with
  | .text =>
    "level=" ++ level.label ++ " msg=" ++ bare message ++ textAttrs "" scope.attrs
      ++ textGroups "" scope.groups ++ "\n"
  | .json =>
    let members :=
      ["\"level\":\"" ++ level.label ++ "\"", "\"msg\":" ++ jsonText message]
        ++ jsonAttrs scope.attrs ++ jsonGroups scope.groups
    "\x7b" ++ ",".intercalate members ++ "\x7d\n"

end Format

end ControlDependence.Log
