-- SUMMARY: What a plain scalar denotes.
import ControlDependence.Yaml.Number
import ControlDependence.Yaml.Timestamp

/-!
# Plain scalars

A scalar without quotes denotes nothing, a truth value, a number, a time or, if it is
none of these, its own text.
-/
namespace ControlDependence.Yaml

inductive Plain where
  | null
  | bool (b : Bool)
  | int (n : Int)
  | float (x : Float)
  | timestamp
  | text

namespace Plain

/-- The tag of what a scalar denotes. -/
def tag : Plain → String
  | .null => "!!null"
  | .bool _ => "!!bool"
  | .int _ => "!!int"
  | .float _ => "!!float"
  | .timestamp => "!!timestamp"
  | .text => "!!str"

/-- The words with a meaning of their own. -/
def word? (s : String) : Option Plain :=
  if ["", "~", "null", "Null", "NULL"].contains s then some .null
  else if ["true", "True", "TRUE"].contains s then some (.bool true)
  else if ["false", "False", "FALSE"].contains s then some (.bool false)
  else if [".inf", ".Inf", ".INF", "+.inf", "+.Inf", "+.INF"].contains s then
    some (.float (1 / 0))
  else if ["-.inf", "-.Inf", "-.INF"].contains s then some (.float (-1 / 0))
  else if [".nan", ".NaN", ".NAN"].contains s then some (.float (0 / 0))
  else none

/-- Numbers that start with a digit or a sign; underscores in them have no meaning. -/
def number? (cs : List Char) : Option Plain :=
  let ds := cs.filter (· ≠ '_')
  match int? ds with
  | some n => some (.int n)
  | none => ((decimal? ds).bind Decimal.float?).map .float

def ofText (s : String) : Plain :=
  match word? s with
  | some p => p
  | none =>
    let cs := s.toList
    match cs with
    | [] => .null
    | c :: _ =>
      if c == '.' then
        if spacedWell none cs then
          (((decimal? (cs.filter (· ≠ '_'))).bind Decimal.float?).map .float).getD .text
        else .text
      else if c.isDigit || c == '+' || c == '-' then
        if isTimestamp cs then .timestamp else (number? cs).getD .text
      else .text

end Plain

/-- The words that older readers take for truth values. -/
def oldBool? (s : String) : Option Bool :=
  if ["y", "Y", "yes", "Yes", "YES", "on", "On", "ON"].contains s then some true
  else if ["n", "N", "no", "No", "NO", "off", "Off", "OFF"].contains s then some false
  else none

/-- The groups of a number in base sixty after its first: a colon and one or two digits
below sixty, at least once. -/
def isSexagesimalTail : Nat → List Char → Bool
  | 0, _ => false
  | fuel + 1, cs =>
    match cs with
    | ':' :: a :: cs =>
      if !a.isDigit then false
      else
        let rest :=
          match cs with
          | b :: cs' => if b.isDigit && a ≤ '5' then cs' else cs
          | [] => cs
        match rest with
        | [] => true
        | '.' :: ds => ds.all fun c => c.isDigit || c == '_'
        | _ => isSexagesimalTail fuel rest
    | _ => false

/-- Whether older readers take the text for a number in base sixty. -/
def isSexagesimal (s : String) : Bool :=
  let (_, cs) := splitSign s.toList
  match cs with
  | c :: cs =>
    c.isDigit &&
      let rest := cs.dropWhile fun c => c.isDigit || c == '_'
      isSexagesimalTail rest.length rest
  | [] => false

/-- Whether a text written plain is read back as a text everywhere. -/
def readsAsText (s : String) : Bool :=
  (match Plain.ofText s with
    | .text => true
    | _ => false)
  && (oldBool? s).isNone && !isSexagesimal s

end ControlDependence.Yaml
