-- SUMMARY: Metric families and their text form.
import ControlDependence.Decimal.Notation

/-!
# Exposition of metrics

A family is a name with a help text and a number of series, each of which is told apart
from the others by its labels. The buckets of a histogram are written cumulatively.
-/
namespace ControlDependence.Metrics

structure Label where
  name : String
  value : String
  deriving Repr, DecidableEq

namespace Label

def escape : Char → String
  | '\\' => "\\\\"
  | '"' => "\\\""
  | '\n' => "\\n"
  | c => c.toString

def text (l : Label) : String :=
  l.name ++ "=\"" ++ String.join (l.value.toList.map escape) ++ "\""

end Label

/-- What a series holds. -/
inductive Point where
  | counter (value : Float)
  | gauge (value : Float)
  /-- How many values lie below each bound and above the one before; the last count is that of
  the values above all bounds. -/
  | histogram (bounds : List Float) (counts : List Nat) (sum : Float)

structure Series where
  labels : List Label
  point : Point

inductive Kind where
  | counter
  | gauge
  | histogram
  deriving Repr, DecidableEq

def Kind.name : Kind → String
  | .counter => "counter"
  | .gauge => "gauge"
  | .histogram => "histogram"

structure Family where
  name : String
  help : String
  kind : Kind
  series : List Series

def number (x : Float) : String := Decimal.write Decimal.compact x

/-- One line of a series. -/
def sampleLine (name : String) (labels : List Label) (value : Float) : String :=
  name ++ "\x7b" ++ ",".intercalate (labels.map (·.text)) ++ "\x7d " ++ number value ++ "\n"

/-- The sums of the first one, two, three and more counts. -/
def cumulative (start : Nat) : List Nat → List Nat
  | [] => []
  | n :: ns => (start + n) :: cumulative (start + n) ns

namespace Series

def lines (name : String) (s : Series) : List String :=
  match s.point with
  | .counter v => [sampleLine name s.labels v]
  | .gauge v => [sampleLine name s.labels v]
  | .histogram bounds counts sum =>
    let names := bounds.map number ++ ["+Inf"]
    (names.zip (cumulative 0 counts)).map (fun (le, n) =>
      sampleLine (name ++ "_bucket") (s.labels ++ [⟨"le", le⟩]) (Float.ofNat n)) ++
    [sampleLine (name ++ "_sum") s.labels sum,
      sampleLine (name ++ "_count") s.labels (Float.ofNat (counts.foldr (· + ·) 0))]

end Series

namespace Family

def text (f : Family) : String :=
  s!"# HELP {f.name} {f.help}\n# TYPE {f.name} {f.kind.name}\n" ++
    String.join (f.series.flatMap (Series.lines f.name))

end Family

/-- The text form of families, of which those without a series are left out. -/
def exposition (families : List Family) : String :=
  String.join ((families.filter fun f => !f.series.isEmpty).map (·.text))

end ControlDependence.Metrics
