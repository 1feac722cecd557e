-- SUMMARY: Spans and metrics as the indented JSON that exporters print.
import ControlDependence.Json.Value
import ControlDependence.Log.Line
import ControlDependence.Metrics.Instrument
import ControlDependence.Telemetry.Settings
import ControlDependence.Trace.Span

/-!
# Printed spans and metrics

What is printed is told how deep it stands, so that lines are indented by a tab for each
level. No clock is read: times are those of the start of the calendar.
-/
namespace ControlDependence.Telemetry

/-- A piece of JSON at some depth. -/
abbrev Piece := Nat → String

namespace Piece

def escapes : Json.Escapes where
  extra := ['<', '>', '&', Char.ofNat 0x2028, Char.ofNat 0x2029]

def verbatim (s : String) : Piece := fun _ => s

def text (s : String) : Piece := verbatim (Json.quoted escapes s)

def nat (n : Nat) : Piece := verbatim (toString n)

def number (x : Float) : Piece := verbatim (Decimal.write Decimal.broad x)

def newline (depth : Nat) : String := "\n" ++ String.ofList (List.replicate depth '\t')

/-- Members between brackets, each on a line of its own. -/
def bracket (left right : String) (members : List Piece) : Piece := fun depth =>
  if members.isEmpty then left ++ right
  else
    left ++ newline (depth + 1) ++ ("," ++ newline (depth + 1)).intercalate (members.map (· (depth + 1)))
      ++ newline depth ++ right

def list (items : List Piece) : Piece := bracket "[" "]" items

/-- A list that is null when it is empty. -/
def optional (items : List Piece) : Piece := if items.isEmpty then verbatim "null" else list items

def object (fields : List (String × Piece)) : Piece :=
  bracket "\x7b" "\x7d" (fields.map fun (k, p) depth => Json.quoted escapes k ++ ": " ++ p depth)

end Piece

def time : Piece := .text "0001-01-01T00:00:00Z"

def valueType : Value → String
  | .text _ => "STRING"
  | .int _ => "INT64"
  | .float _ => "FLOAT64"
  | .bool _ => "BOOL"
  | .null => "INVALID"
  | .duration _ => "INT64"

def attributePiece (a : Attribute) : Piece :=
  .object [("Key", .text a.key),
    ("Value", .object [("Type", .text (valueType a.value)), ("Value", .verbatim (Log.jsonValue a.value))])]

namespace Settings

def piece (s : Settings) : Piece := .list (s.resource.map fun (k, v) => attributePiece (.text k v))

end Settings

/-! ## Spans -/

/-- The identifiers of a possible span. -/
def contextPiece (c : Option Trace.Context) : Piece :=
  .object [
    ("TraceID", .text (c.elim (Decimal.zeros 32) (·.traceId))),
    ("SpanID", .text (c.elim (Decimal.zeros 16) (·.spanId))),
    ("TraceFlags", .text (if c.isSome then "01" else "00")), ("TraceState", .text ""),
    ("Remote", .verbatim "false")]

def eventPiece (e : Trace.Event) : Piece :=
  .object [
    ("Name", .text e.name), ("Attributes", .optional (e.attrs.map attributePiece)),
    ("DroppedAttributeCount", .nat 0), ("Time", time)]

def statusPiece : Trace.Status → Piece
  | .unset => .object [("Code", .text "Unset"), ("Description", .text "")]
  | .error d => .object [("Code", .text "Error"), ("Description", .text d)]
  | .ok => .object [("Code", .text "Ok"), ("Description", .text "")]

def scopePiece (name : String) : Piece :=
  .object [
    ("Name", .text name), ("Version", .text ""), ("SchemaURL", .text ""),
    ("Attributes", .verbatim "null")]

/-- A span of a trace with that which it hangs from. -/
structure Placed where
  span : Trace.Span
  context : Option Trace.Context
  parent : Option Trace.Context

def Placed.piece (s : Settings) (p : Placed) : Piece :=
  .object [
    ("Name", .text p.span.name), ("SpanContext", contextPiece p.context),
    ("Parent", contextPiece p.parent), ("SpanKind", .nat 1), ("StartTime", time), ("EndTime", time),
    ("Attributes", .optional (p.span.attrs.map attributePiece)),
    ("Events", .optional (p.span.events.map eventPiece)), ("Links", .verbatim "null"),
    ("Status", statusPiece p.span.status), ("DroppedAttributes", .nat 0), ("DroppedEvents", .nat 0),
    ("DroppedLinks", .nat 0), ("ChildSpanCount", .nat 0), ("Resource", s.piece),
    ("InstrumentationScope", scopePiece p.span.tracer),
    ("InstrumentationLibrary", scopePiece p.span.tracer)]

/-- The printed form of spans. -/
def spansText (s : Settings) (spans : List Placed) : String :=
  String.join (spans.map fun p => p.piece s 0 ++ "\n")

/-! ## Metrics -/

def pointPiece (attrs : List Attribute) : Metrics.Point → Piece
  | .counter v => .object (head ++ [("Value", .number v)])
  | .gauge v => .object (head ++ [("Value", .number v)])
  | .histogram bounds counts sum =>
    .object (head ++ [
      ("Count", .nat (counts.foldr (· + ·) 0)), ("Bounds", .list (bounds.map .number)),
      ("BucketCounts", .list (counts.map .nat)), ("Sum", .number sum)])
where
  head : List (String × Piece) :=
    [("Attributes", .list (attrs.map attributePiece)), ("StartTime", time), ("Time", time)]

def instrumentPiece (i : Metrics.Instrument) (points : List (List Attribute × Metrics.Point)) : Piece :=
  .object [
    ("Name", .text i.name), ("Description", .text i.help), ("Unit", .text i.unit),
    ("Data", .object ([
      ("DataPoints", Piece.list (points.map fun (attrs, p) => pointPiece attrs p)),
      ("Temporality", .text "CumulativeTemporality")] ++
      if i.kind = .counter then [("IsMonotonic", .verbatim "true")] else []))]

/-- The instruments of a meter that hold something. -/
def meterPieces (os : Metrics.Observations) : List Piece :=
  let succeeded := !os.passes.isEmpty
  let outcomes := os.analyses.map fun (o, n) => (o, [Attribute.text "outcome" o], n)
  let all := [
    (Metrics.Instrument.analyses, outcomes.map fun (_, attrs, n) =>
      (attrs, Metrics.Point.counter (Float.ofNat n))),
    (Metrics.Instrument.duration, outcomes.map fun (o, attrs, _) => (attrs, os.durationPoint o)),
    (Metrics.Instrument.passes, if succeeded then [([], os.passesPoint)] else []),
    (Metrics.Instrument.edges, if succeeded then [([], os.edgesPoint)] else []),
    (Metrics.Instrument.errors, os.failures.map fun (k, n) =>
      ([Attribute.text "kind" k], .counter (Float.ofNat n)))]
  (all.filter fun (_, points) => !points.isEmpty).map fun (i, points) => instrumentPiece i points

/-- The printed form of all that meters hold. -/
def metricsText (s : Settings) (rs : Metrics.Readings) : String :=
  let scopes := rs.meters.map fun m =>
    Piece.object [("Scope", scopePiece m), ("Metrics", .list (meterPieces (rs.on m)))]
  Piece.object [("Resource", s.piece), ("ScopeMetrics", .list scopes)] 0 ++ "\n"

end ControlDependence.Telemetry
