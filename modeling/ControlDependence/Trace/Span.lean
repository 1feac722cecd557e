-- SUMMARY: Trace spans with their events and status, and the identifiers that link them.
import ControlDependence.Attribute

/-!
# Trace spans

A span's status only rises: an error replaces what was there unless the span is
already marked as fine, and marking it as fine is final.
-/
namespace ControlDependence.Trace

inductive Status where
  | unset
  | error (description : String)
  | ok
  deriving Repr, DecidableEq

structure Event where
  name : String
  attrs : List Attribute

/-- The identifiers of a span, in hexadecimal. -/
structure Context where
  traceId : String
  spanId : String
  deriving Repr, DecidableEq

namespace Context

def isHex (width : Nat) (s : String) : Bool :=
  s.length = width && s.all fun c => c.isDigit || ('a' ≤ c && c ≤ 'f')

/-- Identifiers are usable when both are well formed and neither is zero. -/
def isValid (c : Context) : Bool :=
  isHex 32 c.traceId && isHex 16 c.spanId
    && c.traceId.any (· ≠ '0') && c.spanId.any (· ≠ '0')

/-- The attributes that tie a log record to a span. -/
def attrs (c : Context) : List Attribute :=
  if c.isValid then [.text "trace_id" c.traceId, .text "span_id" c.spanId] else []

/-- The trace that a possible span belongs to, empty without a usable one. -/
def traceIdOf : Option Context → String
  | some c => if c.isValid then c.traceId else ""
  | none => ""

def attrsOf : Option Context → List Attribute
  | some c => c.attrs
  | none => []

end Context

/-- What a span hangs from. -/
inductive Parent where
  | none
  /-- A span of another process. -/
  | remote
  | span (name : String)
  deriving Repr, DecidableEq

structure Span where
  name : String
  tracer : String
  parent : Parent
  attrs : List Attribute
  events : List Event
  status : Status

namespace Span

def start (tracer name : String) (parent : Parent) (attrs : List Attribute) : Span :=
  { name, tracer, parent, attrs := Attribute.setAll [] attrs, events := [], status := .unset }

def setAttrs (s : Span) (attrs : List Attribute) : Span :=
  { s with attrs := Attribute.setAll s.attrs attrs }

def addEvent (s : Span) (name : String) (attrs : List Attribute) : Span :=
  { s with events := s.events ++ [{ name, attrs }] }

def setStatus (s : Span) (status : Status) : Span :=
  match s.status, status with
  | .ok, _ => s
  | .error _, .unset => s
  | _, st => { s with status := st }

def setOk (s : Span) : Span := s.setStatus .ok

/-- Adds an exception event and marks the span as failed. -/
def recordError (s : Span) (message : String) (attrs : List Attribute) : Span :=
  (s.addEvent "exception" (attrs ++ [.text "exception.message" message])).setStatus (.error message)

end Span

end ControlDependence.Trace
