-- SUMMARY: Report documents as text, JSON and YAML.
import ControlDependence.Json.Value
import ControlDependence.Report.Document
import ControlDependence.Report.Palette
import ControlDependence.Yaml.Writer

/-!
# The layouts of a report
-/
namespace ControlDependence.Report

def commaSeparated (xs : List Int) : String := ", ".intercalate (xs.map toString)

/-! ## Text -/

def padLeft (width : Nat) (s : String) : String :=
  String.ofList (List.replicate (width - s.length) ' ') ++ s

namespace Line

def toText (p : Palette) (l : Line) : String :=
  "  " ++ p.paint .index (padLeft 4 (toString l.instruction))
    ++ (if l.label.isEmpty then "" else "  " ++ l.label)
    ++ (if l.position.isEmpty then "" else "  " ++ p.paint .muted l.position)
    ++ "  ← " ++ commaSeparated (l.controlledBy.getD [])
    ++ (if l.chain.isEmpty then "" else "  " ++ p.paint .muted ("chain " ++ commaSeparated l.chain))
    ++ "\n"

end Line

namespace Section

def summary (s : Stats) : String :=
  s!"({s.instructions} instructions, {s.branches} branches, {s.edges} edges, {s.passes} passes)"

def toText (p : Palette) (s : Section) : String :=
  "\n" ++ p.paint .method s.name ++
  if !s.error.isEmpty then "  " ++ p.paint .error s!"✗ {s.errorKind}: {s.error}" ++ "\n"
  else
    (match s.stats with
      | some st => "  " ++ p.paint .muted (summary st)
      | none => "") ++ "\n" ++
    if s.lines.isEmpty then "  " ++ p.paint .muted "no control dependencies" ++ "\n"
    else String.join (s.lines.map (Line.toText p))

end Section

namespace Document

def sectionList (d : Document) : List Section := d.sections.getD []

def toText (p : Palette) (d : Document) : String :=
  p.paint .title s!"Control dependencies (run {d.runId})" ++ "\n" ++
  p.paint .muted
    s!"{d.sectionList.length} methods, {d.succeeded} ok, {d.failed} failed, {d.milliseconds}ms" ++ "\n" ++
  String.join (d.sectionList.map (Section.toText p))

end Document

/-! ## Fields -/

def statsFields (s : Stats) : List (String × Int) := [
  ("instructions", s.instructions),
  ("ranked", s.ranked),
  ("branches", s.branches),
  ("edges", s.edges),
  ("passes", s.passes),
  ("unresolved", s.unresolved),
  ("nodes_with_dependencies", s.nodesWithDependencies),
  ("controllers", s.controllers),
  ("max_dependencies", s.maxDependencies),
  ("max_dependents", s.maxDependents)]

/-- A field that is left out when it says nothing. -/
def fieldUnless {α : Type} (absent : Bool) (key : String) (value : α) : List (String × α) :=
  if absent then [] else [(key, value)]

/-! ## JSON -/

/-- What a page would take for markup, and the separators of lines and paragraphs, are
written by their codes. -/
def jsonEscapes : Json.Escapes where
  extra := ['<', '>', '&', Char.ofNat 0x2028, Char.ofNat 0x2029]

namespace Line

def toJson (l : Line) : Json.Value :=
  .object (
    [("instruction", .int l.instruction)]
    ++ fieldUnless l.label.isEmpty "label" (.text l.label)
    ++ fieldUnless l.position.isEmpty "position" (.text l.position)
    ++ [("controlled_by",
        match l.controlledBy with
        | some bs => .list (bs.map .int)
        | none => .null)]
    ++ fieldUnless l.chain.isEmpty "chain" (.list (l.chain.map .int)))

end Line

namespace Section

def toJson (s : Section) : Json.Value :=
  .object (
    [("name", .text s.name)]
    ++ fieldUnless s.error.isEmpty "error" (.text s.error)
    ++ fieldUnless s.errorKind.isEmpty "error_kind" (.text s.errorKind)
    ++ (match s.stats with
      | some st => [("stats", .object ((statsFields st).map fun (k, n) => (k, .int n)))]
      | none => [])
    ++ fieldUnless s.lines.isEmpty "dependencies" (.list (s.lines.map Line.toJson)))

end Section

namespace Document

def toJson (d : Document) : Json.Value :=
  .object (
    [("run_id", .text d.runId)]
    ++ fieldUnless d.traceId.isEmpty "trace_id" (.text d.traceId)
    ++ [("succeeded", .int d.succeeded), ("failed", .int d.failed),
      ("duration_ms", .int d.milliseconds),
      ("methods",
        match d.sections with
        | some ss => .list (ss.map Section.toJson)
        | none => .null)])

def toJsonText (d : Document) : String := d.toJson.pretty jsonEscapes 0 ++ "\n"

end Document

/-! ## YAML -/

namespace Line

def toYaml (l : Line) : Yaml.Tree :=
  .map (
    [("instruction", .int l.instruction)]
    ++ fieldUnless l.label.isEmpty "label" (.text l.label)
    ++ fieldUnless l.position.isEmpty "position" (.text l.position)
    ++ [("controlled_by", .list ((l.controlledBy.getD []).map .int))]
    ++ fieldUnless l.chain.isEmpty "chain" (.list (l.chain.map .int)))

end Line

namespace Section

def toYaml (s : Section) : Yaml.Tree :=
  .map (
    [("name", .text s.name)]
    ++ fieldUnless s.error.isEmpty "error" (.text s.error)
    ++ fieldUnless s.errorKind.isEmpty "error_kind" (.text s.errorKind)
    ++ (match s.stats with
      | some st => [("stats", .map ((statsFields st).map fun (k, n) => (k, .int n)))]
      | none => [])
    ++ fieldUnless s.lines.isEmpty "dependencies" (.list (s.lines.map Line.toYaml)))

end Section

namespace Document

def toYamlText (d : Document) : String :=
  Yaml.document (
    [("run_id", .text d.runId)]
    ++ fieldUnless d.traceId.isEmpty "trace_id" (.text d.traceId)
    ++ [("succeeded", .int d.succeeded), ("failed", .int d.failed),
      ("duration_ms", .int d.milliseconds),
      ("methods", .list (d.sectionList.map Section.toYaml))])

end Document

end ControlDependence.Report
