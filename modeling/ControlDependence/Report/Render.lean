-- SUMMARY: Choosing a report's format and colours, and writing it where there is room.
import ControlDependence.Report.Layout
import ControlDependence.Text.Quoted

/-!
# Rendering a report
-/
namespace ControlDependence.Report

inductive Format where
  | text
  | json
  | yaml
  deriving Repr, DecidableEq

/-- Where a report goes. -/
structure Sink where
  terminal : Bool := false
  profile : Profile := .ascii
  /-- How many bytes there is room for, if that is limited. -/
  room : Option Int := none

/-- Why a report was not written. -/
inductive RenderError where
  | unknownFormat (name : String)
  | noRoom (format : Format)
  deriving Repr, DecidableEq

namespace RenderError

def message : RenderError → String
  | .unknownFormat name => s!"unknown report format: {Text.quoted name}"
  | .noRoom .text => "short write"
  | .noRoom .json => "encode json: short write"
  | .noRoom .yaml => "encode yaml: yaml: write error: short write"

end RenderError

def Format.ofName? : String → Option Format
  | "" => some .text
  | "text" => some .text
  | "json" => some .json
  | "yaml" => some .yaml
  | _ => none

/-- Whether text is styled. Left to itself it is on terminals, unless the environment
asks for no colour. -/
def useColor (mode noColor : String) (terminal : Bool) : Bool :=
  match mode with
  | "always" => true
  | "never" => false
  | _ => noColor.isEmpty && terminal

namespace Document

def render (d : Document) (format : Format) (palette : Palette) : String :=
  match format with
  | .text => d.toText palette
  | .json => d.toJsonText
  | .yaml => d.toYamlText

/-- Writes a document, or says why not. -/
def write (d : Document) (format mode noColor : String) (sink : Sink) : Except RenderError String :=
  match Format.ofName? format with
  | none => .error (.unknownFormat format)
  | some f =>
    let profile := if useColor mode noColor sink.terminal then some sink.profile else none
    let text := d.render f { profile }
    match sink.room with
    | none => .ok text
    | some room => if text.utf8ByteSize ≤ room then .ok text else .error (.noRoom f)

end Document

end ControlDependence.Report
