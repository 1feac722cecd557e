-- SUMMARY: A report written as JSON is one value, and nothing of the document is lost in it.
import ControlDependence.Proofs.JsonWriting
import ControlDependence.Report.Decode
import ControlDependence.Report.Render

/-!
# Reports as JSON

A field is left out of the text only where it would say nothing, and the reader takes a field that
is missing as saying nothing. A document is therefore found again in its text, and the texts of two
documents differ.
-/
namespace ControlDependence

open Json (Written Blanks isBlank)

/-- The names of a value's fields. -/
def Json.Value.names : Json.Value → List String
  | .object fs => fs.map (·.1)
  | _ => []

namespace Report

/-! ## Fields -/

section Fields

variable {α : Type}

@[simp] theorem lookup_fieldUnless_of_ne {absent : Bool} {k key : String} {v : α} (h : key ≠ k) :
    (fieldUnless absent k v).lookup key = none := by
  have hne : (key == k) = false := by simpa using h
  cases absent <;> simp [fieldUnless, List.lookup_cons, hne]

@[simp] theorem asText_lookup_fieldUnless (k s : String) :
    (((fieldUnless s.isEmpty k (Json.Value.text s)).lookup k).getD .null).asText = s := by
  cases h : s.isEmpty with
  | true => exact (String.isEmpty_iff.1 h).symm
  | false => simp [fieldUnless]

/-- The members of a list are found again one by one. -/
theorem map_asList_lookup_fieldUnless {f : α → Json.Value} {g : Json.Value → α} (h : ∀ a, g (f a) = a)
    (k : String) (xs : List α) :
    (((fieldUnless xs.isEmpty k (Json.Value.list (xs.map f))).lookup k).getD .null).asList.map g = xs := by
  cases xs with
  | nil => rfl
  | cons x xs => simp [fieldUnless, Json.Value.asList, Function.comp_def, h]

end Fields

/-! ## Documents -/

theorem readStats_statsFields (s : Stats) :
    readStats (.object ((statsFields s).map fun (k, n) => (k, .int n))) = s := by
  simp [readStats, statsFields, Json.Value.field, List.lookup_cons]

theorem Line.ofJson_toJson (l : Line) : Line.ofJson l.toJson = l := by
  obtain ⟨i, label, position, controlledBy, chain⟩ := l
  have hchain := map_asList_lookup_fieldUnless (f := Json.Value.int) Json.Value.asInt_int "chain" chain
  cases controlledBy <;>
    simp [Line.ofJson, Line.toJson, Json.Value.field, List.lookup_cons, List.lookup_append, hchain, Function.comp_def]

theorem Section.ofJson_toJson (s : Section) : Section.ofJson s.toJson = s := by
  obtain ⟨name, error, errorKind, stats, lines⟩ := s
  have hlines := map_asList_lookup_fieldUnless (f := Line.toJson) Line.ofJson_toJson "dependencies" lines
  cases stats <;>
    simp [Section.ofJson, Section.toJson, Json.Value.field, List.lookup_cons, List.lookup_append, hlines,
      readStats_statsFields]

theorem Document.ofJson_toJson (d : Document) : Document.ofJson d.toJson = d := by
  obtain ⟨runId, traceId, succeeded, failed, milliseconds, sections⟩ := d
  cases sections <;>
    simp [Document.ofJson, Document.toJson, Json.Value.field, List.lookup_cons, List.lookup_append, Function.comp_def,
      Section.ofJson_toJson]

/-! ## Lists that are left out -/

theorem Line.chain_mem_names_iff (l : Line) : "chain" ∈ l.toJson.names ↔ l.chain ≠ [] := by
  simp [Line.toJson, Json.Value.names, fieldUnless]

theorem Section.dependencies_mem_names_iff (s : Section) : "dependencies" ∈ s.toJson.names ↔ s.lines ≠ [] := by
  cases h : s.stats <;> simp [Section.toJson, Json.Value.names, fieldUnless, h]

/-! ## Texts -/

theorem firstPlane_jsonEscapes : jsonEscapes.FirstPlane := by
  intro c hc
  simp only [jsonEscapes, List.mem_cons, List.not_mem_nil, or_false] at hc
  rcases hc with rfl | rfl | rfl | rfl | rfl <;> decide

theorem Document.written_toJsonText (d : Document) : Written d.toJson d.toJsonText :=
  d.toJson.written_pretty firstPlane_jsonEscapes 0 (by simp [Blanks, isBlank])

namespace Document

theorem write_json (d : Document) (mode noColor : String) (sink : Sink) :
    d.write "json" mode noColor sink =
      if sink.room.all (fun room => (d.toJsonText.utf8ByteSize : Int) ≤ room) then .ok d.toJsonText
      else .error (.noRoom .json) := by
  unfold write
  cases sink.room with
  | none => rfl
  | some room =>
    by_cases hroom : (d.toJsonText.utf8ByteSize : Int) ≤ room <;> simp [Format.ofName?, render, hroom]

/-- A document has one text as JSON, whatever the colours, and it is written wherever there is
room. The text is one value of the format, and any reader that keeps to the format finds the
document in it, by the names of its fields; no other document has that text. Dependencies and
chains are absent from it exactly where they are empty. -/
theorem json_loses_nothing (d : Document) :
    ∃ text,
      (∀ mode noColor sink, d.write "json" mode noColor sink =
        if sink.room.all (fun room => (text.utf8ByteSize : Int) ≤ room) then .ok text
        else .error (.noRoom .json)) ∧
      Written d.toJson text ∧
      (Json.Value.parse? text).map Document.ofJson = some d ∧
      (∀ v, Written v text → Document.ofJson v = d) ∧
      (∀ d' mode noColor sink, Document.write d' "json" mode noColor sink = .ok text → d' = d) ∧
      ∀ s ∈ d.sectionList, ("dependencies" ∈ s.toJson.names ↔ s.lines ≠ []) ∧
        ∀ l ∈ s.lines, ("chain" ∈ l.toJson.names ↔ l.chain ≠ []) := by
  have hwritten := d.written_toJsonText
  have hread : ∀ v, Written v d.toJsonText → Document.ofJson v = d := by
    intro v hv
    rw [hv.unique hwritten, d.ofJson_toJson]
  refine ⟨d.toJsonText, d.write_json, hwritten, ?_, hread, ?_, ?_⟩
  · rw [hwritten.parse?_eq, Option.map_some, d.ofJson_toJson]
  · intro d' mode noColor sink hwrite
    rw [write_json] at hwrite
    split at hwrite
    · have htext : d'.toJsonText = d.toJsonText := Except.ok.inj hwrite
      have hfound := hread d'.toJson (htext ▸ d'.written_toJsonText)
      rwa [d'.ofJson_toJson] at hfound
    · cases hwrite
  · intro s _
    exact ⟨s.dependencies_mem_names_iff, fun l _ => l.chain_mem_names_iff⟩

/-- A document whose texts hold markup, quotes, controls and a separator of lines. -/
def awkward : Document where
  runId := "run \"1\""
  traceId := ""
  succeeded := 1
  failed := 0
  milliseconds := -3
  sections := some [
    { name := "max<int>\\n"
      error := ""
      errorKind := ""
      stats := none
      lines := [
        { instruction := 1
          label := String.ofList ['&', Char.ofNat 0x2028, Char.ofNat 7]
          position := ""
          controlledBy := some []
          chain := [] }] }]

theorem json_loses_nothing_awkward :
    ∃ text, awkward.write "json" "never" "" {} = .ok text ∧ Written awkward.toJson text ∧
      Document.ofJson awkward.toJson = awkward ∧
      ∃ s ∈ awkward.sectionList, "dependencies" ∈ s.toJson.names ∧ ∃ l ∈ s.lines, "chain" ∉ l.toJson.names := by
  obtain ⟨text, hwrite, hwritten, -, hread, -, hlists⟩ := json_loses_nothing awkward
  obtain ⟨hlines, hchain⟩ := hlists _ (List.mem_singleton_self _)
  refine ⟨text, hwrite "never" "" {}, hwritten, hread _ hwritten, _, List.mem_singleton_self _, ?_, _,
    List.mem_singleton_self _, ?_⟩
  · exact hlines.2 (by simp)
  · exact fun h => (hchain _ (List.mem_singleton_self _)).1 h rfl

end Document

end Report

end ControlDependence
