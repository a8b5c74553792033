import TitleLint.Proofs.Json.RoundTrip
import TitleLint.Report

namespace TitleLint.Report

/-- The report tells that the title has no issues. With colours, control sequences for bold green
stand around the first word of a text. -/
def SaysValid (coloured : Bool) (output : String) : OutputFormat → Prop
  | .text => (if coloured then "\x1b[32;1mOK\x1b[0m " else "OK ").toList <+: output.toList
  | .json => ∃ title, output = (Json.object [("title", .string title), ("valid", .bool true),
      ("issues", .list [])]).document

section

variable {format : OutputFormat} {coloured : Bool} {title : String} {issues : List Issue}

theorem saysValid_text_iff :
    SaysValid coloured (text coloured title issues) .text ↔ issues = [] := by
  cases issues with
  | nil => cases coloured <;> simp [SaysValid, text, Style.paint]
  | cons i issues => cases coloured <;> simp [SaysValid, text, Style.paint]

theorem saysValid_json_iff :
    SaysValid coloured (value title issues).document .json ↔ issues = [] := by
  constructor
  · rintro ⟨other, same⟩
    have values := Json.document_inj same
    simp only [value, Json.object.injEq, List.cons.injEq, Prod.mk.injEq, Json.bool.injEq,
      List.isEmpty_iff] at values
    exact values.2.1.2
  · rintro rfl
    exact ⟨title, rfl⟩

/-- A report tells that a title is valid exactly if it has no issues. -/
theorem saysValid_render_iff :
    SaysValid coloured (render format coloured title issues) format ↔ issues = [] := by
  cases format with
  | text => exact saysValid_text_iff
  | json => exact saysValid_json_iff

end

end TitleLint.Report
