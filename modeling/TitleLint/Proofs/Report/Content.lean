import Mathlib.Data.List.Forall2
import TitleLint.Proofs.Json.RoundTrip
import TitleLint.Report

namespace TitleLint

namespace Json

/-- The keys of an object, in their order; nothing else has any. -/
def keys : Json → List String
  | object fields => fields.map Prod.fst
  | _ => []

/-- What an object has under a key. -/
def field? (name : String) : Json → Option Json
  | object fields => fields.lookup name
  | _ => none

end Json

namespace Report

/-- The value tells of an issue its rule and its message, and the nearest name if there is one. -/
structure TellsIssue (v : Json) (i : Issue) : Prop where
  keys : v.keys = ["kind", "message"] ++ if i.suggestion.isSome then ["suggestion"] else []
  kind : v.field? "kind" = some (.string i.rule.code)
  message : v.field? "message" = some (.string i.message)
  suggestion : v.field? "suggestion" = i.suggestion.map .string

/-- The value tells of a title whether it is valid, and its issues, and nothing else. -/
structure Tells (v : Json) (title : String) (issues : List Issue) : Prop where
  keys : v.keys = ["title", "valid", "issues"]
  title : v.field? "title" = some (.string title)
  valid : ∃ valid, v.field? "valid" = some (.bool valid) ∧ (valid = true ↔ issues = [])
  issues : ∃ items, v.field? "issues" = some (.list items) ∧ List.Forall₂ TellsIssue items issues

section

variable {v : Json} {i j : Issue} {title title' : String} {issues issues' : List Issue}

theorem tellsIssue_issueFields (i : Issue) : TellsIssue (.object (issueFields i)) i := by
  obtain ⟨rule, message, suggestion⟩ := i
  cases suggestion with
  | none => exact ⟨rfl, rfl, rfl, rfl⟩
  | some name => exact ⟨rfl, rfl, rfl, rfl⟩

theorem tells_value (title : String) (issues : List Issue) :
    Tells (value title issues) title issues := by
  refine ⟨rfl, rfl, ⟨issues.isEmpty, rfl, List.isEmpty_iff⟩, ⟨_, rfl, ?_⟩⟩
  rw [List.forall₂_map_left_iff]
  exact List.forall₂_same.mpr fun i _ => tellsIssue_issueFields i

theorem TellsIssue.unique (h : TellsIssue v i) (h' : TellsIssue v j) : i = j := by
  have rules : i.rule.code = j.rule.code := by simpa using h.kind.symm.trans h'.kind
  have messages : i.message = j.message := by simpa using h.message.symm.trans h'.message
  have suggestions : i.suggestion = j.suggestion := by
    refine Option.map_injective (fun _ _ => Json.string.inj) (h.suggestion.symm.trans h'.suggestion)
  obtain ⟨_, _, _⟩ := i
  obtain ⟨_, _, _⟩ := j
  simp only [Issue.mk.injEq]
  exact ⟨Rule.code_inj rules, messages, suggestions⟩

/-- No value tells of two titles, or of one title with other issues. -/
theorem Tells.unique (h : Tells v title issues) (h' : Tells v title' issues') :
    title = title' ∧ issues = issues' := by
  have titles : title = title' := by simpa using h.title.symm.trans h'.title
  obtain ⟨items, own, tells⟩ := h.issues
  obtain ⟨others, own', tells'⟩ := h'.issues
  obtain rfl : items = others := by simpa using own.symm.trans own'
  refine ⟨titles, ?_⟩
  have determined : Relator.RightUnique TellsIssue := fun _ _ _ => TellsIssue.unique
  exact List.right_unique_forall₂' determined tells tells'

end

/-- The output in the other format is always a value, never a failure. For a report it is one that
tells of the title and the issues, and of no others; for the known names it is the list of them, in
their order. -/
theorem isOutput_render_json :
    (∀ coloured title issues, ∃ v, Json.IsOutput (render .json coloured title issues) v ∧
      Tells v title issues ∧
        ∀ title' issues', Tells v title' issues' → title' = title ∧ issues' = issues) ∧
    (∀ names : Vocabulary,
      Json.IsOutput (names.render .json) (.list (names.names.map .string)) ∧
        names.names.Pairwise fun a b => Text.byteLt a b = true) ∧
    ∀ cause, (∀ coloured title issues,
      render .json coloured title issues ≠ Json.failureText cause) ∧
        ∀ names : Vocabulary, names.render .json ≠ Json.failureText cause := by
  refine ⟨fun coloured title issues => ?_, fun names => ?_, fun cause => ⟨?_, ?_⟩⟩
  · have tells := tells_value title issues
    exact ⟨value title issues, Json.isOutput_document _, tells, fun _ _ other => other.unique tells⟩
  · exact ⟨Json.isOutput_document _, names.sorted⟩
  · exact fun _ title issues => Json.document_ne_failureText (value title issues) cause
  · exact fun names => Json.document_ne_failureText (.list (names.names.map .string)) cause

end Report

end TitleLint
