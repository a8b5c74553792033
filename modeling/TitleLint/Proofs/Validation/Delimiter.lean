import TitleLint.Proofs.Scope.Commas
import TitleLint.Proofs.Validation.Parts

namespace TitleLint.Validation

section

variable {p : Policy} {names : Option Vocabulary} {t : Title} {scopes : String}

theorem scopeIssues_of_tight (listed : t.scope = some scopes) (tight : Scope.TightComma scopes) :
    scopeIssues p names t = [.of p .malformedScopeDelimiter] :=
  listIssues_of_tight listed (Scope.hasTightComma_iff.mpr tight)

theorem scopeIssues_of_loose (listed : t.scope = some scopes) (loose : ¬ Scope.TightComma scopes) :
    scopeIssues p names t = (Scope.pieces scopes).filterMap (scopeIssue? p names) := by
  rw [← Scope.hasTightComma_iff, Bool.not_eq_true] at loose
  rw [scopeIssues, listIssues_of_pieces listed loose, List.filterMap_map]
  rfl

theorem scopeIssues_eq_malformed_iff (listed : t.scope = some scopes) :
    scopeIssues p names t = [.of p .malformedScopeDelimiter] ↔ Scope.TightComma scopes := by
  constructor
  · intro found
    by_contra loose
    rw [scopeIssues_of_loose listed loose] at found
    have judged := judgedIssues_rule (.of p .malformedScopeDelimiter) (by rw [found]; simp)
    simp at judged
  · exact scopeIssues_of_tight listed

theorem rule_ne_malformed (listed : t.scope = some scopes) (loose : ¬ Scope.TightComma scopes) :
    ∀ i ∈ titleIssues p names t, i.rule ≠ .malformedScopeDelimiter := by
  intro i mem malformed
  have among : i ∈ about scopeRules (titleIssues p names t) :=
    List.mem_filter.mpr ⟨mem, by simp [malformed, scopeRules]⟩
  rw [about_scopeRules_titleIssues, scopeIssues_of_loose listed loose] at among
  simp [judgedIssues_rule i among] at malformed

end

/-- A list is reported as malformed, and then for nothing else, if a comma in it stands directly in
front of a character that is neither a blank nor a comma. Otherwise it is split, and a comma is left
in the middle of a piece only in front of another comma or of a blank that is not the space. So the
check and the splitting fit together exactly on the lists without a comma that lacks its space, and
on those where one such comma is reported. -/
theorem malformed_iff_tightComma {σ : Type} {p : Policy} {source : NameSource σ}
    {title scopes : String} {t : Title} {s : σ} (noTicket : p.hasTicket title = false)
    (parsed : Title.parse title = some t) (listed : t.scope = some scopes) :
    let issues := (validate p source title s).1.issues
    let found := about scopeRules issues
    let malformed := [Issue.of p .malformedScopeDelimiter]
    (found = malformed ↔ Scope.TightComma scopes) ∧
    (found ≠ malformed → (∀ i ∈ issues, i.rule ≠ .malformedScopeDelimiter) ∧
      ∀ piece ∈ Scope.pieces scopes, ∀ before c after,
        piece.toList = before ++ ',' :: c :: after → c = ',' ∨ Unicode.isSpace c = true ∧ c ≠ ' ') ∧
    ((found = malformed ↔ Scope.UnspacedComma scopes) ↔
      (Scope.UnspacedComma scopes → Scope.TightComma scopes)) ∧
    (found ≠ malformed → Scope.FinalCommas scopes ↔
      (Scope.UnspacedComma scopes → Scope.TightComma scopes)) := by
  intro issues found malformed
  have whole : issues = titleIssues p (source.load s).1.usable? t := issues_of_title noTicket parsed
  have reported : found = malformed ↔ Scope.TightComma scopes := by
    simp only [found, whole, about_scopeRules_titleIssues]
    exact scopeIssues_eq_malformed_iff listed
  refine ⟨reported, fun loose => ⟨?_, fun piece mem before c after eq => ?_⟩, ?_, ?_⟩
  · rw [whole]
    exact rule_ne_malformed listed (mt reported.mpr loose)
  · exact Scope.after_comma_of_loose (mt reported.mpr loose) mem eq
  · rw [reported]
    exact ⟨Iff.mpr, fun h => ⟨Scope.UnspacedComma.of_tight, h⟩⟩
  · rw [Scope.finalCommas_iff, ne_eq, reported]
    exact not_imp_not

theorem malformed_of_tight_and_spaced :
    let p : Policy :=
      ⟨Policy.defaultTypes, Policy.defaultScopes, .one (.single '#'), Policy.defaultMarker⟩
    let title := "feat(core, editor,API): add x"
    about scopeRules (validate p (.ofVocabulary .empty) title ()).1.issues =
      [.of p .malformedScopeDelimiter] := by
  intro p title
  have parsed : Title.parse title = some ⟨"feat", some "core, editor,API", false, "add x"⟩ := by
    decide
  exact (malformed_iff_tightComma (by decide) parsed rfl).1.mpr
    ⟨"core, editor".toList, 'A', "PI".toList, by decide, by decide, by decide⟩

/-- A comma and a tabulator are neither reported nor taken for a separator, so the second scope is
never judged. -/
theorem not_forall_malformed_iff_unspacedComma :
    ¬ ∀ (p : Policy) (σ : Type) (source : NameSource σ) (s : σ) (title scopes : String) (t : Title),
    p.hasTicket title = false → Title.parse title = some t → t.scope = some scopes →
    let issues := (validate p source title s).1.issues
    (about scopeRules issues = [.of p .malformedScopeDelimiter] ↔ Scope.UnspacedComma scopes) ∧
    (¬ Scope.UnspacedComma scopes →
      (∀ i ∈ issues, i.rule ≠ .malformedScopeDelimiter) ∧ Scope.FinalCommas scopes) := by
  intro h
  let title := "feat(Mattermost Node,\tbogus Node): add x"
  let t : Title := ⟨"feat", some "Mattermost Node,\tbogus Node", false, "add x"⟩
  have noTicket : Policy.default.hasTicket title = false := by decide +kernel
  have parsed : Title.parse title = some t := by decide
  have unspaced : Scope.UnspacedComma "Mattermost Node,\tbogus Node" :=
    ⟨"Mattermost Node".toList, '\t', "bogus Node".toList, by decide, by decide⟩
  let source := NameSource.ofVocabulary (.ofList ["Mattermost"])
  have found := (h .default Unit source () title _ t noTicket parsed rfl).1.mpr unspaced
  rw [issues_of_title noTicket parsed, about_scopeRules_titleIssues,
    scopeIssues_eq_malformed_iff rfl, ← Scope.hasTightComma_iff] at found
  exact absurd found (by decide)

example : issuesWith .default (.ofList ["Mattermost"])
    "feat(Mattermost Node,\tbogus Node): add x" = [] := by
  decide +kernel

end TitleLint.Validation
