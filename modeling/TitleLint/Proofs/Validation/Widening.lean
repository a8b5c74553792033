import TitleLint.Proofs.Validation.Verdict
import TitleLint.Proofs.Vocabulary.Members

namespace TitleLint

/-- All that one policy allows another allows too, and they look for the same tickets and markers. -/
structure Policy.Within (p q : Policy) : Prop where
  types : p.types ⊆ q.types
  scopes : p.scopes ⊆ q.scopes
  ticket : p.ticket = q.ticket
  marker : p.changelogMarker = q.changelogMarker

namespace Validation

section

variable {p q : Policy} {names wider : Option Vocabulary} {t : Title}

theorem scopeIssue?_eq_none_of_within (within : p.Within q)
    (known : ∀ w, wider = some w → ∃ v, names = some v ∧ v.names ⊆ w.names) {scope : String}
    (passes : scopeIssue? p names scope = none) : scopeIssue? q wider scope = none := by
  rw [scopeIssue?_eq_none_iff] at passes ⊢
  -- A node scope that passes may be fixed in the other policy, but it need not be: the name that it
  -- begins with is still known.
  rcases passes with fixed | ⟨node, judged⟩
  · exact .inl (within.scopes fixed)
  · right
    refine ⟨node, fun w hw => ?_⟩
    obtain ⟨v, hv, sub⟩ := known w hw
    obtain ⟨name, mem, start⟩ := judged v hv
    exact ⟨name, sub mem, start⟩

/-- The only rule that a single scope can break is the same in both, so only its presence counts. -/
theorem scopeRules_sublist (within : p.Within q)
    (known : ∀ w, wider = some w → ∃ v, names = some v ∧ v.names ⊆ w.names)
    (scopes : List String) :
    ((scopes.filterMap (scopeIssue? q wider)).map Issue.rule).Sublist
      ((scopes.filterMap (scopeIssue? p names)).map Issue.rule) := by
  induction scopes with
  | nil => exact .slnil
  | cons scope scopes ih =>
    cases strict : scopeIssue? p names scope with
    | none =>
      have lax := scopeIssue?_eq_none_of_within within known strict
      rwa [List.filterMap_cons_none strict, List.filterMap_cons_none lax]
    | some i =>
      rw [List.filterMap_cons_some strict, List.map_cons, rule_of_scopeIssue? strict]
      cases lax : scopeIssue? q wider scope with
      | none =>
        rw [List.filterMap_cons_none lax]
        exact ih.cons _
      | some j =>
        rw [List.filterMap_cons_some lax, List.map_cons, rule_of_scopeIssue? lax]
        exact ih.cons_cons _

theorem typeRules_sublist (within : p.Within q) :
    ((typeIssues q t).map Issue.rule).Sublist ((typeIssues p t).map Issue.rule) := by
  unfold typeIssues
  by_cases strict : p.isKnownType t.type = true
  · have lax : q.isKnownType t.type = true :=
      Policy.isKnownType_iff.mpr (within.types (Policy.isKnownType_iff.mp strict))
    rw [if_pos strict, if_pos lax]
  · rw [if_neg strict]
    split
    next => exact List.nil_sublist _
    next => exact .refl _

theorem delimiterRules_eq : (delimiterIssues q t).map Issue.rule =
    (delimiterIssues p t).map Issue.rule := by
  unfold delimiterIssues
  split <;> simp

theorem subjectRules_eq (within : p.Within q) : (subjectIssues q t).map Issue.rule =
    (subjectIssues p t).map Issue.rule := by
  have broken : breaksSubjectRule q t.subject = breaksSubjectRule p t.subject := by
    funext r
    cases r <;> simp [breaksSubjectRule, within.marker]
  simp [subjectIssues_eq, broken]

theorem titleRules_sublist (within : p.Within q)
    (known : ∀ w, wider = some w → ∃ v, names = some v ∧ v.names ⊆ w.names) (t : Title) :
    ((titleIssues q wider t).map Issue.rule).Sublist
      ((titleIssues p names t).map Issue.rule) := by
  simp only [titleIssues, List.map_append]
  rw [@delimiterRules_eq p q t, subjectRules_eq within]
  have scopes := scopeRules_sublist within known (judgedScopes t)
  exact (((typeRules_sublist within).append (.refl _)).append scopes).append (.refl _)

end

section

variable {p q : Policy} {v w : Vocabulary} {title : String}

theorem rules_sublist (within : p.Within q) (names : v.names ⊆ w.names)
    (full : w.names ≠ [] → v.names ≠ []) (title : String) :
    ((issuesWith q w title).map Issue.rule).Sublist ((issuesWith p v title).map Issue.rule) := by
  have same_ticket : q.hasTicket title = p.hasTicket title := by
    simp only [Policy.hasTicket, within.ticket]
  cases ticket : p.hasTicket title with
  | true =>
    have strict : issuesWith p v title = [.of p .ticketNumberPresent] := issues_of_ticket ticket
    have lax : issuesWith q w title = [.of q .ticketNumberPresent] :=
      issues_of_ticket (same_ticket.trans ticket)
    simp [strict, lax]
  | false =>
    rw [ticket] at same_ticket
    cases parsed : Title.parse title with
    | none =>
      have strict : issuesWith p v title = [.of p .schemaMismatch] :=
        issues_of_no_title ticket parsed
      have lax : issuesWith q w title = [.of q .schemaMismatch] :=
        issues_of_no_title same_ticket parsed
      simp [strict, lax]
    | some t =>
      rw [issuesWith_of_title ticket parsed, issuesWith_of_title same_ticket parsed]
      refine titleRules_sublist within (fun u usable => ?_) t
      obtain ⟨loaded, filled⟩ := Loading.usable?_eq_some_iff.mp usable
      obtain rfl := Except.ok.inj loaded
      exact ⟨v, Loading.usable?_eq_some_iff.mpr ⟨rfl, full filled⟩, names⟩

end

/-- Where more is allowed and more is known, the rules that a title breaks are some of those that it
broke before, in the same order. So they depend on what is allowed and known, and not on how it is
listed. -/
theorem rules_sublist_of_within {p q : Policy} (within : p.Within q) (title : String) :
    (∀ v w : Vocabulary, v.names ≠ [] → v.names ⊆ w.names →
      ((issuesWith q w title).map Issue.rule).Sublist ((issuesWith p v title).map Issue.rule)) ∧
    (q.Within p → ∀ names others : List String, (∀ name, name ∈ names ↔ name ∈ others) →
      (issuesWith q (.ofList others) title).map Issue.rule =
        (issuesWith p (.ofList names) title).map Issue.rule) := by
  constructor
  · exact fun v w full names => rules_sublist within names (fun _ => full) title
  · intro within' names others same
    have known : Vocabulary.ofList others = .ofList names :=
      Vocabulary.ofList_congr fun name => (same name).symm
    rw [known]
    -- Each policy is within the other, and lists that are sublists of each other are equal.
    exact (rules_sublist within (List.Subset.refl _) id title).antisymm
      (rules_sublist within' (List.Subset.refl _) id title)

/-- A scope becomes fixed, another becomes known, and a third stays unknown. -/
theorem rules_sublist_of_more_nodes :
    let p : Policy := ⟨["feat"], ["core"], .one (.single '#'), Policy.defaultMarker⟩
    let q : Policy := ⟨["fix", "feat"], ["Oura Node", "core"], .one (.single '#'),
      Policy.defaultMarker⟩
    let title := "fix(core, Oura Node, Mattermost Node, bogus): Add x"
    p.Within q ∧ ((issuesWith q (.ofList ["Mattermost", "Gmail"]) title).map Issue.rule).Sublist
      ((issuesWith p (.ofList ["Gmail"]) title).map Issue.rule) := by
  intro p q title
  have within : p.Within q := ⟨by simp [p, q], by simp [p, q], rfl, rfl⟩
  have full : (Vocabulary.ofList ["Gmail"]).names ≠ [] :=
    List.ne_nil_of_mem (Vocabulary.mem_ofList.mpr ⟨List.mem_singleton_self "Gmail", by simp⟩)
  have names : (Vocabulary.ofList ["Gmail"]).names ⊆
      (Vocabulary.ofList ["Mattermost", "Gmail"]).names := fun name mem =>
    Vocabulary.mem_ofList.mpr ((Vocabulary.mem_ofList.mp mem).imp_left (List.mem_cons_of_mem _))
  exact ⟨within, (rules_sublist_of_within within title).1 _ _ full names⟩

end Validation

end TitleLint
