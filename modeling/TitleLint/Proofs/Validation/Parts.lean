import TitleLint.Proofs.Validation.Verdict

namespace TitleLint.Validation

def typeRules : List Rule := [.invalidType]

def scopeRules : List Rule := [.malformedScopeDelimiter, .invalidScope]

/-- The issues that come from some of the rules, in their order. -/
def about (rules : List Rule) (issues : List Issue) : List Issue :=
  issues.filter fun i => i.rule ∈ rules

/-- The issues that come from other rules than this one, in their order. -/
def without (r : Rule) (issues : List Issue) : List Issue := issues.filter fun i => i.rule ≠ r

/-- What the scopes of a title are reported for. -/
def scopeIssues (p : Policy) (names : Option Vocabulary) (t : Title) : List Issue :=
  delimiterIssues p t ++ (judgedScopes t).filterMap (scopeIssue? p names)

section

variable {rules others : List Rule} {issues : List Issue}

theorem about_append (rules : List Rule) (issues more : List Issue) :
    about rules (issues ++ more) = about rules issues ++ about rules more :=
  List.filter_append issues more

theorem about_eq_self (h : ∀ i ∈ issues, i.rule ∈ rules) : about rules issues = issues := by
  simpa [about] using h

theorem about_eq_nil (h : ∀ i ∈ issues, i.rule ∈ others) (apart : ∀ r ∈ others, r ∉ rules) :
    about rules issues = [] := by
  simp only [about, List.filter_eq_nil_iff, decide_eq_true_eq]
  exact fun i mem => apart i.rule (h i mem)

theorem without_append (r : Rule) (issues more : List Issue) :
    without r (issues ++ more) = without r issues ++ without r more :=
  List.filter_append issues more

theorem without_eq_self {r : Rule} (h : ∀ i ∈ issues, i.rule ∈ rules) (apart : r ∉ rules) :
    without r issues = issues := by
  simp only [without, List.filter_eq_self, decide_eq_true_eq]
  rintro i mem rfl
  exact apart (h i mem)

end

section

variable {p : Policy} {names : Option Vocabulary} {t : Title}

theorem typeIssues_rule : ∀ i ∈ typeIssues p t, i.rule ∈ typeRules := by
  unfold typeIssues
  split <;> simp [typeRules]

theorem delimiterIssues_rule : ∀ i ∈ delimiterIssues p t, i.rule = .malformedScopeDelimiter := by
  unfold delimiterIssues
  split <;> simp

theorem judgedIssues_rule {scopes : List String} :
    ∀ i ∈ scopes.filterMap (scopeIssue? p names), i.rule = .invalidScope := by
  intro i mem
  obtain ⟨scope, _, issue⟩ := List.mem_filterMap.mp mem
  exact rule_of_scopeIssue? issue

theorem scopeIssues_rule : ∀ i ∈ scopeIssues p names t, i.rule ∈ scopeRules := by
  intro i mem
  rcases List.mem_append.mp mem with mem | mem
  · simp [delimiterIssues_rule i mem, scopeRules]
  · simp [judgedIssues_rule i mem, scopeRules]

theorem subjectIssues_rule : ∀ i ∈ subjectIssues p t, i.rule ∈ subjectRules := by
  intro i mem
  rw [subjectIssues_eq] at mem
  obtain ⟨r, broken, rfl⟩ := List.mem_map.mp mem
  exact List.mem_of_mem_filter broken

theorem titleIssues_eq_parts (p : Policy) (names : Option Vocabulary) (t : Title) :
    titleIssues p names t = typeIssues p t ++ scopeIssues p names t ++ subjectIssues p t := by
  simp only [titleIssues, scopeIssues, List.append_assoc]

theorem about_typeRules_titleIssues : about typeRules (titleIssues p names t) = typeIssues p t := by
  rw [titleIssues_eq_parts, about_append, about_append, about_eq_self typeIssues_rule,
    about_eq_nil scopeIssues_rule (by decide), about_eq_nil subjectIssues_rule (by decide),
    List.append_nil, List.append_nil]

theorem about_scopeRules_titleIssues :
    about scopeRules (titleIssues p names t) = scopeIssues p names t := by
  rw [titleIssues_eq_parts, about_append, about_append, about_eq_nil typeIssues_rule (by decide),
    about_eq_self scopeIssues_rule, about_eq_nil subjectIssues_rule (by decide), List.nil_append,
    List.append_nil]

theorem about_subjectRules_titleIssues :
    about subjectRules (titleIssues p names t) = subjectIssues p t := by
  rw [titleIssues_eq_parts, about_append, about_append, about_eq_nil typeIssues_rule (by decide),
    about_eq_nil scopeIssues_rule (by decide), about_eq_self subjectIssues_rule, List.nil_append,
    List.nil_append]

theorem breaksSubjectRule_of_mem {i : Issue} (mem : i ∈ titleIssues p names t)
    (subjectRule : i.rule ∈ subjectRules) : breaksSubjectRule p t.subject i.rule = true := by
  have among : i ∈ subjectIssues p t := by
    rw [← @about_subjectRules_titleIssues p names t, about, List.mem_filter]
    exact ⟨mem, decide_eq_true subjectRule⟩
  rw [subjectIssues_eq] at among
  obtain ⟨r, broken, rfl⟩ := List.mem_map.mp among
  exact List.of_mem_filter broken

/-- Breaking one rule for the subject less leaves out the issue of this rule. -/
theorem subjectIssues_of_one_less {t' : Title} {r : Rule}
    (less : ∀ r' ∈ subjectRules, breaksSubjectRule p t'.subject r' =
      (decide (r' ≠ r) && breaksSubjectRule p t.subject r')) :
    subjectIssues p t' = without r (subjectIssues p t) := by
  rw [subjectIssues_eq, subjectIssues_eq, List.filter_congr less, without, List.filter_map,
    List.filter_filter]
  rfl

theorem titleIssues_of_one_less {t' : Title} {r : Rule} (type : t'.type = t.type)
    (scope : t'.scope = t.scope) (subjectRule : r ∈ subjectRules)
    (less : ∀ r' ∈ subjectRules, breaksSubjectRule p t'.subject r' =
      (decide (r' ≠ r) && breaksSubjectRule p t.subject r')) :
    titleIssues p names t' = without r (titleIssues p names t) := by
  have apart : ∀ r ∈ subjectRules, r ∉ typeRules ∧ r ∉ scopeRules := by decide
  obtain ⟨notType, notScope⟩ := apart r subjectRule
  rw [titleIssues_eq_parts, titleIssues_eq_parts, subjectIssues_of_one_less less, without_append,
    without_append, without_eq_self typeIssues_rule notType,
    without_eq_self scopeIssues_rule notScope]
  simp only [typeIssues, scopeIssues, delimiterIssues, judgedScopes, type, scope]

/-- The issues of a title are those about its type, its scopes and its subject, in this order. -/
theorem about_parts (p : Policy) (names : Option Vocabulary) (t : Title) :
    titleIssues p names t = about typeRules (titleIssues p names t) ++
      about scopeRules (titleIssues p names t) ++ about subjectRules (titleIssues p names t) := by
  rw [about_typeRules_titleIssues, about_scopeRules_titleIssues, about_subjectRules_titleIssues]
  exact titleIssues_eq_parts p names t

end

end TitleLint.Validation
