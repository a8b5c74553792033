import TitleLint.Proofs.Scope.Pieces
import TitleLint.Proofs.Validation.Basic
import TitleLint.Proofs.Vocabulary.Closest

namespace TitleLint.Validation

/-- A scope that names a node is rejected if it begins with none of the names that were loaded; the
nearest of them is suggested. -/
structure Rejected (p : Policy) (l : Loading) (scope closest : String) : Prop where
  free : scope ∉ p.scopes
  node : " Node".toList <:+ scope.toList
  unknown : ∃ v, l.names = .ok v ∧ v.names ≠ [] ∧
    (∀ name ∈ v.names, ¬ name.toList <+: scope.toList) ∧
    v.closest? (String.ofList (Text.upTo " Node".toList scope.toList)) = some closest

/-- What one scope of a list is reported for. -/
inductive ScopeVerdict (p : Policy) (l : Loading) (scope : String) : Option Issue → Prop
  | fixed : scope ∈ p.scopes → ScopeVerdict p l scope none
  | foreign : scope ∉ p.scopes → ¬ " Node".toList <:+ scope.toList →
      ScopeVerdict p l scope (some (.of p .invalidScope))
  | unjudged : scope ∉ p.scopes → " Node".toList <:+ scope.toList →
      (∀ v, l.names = .ok v → v.names = []) → ScopeVerdict p l scope none
  | known {v : Vocabulary} {name : String} : scope ∉ p.scopes → " Node".toList <:+ scope.toList →
      l.names = .ok v → name ∈ v.names → name.toList <+: scope.toList → ScopeVerdict p l scope none
  | rejected {closest : String} : Rejected p l scope closest →
      ScopeVerdict p l scope (some (.unknownNode p closest))

/-- What the scopes of a title are reported for; a malformed list is not taken apart. -/
inductive ListVerdict (p : Policy) (l : Loading) : Option String → List Issue → Prop
  | absent : ListVerdict p l none []
  | malformed {scopes : String} : Scope.TightComma scopes →
      ListVerdict p l (some scopes) [.of p .malformedScopeDelimiter]
  | pieces {scopes : String} {pieces : List String} {found : List (Option Issue)} :
      ¬ Scope.TightComma scopes → Scope.ListsPieces scopes pieces →
      List.Forall₂ (ScopeVerdict p l) pieces found →
      ListVerdict p l (some scopes) (found.filterMap id)

def subjectRules : List Rule :=
  [.subjectCaseViolation, .subjectTrailingPeriod, .subjectNotPresentTense,
    .changelogMarkerMisplaced]

def breaksSubjectRule (p : Policy) (subject : String) : Rule → Bool
  | .subjectCaseViolation => Subject.startsUppercase subject
  | .subjectTrailingPeriod => Subject.endsWithPeriod subject
  | .subjectNotPresentTense => Subject.isPastTense subject
  | .changelogMarkerMisplaced => Subject.hasMisplacedMarker subject p.changelogMarker
  | _ => false

/-- What a title is reported for, where `l` is what the names would be loaded as. -/
inductive Verdict (p : Policy) (l : Loading) (title : String) : List Issue → Prop
  | ticket : p.hasTicket title = true → Verdict p l title [.of p .ticketNumberPresent]
  | mismatch : p.hasTicket title = false → Title.parse title = none →
      Verdict p l title [.of p .schemaMismatch]
  | title {t : Title} {scopeIssues : List Issue} :
      p.hasTicket title = false → Title.parse title = some t → ListVerdict p l t.scope scopeIssues →
      Verdict p l title ((if t.type ∈ p.types then [] else [.of p .invalidType]) ++ scopeIssues ++
        (subjectRules.filter (breaksSubjectRule p t.subject)).map (.of p))

section

variable {p : Policy} {l : Loading} {scope : String}

theorem Rejected.scopeIssue?_eq {closest : String} (h : Rejected p l scope closest) :
    scopeIssue? p l.usable? scope = some (.unknownNode p closest) := by
  obtain ⟨v, loaded, full, unknown, nearest⟩ := h.unknown
  have usable := Loading.usable?_eq_some_iff.mpr ⟨loaded, full⟩
  have resolved := resolve_of_unknown Policy.nodeSuffix unknown
  rw [scopeIssue?_of_node h.free h.node, usable]
  dsimp only
  rw [resolved, Policy.nodeSuffix, nearest]

theorem exists_rejected {v : Vocabulary} (free : scope ∉ p.scopes)
    (node : " Node".toList <:+ scope.toList) (loaded : l.names = .ok v) (full : v.names ≠ [])
    (unknown : ∀ name ∈ v.names, ¬ name.toList <+: scope.toList) :
    ∃ closest, Rejected p l scope closest := by
  obtain ⟨closest, nearest⟩ := Vocabulary.exists_closest? full
    (String.ofList (Text.upTo " Node".toList scope.toList))
  exact ⟨closest, free, node, v, loaded, full, unknown, nearest⟩

theorem scopeIssue?_of_known {v : Vocabulary} {name : String} (free : scope ∉ p.scopes)
    (node : " Node".toList <:+ scope.toList) (loaded : l.names = .ok v) (mem : name ∈ v.names)
    (start : name.toList <+: scope.toList) : scopeIssue? p l.usable? scope = none := by
  have usable := Loading.usable?_eq_some_iff.mpr ⟨loaded, List.ne_nil_of_mem mem⟩
  have resolved := (@resolve_eq_known_iff v scope Policy.nodeSuffix).mpr ⟨name, mem, start⟩
  rw [scopeIssue?_of_node free node, usable]
  dsimp only
  rw [resolved]

theorem scopeIssue?_of_no_names (free : scope ∉ p.scopes) (node : " Node".toList <:+ scope.toList)
    (empty : ∀ v, l.names = .ok v → v.names = []) : scopeIssue? p l.usable? scope = none := by
  rw [scopeIssue?_of_node free node, Loading.usable?_eq_none_iff.mpr empty]

theorem scopeVerdict_scopeIssue? (p : Policy) (l : Loading) (scope : String) :
    ScopeVerdict p l scope (scopeIssue? p l.usable? scope) := by
  by_cases fixed : scope ∈ p.scopes
  · rw [scopeIssue?_of_fixed fixed]
    exact .fixed fixed
  by_cases node : " Node".toList <:+ scope.toList
  · cases usable : l.usable? with
    | none =>
      have empty := Loading.usable?_eq_none_iff.mp usable
      rw [← usable, scopeIssue?_of_no_names fixed node empty]
      exact .unjudged fixed node empty
    | some v =>
      obtain ⟨loaded, full⟩ := Loading.usable?_eq_some_iff.mp usable
      rw [← usable]
      by_cases known : ∃ name ∈ v.names, name.toList <+: scope.toList
      · obtain ⟨name, mem, start⟩ := known
        rw [scopeIssue?_of_known fixed node loaded mem start]
        exact .known fixed node loaded mem start
      · obtain ⟨closest, rejected⟩ := exists_rejected fixed node loaded full
          fun name mem start => known ⟨name, mem, start⟩
        rw [rejected.scopeIssue?_eq]
        exact .rejected rejected
  · rw [scopeIssue?_of_foreign fixed node]
    exact .foreign fixed node

theorem ScopeVerdict.scopeIssue?_eq {found : Option Issue} (h : ScopeVerdict p l scope found) :
    scopeIssue? p l.usable? scope = found := by
  cases h with
  | fixed fixed => exact scopeIssue?_of_fixed fixed
  | foreign free foreign => exact scopeIssue?_of_foreign free foreign
  | unjudged free node empty => exact scopeIssue?_of_no_names free node empty
  | known free node loaded mem start => exact scopeIssue?_of_known free node loaded mem start
  | rejected rejected => exact rejected.scopeIssue?_eq

theorem forall₂_scopeVerdict_iff {scopes : List String} {found : List (Option Issue)} :
    List.Forall₂ (ScopeVerdict p l) scopes found ↔
      scopes.map (scopeIssue? p l.usable?) = found := by
  constructor
  · intro h
    induction h with
    | nil => rfl
    | cons first _ ih => rw [List.map_cons, first.scopeIssue?_eq, ih]
  · rintro rfl
    induction scopes with
    | nil => exact .nil
    | cons scope scopes ih => exact .cons (scopeVerdict_scopeIssue? p l scope) ih

end

section

variable {p : Policy} {names : Option Vocabulary} {t : Title} {scopes : String}

theorem listIssues_of_tight (hs : t.scope = some scopes)
    (tight : Scope.hasTightComma scopes = true) :
    delimiterIssues p t ++ (judgedScopes t).filterMap (scopeIssue? p names) =
      [.of p .malformedScopeDelimiter] := by
  simp [delimiterIssues, judgedScopes, hs, tight]

theorem listIssues_of_pieces (hs : t.scope = some scopes)
    (loose : Scope.hasTightComma scopes = false) :
    delimiterIssues p t ++ (judgedScopes t).filterMap (scopeIssue? p names) =
      ((Scope.pieces scopes).map (scopeIssue? p names)).filterMap id := by
  simp [delimiterIssues, judgedScopes, hs, loose, List.filterMap_map]

end

section

variable {p : Policy} {l : Loading} {t : Title} {issues : List Issue}

theorem listVerdict_iff : ListVerdict p l t.scope issues ↔
    delimiterIssues p t ++ (judgedScopes t).filterMap (scopeIssue? p l.usable?) = issues := by
  cases hs : t.scope with
  | none =>
    have nothing : delimiterIssues p t ++
        (judgedScopes t).filterMap (scopeIssue? p l.usable?) = [] := by
      simp [delimiterIssues, judgedScopes, hs]
    rw [nothing]
    constructor
    · rintro ⟨⟩
      rfl
    · rintro rfl
      exact .absent
  | some scopes =>
    by_cases tight : Scope.hasTightComma scopes = true
    · rw [listIssues_of_tight hs tight]
      rw [Scope.hasTightComma_iff] at tight
      constructor
      · intro verdict
        rcases verdict with _ | _ | ⟨loose, _, _⟩
        · rfl
        · exact absurd tight loose
      · rintro rfl
        exact .malformed tight
    · rw [listIssues_of_pieces hs (by simpa using tight)]
      rw [Scope.hasTightComma_iff] at tight
      constructor
      · intro verdict
        rcases verdict with _ | tight' | ⟨_, listed, verdicts⟩
        · exact absurd tight' tight
        · rw [Scope.pieces_eq_iff.mpr listed, forall₂_scopeVerdict_iff.mp verdicts]
      · rintro rfl
        exact .pieces tight (Scope.pieces_eq_iff.mp rfl) (forall₂_scopeVerdict_iff.mpr rfl)

theorem subjectIssues_eq (p : Policy) (t : Title) :
    subjectIssues p t = (subjectRules.filter (breaksSubjectRule p t.subject)).map (.of p) := by
  cases upper : Subject.startsUppercase t.subject <;>
    cases period : Subject.endsWithPeriod t.subject <;>
      cases past : Subject.isPastTense t.subject <;>
        cases marker : Subject.hasMisplacedMarker t.subject p.changelogMarker <;>
        simp [subjectIssues, subjectRules, breaksSubjectRule, upper, period, past, marker]

theorem titleIssues_eq (p : Policy) (names : Option Vocabulary) (t : Title) :
    titleIssues p names t = (if t.type ∈ p.types then [] else [.of p .invalidType]) ++
      (delimiterIssues p t ++ (judgedScopes t).filterMap (scopeIssue? p names)) ++
      (subjectRules.filter (breaksSubjectRule p t.subject)).map (.of p) := by
  have type_eq : typeIssues p t = if t.type ∈ p.types then [] else [.of p .invalidType] := by
    simp only [typeIssues, Policy.isKnownType_iff]
  rw [titleIssues, type_eq, subjectIssues_eq]
  simp only [List.append_assoc]

end

theorem verdict_iff_of_title {p : Policy} {l : Loading} {title : String} {t : Title}
    {issues : List Issue} (noTicket : p.hasTicket title = false)
    (parsed : Title.parse title = some t) :
    Verdict p l title issues ↔ titleIssues p l.usable? t = issues := by
  constructor
  · intro verdict
    rcases verdict with ticket | ⟨_, none⟩ | ⟨_, parsed', verdict⟩
    · simp [noTicket] at ticket
    · simp [parsed] at none
    · obtain rfl := Option.some.inj (parsed.symm.trans parsed')
      rw [titleIssues_eq, listVerdict_iff.mp verdict]
  · rintro rfl
    rw [titleIssues_eq]
    exact .title noTicket parsed (listVerdict_iff.mpr rfl)

/-- The rules give exactly one verdict on a title, and that is what is reported. -/
theorem issues_eq_iff {σ : Type} {p : Policy} {source : NameSource σ} {title : String} {s : σ}
    {issues : List Issue} :
    (validate p source title s).1.issues = issues ↔ Verdict p (source.load s).1 title issues := by
  cases ticket : p.hasTicket title with
  | true =>
    rw [issues_of_ticket ticket]
    constructor
    · rintro rfl
      exact .ticket ticket
    · intro verdict
      rcases verdict with _ | ⟨noTicket, _⟩ | ⟨noTicket, _, _⟩
      · rfl
      · simp [ticket] at noTicket
      · simp [ticket] at noTicket
  | false =>
    cases parsed : Title.parse title with
    | none =>
      rw [issues_of_no_title ticket parsed]
      constructor
      · rintro rfl
        exact .mismatch ticket parsed
      · intro verdict
        rcases verdict with ticket' | _ | ⟨_, parsed', _⟩
        · simp [ticket] at ticket'
        · rfl
        · simp [parsed] at parsed'
    | some t => rw [issues_of_title ticket parsed, verdict_iff_of_title ticket parsed]

theorem suggestion_of_mem_singleton {p : Policy} {r : Rule} {i : Issue} (mem : i ∈ [Issue.of p r]) :
    i.suggestion.isSome = false := by
  obtain rfl := List.mem_singleton.mp mem
  rfl

/-- An issue about a rejected scope among those of the title. -/
def IsRejection (p : Policy) (l : Loading) (title : String) (i : Issue) : Prop :=
  ∃ t scopes pieces scope closest, Title.parse title = some t ∧ t.scope = some scopes ∧
    Scope.ListsPieces scopes pieces ∧ scope ∈ pieces ∧ Rejected p l scope closest ∧
    i = .unknownNode p closest

theorem ListVerdict.rejected_of_suggestion {p : Policy} {l : Loading} {scopes : Option String}
    {issues : List Issue} (h : ListVerdict p l scopes issues) {i : Issue} (mem : i ∈ issues)
    (suggests : i.suggestion.isSome = true) :
    ∃ list pieces scope closest, scopes = some list ∧ Scope.ListsPieces list pieces ∧
      scope ∈ pieces ∧ Rejected p l scope closest ∧ i = .unknownNode p closest := by
  cases h with
  | absent => simp at mem
  | malformed tight =>
    simp [suggestion_of_mem_singleton mem] at suggests
  | @pieces list pieces found loose listed verdicts =>
    obtain rfl := forall₂_scopeVerdict_iff.mp verdicts
    obtain ⟨scope, hs, eq⟩ : ∃ scope ∈ pieces, scopeIssue? p l.usable? scope = some i := by
      simpa using mem
    have verdict := scopeVerdict_scopeIssue? p l scope
    rw [eq] at verdict
    cases verdict with
    | foreign => simp [Issue.of] at suggests
    | rejected rejected => exact ⟨list, pieces, scope, _, rfl, listed, hs, rejected, rfl⟩

theorem Verdict.suggests_iff {p : Policy} {l : Loading} {title : String} {issues : List Issue}
    (h : Verdict p l title issues) {i : Issue} (mem : i ∈ issues) :
    i.suggestion.isSome = true ↔ IsRejection p l title i := by
  constructor
  · intro suggests
    cases h with
    | ticket _ =>
      simp [suggestion_of_mem_singleton mem] at suggests
    | mismatch _ _ =>
      simp [suggestion_of_mem_singleton mem] at suggests
    | @title t scopeIssues _ parsed verdict =>
      rcases List.mem_append.mp mem with mem | mem
      · rcases List.mem_append.mp mem with mem | mem
        · split at mem
          next => simp at mem
          next =>
            simp [suggestion_of_mem_singleton mem] at suggests
        · obtain ⟨list, pieces, scope, closest, hs, rest⟩ :=
            verdict.rejected_of_suggestion mem suggests
          exact ⟨t, list, pieces, scope, closest, parsed, hs, rest⟩
      · obtain ⟨rule, _, rfl⟩ := List.mem_map.mp mem
        simp [Issue.of] at suggests
  · intro rejection
    obtain ⟨_, _, _, _, _, _, _, _, _, _, rfl⟩ := rejection
    rfl

/-- What is reported for a title is one verdict of the rules, and the only one: a ticket alone, a
mismatch alone, or the issues of the type, the scopes and the subject in this order. A name is
suggested exactly where a scope is rejected for which no name is known. -/
theorem issues_iff_verdict {σ : Type} (p : Policy) (source : NameSource σ) (title : String)
    (s : σ) :
    (∀ issues, (validate p source title s).1.issues = issues ↔
      Verdict p (source.load s).1 title issues) ∧
    ∀ i ∈ (validate p source title s).1.issues,
      i.suggestion.isSome = true ↔ IsRejection p (source.load s).1 title i :=
  ⟨fun _ => issues_eq_iff, fun _ mem => (issues_eq_iff.mp rfl).suggests_iff mem⟩

end TitleLint.Validation
