import Mathlib.Data.List.Basic
import TitleLint.Validation

namespace TitleLint

namespace Policy

theorem isKnownType_iff {p : Policy} {type : String} :
    p.isKnownType type = true ↔ type ∈ p.types := by
  simp [isKnownType]

theorem isFixedScope_iff {p : Policy} {scope : String} :
    p.isFixedScope scope = true ↔ scope ∈ p.scopes := by
  simp [isFixedScope]

theorem isNodeScope_iff {scope : String} :
    isNodeScope scope = true ↔ nodeSuffix.toList <:+ scope.toList := List.isSuffixOf_iff_suffix

end Policy

namespace Loading

theorem usable?_eq_some_iff {l : Loading} {v : Vocabulary} :
    l.usable? = some v ↔ l.names = .ok v ∧ v.names ≠ [] := by
  cases hl : l.names with
  | error cause => simp [usable?, hl]
  | ok w =>
    cases hw : w.names with
    | nil =>
      have empty : w.isEmpty = true := by simp [Vocabulary.isEmpty, hw]
      simp only [usable?, hl, empty, if_true, Except.ok.injEq, reduceCtorEq, false_iff]
      rintro ⟨rfl, ne⟩
      exact ne hw
    | cons name names =>
      have full : w.isEmpty = false := by simp [Vocabulary.isEmpty, hw]
      simp only [usable?, hl, full, Bool.false_eq_true, if_false, Except.ok.injEq,
        Option.some.injEq]
      constructor
      · rintro rfl
        exact ⟨rfl, by simp [hw]⟩
      · exact And.left

theorem usable?_ofVocabulary {v : Vocabulary} (full : v.names ≠ []) :
    usable? { names := .ok v } = some v :=
  usable?_eq_some_iff.mpr ⟨rfl, full⟩

theorem usable?_eq_none_iff {l : Loading} :
    l.usable? = none ↔ ∀ v, l.names = .ok v → v.names = [] := by
  rw [Option.eq_none_iff_forall_ne_some]
  constructor
  · intro h v hv
    by_contra full
    exact h v (usable?_eq_some_iff.mpr ⟨hv, full⟩)
  · intro h v hv
    obtain ⟨loaded, full⟩ := usable?_eq_some_iff.mp hv
    exact full (h v loaded)

end Loading

/-- Every loading comes out the same. -/
def NameSource.IsPure {σ : Type} (source : NameSource σ) : Prop :=
  ∀ s r, (source.load s).1 = (source.load r).1

theorem NameSource.isPure_always (l : Loading) : (always l).IsPure := fun _ _ => rfl

namespace Validation

section

variable {p : Policy} {names : Option Vocabulary} {v : Vocabulary} {scope : String}

theorem scopeIssue?_of_fixed (fixed : scope ∈ p.scopes) : scopeIssue? p names scope = none := by
  unfold scopeIssue?
  rw [if_pos (Policy.isFixedScope_iff.mpr fixed)]

theorem scopeIssue?_of_foreign (free : scope ∉ p.scopes)
    (foreign : ¬ Policy.nodeSuffix.toList <:+ scope.toList) :
    scopeIssue? p names scope = some (.of p .invalidScope) := by
  have hn : Policy.isNodeScope scope = false := by
    rwa [Bool.eq_false_iff, ne_eq, Policy.isNodeScope_iff]
  unfold scopeIssue?
  rw [if_neg (mt Policy.isFixedScope_iff.mp free), hn]
  rfl

/-- A scope that names a node is judged by the known names alone. -/
theorem scopeIssue?_of_node (free : scope ∉ p.scopes)
    (node : Policy.nodeSuffix.toList <:+ scope.toList) :
    scopeIssue? p names scope =
      match names with
      | none => none
      | some v =>
        match Scope.resolve scope Policy.nodeSuffix v with
        | .known => none
        | .unknown (some closest) => some (.unknownNode p closest)
        | .unknown none => some (.of p .invalidScope) := by
  unfold scopeIssue?
  rw [if_neg (mt Policy.isFixedScope_iff.mp free), Policy.isNodeScope_iff.mpr node]
  rfl

theorem resolve_eq_known_iff {suffix : String} :
    Scope.resolve scope suffix v = .known ↔ ∃ name ∈ v.names, name.toList <+: scope.toList := by
  unfold Scope.resolve
  split
  next h => simpa using h
  next h => simpa using h

theorem resolve_of_unknown (suffix : String)
    (unknown : ∀ name ∈ v.names, ¬ name.toList <+: scope.toList) :
    Scope.resolve scope suffix v =
      .unknown (v.closest? (String.ofList (Text.upTo suffix.toList scope.toList))) := by
  unfold Scope.resolve
  rw [if_neg]
  simpa using unknown

theorem scopeIssue?_eq_none_iff : scopeIssue? p names scope = none ↔ scope ∈ p.scopes ∨
    " Node".toList <:+ scope.toList ∧
      ∀ v, names = some v → ∃ known ∈ v.names, known.toList <+: scope.toList := by
  by_cases fixed : scope ∈ p.scopes
  · simp [scopeIssue?_of_fixed fixed, fixed]
  by_cases node : " Node".toList <:+ scope.toList
  · rw [scopeIssue?_of_node fixed node]
    cases names with
    | none => exact iff_of_true rfl (.inr ⟨node, by simp⟩)
    | some v =>
      dsimp only
      have known_iff := @resolve_eq_known_iff v scope Policy.nodeSuffix
      cases resolved : Scope.resolve scope Policy.nodeSuffix v with
      | known =>
        have known := known_iff.mp resolved
        simp only [Option.some.injEq, forall_eq', fixed, node, known, false_or, true_and]
      | unknown closest =>
        have unknown : ¬ ∃ known ∈ v.names, known.toList <+: scope.toList := by
          rw [← known_iff, resolved]
          simp
        cases closest <;> simp only [Option.some.injEq, forall_eq', fixed, unknown, reduceCtorEq,
          false_or, and_false]
  · simp only [scopeIssue?_of_foreign fixed node, fixed, node, reduceCtorEq, false_or, false_and]

theorem rule_of_scopeIssue? {i : Issue} (h : scopeIssue? p names scope = some i) :
    i.rule = .invalidScope := by
  unfold scopeIssue? at h
  split at h
  next => cases h
  next =>
    split at h
    next =>
      obtain rfl := Option.some.inj h
      rfl
    next =>
      split at h
      next => cases h
      next =>
        split at h
        next => cases h
        next =>
          obtain rfl := Option.some.inj h
          rfl
        next =>
          obtain rfl := Option.some.inj h
          rfl

theorem needsNames_eq_false_iff : needsNames p scope = false ↔
    scope ∈ p.scopes ∨ ¬ Policy.nodeSuffix.toList <:+ scope.toList := by
  rw [← Policy.isFixedScope_iff, ← Policy.isNodeScope_iff]
  cases hf : p.isFixedScope scope <;> simp [needsNames, hf]

theorem needsNames_iff :
    needsNames p scope = true ↔ " Node".toList <:+ scope.toList ∧ scope ∉ p.scopes := by
  rw [← Bool.not_eq_false, needsNames_eq_false_iff, not_or, not_not, and_comm]
  rfl

theorem scopeIssue?_of_not_needsNames (h : needsNames p scope = false)
    (names' : Option Vocabulary) : scopeIssue? p names scope = scopeIssue? p names' scope := by
  by_cases fixed : scope ∈ p.scopes
  · rw [scopeIssue?_of_fixed fixed, scopeIssue?_of_fixed fixed]
  · have foreign := (needsNames_eq_false_iff.mp h).resolve_left fixed
    rw [scopeIssue?_of_foreign fixed foreign, scopeIssue?_of_foreign fixed foreign]

theorem titleIssues_of_not_needsNames {t : Title}
    (h : (judgedScopes t).any (needsNames p) = false) (names' : Option Vocabulary) :
    titleIssues p names t = titleIssues p names' t := by
  have same : (judgedScopes t).filterMap (scopeIssue? p names) =
      (judgedScopes t).filterMap (scopeIssue? p names') :=
    List.filterMap_congr fun scope mem =>
      scopeIssue?_of_not_needsNames (by simpa using List.any_eq_false.mp h scope mem) names'
  rw [titleIssues, same, titleIssues]

end

/-- The warnings about node scopes that could not be judged. -/
def skipped (p : Policy) (names : Option Vocabulary) (scopes : List String) : List Warning :=
  if names.isSome then [] else (scopes.filter (needsNames p)).map .scopeSkipped

theorem skipped_cons (p : Policy) (names : Option Vocabulary) (scope : String)
    (scopes : List String) :
    skipped p names (scope :: scopes) = skipped p names [scope] ++ skipped p names scopes := by
  unfold skipped
  split
  next => rfl
  next => rw [← List.map_append, ← List.filter_append, List.singleton_append]

end Validation

/-- The names of a check that has just loaded them. -/
def LazyNames.loaded {σ : Type} (source : NameSource σ) (s : σ) : LazyNames σ where
  state := (source.load s).2
  kept := some (source.load s).1.usable?
  loads := 1
  warnings := (source.load s).1.warnings

namespace Validation

section

variable {p : Policy} {σ : Type} {source : NameSource σ} {n : LazyNames σ} {scope : String}
  {scopes : List String} {s : σ}

theorem judgeScope_of_not_needsNames (h : needsNames p scope = false) :
    judgeScope p source scope n = (scopeIssue? p none scope, n) := by
  unfold judgeScope
  rw [h]
  rfl

theorem scopeIssue?_none_of_needsNames (h : needsNames p scope = true) :
    scopeIssue? p none scope = none := by
  obtain ⟨free, node⟩ : p.isFixedScope scope = false ∧ Policy.isNodeScope scope = true := by
    simpa [needsNames] using h
  simp [scopeIssue?, free, node]

/-- Names that were loaded once are what every further scope is judged by. -/
theorem judgeScope_of_kept {names : Option Vocabulary} (h : n.kept = some names) :
    judgeScope p source scope n = (scopeIssue? p names scope,
      { n with warnings := n.warnings ++ skipped p names [scope] }) := by
  cases needed : needsNames p scope with
  | false =>
    have nothing : skipped p names [scope] = [] := by simp [skipped, needed]
    rw [judgeScope_of_not_needsNames needed, scopeIssue?_of_not_needsNames needed names, nothing,
      List.append_nil]
  | true =>
    have got : n.get source = (names, n) := by simp [LazyNames.get, h]
    unfold judgeScope
    rw [if_pos needed, got]
    cases names with
    | none => simp [scopeIssue?_none_of_needsNames needed, skipped, needed, LazyNames.warn]
    | some v => simp [skipped]

theorem judgeScopes_of_kept {names : Option Vocabulary} (h : n.kept = some names) :
    judgeScopes p source scopes n = (scopes.filterMap (scopeIssue? p names),
      { n with warnings := n.warnings ++ skipped p names scopes }) := by
  -- The induction is over all states that keep these names: judging a scope adds warnings, but
  -- what is kept stays.
  induction scopes generalizing n with
  | nil => simp [judgeScopes, skipped]
  | cons scope scopes ih =>
    have kept : { n with warnings := n.warnings ++ skipped p names [scope] }.kept = some names := h
    simp only [judgeScopes, judgeScope_of_kept h]
    rw [ih kept, skipped_cons p names scope scopes]
    cases found : scopeIssue? p names scope <;> simp [found]

theorem judgeScopes_of_not_asked (h : scopes.any (needsNames p) = false) :
    judgeScopes p source scopes n = (scopes.filterMap (scopeIssue? p none), n) := by
  induction scopes with
  | nil => rfl
  | cons scope scopes ih =>
    obtain ⟨here, later⟩ : needsNames p scope = false ∧ scopes.any (needsNames p) = false := by
      simpa only [List.any_cons, Bool.or_eq_false_iff] using h
    simp only [judgeScopes, judgeScope_of_not_needsNames here, ih later]
    cases found : scopeIssue? p none scope <;> simp [found]

/-- The first scope that needs the names finds them as if they had been loaded before the check. -/
theorem judgeScope_of_first (h : needsNames p scope = true) :
    judgeScope p source scope { state := s } = judgeScope p source scope (.loaded source s) := by
  simp [judgeScope, h, LazyNames.get, LazyNames.loaded]

theorem judgeScopes_of_asked (h : scopes.any (needsNames p) = true) :
    judgeScopes p source scopes { state := s } =
      judgeScopes p source scopes (.loaded source s) := by
  induction scopes with
  | nil => simp at h
  | cons scope scopes ih =>
    cases needed : needsNames p scope with
    | true => simp only [judgeScopes, judgeScope_of_first needed]
    -- The first scope that needs the names still lies ahead, and nothing is loaded before it.
    | false =>
      have later : scopes.any (needsNames p) = true := by simpa [needed] using h
      simp only [judgeScopes, judgeScope_of_not_needsNames needed, ih later]

end

section

variable {p : Policy} {σ : Type} {source : NameSource σ} {title : String} {s : σ}

theorem issues_of_ticket (h : p.hasTicket title = true) :
    (validate p source title s).1.issues = [.of p .ticketNumberPresent] := by
  simp [validate, h]

theorem issues_of_no_title (h : p.hasTicket title = false) (parsed : Title.parse title = none) :
    (validate p source title s).1.issues = [.of p .schemaMismatch] := by
  simp [validate, h, parsed]

theorem validate_of_not_asked {t : Title} (h : p.hasTicket title = false)
    (parsed : Title.parse title = some t) (idle : (judgedScopes t).any (needsNames p) = false) :
    validate p source title s = ({ issues := titleIssues p none t }, s) := by
  simp [validate, h, parsed, judgeScopes_of_not_asked idle, titleIssues]

/-- A check that asks for the names gives what it would give with the names loaded beforehand. -/
theorem validate_of_asked {t : Title} (h : p.hasTicket title = false)
    (parsed : Title.parse title = some t) (asked : (judgedScopes t).any (needsNames p) = true) :
    validate p source title s =
      ({ issues := titleIssues p (source.load s).1.usable? t
         loads := 1
         warnings := (source.load s).1.warnings ++
           skipped p (source.load s).1.usable? (judgedScopes t) }, (source.load s).2) := by
  have kept : (LazyNames.loaded source s).kept = some (source.load s).1.usable? := rfl
  have judged := (@judgeScopes_of_asked p σ source _ s asked).trans (judgeScopes_of_kept kept)
  simp only [validate, h, parsed, judged, titleIssues, Bool.false_eq_true, if_false]
  rfl

/-- The issues of a title are those under the names that the source would yield, whether it is
asked for them or not. -/
theorem issues_of_title {t : Title} (h : p.hasTicket title = false)
    (parsed : Title.parse title = some t) :
    (validate p source title s).1.issues = titleIssues p (source.load s).1.usable? t := by
  cases asked : (judgedScopes t).any (needsNames p) with
  | true => rw [validate_of_asked h parsed asked]
  | false =>
    rw [validate_of_not_asked h parsed asked]
    exact titleIssues_of_not_needsNames asked _

theorem issuesWith_of_title {v : Vocabulary} {t : Title} (h : p.hasTicket title = false)
    (parsed : Title.parse title = some t) :
    issuesWith p v title = titleIssues p (Loading.usable? { names := .ok v }) t :=
  issues_of_title h parsed

end

end Validation

end TitleLint
