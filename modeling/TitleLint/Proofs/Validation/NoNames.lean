import TitleLint.Proofs.Validation.OnDemand
import TitleLint.Proofs.Walk.Deadline

namespace TitleLint

namespace Loading

/-- The names could not be loaded, or there are none. -/
def Fails (l : Loading) : Prop := ∀ v, l.names = .ok v → v.names = []

/-- The line that tells why there are no names. -/
def failureLine (l : Loading) : String :=
  match l.names with
  | .ok _ => "failed to find any node display names"
  | .error cause => "failed to load node display names error=" ++ cause

section

variable {l : Loading}

theorem message_warnings_of_fails (fails : l.Fails) :
    l.warnings.map Warning.message = l.unreadable ++ [l.failureLine] := by
  have told : (l.unreadable.map Warning.unreadable).map Warning.message = l.unreadable := by
    rw [List.map_map]
    exact List.map_id l.unreadable
  unfold warnings failureLine
  rw [List.map_append, told]
  cases loaded : l.names with
  | error cause => rfl
  | ok v =>
    have empty : v.isEmpty = true := by simp [Vocabulary.isEmpty, fails v loaded]
    simp only [empty, if_true]
    rfl

theorem warnings_of_names {v : Vocabulary} (loaded : l.names = .ok v) (full : v.names ≠ []) :
    l.warnings = l.unreadable.map Warning.unreadable := by
  have filled : v.isEmpty = false := by simpa [Vocabulary.isEmpty] using full
  simp [warnings, loaded, filled]

end

end Loading

namespace BoundedWalk

section

variable {t : File.Tree} {b : BoundedWalk} {deadline : Option Nat}

theorem loading_fails_of_late (late : b.isLate t deadline = true) :
    (b.loading t deadline).Fails := by
  rw [loading_eq, if_pos late]
  intro v loaded
  cases loaded

theorem loading_fails_of_error {e : Walk.DiscoveryError} (h : b.walk.harvest t = .error e) :
    (b.loading t deadline).Fails := by
  rw [loading_eq, h]
  intro v loaded
  split at loaded <;> cases loaded

/-- A search that is given up gives no names at all. -/
theorem loading_fails_or_complete (t : File.Tree) (b : BoundedWalk) (deadline : Option Nat) :
    (b.loading t deadline).Fails ∨
      ∃ h, b.walk.harvest t = .ok h ∧ b.loading t deadline = h.loading := by
  cases late : b.isLate t deadline with
  | true => exact .inl (loading_fails_of_late late)
  | false =>
    cases outcome : b.walk.harvest t with
    | error e => exact .inl (loading_fails_of_error outcome)
    | ok h => exact .inr ⟨h, rfl, by rw [loading_eq, late, outcome]; rfl⟩

end

end BoundedWalk

namespace Validation

/-- The issues of a title under given names, where not all of its scopes need be judged. -/
def issuesAmong (p : Policy) (v : Vocabulary) (judged : String → Bool) (title : String) :
    List Issue :=
  if p.hasTicket title then [.of p .ticketNumberPresent]
  else
    match Title.parse title with
    | none => [.of p .schemaMismatch]
    | some t =>
      typeIssues p t ++ delimiterIssues p t ++
        ((judgedScopes t).filter judged).filterMap (scopeIssue? p (some v)) ++ subjectIssues p t

/-- The scopes of a title that only names could judge, in order. -/
def nodeScopes (p : Policy) (title : String) : List String :=
  match Title.parse title with
  | none => []
  | some t => (judgedScopes t).filter (needsNames p)

/-- The line that tells of a scope that was not judged. -/
def skipLine (scope : String) : String :=
  "no node display names available, skipping node scope check scope=" ++ Text.quoted scope

section

variable {p : Policy} {v : Vocabulary} {scope : String}

theorem filterMap_scopeIssue?_none (p : Policy) (v : Vocabulary) (scopes : List String) :
    scopes.filterMap (scopeIssue? p none) =
      (scopes.filter fun scope => !needsNames p scope).filterMap (scopeIssue? p (some v)) := by
  rw [List.filterMap_filter]
  refine List.filterMap_congr fun scope _ => ?_
  cases needed : needsNames p scope with
  -- It passes without names, and on the other side it is left out.
  | true => simp [scopeIssue?_none_of_needsNames needed]
  | false => simpa using scopeIssue?_of_not_needsNames needed (some v)

/-- With names at hand, the scopes that need them are the ones whose issues suggest a name. -/
theorem suggestion_of_scopeIssue? (full : v.names ≠ []) {i : Issue}
    (found : scopeIssue? p (some v) scope = some i) :
    i.suggestion.isSome = needsNames p scope := by
  have verdict := scopeVerdict_scopeIssue? p { names := .ok v } scope
  rw [Loading.usable?_ofVocabulary full, found] at verdict
  cases verdict with
  | foreign free foreign =>
    rw [needsNames_eq_false_iff.mpr (.inr foreign)]
    rfl
  | rejected rejected =>
    rw [needsNames_iff.mpr ⟨rejected.node, rejected.free⟩]
    rfl

theorem filter_issuesAmong (full : v.names ≠ []) (title : String) :
    (issuesAmong p v (fun _ => true) title).filter (·.suggestion.isNone) =
      issuesAmong p v (fun scope => !needsNames p scope) title := by
  have plain : ∀ rules : List Rule, (rules.map (Issue.of p)).filter (·.suggestion.isNone) =
      rules.map (Issue.of p) := by
    intro rules
    simp [Issue.of]
  -- Only a scope can have an issue with a suggestion, so the filter keeps the other parts whole.
  unfold issuesAmong
  cases p.hasTicket title with
  | true => exact plain [.ticketNumberPresent]
  | false =>
    cases Title.parse title with
    | none => exact plain [.schemaMismatch]
    | some t =>
      have type_kept : (typeIssues p t).filter (·.suggestion.isNone) = typeIssues p t := by
        unfold typeIssues
        split <;> simp [Issue.of]
      have delimiter_kept :
          (delimiterIssues p t).filter (·.suggestion.isNone) = delimiterIssues p t := by
        unfold delimiterIssues
        split <;> simp [Issue.of]
      have scopes_kept : ((judgedScopes t).filterMap (scopeIssue? p (some v))).filter
            (·.suggestion.isNone) =
          ((judgedScopes t).filter fun scope => !needsNames p scope).filterMap
            (scopeIssue? p (some v)) := by
        rw [List.filter_filterMap, List.filterMap_filter]
        refine List.filterMap_congr fun scope _ => ?_
        cases found : scopeIssue? p (some v) scope with
        | none => simp
        | some i =>
          have plain_iff : i.suggestion.isNone = !needsNames p scope := by
            rw [← suggestion_of_scopeIssue? full found, Option.not_isSome]
          rw [Option.filter_some, plain_iff]
      simp only [Bool.false_eq_true, if_false, List.filter_append, type_kept, delimiter_kept,
        scopes_kept, subjectIssues_eq, plain, List.filter_true]

end

section

variable {p : Policy} {σ : Type} {source : NameSource σ} {title : String} {s : σ} {v : Vocabulary}

/-- What the check reports depends on the names only by how its scopes are judged. -/
theorem issues_eq_issuesAmong {judged : String → Bool}
    (same : ∀ scopes : List String,
      scopes.filterMap (scopeIssue? p (source.load s).1.usable?) =
        (scopes.filter judged).filterMap (scopeIssue? p (some v))) :
    (validate p source title s).1.issues = issuesAmong p v judged title := by
  unfold issuesAmong
  cases ticket : p.hasTicket title with
  | true => exact issues_of_ticket ticket
  | false =>
    cases parsed : Title.parse title with
    | none => exact issues_of_no_title ticket parsed
    | some t =>
      rw [issues_of_title ticket parsed, titleIssues, same]
      rfl

theorem issues_of_fails (fails : (source.load s).1.Fails) :
    (validate p source title s).1.issues =
      issuesAmong p v (fun scope => !needsNames p scope) title := by
  refine issues_eq_issuesAmong fun scopes => ?_
  rw [Loading.usable?_eq_none_iff.mpr fails]
  exact filterMap_scopeIssue?_none p v scopes

theorem issuesWith_eq_issuesAmong (full : v.names ≠ []) :
    issuesWith p v title = issuesAmong p v (fun _ => true) title := by
  have usable : ((NameSource.ofVocabulary v).load ()).1.usable? = some v :=
    Loading.usable?_ofVocabulary full
  refine issues_eq_issuesAmong fun scopes => ?_
  rw [usable, List.filter_true]

theorem log_of_fails (fails : (source.load s).1.Fails) (asks : AsksForNames p title) :
    (validate p source title s).1.warnings.map Warning.message =
      (source.load s).1.unreadable ++
        (source.load s).1.failureLine :: (nodeScopes p title).map skipLine := by
  have unusable := Loading.usable?_eq_none_iff.mpr fails
  obtain ⟨noTicket, t, parsed, asked⟩ := asks.exists_title
  have skips : (skipped p none (judgedScopes t)).map Warning.message =
      (nodeScopes p title).map skipLine := by
    simp only [skipped, nodeScopes, parsed, Option.isSome_none, Bool.false_eq_true, if_false,
      List.map_map]
    rfl
  rw [validate_of_asked noTicket parsed asked]
  simp only [unusable, List.map_append, Loading.message_warnings_of_fails fails, skips,
    List.append_assoc, List.singleton_append]

theorem warnings_of_names (loaded : (source.load s).1.names = .ok v) (full : v.names ≠ [])
    {w : Warning} (mem : w ∈ (validate p source title s).1.warnings) :
    ∃ file ∈ (source.load s).1.unreadable, w = .unreadable file := by
  have usable := Loading.usable?_eq_some_iff.mpr ⟨loaded, full⟩
  by_cases asks : AsksForNames p title
  · obtain ⟨noTicket, t, parsed, asked⟩ := asks.exists_title
    rw [validate_of_asked noTicket parsed asked] at mem
    simp only [usable, skipped, Option.isSome_some, if_true, List.append_nil,
      Loading.warnings_of_names loaded full] at mem
    obtain ⟨file, unread, rfl⟩ := List.mem_map.mp mem
    exact ⟨file, unread, rfl⟩
  · obtain ⟨found, _, silent, eq⟩ := validate_of_not_asks asks
    rw [eq, silent] at mem
    cases mem

end

/-- All ways to have no names come to the same: just the issues of the scopes that need names are
missing, and the warnings tell why, and of each scope that was not judged. A search that is given
up is one of these ways, whenever that happens. -/
theorem validate_without_names {σ : Type} (p : Policy) (source : NameSource σ) (title : String)
    (s : σ) (v : Vocabulary) (fails : (source.load s).1.Fails) (full : v.names ≠ []) :
    let loading := (source.load s).1
    let found := (validate p source title s).1
    (∀ (τ : Type) (other : NameSource τ) (r : τ), (other.load r).1.Fails →
      (validate p other title r).1.issues = found.issues) ∧
    issuesWith p v title = issuesAmong p v (fun _ => true) title ∧
    found.issues = issuesAmong p v (fun scope => !needsNames p scope) title ∧
    found.issues = (issuesWith p v title).filter (·.suggestion.isNone) ∧
    (∀ scope i, needsNames p scope = true → scopeIssue? p (some v) scope = some i →
      i.rule = .invalidScope) ∧
    (found.loads = 1 → found.warnings.map Warning.message =
      loading.unreadable ++ loading.failureLine :: (nodeScopes p title).map skipLine) ∧
    (∀ (τ : Type) (other : NameSource τ) (r : τ), (other.load r).1.names = .ok v →
      ∀ w ∈ (validate p other title r).1.warnings,
        ∃ file ∈ (other.load r).1.unreadable, w = .unreadable file) ∧
    ∀ (t : File.Tree) (b : BoundedWalk) (deadline : Option Nat),
      (b.isLate t deadline = true → (b.loading t deadline).Fails) ∧
      (∀ e, b.walk.harvest t = .error e → (b.loading t deadline).Fails) ∧
      ((b.loading t deadline).Fails ∨
        ∃ h, b.walk.harvest t = .ok h ∧ b.loading t deadline = h.loading) := by
  intro loading found
  have bare : found.issues = issuesAmong p v (fun scope => !needsNames p scope) title :=
    issues_of_fails fails
  have whole : issuesWith p v title = issuesAmong p v (fun _ => true) title :=
    issuesWith_eq_issuesAmong full
  refine ⟨fun τ other r others => (issues_of_fails others).trans bare.symm, whole, bare, ?_, ?_, ?_,
    fun τ other r loaded w mem => warnings_of_names loaded full mem, fun t b deadline =>
      ⟨BoundedWalk.loading_fails_of_late, fun e => BoundedWalk.loading_fails_of_error,
        BoundedWalk.loading_fails_or_complete t b deadline⟩⟩
  · rw [whole, filter_issuesAmong full, bare]
  · exact fun scope i _ issue => rule_of_scopeIssue? issue
  · exact fun once => log_of_fails fails (loads_eq_one_iff.mp once)

/-- The files were read, but no name was in them. -/
theorem validate_without_names_of_empty_harvest :
    let p : Policy :=
      ⟨Policy.defaultTypes, Policy.defaultScopes, .one (.single '#'), Policy.defaultMarker⟩
    let loading : Loading :=
      { unreadable := ["Oura.node.ts: Failed to read Oura.node.ts"], names := .ok .empty }
    let title := "feat(Oura Node, core, bogus, Gmail Node): Add x"
    let found := (validate p (.always loading) title ()).1
    loading.Fails ∧
      found.issues = (issuesWith p (.ofList ["Gmail"]) title).filter (·.suggestion.isNone) ∧
      found.warnings.map Warning.message =
        ["Oura.node.ts: Failed to read Oura.node.ts", "failed to find any node display names",
          skipLine "Oura Node", skipLine "Gmail Node"] := by
  intro p loading title found
  have fails : loading.Fails := by
    intro v loaded
    obtain rfl := Except.ok.inj loaded
    rfl
  have full : (Vocabulary.ofList ["Gmail"]).names ≠ [] :=
    List.ne_nil_of_mem (Vocabulary.mem_ofList.mpr ⟨List.mem_singleton_self "Gmail", by simp⟩)
  obtain ⟨_, _, _, issues, _, log, _⟩ := validate_without_names p (.always loading) title ()
    (.ofList ["Gmail"]) fails full
  have nodes : nodeScopes p title = ["Oura Node", "Gmail Node"] := by decide
  have once : found.loads = 1 := by decide
  rw [nodes] at log
  exact ⟨fails, issues, log once⟩

end Validation

end TitleLint
