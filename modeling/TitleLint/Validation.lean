import TitleLint.Issue
import TitleLint.NameSource
import TitleLint.Scope
import TitleLint.Subject
import TitleLint.Title

namespace TitleLint

structure Findings where
  issues : List Issue
  /-- How often the names were loaded. -/
  loads : Nat := 0
  warnings : List Warning := []
  deriving DecidableEq, Repr

namespace Validation

def typeIssues (p : Policy) (t : Title) : List Issue :=
  if p.isKnownType t.type then [] else [.of p .invalidType]

/-- Whether a scope can only be judged by the known names. -/
def needsNames (p : Policy) (scope : String) : Bool :=
  !p.isFixedScope scope && Policy.isNodeScope scope

/-- The issue of one scope, given the usable names. Without names every node scope passes. -/
def scopeIssue? (p : Policy) (names : Option Vocabulary) (scope : String) : Option Issue :=
  if p.isFixedScope scope then none
  else if !Policy.isNodeScope scope then some (.of p .invalidScope)
  else
    match names with
    | none => none
    | some v =>
      match Scope.resolve scope Policy.nodeSuffix v with
      | .known => none
      | .unknown (some closest) => some (.unknownNode p closest)
      | .unknown none => some (.of p .invalidScope)

/-- The scopes of a title that are judged one by one. -/
def judgedScopes (t : Title) : List String :=
  match t.scope with
  | none => []
  | some scopes => if Scope.hasTightComma scopes then [] else Scope.pieces scopes

def delimiterIssues (p : Policy) (t : Title) : List Issue :=
  if t.scope.any Scope.hasTightComma then [.of p .malformedScopeDelimiter] else []

def subjectIssues (p : Policy) (t : Title) : List Issue :=
  let check := fun (broken : Bool) (r : Rule) => if broken then [Issue.of p r] else []
  check (Subject.startsUppercase t.subject) .subjectCaseViolation ++
    check (Subject.endsWithPeriod t.subject) .subjectTrailingPeriod ++
    check (Subject.isPastTense t.subject) .subjectNotPresentTense ++
    check (Subject.hasMisplacedMarker t.subject p.changelogMarker) .changelogMarkerMisplaced

/-- The issues of a title that could be read, given the usable names. -/
def titleIssues (p : Policy) (names : Option Vocabulary) (t : Title) : List Issue :=
  typeIssues p t ++ delimiterIssues p t ++ (judgedScopes t).filterMap (scopeIssue? p names) ++
    subjectIssues p t

/-- Judges one scope, and asks for the names only if it needs them. -/
def judgeScope {σ : Type} (p : Policy) (source : NameSource σ) (scope : String)
    (n : LazyNames σ) : Option Issue × LazyNames σ :=
  if needsNames p scope then
    match n.get source with
    | (none, n) => (none, n.warn (.scopeSkipped scope))
    | (some v, n) => (scopeIssue? p (some v) scope, n)
  else (scopeIssue? p none scope, n)

def judgeScopes {σ : Type} (p : Policy) (source : NameSource σ) :
    List String → LazyNames σ → List Issue × LazyNames σ
  | [], n => ([], n)
  | scope :: scopes, n =>
    let (found, n) := judgeScope p source scope n
    let (others, n) := judgeScopes p source scopes n
    (found.toList ++ others, n)

/-- Checks a title. The names that one check asks for are not kept for the next. -/
def validate {σ : Type} (p : Policy) (source : NameSource σ) (title : String) (s : σ) :
    Findings × σ :=
  if p.hasTicket title then ({ issues := [.of p .ticketNumberPresent] }, s)
  else
    match Title.parse title with
    | none => ({ issues := [.of p .schemaMismatch] }, s)
    | some t =>
      -- Every check starts without names.
      let (scopeIssues, n) := judgeScopes p source (judgedScopes t) { state := s }
      ({ issues := typeIssues p t ++ delimiterIssues p t ++ scopeIssues ++ subjectIssues p t
         loads := n.loads
         warnings := n.warnings }, n.state)

def validateAll {σ : Type} (p : Policy) (source : NameSource σ) : List String → σ → List Findings × σ
  | [], s => ([], s)
  | title :: titles, s =>
    let (found, s) := validate p source title s
    let (others, s) := validateAll p source titles s
    (found :: others, s)

/-- The issues of a title where the names are given. -/
def issuesWith (p : Policy) (v : Vocabulary) (title : String) : List Issue :=
  (validate p (.ofVocabulary v) title ()).1.issues

end Validation

end TitleLint
