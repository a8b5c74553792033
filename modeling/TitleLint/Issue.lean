import TitleLint.Policy

namespace TitleLint

inductive Rule where
  | schemaMismatch
  | ticketNumberPresent
  | invalidType
  | invalidScope
  | malformedScopeDelimiter
  | subjectCaseViolation
  | subjectTrailingPeriod
  | subjectNotPresentTense
  | changelogMarkerMisplaced
  deriving DecidableEq, Repr

namespace Rule

def code : Rule → String
  | .schemaMismatch => "schema_mismatch"
  | .ticketNumberPresent => "ticket_number_present"
  | .invalidType => "invalid_type"
  | .invalidScope => "invalid_scope"
  | .malformedScopeDelimiter => "malformed_scope_delimiter"
  | .subjectCaseViolation => "subject_case_violation"
  | .subjectTrailingPeriod => "subject_trailing_period"
  | .subjectNotPresentTense => "subject_not_present_tense"
  | .changelogMarkerMisplaced => "changelog_marker_misplaced"

def all : List Rule :=
  [.schemaMismatch, .ticketNumberPresent, .invalidType, .invalidScope, .malformedScopeDelimiter,
    .subjectCaseViolation, .subjectTrailingPeriod, .subjectNotPresentTense, .changelogMarkerMisplaced]

def ofCode? (code : String) : Option Rule := all.find? (·.code = code)

theorem ofCode?_code (r : Rule) : ofCode? r.code = some r := by
  cases r <;> decide

theorem code_inj {r s : Rule} (same : r.code = s.code) : r = s := by
  have own := ofCode?_code r
  rw [same, ofCode?_code, Option.some.injEq] at own
  exact own.symm

/-- A code consists of small letters and low lines. -/
theorem isLower_of_mem_code {r : Rule} {c : Char} (mem : c ∈ r.code.toList) :
    c.isLower = true ∨ c = '_' := by
  have all : r.code.toList.all (fun c => c.isLower || c == '_') = true := by
    cases r <;> decide +kernel
  simpa using List.all_eq_true.mp all c mem

def message (p : Policy) (r : Rule) : String :=
  let types := "\x7b" ++ String.intercalate "," p.types ++ "\x7d"
  let scopes := "\x7b" ++ String.intercalate "," p.scopes ++ "\x7d"
  let marker := "`" ++ p.changelogMarker ++ "`"
  let shown := "`docs(Mattermost" ++ Policy.nodeSuffix ++ "): fix typo " ++ p.changelogMarker ++ "`"
  match r with
  | .schemaMismatch =>
    "PR title does not conform to PR title convention.\n" ++
      "Please use `type(scope): subject` or `type: subject`, where `type` is one of " ++
      types ++ " and scope is one of " ++ scopes ++ " or may be omitted.\n" ++
      "For the subject, mind the whitespace, use initial lowercase and omit final period."
  | .ticketNumberPresent => "PR title must not contain a ticket number"
  | .invalidType => "Unknown `type` in PR title. Expected one of " ++ types
  | .invalidScope =>
    "Unknown `scope` in PR title. Expected one of " ++ scopes ++
      " or a node scope, e.g. Mattermost" ++ Policy.nodeSuffix
  | .malformedScopeDelimiter =>
    "Scopes in a list must be separated by a comma and a space, e.g. `core, editor`"
  | .subjectCaseViolation => "First char of subject must be lowercase"
  | .subjectTrailingPeriod => "Subject must not end with a period"
  | .subjectNotPresentTense =>
    "Subject must use present tense, e.g. `implement` instead of `implemented`"
  | .changelogMarkerMisplaced =>
    marker ++ " must be in suffix position, e.g. " ++ shown

end Rule

/-- A rule that a title breaks, with the nearest known name where one was looked for. -/
structure Issue where
  rule : Rule
  message : String
  suggestion : Option String := none
  deriving DecidableEq, Repr

namespace Issue

def of (p : Policy) (r : Rule) : Issue := { rule := r, message := r.message p }

@[simp]
theorem rule_of (p : Policy) (r : Rule) : (of p r).rule = r := rfl

@[simp]
theorem suggestion_of (p : Policy) (r : Rule) : (of p r).suggestion = none := rfl

/-- An unknown node scope, for which `closest` is the nearest name. -/
def unknownNode (p : Policy) (closest : String) : Issue :=
  { rule := .invalidScope
    message := Rule.message p .invalidScope ++ ". Did you mean `" ++ closest ++
      Policy.nodeSuffix ++ "`?"
    suggestion := some closest }

end Issue

end TitleLint
