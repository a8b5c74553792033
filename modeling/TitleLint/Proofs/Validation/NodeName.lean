import TitleLint.Proofs.Title.Composition
import TitleLint.Proofs.Validation.Verdict

namespace TitleLint

/-- None of the four checks objects to the subject. -/
structure Subject.Passes (subject marker : String) : Prop where
  lowercase : startsUppercase subject = false
  open_ended : endsWithPeriod subject = false
  present : isPastTense subject = false
  placed : hasMisplacedMarker subject marker = false

theorem Scope.tightComma_node_iff {name : String} :
    TightComma (name ++ " Node") ↔ TightComma name := by
  constructor
  · intro h
    obtain ⟨before, c, after, eq, not_comma, not_blank⟩ := h
    rw [String.toList_append] at eq
    rcases List.append_eq_append_iff.mp eq with ⟨more, _, hr⟩ | ⟨more, hl, hr⟩
    · have mem : ',' ∈ " Node".toList := by simp [hr]
      exact absurd mem (by decide)
    · cases more with
      | nil =>
        have first : ',' = ' ' := (List.cons.inj hr).1
        exact absurd first (by decide)
      | cons d more =>
        obtain ⟨rfl, hr'⟩ := List.cons.inj hr
        cases more with
        | nil =>
          obtain rfl : c = ' ' := (List.cons.inj hr').1
          exact absurd not_blank (by decide)
        | cons e more =>
          obtain ⟨rfl, _⟩ := List.cons.inj hr'
          exact ⟨before, c, more, hl, not_comma, not_blank⟩
  · intro h
    obtain ⟨before, c, after, eq, tight⟩ := h
    exact ⟨before, c, after ++ " Node".toList, by simp [eq], tight⟩

namespace Validation

/-- The scope made from a name passes: its commas are at most separators, and each piece between
them is a fixed scope or begins with a known name. -/
structure UsableName (p : Policy) (v : Vocabulary) (name : String) : Prop where
  loose : ¬ Scope.TightComma name
  pieces : ∀ piece ∈ Scope.pieces (name ++ " Node"), piece ∈ p.scopes ∨
    " Node".toList <:+ piece.toList ∧ ∃ known ∈ v.names, known.toList <+: piece.toList

section

variable {p : Policy} {v : Vocabulary}

theorem usableName_of_no_comma {name : String} (known : name ∈ v.names) (h : ',' ∉ name.toList) :
    UsableName p v name := by
  have whole : ',' ∉ (name ++ " Node").toList := by
    rw [String.toList_append, List.mem_append, not_or]
    exact ⟨h, by decide⟩
  constructor
  · rw [← Scope.hasTightComma_iff, Scope.hasTightComma_of_no_comma h]
    simp
  · intro piece mem
    rw [Scope.pieces_of_no_comma whole, List.mem_singleton] at mem
    right
    rw [mem, String.toList_append]
    exact ⟨List.suffix_append _ _, name, known, List.prefix_append _ _⟩

theorem subjectIssues_eq_nil_iff {t : Title} :
    subjectIssues p t = [] ↔ Subject.Passes t.subject p.changelogMarker := by
  rw [subjectIssues_eq, List.map_eq_nil_iff, List.filter_eq_nil_iff]
  constructor
  · intro h
    have passes := fun r hr => Bool.eq_false_iff.mpr (h r hr)
    exact ⟨passes .subjectCaseViolation (by decide), passes .subjectTrailingPeriod (by decide),
      passes .subjectNotPresentTense (by decide), passes .changelogMarkerMisplaced (by decide)⟩
  · rintro ⟨lowercase, open_ended, present, placed⟩ r hr
    cases r <;> simp_all [breaksSubjectRule]

theorem titleIssues_eq_nil_iff {names : Option Vocabulary} {t : Title} {scopes : String}
    (hs : t.scope = some scopes) :
    titleIssues p names t = [] ↔ t.type ∈ p.types ∧ ¬ Scope.TightComma scopes ∧
      (∀ piece ∈ Scope.pieces scopes, scopeIssue? p names piece = none) ∧
      Subject.Passes t.subject p.changelogMarker := by
  rw [← Scope.hasTightComma_iff, ← subjectIssues_eq_nil_iff, ← Policy.isKnownType_iff]
  cases known : p.isKnownType t.type <;> cases tight : Scope.hasTightComma scopes <;>
    simp [titleIssues, typeIssues, delimiterIssues, judgedScopes, hs, known, tight]

theorem mem_names_of_suggestion {title closest : String} {i : Issue}
    (mem : i ∈ issuesWith p v title) (h : i.suggestion = some closest) : closest ∈ v.names := by
  have verdict : Verdict p { names := .ok v } title (issuesWith p v title) :=
    (@issues_eq_iff Unit p (.ofVocabulary v) title () (issuesWith p v title)).mp rfl
  obtain ⟨_, _, _, _, other, _, _, _, _, rejected, rfl⟩ :=
    (verdict.suggests_iff mem).mp (by simp [h])
  obtain ⟨w, loaded, _, _, nearest⟩ := rejected.unknown
  obtain rfl := Except.ok.inj loaded
  obtain rfl := Option.some.inj h
  exact Vocabulary.mem_of_closest? nearest

/-- A title whose scope is made from one name. -/
def nodeTitle (type name subject : String) : String := type ++ "(" ++ name ++ " Node): " ++ subject

variable {type name subject : String}

theorem text_node : Title.text ⟨type, some (name ++ " Node"), false, subject⟩ =
    nodeTitle type name subject := by
  simp [Title.text, nodeTitle, String.append_assoc]

theorem parse_nodeTitle (type_ne : type ≠ "")
    (type_word : ∀ c ∈ type.toList, Unicode.isWord c = true) (name_line : '\n' ∉ name.toList)
    (subject_ne : subject ≠ "") (subject_line : '\n' ∉ subject.toList)
    (free : ')' ∉ subject.toList) : Title.parse (nodeTitle type name subject) =
      some ⟨type, some (name ++ " Node"), false, subject⟩ := by
  let t : Title := ⟨type, some (name ++ " Node"), false, subject⟩
  have reads : Title.Reads t.text t := by
    refine ⟨rfl, type_ne, type_word, ?_, subject_line⟩
    intro scope hs
    obtain rfl := Option.some.inj hs
    rw [String.toList_append, List.mem_append, not_or]
    exact ⟨name_line, by decide⟩
  have scope_ne : ∀ scope, t.scope = some scope → scope ≠ "" := by
    intro scope hs
    obtain rfl := Option.some.inj hs
    simp
  have found := Title.parse_text reads scope_ne subject_ne
    (.inr (Title.closesScope_eq_false_of_not_mem free))
  rwa [text_node] at found

theorem issuesWith_nodeTitle_eq_nil_iff (type_ne : type ≠ "")
    (type_word : ∀ c ∈ type.toList, Unicode.isWord c = true) (type_known : type ∈ p.types)
    (known : name ∈ v.names) (name_line : '\n' ∉ name.toList) (subject_ne : subject ≠ "")
    (subject_line : '\n' ∉ subject.toList) (free : ')' ∉ subject.toList)
    (passes : Subject.Passes subject p.changelogMarker)
    (noTicket : p.hasTicket (nodeTitle type name subject) = false) :
    issuesWith p v (nodeTitle type name subject) = [] ↔ UsableName p v name := by
  have parsed := parse_nodeTitle type_ne type_word name_line subject_ne subject_line free
  rw [issuesWith_of_title noTicket parsed,
    Loading.usable?_ofVocabulary (List.ne_nil_of_mem known)]
  rw [titleIssues_eq_nil_iff rfl, Scope.tightComma_node_iff]
  simp only [scopeIssue?_eq_none_iff, Option.some.injEq, forall_eq']
  constructor
  · intro h
    obtain ⟨_, loose, pieces, _⟩ := h
    exact ⟨loose, pieces⟩
  · intro h
    obtain ⟨loose, pieces⟩ := h
    exact ⟨type_known, loose, pieces, passes⟩

theorem issuesWith_nodeTitle_of_no_type
    (noTicket : p.hasTicket (nodeTitle "" name subject) = false) :
    issuesWith p v (nodeTitle "" name subject) = [.of p .schemaMismatch] := by
  have no_type : (nodeTitle "" name subject).toList.takeWhile Unicode.isWord = [] := by
    have bracket : Unicode.isWord '(' = false := by decide
    simp [nodeTitle, bracket]
  exact issues_of_no_title noTicket (Title.parse_of_no_type no_type)

/-- A title about a known node passes exactly if it has a type and the name can be used in a scope,
as every name without a comma can; and no name is suggested but a known one. -/
theorem issuesWith_nodeTitle_iff_usable (type_word : ∀ c ∈ type.toList, Unicode.isWord c = true)
    (type_known : type ∈ p.types) (known : name ∈ v.names) (name_line : '\n' ∉ name.toList)
    (subject_ne : subject ≠ "") (subject_line : '\n' ∉ subject.toList)
    (free : ')' ∉ subject.toList) (passes : Subject.Passes subject p.changelogMarker)
    (noTicket : p.hasTicket (nodeTitle type name subject) = false) :
    (issuesWith p v (nodeTitle type name subject) = [] ↔ type ≠ "" ∧ UsableName p v name) ∧
    (',' ∉ name.toList → UsableName p v name) ∧
    ∀ other, ∀ i ∈ issuesWith p v other, ∀ closest,
      i.suggestion = some closest → closest ∈ v.names := by
  refine ⟨?_, usableName_of_no_comma known, fun _ _ mem _ => mem_names_of_suggestion mem⟩
  by_cases type_ne : type = ""
  · subst type_ne
    rw [issuesWith_nodeTitle_of_no_type noTicket]
    simp
  · rw [issuesWith_nodeTitle_eq_nil_iff type_ne type_word type_known known name_line subject_ne
      subject_line free passes noTicket]
    exact (and_iff_right type_ne).symm

end

theorem issuesWith_nodeTitle_of_brackets :
    let p : Policy :=
      ⟨Policy.defaultTypes, Policy.defaultScopes, .one (.single '#'), Policy.defaultMarker⟩
    issuesWith p (.ofList ["Notion (Beta)"])
      (nodeTitle "fix" "Notion (Beta)" "handle empty pages") = [] := by
  intro p
  have usable := @issuesWith_nodeTitle_iff_usable p (.ofList ["Notion (Beta)"]) "fix"
    "Notion (Beta)" "handle empty pages" (List.all_eq_true.mp (by decide)) (by decide) (by decide)
    (by decide) (by decide) (by decide) (by decide)
    ⟨by decide, by decide, by decide, by decide⟩ (by decide)
  exact usable.1.mpr ⟨by decide, usable.2.1 (by decide)⟩

/-- A name with a comma in it is taken apart. -/
theorem not_forall_issuesWith_nodeTitle :
    ¬ ∀ (p : Policy) (v : Vocabulary) (type name subject : String),
    name ∈ v.names → '\n' ∉ name.toList → type ∈ p.types →
    (∀ c ∈ type.toList, Unicode.isWord c = true) → subject ≠ "" → '\n' ∉ subject.toList →
    ')' ∉ subject.toList → Subject.Passes subject p.changelogMarker →
    p.hasTicket (nodeTitle type name subject) = false →
    issuesWith p v (nodeTitle type name subject) = [] := by
  intro h
  let v : Vocabulary := .ofList ["No Operation, do nothing"]
  have known : "No Operation, do nothing" ∈ v.names := by decide
  have type_known : "fix" ∈ Policy.default.types := by decide
  have type_word : ∀ c ∈ "fix".toList, Unicode.isWord c = true := List.all_eq_true.mp (by decide)
  have subject_line : '\n' ∉ "handle empty input".toList := by decide
  have free : ')' ∉ "handle empty input".toList := by decide
  have passes : Subject.Passes "handle empty input" Policy.default.changelogMarker :=
    ⟨by decide, by decide, by decide, by decide⟩
  have noTicket : Policy.default.hasTicket
      (nodeTitle "fix" "No Operation, do nothing" "handle empty input") = false := by
    decide +kernel
  have accepted := h .default v "fix" "No Operation, do nothing" "handle empty input" known
    (by decide) type_known type_word (by decide) subject_line free passes noTicket
  have usable := (issuesWith_nodeTitle_eq_nil_iff (by decide) type_word type_known known
    (by decide) (by decide) subject_line free passes noTicket).mp accepted
  rcases usable.pieces "No Operation" (by decide) with fixed | ⟨node, _⟩
  · exact absurd fixed (by decide)
  · exact absurd node (by decide)

/-- The very scope that was given is suggested. -/
example : issuesWith .default (.ofList ["No Operation, do nothing"])
    (nodeTitle "fix" "No Operation, do nothing" "handle empty input") =
      [.of .default .invalidScope, .unknownNode .default "No Operation, do nothing"] := by
  decide +kernel

end Validation

end TitleLint
