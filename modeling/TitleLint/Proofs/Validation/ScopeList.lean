import TitleLint.Proofs.Scope.Commas
import TitleLint.Proofs.Title.Composition
import TitleLint.Proofs.Validation.Delimiter

namespace TitleLint

/-- Scopes that can stand in a list: none could be taken for two. -/
structure Scope.Listable (scopes : List String) : Prop where
  nonempty : scopes ≠ []
  filled : ∀ scope ∈ scopes, scope ≠ ""
  no_comma : ∀ scope ∈ scopes, ',' ∉ scope.toList
  line : ∀ scope ∈ scopes, '\n' ∉ scope.toList

def Scope.joined (scopes : List String) : String := ", ".intercalate scopes

namespace Scope.Listable

variable {scopes : List String}

theorem pieces_joined (h : Listable scopes) : pieces (joined scopes) = scopes := by
  refine pieces_eq_iff.mpr ⟨h.nonempty, rfl, fun scope mem occurs => ?_⟩
  exact h.no_comma scope mem (occurs.subset (by decide))

theorem loose_joined (h : Listable scopes) : ¬ TightComma (joined scopes) := by
  have final : FinalCommas (joined scopes) := by
    intro piece rest inside before after eq
    rw [h.pieces_joined] at inside
    exact absurd (by simp [eq]) (h.no_comma piece (inside.subset List.mem_cons_self))
  exact mt UnspacedComma.of_tight (finalCommas_iff.mp final)

theorem joined_ne_empty (h : Listable scopes) : joined scopes ≠ "" := by
  intro empty
  have single := h.pieces_joined
  rw [empty, show pieces "" = [""] from rfl] at single
  exact h.filled "" (single ▸ List.mem_singleton_self "") rfl

theorem joined_line (h : Listable scopes) : '\n' ∉ (joined scopes).toList := by
  intro mem
  rw [joined, String.toList_intercalate] at mem
  rcases Text.mem_intercalate mem with inside | ⟨part, hp, inside⟩
  · exact absurd inside (by decide)
  · obtain ⟨scope, hs, rfl⟩ := List.mem_map.mp hp
    exact h.line scope hs inside

theorem singleton {scope : String} (h : Listable scopes) (mem : scope ∈ scopes) :
    Listable [scope] := by
  constructor <;> simp [h.filled scope mem, h.no_comma scope mem, h.line scope mem]

end Scope.Listable

namespace Validation

/-- A title with scopes. -/
def listTitle (type : String) (breaking : Bool) (subject : String) (scopes : List String) : Title :=
  ⟨type, some (Scope.joined scopes), breaking, subject⟩

section

variable {p : Policy} {names : Option Vocabulary} {type subject : String} {breaking : Bool}
  {scopes : List String}

theorem parse_listTitle (type_ne : type ≠ "")
    (type_word : ∀ c ∈ type.toList, Unicode.isWord c = true) (listable : Scope.Listable scopes)
    (subject_ne : subject ≠ "") (subject_line : '\n' ∉ subject.toList)
    (free : Title.closesScope subject = false) :
    Title.parse (listTitle type breaking subject scopes).text =
      some (listTitle type breaking subject scopes) := by
  refine Title.parse_text ⟨rfl, type_ne, type_word, ?_, subject_line⟩ ?_ subject_ne (.inr free)
  · rintro _ ⟨⟩
    exact listable.joined_line
  · rintro _ ⟨⟩
    exact listable.joined_ne_empty

theorem scopeIssues_listTitle (listable : Scope.Listable scopes) :
    scopeIssues p names (listTitle type breaking subject scopes) =
      scopes.filterMap (scopeIssue? p names) := by
  rw [scopeIssues_of_loose rfl listable.loose_joined, listable.pieces_joined]

theorem scopeIssues_listTitle_eq_flatMap (listable : Scope.Listable scopes) (alone : Bool) :
    scopeIssues p names (listTitle type breaking subject scopes) =
      scopes.flatMap fun scope => scopeIssues p names (listTitle type alone subject [scope]) := by
  have single : ∀ scope ∈ scopes, scopeIssues p names (listTitle type alone subject [scope]) =
      (scopeIssue? p names scope).toList := by
    intro scope mem
    rw [scopeIssues_listTitle (listable.singleton mem)]
    cases found : scopeIssue? p names scope <;> simp [found]
  rw [scopeIssues_listTitle listable, List.flatMap_congr single, List.filterMap_eq_flatMap_toList]

end

/-- A list of scopes has the issues of each of its scopes, in their order, and its type and its
subject have those that they have in a title with one of the scopes alone. -/
theorem issues_listTitle {σ : Type} {p : Policy} {source : NameSource σ} (pure : source.IsPure)
    {type subject : String} {scopes : List String} {breaking alone : Bool} (type_ne : type ≠ "")
    (type_word : ∀ c ∈ type.toList, Unicode.isWord c = true) (listable : Scope.Listable scopes)
    (subject_ne : subject ≠ "") (subject_line : '\n' ∉ subject.toList)
    (free : Title.closesScope subject = false)
    (noTicket : p.hasTicket (listTitle type breaking subject scopes).text = false)
    (noTickets : ∀ scope ∈ scopes,
      p.hasTicket (listTitle type alone subject [scope]).text = false) (s r : σ) :
    let issues := (validate p source (listTitle type breaking subject scopes).text s).1.issues
    let issuesOf := fun scope =>
      (validate p source (listTitle type alone subject [scope]).text r).1.issues
    issues = about typeRules issues ++ about scopeRules issues ++ about subjectRules issues ∧
    about scopeRules issues = (scopes.flatMap fun scope => about scopeRules (issuesOf scope)) ∧
    ∀ scope ∈ scopes, about typeRules issues = about typeRules (issuesOf scope) ∧
      about subjectRules issues = about subjectRules (issuesOf scope) := by
  intro issues issuesOf
  let names := (source.load s).1.usable?
  have whole : issues = titleIssues p names (listTitle type breaking subject scopes) :=
    issues_of_title noTicket
      (parse_listTitle type_ne type_word listable subject_ne subject_line free)
  have part : ∀ scope ∈ scopes,
      issuesOf scope = titleIssues p names (listTitle type alone subject [scope]) := by
    intro scope mem
    have found := @issues_of_title p σ source _ r _ (noTickets scope mem)
      (parse_listTitle type_ne type_word (listable.singleton mem) subject_ne subject_line free)
    rwa [pure r s] at found
  refine ⟨?_, ?_, fun scope mem => ⟨?_, ?_⟩⟩
  · rw [whole]
    exact about_parts p names _
  · have each : ∀ scope ∈ scopes, about scopeRules (issuesOf scope) =
        scopeIssues p names (listTitle type alone subject [scope]) := fun scope mem => by
      rw [part scope mem, about_scopeRules_titleIssues]
    rw [whole, about_scopeRules_titleIssues, List.flatMap_congr each]
    exact scopeIssues_listTitle_eq_flatMap listable alone
  · rw [whole, part scope mem, about_typeRules_titleIssues, about_typeRules_titleIssues]
    rfl
  · rw [whole, part scope mem, about_subjectRules_titleIssues, about_subjectRules_titleIssues]
    rfl

/-- One scope is fixed, one begins with a known name in which there are parentheses, and two are
unknown. -/
theorem issues_listTitle_of_four :
    let p : Policy :=
      ⟨Policy.defaultTypes, Policy.defaultScopes, .one (.single '#'), Policy.defaultMarker⟩
    let source := NameSource.ofVocabulary (.ofList ["Gmail", "Notion (Beta)"])
    let issues := fun t : Title => (validate p source t.text ()).1.issues
    let scopes := ["core", "Notion (Beta) Node", "f(x): y", "Oura Node"]
    Scope.Listable scopes ∧ about scopeRules (issues (listTitle "feat" true "Add f(x)" scopes)) =
      scopes.flatMap fun scope =>
        about scopeRules (issues (listTitle "feat" false "Add f(x)" [scope])) := by
  intro p source issues scopes
  have listable : Scope.Listable scopes := by
    constructor <;> decide
  have judged := @issues_listTitle Unit p source (NameSource.isPure_always _) "feat" "Add f(x)"
    scopes true false (by decide) (List.all_eq_true.mp (by decide)) listable (by decide)
    (by decide) (by decide) (by decide) (by decide) () ()
  exact ⟨listable, judged.2.1⟩

end Validation

end TitleLint
