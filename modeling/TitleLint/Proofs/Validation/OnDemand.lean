import Mathlib.Algebra.GroupWithZero.Nat
import TitleLint.Proofs.Validation.Verdict

namespace TitleLint

/-- The state of a source that was loaded a number of times. -/
def NameSource.after {σ : Type} (source : NameSource σ) : Nat → σ → σ
  | 0, s => s
  | k + 1, s => source.after k (source.load s).2

theorem NameSource.after_add {σ : Type} (source : NameSource σ) (j k : Nat) (s : σ) :
    source.after (j + k) s = source.after k (source.after j s) := by
  induction j generalizing s with
  | zero => simp [after]
  | succ j ih =>
    rw [Nat.succ_add]
    exact ih (source.load s).2

namespace Validation

/-- A title whose check cannot do without the names: it has no ticket number, it can be read, its
scopes are well separated, and one of them names a node and is not fixed. -/
def AsksForNames (p : Policy) (title : String) : Prop :=
  p.hasTicket title = false ∧ ∃ t scopes pieces, Title.parse title = some t ∧
    t.scope = some scopes ∧ ¬ Scope.TightComma scopes ∧ Scope.ListsPieces scopes pieces ∧
    ∃ piece ∈ pieces, " Node".toList <:+ piece.toList ∧ piece ∉ p.scopes

section

variable {p : Policy} {title : String} {t : Title}

theorem mem_judgedScopes_iff {piece : String} :
    piece ∈ judgedScopes t ↔ ∃ scopes pieces, t.scope = some scopes ∧
      ¬ Scope.TightComma scopes ∧ Scope.ListsPieces scopes pieces ∧ piece ∈ pieces := by
  cases hs : t.scope with
  | none => simp [judgedScopes, hs]
  | some scopes =>
    cases tight : Scope.hasTightComma scopes with
    | true =>
      have malformed := Scope.hasTightComma_iff.mp tight
      simp [judgedScopes, hs, tight, malformed]
    | false =>
      have loose : ¬ Scope.TightComma scopes := by rw [← Scope.hasTightComma_iff, tight]; simp
      simp [judgedScopes, hs, tight, loose, ← Scope.pieces_eq_iff]

theorem asksForNames_iff (noTicket : p.hasTicket title = false)
    (parsed : Title.parse title = some t) :
    AsksForNames p title ↔ (judgedScopes t).any (needsNames p) = true := by
  rw [List.any_eq_true]
  constructor
  · intro asks
    obtain ⟨_, t', scopes, pieces, parsed', hs, loose, listed, piece, mem, node, free⟩ := asks
    obtain rfl := Option.some.inj (parsed.symm.trans parsed')
    exact ⟨piece, mem_judgedScopes_iff.mpr ⟨scopes, pieces, hs, loose, listed, mem⟩,
      needsNames_iff.mpr ⟨node, free⟩⟩
  · intro asked
    obtain ⟨piece, judged, needed⟩ := asked
    obtain ⟨scopes, pieces, hs, loose, listed, mem⟩ := mem_judgedScopes_iff.mp judged
    exact ⟨noTicket, t, scopes, pieces, parsed, hs, loose, listed, piece, mem,
      needsNames_iff.mp needed⟩

theorem AsksForNames.exists_title (h : AsksForNames p title) : p.hasTicket title = false ∧
    ∃ t, Title.parse title = some t ∧ (judgedScopes t).any (needsNames p) = true := by
  obtain ⟨noTicket, t, _, _, parsed, _⟩ := id h
  exact ⟨noTicket, t, parsed, (asksForNames_iff noTicket parsed).mp h⟩

/-- A check that does not ask for the names leaves the source alone and does not depend on it. -/
theorem validate_of_not_asks (h : ¬ AsksForNames p title) :
    ∃ found : Findings, found.loads = 0 ∧ found.warnings = [] ∧
      ∀ (σ : Type) (source : NameSource σ) (s : σ), validate p source title s = (found, s) := by
  -- A ticket number, a text that is no title, or scopes that can be judged without the names.
  cases ticket : p.hasTicket title with
  | true => exact ⟨{ issues := [.of p .ticketNumberPresent] }, rfl, rfl, by simp [validate, ticket]⟩
  | false =>
    cases parsed : Title.parse title with
    | none =>
      exact ⟨{ issues := [.of p .schemaMismatch] }, rfl, rfl, by simp [validate, ticket, parsed]⟩
    | some t =>
      have idle : (judgedScopes t).any (needsNames p) = false := by
        rwa [asksForNames_iff ticket parsed, Bool.not_eq_true] at h
      exact ⟨{ issues := titleIssues p none t }, rfl, rfl,
        fun _ _ _ => validate_of_not_asked ticket parsed idle⟩

end

section

variable {p : Policy} {σ : Type} {source : NameSource σ} {title : String} {s : σ}

theorem loads_of_asks (h : AsksForNames p title) :
    (validate p source title s).1.loads = 1 ∧
      (validate p source title s).2 = (source.load s).2 := by
  obtain ⟨noTicket, t, parsed, asked⟩ := h.exists_title
  rw [validate_of_asked noTicket parsed asked]
  exact ⟨rfl, rfl⟩

theorem loads_of_not_asks (h : ¬ AsksForNames p title) :
    (validate p source title s).1.loads = 0 ∧ (validate p source title s).2 = s := by
  obtain ⟨found, idle, _, eq⟩ := validate_of_not_asks h
  rw [eq]
  exact ⟨idle, rfl⟩

theorem loads_eq_one_iff :
    (validate p source title s).1.loads = 1 ↔ AsksForNames p title := by
  constructor
  · intro once
    by_contra h
    simp [(@loads_of_not_asks p σ source title s h).1] at once
  · exact fun h => (loads_of_asks h).1

theorem loads_le_one : (validate p source title s).1.loads ≤ 1 := by
  by_cases h : AsksForNames p title
  · exact Nat.le_of_eq (loads_of_asks h).1
  · rw [(loads_of_not_asks h).1]
    exact Nat.zero_le 1

/-- What a check counts is how often the source was in fact loaded. -/
theorem state_of_validate :
    (validate p source title s).2 = source.after (validate p source title s).1.loads s := by
  by_cases h : AsksForNames p title
  · rw [(loads_of_asks h).1, (loads_of_asks h).2]
    rfl
  · rw [(loads_of_not_asks h).1, (loads_of_not_asks h).2]
    rfl

/-- A check finds what it would find if its one loading were all that there is. -/
theorem findings_eq_always :
    (validate p source title s).1 = (validate p (.always (source.load s).1) title ()).1 := by
  by_cases h : AsksForNames p title
  · obtain ⟨noTicket, t, parsed, asked⟩ := h.exists_title
    rw [validate_of_asked noTicket parsed asked, validate_of_asked noTicket parsed asked]
    rfl
  · obtain ⟨found, _, _, eq⟩ := validate_of_not_asks h
    rw [eq, eq]

end

/-- How often the source was loaded in several checks. -/
def totalLoads (found : List Findings) : Nat := (found.map Findings.loads).sum

section

variable {p : Policy} {σ : Type} {source : NameSource σ}

theorem validateAll_append (before later : List String) (s : σ) :
    validateAll p source (before ++ later) s =
      ((validateAll p source before s).1 ++
          (validateAll p source later (validateAll p source before s).2).1,
        (validateAll p source later (validateAll p source before s).2).2) := by
  induction before generalizing s with
  | nil => rfl
  | cons title before ih => simp only [List.cons_append, validateAll, ih]

theorem state_of_validateAll (titles : List String) (s : σ) :
    (validateAll p source titles s).2 =
      source.after (totalLoads (validateAll p source titles s).1) s := by
  induction titles generalizing s with
  | nil => rfl
  | cons title titles ih =>
    simp only [validateAll, totalLoads, List.map_cons, List.sum_cons]
    rw [ih, source.after_add, ← state_of_validate]
    rfl

end

/-- In a sequence of checks each one loads the names at most once, and exactly once if it cannot do
without them. All it finds follows from its title and that one loading, whatever the checks before
it have found, and from its title alone if it loads nothing. -/
theorem validateAll_loads_on_demand {σ : Type} (p : Policy) (source : NameSource σ)
    (before : List String) (title : String) (later : List String) (s : σ) :
    let earlier := validateAll p source before s
    let call := validate p source title earlier.2
    let rest := validateAll p source later call.2
    let loading := (source.load earlier.2).1
    validateAll p source (before ++ title :: later) s = (earlier.1 ++ call.1 :: rest.1, rest.2) ∧
      earlier.2 = source.after (totalLoads earlier.1) s ∧
      call.2 = source.after call.1.loads earlier.2 ∧
      call.1.loads ≤ 1 ∧ (call.1.loads = 1 ↔ AsksForNames p title) ∧
      Verdict p loading title call.1.issues ∧
      call.1 = (validate p (.always loading) title ()).1 ∧
      (AsksForNames p title ∨ ∀ l, call.1 = (validate p (.always l) title ()).1) := by
  intro earlier call rest loading
  refine ⟨validateAll_append before (title :: later) s, state_of_validateAll before s,
    state_of_validate, loads_le_one, loads_eq_one_iff, issues_eq_iff.mp rfl, findings_eq_always, ?_⟩
  by_cases h : AsksForNames p title
  · exact .inl h
  · right
    -- The same findings come from every source, so from one that always yields `l`.
    intro l
    obtain ⟨found, _, _, eq⟩ := validate_of_not_asks h
    simp only [call, eq]

end Validation

end TitleLint
