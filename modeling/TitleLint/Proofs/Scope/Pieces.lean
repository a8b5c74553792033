import TitleLint.Proofs.Text.Split
import TitleLint.Scope

namespace TitleLint.Scope

open Text

def startsTight : List Char → Bool
  | [] => false
  | c :: _ => !Unicode.isSpace c

theorem hasTightComma_eq (scopes : String) :
    hasTightComma scopes = ((splitOn [','] scopes.toList).drop 1).any startsTight := rfl

theorem drop_one_growFirst {c : Char} {parts : List (List Char)} (ne : parts ≠ []) :
    (growFirst c parts).drop 1 = parts.drop 1 := by
  cases parts with
  | nil => exact absurd rfl ne
  | cons part parts => rfl

theorem any_splitOn_comma (s : List Char) :
    (splitOn [','] s).any startsTight = true ↔
      (∃ c after, s = c :: after ∧ c ≠ ',' ∧ Unicode.isSpace c = false) ∨
        ((splitOn [','] s).drop 1).any startsTight = true := by
  cases s with
  | nil => simp [splitOn_nil, startsTight]
  | cons c s =>
    by_cases comma : c = ','
    · simp [comma, splitOn_cons_self, startsTight]
    · rw [splitOn_cons_of_ne comma]
      cases hs : splitOn [','] s with
      | nil => exact absurd hs (splitOn_ne_nil _ s)
      | cons part parts => simp [growFirst, startsTight, comma]

theorem any_drop_one_splitOn_comma (s : List Char) :
    ((splitOn [','] s).drop 1).any startsTight = true ↔ ∃ before c after,
      s = before ++ ',' :: c :: after ∧ c ≠ ',' ∧ Unicode.isSpace c = false := by
  -- Without its first piece a list loses a comma, so what is shown for the rest of a text is about
  -- all of its pieces after a comma, and about all but the first after any other character.
  induction s with
  | nil => simp [splitOn_nil]
  | cons d s ih =>
    by_cases comma : d = ','
    · rw [comma, splitOn_cons_self, List.drop_succ_cons, List.drop_zero, any_splitOn_comma, ih]
      constructor
      · intro h
        rcases h with ⟨c, after, rfl, tight⟩ | ⟨before, c, after, rfl, tight⟩
        · exact ⟨[], c, after, rfl, tight⟩
        · exact ⟨',' :: before, c, after, rfl, tight⟩
      · intro h
        obtain ⟨before, c, after, eq, tight⟩ := h
        cases before with
        | nil => exact .inl ⟨c, after, (List.cons.inj eq).2, tight⟩
        | cons b before => exact .inr ⟨before, c, after, (List.cons.inj eq).2, tight⟩
    · rw [splitOn_cons_of_ne comma, drop_one_growFirst (splitOn_ne_nil _ s), ih]
      constructor
      · intro h
        obtain ⟨before, c, after, rfl, tight⟩ := h
        exact ⟨d :: before, c, after, rfl, tight⟩
      · intro h
        obtain ⟨before, c, after, eq, tight⟩ := h
        cases before with
        | nil => exact absurd (List.cons.inj eq).1 comma
        | cons b before => exact ⟨before, c, after, (List.cons.inj eq).2, tight⟩

/-- A comma stands directly in front of a character that is neither blank nor a comma. -/
def TightComma (scopes : String) : Prop := ∃ before c after,
  scopes.toList = before ++ ',' :: c :: after ∧ c ≠ ',' ∧ Unicode.isSpace c = false

theorem hasTightComma_iff {scopes : String} : hasTightComma scopes = true ↔ TightComma scopes := by
  rw [hasTightComma_eq, any_drop_one_splitOn_comma]
  rfl

/-- A list of scopes is put together from pieces, none of which could be taken for a list. -/
structure ListsPieces (scopes : String) (pieces : List String) : Prop where
  nonempty : pieces ≠ []
  joined : ", ".intercalate pieces = scopes
  single : ∀ piece ∈ pieces, ¬ ", ".toList <:+: piece.toList

theorem pieces_eq_iff {scopes : String} {parts : List String} :
    pieces scopes = parts ↔ ListsPieces scopes parts := by
  have once : ',' ∉ [' '] := by decide
  have onChars : pieces scopes = parts ↔
      splitOn [',', ' '] scopes.toList = parts.map String.toList := by
    constructor
    · rintro rfl
      simp [pieces, Function.comp_def]
    · intro h
      simp [pieces, h, Function.comp_def]
  rw [onChars, splitOn_eq_iff once]
  constructor
  · intro h
    obtain ⟨nonempty, joined, single⟩ := h
    refine ⟨by simpa using nonempty, ?_, by simpa using single⟩
    rw [← String.toList_inj, String.toList_intercalate]
    exact joined
  · intro h
    obtain ⟨nonempty, rfl, single⟩ := h
    refine ⟨by simpa using nonempty, ?_, by simpa using single⟩
    rw [String.toList_intercalate]
    rfl

theorem hasTightComma_of_no_comma {scopes : String} (h : ',' ∉ scopes.toList) :
    hasTightComma scopes = false := by
  rw [Bool.eq_false_iff, ne_eq, hasTightComma_iff]
  intro tight
  obtain ⟨before, c, after, eq, _⟩ := tight
  simp [eq] at h

theorem pieces_of_no_comma {scopes : String} (h : ',' ∉ scopes.toList) :
    pieces scopes = [scopes] := by
  refine pieces_eq_iff.mpr ⟨List.cons_ne_nil scopes [], String.intercalate_singleton, ?_⟩
  intro piece mem occurs
  obtain rfl := List.mem_singleton.mp mem
  exact h (occurs.subset (by decide))

end TitleLint.Scope
