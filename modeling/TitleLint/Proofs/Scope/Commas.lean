import Mathlib.Data.List.Basic
import TitleLint.Proofs.Scope.Pieces

namespace TitleLint.Scope

open Text

/-- A comma stands in the text, and what follows it is as `follows` says. -/
def CommaBefore (follows : List Char → Prop) (s : List Char) : Prop := ∃ before after,
  s = before ++ ',' :: after ∧ follows after

theorem commaBefore_cons {follows : List Char → Prop} {c : Char} {s : List Char} :
    CommaBefore follows (c :: s) ↔ c = ',' ∧ follows s ∨ CommaBefore follows s := by
  constructor
  · intro h
    obtain ⟨before, after, eq, ok⟩ := h
    cases before with
    | nil =>
      obtain ⟨rfl, rfl⟩ := List.cons.inj eq
      exact .inl ⟨rfl, ok⟩
    | cons b before => exact .inr ⟨before, after, (List.cons.inj eq).2, ok⟩
  · rintro (⟨rfl, ok⟩ | ⟨before, after, rfl, ok⟩)
    · exact ⟨[], s, rfl, ok⟩
    · exact ⟨c :: before, after, rfl, ok⟩

/-- A text goes on with something other than a space. -/
def Unspaced (s : List Char) : Prop := ∃ c rest, s = c :: rest ∧ c ≠ ' '

/-- A comma stands in a piece, but not where the last piece ends. -/
def InnerComma (parts : List (List Char)) : Prop := ∃ part rest, part :: rest <:+ parts ∧
  CommaBefore (fun after => after ≠ [] ∨ rest ≠ []) part

theorem not_innerComma_nil : ¬ InnerComma [[]] := by
  rintro ⟨part, rest, inside, before, after, rfl, _⟩
  simp [List.suffix_cons_iff] at inside

theorem innerComma_cons {part : List Char} {parts : List (List Char)} :
    InnerComma (part :: parts) ↔
      CommaBefore (fun after => after ≠ [] ∨ parts ≠ []) part ∨ InnerComma parts := by
  constructor
  · intro h
    obtain ⟨first, rest, inside, comma⟩ := h
    rcases List.suffix_cons_iff.mp inside with eq | inside
    · obtain ⟨rfl, rfl⟩ := List.cons.inj eq
      exact .inl comma
    · exact .inr ⟨first, rest, inside, comma⟩
  · rintro (comma | ⟨first, rest, inside, comma⟩)
    · exact ⟨part, parts, List.suffix_refl _, comma⟩
    · exact ⟨first, rest, inside.trans (List.suffix_cons part parts), comma⟩

theorem innerComma_nil_cons {parts : List (List Char)} :
    InnerComma ([] :: parts) ↔ InnerComma parts := by
  have none : ¬ CommaBefore (fun after => after ≠ [] ∨ parts ≠ []) [] := by
    rintro ⟨before, after, eq, _⟩
    simp at eq
  rw [innerComma_cons, or_iff_right none]

theorem innerComma_growFirst {c : Char} {part : List Char} {parts : List (List Char)} :
    InnerComma (growFirst c (part :: parts)) ↔
      c = ',' ∧ (part ≠ [] ∨ parts ≠ []) ∨ InnerComma (part :: parts) := by
  rw [growFirst, innerComma_cons, commaBefore_cons, or_assoc, ← innerComma_cons]

/-- Splitting takes exactly those commas out of a text that are followed by a space. -/
theorem innerComma_splitOn_iff (s : List Char) :
    InnerComma (splitOn [',', ' '] s) ↔ CommaBefore Unspaced s := by
  have sep_ne : [',', ' '] ≠ [] := List.cons_ne_nil _ _
  induction s using split_induction sep_ne with
  | nil =>
    refine iff_of_false not_innerComma_nil ?_
    rintro ⟨before, after, eq, _⟩
    simp at eq
  | separator s ih =>
    have spaced : ¬ Unspaced (' ' :: s) := by
      rintro ⟨c, rest, eq, ne⟩
      exact ne (List.cons.inj eq).1.symm
    rw [splitOn_separator sep_ne, innerComma_nil_cons, List.cons_append, List.cons_append,
      List.nil_append, commaBefore_cons, commaBefore_cons]
    simpa [spaced] using ih
  | char c s start ih =>
    cases hs : splitOn [',', ' '] s with
    | nil => exact absurd hs (splitOn_ne_nil _ s)
    | cons part parts =>
      rw [splitOn_char start, hs, innerComma_growFirst, ← hs, commaBefore_cons]
      -- The pieces of the rest are one empty piece exactly if nothing is left to be split.
      have empty : part = [] ∧ parts = [] ↔ s = [] := by
        constructor
        · rintro ⟨rfl, rfl⟩
          rw [← intercalate_splitOn sep_ne s, hs, List.intercalate_singleton]
        · rintro rfl
          simpa [splitOn_nil, eq_comm] using hs
      have goes_on : c = ',' → ((part ≠ [] ∨ parts ≠ []) ↔ Unspaced s) := by
        rintro rfl
        rw [← not_and_or, empty]
        cases s with
        | nil => simp [Unspaced]
        | cons d s =>
          have unspaced : d ≠ ' ' := by
            rintro rfl
            exact start ⟨s, rfl⟩
          simp [Unspaced, unspaced]
      exact or_congr (and_congr_right goes_on) ih

/-- A comma stands directly in front of a character other than the space. -/
def UnspacedComma (scopes : String) : Prop := ∃ before c after,
  scopes.toList = before ++ ',' :: c :: after ∧ c ≠ ' '

/-- The only comma that can stand in a piece is the end of the whole list. -/
def FinalCommas (scopes : String) : Prop := ∀ piece rest, piece :: rest <:+ pieces scopes →
  ∀ before after, piece.toList = before ++ ',' :: after → after = [] ∧ rest = []

theorem unspacedComma_iff {scopes : String} :
    UnspacedComma scopes ↔ CommaBefore Unspaced scopes.toList := by
  constructor
  · rintro ⟨before, c, after, eq, ne⟩
    exact ⟨before, c :: after, eq, c, after, rfl, ne⟩
  · rintro ⟨before, _, eq, c, after, rfl, ne⟩
    exact ⟨before, c, after, eq, ne⟩

theorem UnspacedComma.of_tight {scopes : String} (h : TightComma scopes) :
    UnspacedComma scopes := by
  obtain ⟨before, c, after, eq, _, not_blank⟩ := h
  refine ⟨before, c, after, eq, ?_⟩
  rintro rfl
  exact absurd not_blank (by decide)

theorem finalCommas_iff {scopes : String} : FinalCommas scopes ↔ ¬ UnspacedComma scopes := by
  rw [unspacedComma_iff, ← innerComma_splitOn_iff]
  constructor
  · rintro final ⟨part, rest, inside, before, after, rfl, more⟩
    have ends := final (String.ofList (before ++ ',' :: after)) (rest.map String.ofList)
      (inside.map String.ofList) before after String.toList_ofList
    simp_all
  · intro free piece rest inside before after eq
    by_contra more
    refine free ⟨piece.toList, rest.map String.toList, ?_, before, after, eq, ?_⟩
    · simpa [pieces, Function.comp_def] using inside.map String.toList
    · simpa using not_and_or.mp more

theorem piece_infix {scopes piece : String} (mem : piece ∈ pieces scopes) :
    piece.toList <:+: scopes.toList := by
  obtain ⟨part, inside, rfl⟩ := List.mem_map.mp mem
  rw [String.toList_ofList]
  have whole := intercalate_splitOn (List.cons_ne_nil ',' [' ']) scopes.toList
  exact whole ▸ infix_intercalate inside

/-- Without a tight comma, a comma in the middle of a piece is followed by another one or by a
blank that is not the space. -/
theorem after_comma_of_loose {scopes piece : String} (loose : ¬ TightComma scopes)
    (mem : piece ∈ pieces scopes) {before after : List Char} {c : Char}
    (eq : piece.toList = before ++ ',' :: c :: after) :
    c = ',' ∨ Unicode.isSpace c = true ∧ c ≠ ' ' := by
  have single := (pieces_eq_iff.mp rfl).single piece mem
  have unspaced : c ≠ ' ' := by
    rintro rfl
    exact single ⟨before, after, by simp [eq]⟩
  by_contra odd
  obtain ⟨not_comma, not_blank⟩ : c ≠ ',' ∧ Unicode.isSpace c = false := by
    simpa [unspaced] using odd
  obtain ⟨front, rest, whole⟩ := piece_infix mem
  exact loose ⟨front ++ before, c, after ++ rest, by simp [← whole, eq], not_comma, not_blank⟩

end TitleLint.Scope
