import TitleLint.File.Path

namespace TitleLint.File.Path

open Text

section

variable {a b c : String} {as bs cs : List String}

theorem namesLt_cons_iff :
    namesLt (a :: as) (b :: bs) = true ↔ byteLt a b = true ∨ a = b ∧ namesLt as bs = true := by
  simp [namesLt]

theorem namesLt_irrefl (as : List String) : namesLt as as = false := by
  induction as with
  | nil => rfl
  | cons a as ih => simp [namesLt, byteLt_irrefl, ih]

theorem namesLt_trans (h : namesLt as bs = true) (h' : namesLt bs cs = true) :
    namesLt as cs = true := by
  induction as generalizing bs cs with
  | nil =>
    cases cs with
    | nil => cases bs <;> cases h'
    | cons => rfl
  | cons a as ih =>
    cases bs with
    | nil => cases h
    | cons b bs =>
      cases cs with
      | nil => cases h'
      | cons c cs =>
        rw [namesLt_cons_iff] at h h' ⊢
        obtain less | ⟨rfl, rest⟩ := h
        · obtain less' | ⟨rfl, -⟩ := h'
          · exact .inl (byteLt_trans less less')
          · exact .inl less
        · obtain less' | ⟨rfl, rest'⟩ := h'
          · exact .inl less'
          · exact .inr ⟨rfl, ih rest rest'⟩

theorem namesLt_or_eq_or (as bs : List String) :
    namesLt as bs = true ∨ as = bs ∨ namesLt bs as = true := by
  induction as generalizing bs with
  | nil =>
    cases bs with
    | nil => exact .inr (.inl rfl)
    | cons => exact .inl rfl
  | cons a as ih =>
    cases bs with
    | nil => exact .inr (.inr rfl)
    | cons b bs =>
      rw [namesLt_cons_iff, namesLt_cons_iff]
      cases less : byteLt a b with
      | true => exact .inl (.inl rfl)
      | false =>
        cases greater : byteLt b a with
        | true => exact .inr (.inr (.inl rfl))
        | false =>
          obtain rfl := eq_of_not_byteLt less greater
          obtain rest | rfl | rest := ih bs
          · exact .inl (.inr ⟨rfl, rest⟩)
          · exact .inr (.inl rfl)
          · exact .inr (.inr (.inr ⟨rfl, rest⟩))

/-- What does not come after another does not come after what that does not come after. -/
theorem not_namesLt_trans (h : namesLt bs as = false) (h' : namesLt cs bs = false) :
    namesLt cs as = false := by
  cases after : namesLt cs as with
  | false => rfl
  | true =>
    obtain less | rfl | greater := namesLt_or_eq_or as bs
    · rw [namesLt_trans after less] at h'
      cases h'
    · rw [after] at h'
      cases h'
    · rw [greater] at h
      cases h

theorem namesLt_asymm (h : namesLt as bs = true) : namesLt bs as = false := by
  cases other : namesLt bs as with
  | false => rfl
  | true =>
    have self := namesLt_trans h other
    rw [namesLt_irrefl] at self
    cases self

end

end TitleLint.File.Path
