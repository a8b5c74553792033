import Mathlib.Data.List.Infix

namespace TitleLint.Text

section

variable {part s front back : List Char} {c : Char}

theorem prefix_append_cons_iff : s <+: front ++ c :: back ↔
    s <+: front ∨ ∃ rest, s = front ++ c :: rest ∧ rest <+: back := by
  constructor
  · rintro ⟨after, eq⟩
    rcases List.append_eq_append_iff.mp eq with ⟨more, rfl, _⟩ | ⟨more, rfl, rest⟩
    · exact .inl (List.prefix_append s more)
    · cases more with
      | nil => exact .inl (by simp)
      | cons d more =>
        obtain ⟨rfl, rfl⟩ := List.cons.inj rest
        exact .inr ⟨more, rfl, List.prefix_append more after⟩
  · rintro (inside | ⟨rest, rfl, inside⟩)
    · exact inside.trans (List.prefix_append front _)
    · exact (List.prefix_append_right_inj front).mpr (List.cons_prefix_cons.mpr ⟨rfl, inside⟩)

/-- A part that does not begin with the first character stands behind it. -/
theorem suffix_cons_iff_of_head (other : part.head? ≠ some c) :
    part <:+ c :: s ↔ part <:+ s := by
  rw [List.suffix_cons_iff, or_iff_right]
  rintro rfl
  exact other rfl

theorem infix_cons_iff_of_head (ne : part ≠ []) (other : part.head? ≠ some c) :
    part <:+: c :: s ↔ part <:+: s := by
  rw [List.infix_cons_iff, or_iff_right]
  rintro ⟨after, eq⟩
  cases part with
  | nil => exact ne rfl
  | cons d part => exact other (congrArg some (List.cons.inj eq).1)

theorem suffix_append_cons_iff (free : c ∉ part) :
    part <:+ front ++ c :: back ↔ part <:+ back := by
  constructor
  · intro last
    rcases List.suffix_or_suffix_of_suffix last (List.suffix_append front (c :: back)) with h | h
    · rcases List.suffix_cons_iff.mp h with rfl | inside
      · simp at free
      · exact inside
    · exact absurd (h.subset List.mem_cons_self) free
  · exact fun last => last.trans ((List.suffix_cons c back).trans (List.suffix_append front _))

/-- A part that has none of a character cannot reach over it. -/
theorem infix_append_cons_iff (free : c ∉ part) :
    part <:+: front ++ c :: back ↔ part <:+: front ∨ part <:+: back := by
  simp only [List.infix_iff_suffix_prefix]
  constructor
  · rintro ⟨s, last, first⟩
    rcases prefix_append_cons_iff.mp first with inside | ⟨rest, rfl, inside⟩
    · exact .inl ⟨s, last, inside⟩
    · exact .inr ⟨rest, (suffix_append_cons_iff free).mp last, inside⟩
  · rintro (⟨s, last, first⟩ | ⟨s, last, first⟩)
    · exact ⟨s, last, prefix_append_cons_iff.mpr (.inl first)⟩
    · exact ⟨front ++ c :: s, (suffix_append_cons_iff free).mpr last,
        prefix_append_cons_iff.mpr (.inr ⟨s, rfl, first⟩)⟩

/-- A part that has a character only at its end stands before it, behind it, or ends there. -/
theorem infix_concat_iff (free : c ∉ part) : part ++ [c] <:+: front ++ c :: back ↔
    part ++ [c] <:+: front ∨ part <:+ front ∨ part ++ [c] <:+: back := by
  constructor
  · rintro ⟨before, after, eq⟩
    have first : (before ++ part) ++ [c] <+: front ++ c :: back := ⟨after, by simp [← eq]⟩
    rcases prefix_append_cons_iff.mp first with ⟨rest, rfl⟩ | ⟨rest, whole, inside⟩
    · exact .inl ⟨before, rest, by simp⟩
    · rcases List.eq_nil_or_concat rest with rfl | ⟨rest, d, rfl⟩
      · exact .inr (.inl ⟨before, List.append_cancel_right whole⟩)
      · rw [List.concat_eq_append, ← List.cons_append, ← List.append_assoc] at whole
        obtain ⟨eq, same⟩ := List.append_inj' whole rfl
        obtain rfl := List.singleton_inj.mp same
        have last : part <:+ front ++ c :: rest := ⟨before, eq⟩
        obtain ⟨more, rfl⟩ := (suffix_append_cons_iff free).mp last
        refine .inr (.inr (List.IsInfix.trans ⟨more, [], ?_⟩ inside.isInfix))
        simp
  · rintro (⟨before, after, rfl⟩ | ⟨before, rfl⟩ | ⟨before, after, rfl⟩)
    · exact ⟨before, after ++ c :: back, by simp⟩
    · exact ⟨before, back, by simp⟩
    · exact ⟨front ++ c :: before, after, by simp⟩

end

end TitleLint.Text
