import TitleLint.Glob.Basic
import TitleLint.Proofs.Text.Bytes

namespace TitleLint.Glob

open Text

section

variable {r s : List UInt8} {ss : List (List UInt8)} {withinName : Bool}

theorem mem_of_mem_distinct (h : r ∈ distinct ss) : r ∈ ss := by
  induction ss with
  | nil => exact h
  | cons s ss ih =>
    simp only [distinct] at h
    split at h
    next => exact List.mem_cons_of_mem s (ih h)
    next =>
      obtain rfl | later := List.mem_cons.mp h
      · exact List.mem_cons_self
      · exact List.mem_cons_of_mem s (ih later)

theorem exists_of_mem_distinct_flatMap {f : List UInt8 → List (List UInt8)}
    (h : r ∈ distinct (ss.flatMap f)) : ∃ s ∈ ss, r ∈ f s :=
  List.mem_flatMap.mp (mem_of_mem_distinct h)

theorem suffix_of_mem_tails (h : r ∈ tails s) : r <:+ s := by
  induction s with
  | nil =>
    obtain rfl := List.mem_singleton.mp h
    exact List.suffix_refl []
  | cons b bs ih =>
    obtain rfl | later := List.mem_cons.mp h
    · exact List.suffix_refl _
    · exact (ih later).trans (List.suffix_cons b bs)

theorem suffix_of_mem_afterSlashes (h : r ∈ afterSlashes s) : slash :: r <:+ s := by
  induction s with
  | nil => cases h
  | cons b bs ih =>
    have inside (later : r ∈ afterSlashes bs) : slash :: r <:+ b :: bs :=
      (ih later).trans (List.suffix_cons b bs)
    simp only [afterSlashes] at h
    split at h
    next here =>
      subst here
      obtain rfl | later := List.mem_cons.mp h
      · exact List.suffix_refl _
      · exact inside later
    next => exact inside h

theorem eq_of_mem_rest_literal {c : Char} (h : r ∈ Token.rest withinName s (.literal c)) :
    s = utf8 c ++ r := by
  simp only [Token.rest] at h
  split at h
  next start =>
    obtain ⟨rest, rfl⟩ := List.isPrefixOf_iff_prefix.mp start
    obtain rfl : r = rest := by simpa using h
    rfl
  next => cases h

/-- Literals stand for themselves. -/
theorem mem_restOf_literals {cs : List Char} (h : r ∈ restOf withinName ss (cs.map .literal)) :
    ∃ s ∈ ss, s = bytes (String.ofList cs) ++ r := by
  induction cs generalizing ss with
  | nil => exact ⟨r, h, rfl⟩
  | cons c cs ih =>
    obtain ⟨s', left, rfl⟩ := ih h
    obtain ⟨s, mem, rest⟩ := exists_of_mem_distinct_flatMap left
    have first : utf8 c = String.utf8EncodeChar c := by simp [utf8, bytes_eq]
    refine ⟨s, mem, ?_⟩
    rw [eq_of_mem_rest_literal rest, first, bytes_ofList, bytes_ofList, List.flatMap_cons,
      List.append_assoc]

theorem mem_rest_leadingStars (h : r ∈ Token.rest withinName s .leadingStars) :
    r = s ∨ slash :: r <:+ s := by
  obtain rfl | after := List.mem_cons.mp (mem_of_mem_distinct h)
  · exact .inl rfl
  · exact .inr (suffix_of_mem_afterSlashes after)

theorem suffix_of_mem_rest_leadingStars (h : r ∈ Token.rest withinName s .leadingStars) :
    r <:+ s := by
  obtain rfl | after := mem_rest_leadingStars h
  · exact List.suffix_refl r
  · exact (List.suffix_cons slash r).trans after

end

section

variable {s : List UInt8} {cs : List Char}

/-- Literals behind stars for directories match whole names, at any depth. -/
theorem ends_of_leadingStars (ne : cs ≠ [])
    (h : matchesBytes ⟨.leadingStars :: cs.map .literal, false⟩ s = true) :
    s = bytes (String.ofList cs) ∨ slash :: bytes (String.ofList cs) <:+ s := by
  obtain ⟨c, cs, rfl⟩ := List.exists_cons_of_ne_nil ne
  simp only [matchesBytes, List.map_cons, List.any_eq_true, List.isEmpty_iff] at h
  obtain ⟨_, left, rfl⟩ := h
  obtain ⟨name, mem, eq⟩ := @mem_restOf_literals _ _ _ (c :: cs) left
  obtain ⟨_, whole, rest⟩ := exists_of_mem_distinct_flatMap mem
  obtain rfl := List.mem_singleton.mp whole
  rw [List.append_nil] at eq
  rw [← eq]
  exact (mem_rest_leadingStars rest).imp Eq.symm id

theorem ends_of_star (h : matchesBytes ⟨.leadingStars :: .star :: cs.map .literal, false⟩ s = true) :
    bytes (String.ofList cs) <:+ s := by
  simp only [matchesBytes, List.any_eq_true, List.isEmpty_iff] at h
  obtain ⟨_, left, rfl⟩ := h
  obtain ⟨name, mem, eq⟩ := mem_restOf_literals left
  obtain ⟨below, mem, tail⟩ := exists_of_mem_distinct_flatMap mem
  obtain ⟨_, whole, rest⟩ := exists_of_mem_distinct_flatMap mem
  obtain rfl := List.mem_singleton.mp whole
  rw [List.append_nil] at eq
  rw [← eq]
  exact (suffix_of_mem_tails tail).trans (suffix_of_mem_rest_leadingStars rest)

end

end TitleLint.Glob
