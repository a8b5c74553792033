import Mathlib.Logic.Relation
import TitleLint.Source.Tree

namespace TitleLint.Source.Tree

/-- What a wrapper holds first; nothing else has a layer to take off. -/
def peel? (t : Tree) : Option Tree := if t.kind.isWrapper then t.parts.head? else none

/-- Layers of the first are taken off one after another, and the second is left. -/
def PeelsTo : Tree → Tree → Prop := Relation.ReflTransGen fun s t => s.peel? = some t

/-- No layer of what is left can be taken off. -/
structure UnwrapsTo (t inner : Tree) : Prop where
  reached : t.PeelsTo inner
  bare : inner.peel? = none

@[simp]
theorem parts_leaf (kind : Kind) (text : String) : (leaf kind text).parts = [] := rfl

theorem mem_children_of_mem_parts {s t : Tree} (h : s ∈ t.parts) : ∃ role, (role, s) ∈ t.children := by
  obtain ⟨child, _⟩ := List.mem_filter.mp h
  obtain ⟨⟨role, _⟩, mem, rfl⟩ := List.mem_map.mp child
  exact ⟨role, mem⟩

theorem sizeOf_lt_of_mem_parts {s t : Tree} (h : s ∈ t.parts) : sizeOf s < sizeOf t := by
  obtain ⟨role, mem⟩ := mem_children_of_mem_parts h
  cases t with
  | leaf => simp [children] at mem
  | node kind children =>
    have below : sizeOf (role, s) < sizeOf children := List.sizeOf_lt_of_mem mem
    simp only [Prod.mk.sizeOf_spec, node.sizeOf_spec] at below ⊢
    omega

theorem unwrapFirst?_eq (children : List (Option Role × Tree)) :
    unwrapFirst? children = ((children.map (·.2)).filter (!·.isComment)).head?.map unwrap := by
  induction children with
  | nil => simp [unwrapFirst?]
  | cons child others ih =>
    obtain ⟨role, t⟩ := child
    cases comment : t.isComment <;> simp [unwrapFirst?, comment, ih]

section

variable {s t inner : Tree}

theorem peel?_eq_some_iff : t.peel? = some s ↔ t.kind.isWrapper = true ∧ t.parts.head? = some s := by
  simp [peel?, Option.ite_none_right_eq_some]

theorem unwrap_of_peel? (h : t.peel? = some s) : t.unwrap = s.unwrap := by
  obtain ⟨wrapper, first⟩ := peel?_eq_some_iff.mp h
  cases t with
  | leaf => simp at first
  | node kind children =>
    have inside : unwrapFirst? children = some s.unwrap := by
      rw [unwrapFirst?_eq]
      exact Option.map_eq_some_iff.mpr ⟨s, first, rfl⟩
    have isWrapper : kind.isWrapper = true := wrapper
    simp [unwrap, isWrapper, inside]

theorem unwrap_of_bare (h : t.peel? = none) : t.unwrap = t := by
  cases t with
  | leaf => simp [unwrap]
  | node kind children =>
    by_cases wrapper : kind.isWrapper = true
    · have empty : (node kind children).parts.head? = none := by
        simpa [peel?, Tree.kind, wrapper] using h
      have nothing : unwrapFirst? children = none := by
        rw [unwrapFirst?_eq]
        exact Option.map_eq_none_iff.mpr empty
      simp [unwrap, nothing]
    · simp [unwrap, wrapper]

theorem sizeOf_lt_of_peel? (h : t.peel? = some s) : sizeOf s < sizeOf t :=
  sizeOf_lt_of_mem_parts (List.mem_of_mem_head? (peel?_eq_some_iff.mp h).2)

end

/-- However deep an expression is wrapped, taking off its layers comes to an end. -/
theorem unwrapsTo_unwrap (t : Tree) : t.UnwrapsTo t.unwrap := by
  cases layer : t.peel? with
  | none =>
    rw [unwrap_of_bare layer]
    exact ⟨.refl, layer⟩
  | some s =>
    have smaller := sizeOf_lt_of_peel? layer
    have inside := unwrapsTo_unwrap s
    rw [unwrap_of_peel? layer]
    exact ⟨.head layer inside.reached, inside.bare⟩
termination_by sizeOf t

section

variable {s t inner : Tree}

/-- Only a wrapper with nothing in it can be left as a wrapper. -/
theorem isWrapper_unwrap_of_filled
    (filled : ∀ s, t.PeelsTo s → s.kind.isWrapper = true → s.parts ≠ []) :
    t.unwrap.kind.isWrapper = false := by
  obtain ⟨reached, bare⟩ := unwrapsTo_unwrap t
  cases wrapper : t.unwrap.kind.isWrapper with
  | false => rfl
  | true =>
    have first : t.unwrap.parts.head? = none := by simpa [peel?, wrapper] using bare
    exact absurd (List.head?_eq_none_iff.mp first) (filled t.unwrap reached wrapper)

end

end TitleLint.Source.Tree
