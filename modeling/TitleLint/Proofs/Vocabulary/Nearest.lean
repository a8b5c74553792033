import TitleLint.Proofs.EditDistance.Edits
import TitleLint.Proofs.Vocabulary.Closest
import TitleLint.Proofs.Vocabulary.Members

namespace TitleLint.Vocabulary

open EditDistance Text

/-- A name is nearer to `needle` than another one, or as near and not behind it in byte order. -/
def Precedes (needle name other : String) : Prop :=
  between needle name < between needle other ∨
    between needle name = between needle other ∧ (name = other ∨ byteLt name other = true)

structure IsNearest (v : Vocabulary) (needle name : String) : Prop where
  known : name ∈ v.names
  first : ∀ other ∈ v.names, Precedes needle name other

section

variable {v : Vocabulary} {needle name other third : String}

theorem Precedes.refl (needle name : String) : Precedes needle name name :=
  .inr ⟨rfl, .inl rfl⟩

theorem Precedes.trans (h : Precedes needle name other) (h' : Precedes needle other third) :
    Precedes needle name third := by
  rcases h with lt | ⟨eq, before⟩ <;> rcases h' with lt' | ⟨eq', before'⟩
  · exact .inl (by omega)
  · exact .inl (by omega)
  · exact .inl (by omega)
  · refine .inr ⟨by omega, ?_⟩
    rcases before with rfl | before
    · exact before'
    · rcases before' with rfl | before'
      · exact .inr before
      · exact .inr (byteLt_trans before before')

theorem Precedes.antisymm (h : Precedes needle name other) (h' : Precedes needle other name) :
    name = other := by
  rcases h with lt | ⟨eq, before⟩ <;> rcases h' with lt' | ⟨eq', before'⟩
  · omega
  · omega
  · omega
  · rcases before with rfl | before
    · rfl
    · rcases before' with rfl | before'
      · rfl
      · exact absurd (byteLt_trans before before') (by simp [byteLt_irrefl])

theorem closestIn_precedes {best : String} {names : List String}
    (sorted : (best :: names).Pairwise fun a b => byteLt a b = true) :
    ∀ other ∈ best :: names,
      Precedes needle (closestIn needle best (between needle best) names) other := by
  -- What is carried along is the best name among those already passed, and it stands before all
  -- that are still to come.
  induction names generalizing best with
  | nil =>
    intro other mem
    obtain rfl := List.mem_singleton.mp mem
    exact .refl needle other
  | cons name names ih =>
    obtain ⟨ahead, rest⟩ := List.pairwise_cons.mp sorted
    simp only [closestIn]
    split
    next nearer =>
      intro other mem
      rcases List.mem_cons.mp mem with rfl | mem
      · exact (ih rest name List.mem_cons_self).trans (.inl nearer)
      · exact ih rest other mem
    next far =>
      have skipped : (best :: names).Pairwise fun a b => byteLt a b = true :=
        sorted.sublist ((List.sublist_cons_self name names).cons_cons best)
      have kept := ih skipped
      have before : Precedes needle best name := by
        rcases Nat.lt_or_eq_of_le (Nat.le_of_not_lt far) with lt | eq
        · exact .inl lt
        · exact .inr ⟨eq, .inr (ahead name List.mem_cons_self)⟩
      intro other mem
      rcases List.mem_cons.mp mem with rfl | mem
      · exact kept _ List.mem_cons_self
      rcases List.mem_cons.mp mem with rfl | mem
      · exact (kept best List.mem_cons_self).trans before
      · exact kept other (List.mem_cons_of_mem best mem)

theorem IsNearest.unique (h : IsNearest v needle name) (h' : IsNearest v needle other) :
    name = other :=
  (h.first other h'.known).antisymm (h'.first name h.known)

theorem isNearest_of_closest? (h : v.closest? needle = some name) : IsNearest v needle name := by
  have known := mem_of_closest? h
  unfold closest? at h
  split at h
  next => simp at h
  next first names hv =>
    obtain rfl := Option.some.inj h
    have sorted := v.sorted
    rw [hv] at sorted
    refine ⟨known, ?_⟩
    rw [hv]
    exact closestIn_precedes sorted

theorem closest?_eq_some_iff : v.closest? needle = some name ↔ IsNearest v needle name := by
  constructor
  · exact isNearest_of_closest?
  · intro nearest
    obtain ⟨found, eq⟩ := exists_closest? (List.ne_nil_of_mem nearest.known) needle
    rw [eq, (isNearest_of_closest? eq).unique nearest]

theorem closest?_eq_none_iff : v.closest? needle = none ↔ v.names = [] := by
  unfold closest?
  split
  next hv => simp [hv]
  next hv => simp [hv]

theorem isNearest_self (known : needle ∈ v.names) : IsNearest v needle needle := by
  have here : between needle needle = 0 := Nat.le_zero.mp (between_le (.none needle.toList))
  refine ⟨known, fun other _ => ?_⟩
  by_cases away : between needle other = 0
  · obtain rfl := eq_of_between_eq_zero away
    exact .refl needle needle
  · exact .inl (by omega)

end

/-- The closest name is one that fewest edits lead to, and the first of those in byte order. There
is none only where there are no names, a known name is closest to itself, and it makes no
difference how the names came in. -/
theorem closest?_of_fewest_edits (v : Vocabulary) (needle : String) :
    (∀ s t : String, IsLeast {n | Edits n s.toList t.toList} (between s t)) ∧
    (v.closest? needle = none ↔ v.names = []) ∧
    (∀ name, v.closest? needle = some name ↔ IsNearest v needle name) ∧
    (needle ∈ v.names → v.closest? needle = some needle) ∧
    ∀ names : List String, (∀ n, n ∈ v.names ↔ n ∈ names ∧ n ≠ "") →
      (ofList names).closest? needle = v.closest? needle := by
  refine ⟨isLeast_between, closest?_eq_none_iff, fun _ => closest?_eq_some_iff,
    fun known => closest?_eq_some_iff.mpr (isNearest_self known), fun names same => ?_⟩
  have eq : ofList names = v := eq_of_mem_iff fun n => by rw [mem_ofList, same]
  rw [eq]

/-- Both names are one substitution away. -/
example : (ofList ["Bb", "Ab"]).closest? "Cb" = some "Ab" := by decide

end TitleLint.Vocabulary
