import Mathlib.Data.List.Sort
import TitleLint.Vocabulary

namespace TitleLint.Vocabulary

open Text

instance : Std.Irrefl fun a b => byteLt a b = true := ⟨fun a => by simp [byteLt_irrefl]⟩

instance : Std.Antisymm fun a b => byteLt a b = true where
  antisymm a b lt gt := absurd (byteLt_trans lt gt) (by simp [byteLt_irrefl])

/-- A vocabulary is the set of its names. -/
theorem eq_of_mem_iff {v w : Vocabulary} (same : ∀ n, n ∈ v.names ↔ n ∈ w.names) : v = w :=
  ext (v.sorted.eq_of_mem_iff w.sorted same)

theorem ofList_congr {names others : List String} (same : ∀ n, n ∈ names ↔ n ∈ others) :
    ofList names = ofList others :=
  eq_of_mem_iff fun n => by rw [mem_ofList, mem_ofList, same]

end TitleLint.Vocabulary
