import TitleLint.Vocabulary

namespace TitleLint.Vocabulary

theorem closestIn_mem (needle best : String) (distance : Nat) (names : List String) :
    closestIn needle best distance names ∈ best :: names := by
  induction names generalizing best distance with
  | nil => simp [closestIn]
  | cons name names ih =>
    simp only [closestIn]
    split
    next => exact List.mem_cons_of_mem best (ih name _)
    next =>
      rcases List.mem_cons.mp (ih best distance) with eq | mem
      · simp [eq]
      · exact List.mem_cons_of_mem best (List.mem_cons_of_mem name mem)

theorem mem_of_closest? {v : Vocabulary} {needle closest : String}
    (h : v.closest? needle = some closest) : closest ∈ v.names := by
  unfold closest? at h
  split at h
  next => simp at h
  next name names hv =>
    obtain rfl := Option.some.inj h
    rw [hv]
    exact closestIn_mem needle name _ names

theorem exists_closest? {v : Vocabulary} (h : v.names ≠ []) (needle : String) :
    ∃ closest, v.closest? needle = some closest := by
  cases hv : v.names with
  | nil => exact absurd hv h
  | cons name names => exact ⟨_, by rw [closest?, hv]⟩

end TitleLint.Vocabulary
