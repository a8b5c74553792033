import Mathlib.Data.List.Basic
import TitleLint.Unicode.CaseFolding

namespace TitleLint.Unicode

theorem mem_of_mem_readGroups {group cs g : List Char} {c : Char} (hg : g ∈ readGroups group cs)
    (hc : c ∈ g) : c ∈ group ∨ c ∈ cs ∧ c ≠ ' ' := by
  induction cs generalizing group with
  | nil =>
    obtain rfl := List.mem_singleton.mp hg
    exact .inl (List.mem_reverse.mp hc)
  | cons d cs ih =>
    simp only [readGroups] at hg
    split at hg
    next =>
      rcases List.mem_cons.mp hg with rfl | later
      · exact .inl (List.mem_reverse.mp hc)
      · have mem := (ih later).resolve_left List.not_mem_nil
        exact .inr ⟨List.mem_cons_of_mem d mem.1, mem.2⟩
    next visible =>
      rcases ih hg with mem | mem
      · rcases List.mem_cons.mp mem with rfl | mem
        · exact .inr ⟨List.mem_cons_self, visible⟩
        · exact .inl mem
      · exact .inr ⟨List.mem_cons_of_mem d mem.1, mem.2⟩

theorem all_join {P : Char → Bool} {parts : List String}
    (h : ∀ part ∈ parts, part.toList.all P = true) : (String.join parts).toList.all P = true := by
  simpa [String.toList_join] using h

/-- A text that is given by its characters. -/
theorem all_ofList {P : Char → Bool} {cs : List Char} (h : cs.all P = true) :
    (String.ofList cs).toList.all P = true := by
  rwa [String.toList_ofList]

set_option maxRecDepth 20000 in
theorem caseTable_not_ascii :
    (caseTable.toList.all fun c => c == ' ' || decide (128 ≤ c.toNat)) = true := by
  refine all_join ?_
  repeat
    first
    | exact List.forall_mem_nil _
    | refine List.forall_mem_cons.mpr ⟨all_ofList (by decide +kernel), ?_⟩

theorem not_ascii_of_mem_caseGroups {g : List Char} (hg : g ∈ caseGroups) {c : Char}
    (hc : c ∈ g) : 128 ≤ c.toNat := by
  obtain ⟨mem, visible⟩ := (mem_of_mem_readGroups hg hc).resolve_left List.not_mem_nil
  simpa [visible] using List.all_eq_true.mp caseTable_not_ascii c mem

/-- Of the other characters only the Kelvin sign and the long s fold with an ASCII character. -/
theorem ascii_of_mem_caseVariants {c d : Char} (h : d ∈ caseVariants c) (ascii : d.toNat < 128) :
    c.toNat < 128 ∨ c = '\u212a' ∨ c = '\u017f' := by
  by_contra other
  obtain ⟨beyond, kelvin, longS⟩ : 128 ≤ c.toNat ∧ c ≠ '\u212a' ∧ c ≠ '\u017f' := by
    simpa [not_or] using other
  have apart (l : Char) (hl : l.toNat < 128) : c ≠ l := by
    rintro rfl
    omega
  have above (l : Char) (hl : l.toNat < 128) : ¬ c ≤ l := by
    intro le
    have bound : c.toNat ≤ l.toNat := le
    omega
  rw [caseVariants, if_neg (by simp [apart, kelvin]), if_neg (by simp [apart, longS]),
    if_neg (mt And.right (above 'z' (by decide))), if_neg (mt And.right (above 'Z' (by decide))),
    if_neg (by omega)] at h
  cases found : caseGroups.find? (·.contains c) with
  | none =>
    rw [found, Option.getD_none, List.mem_singleton] at h
    exact apart d ascii h.symm
  | some g =>
    rw [found, Option.getD_some] at h
    have beyond := not_ascii_of_mem_caseGroups (List.mem_of_find?_eq_some found) h
    omega

end TitleLint.Unicode
