import Mathlib.Data.List.Induction
import TitleLint.Proofs.Vocabulary.Members

namespace TitleLint.Vocabulary

open Text

/-- What can be done to a vocabulary. Names that are collected take the place of those before. -/
inductive Change where
  | insert (name : String)
  | extend (names : List String)
  | merge (other : Vocabulary)
  | collect (names : List String)

namespace Change

def apply (v : Vocabulary) : Change → Vocabulary
  | insert name => v.insert name
  | extend names => v.extend names
  | merge other => v.merge other
  | collect names => ofList names

def supplied : Change → List String
  | insert name => [name]
  | extend names => names
  | merge other => other.names
  | collect names => names

def isCollect : Change → Bool
  | collect _ => true
  | _ => false

end Change

/-- The vocabulary after some changes to the empty one. -/
def after (history : List Change) : Vocabulary := history.foldl Change.apply .empty

/-- A change brought the name, and no later one collected others in its place. -/
def Supplied (history : List Change) (name : String) : Prop :=
  ∃ before change later, history = before ++ change :: later ∧ name ∈ change.supplied ∧
    ∀ c ∈ later, c.isCollect = false

section

variable {history : List Change} {change : Change} {v w u : Vocabulary} {name n : String}

theorem after_concat (history : List Change) (change : Change) :
    after (history ++ [change]) = change.apply (after history) := by
  simp [after]

theorem not_supplied_nil (name : String) : ¬ Supplied [] name := by
  rintro ⟨before, change, later, eq, _⟩
  simp at eq

theorem supplied_concat_iff : Supplied (history ++ [change]) name ↔
    name ∈ change.supplied ∨ change.isCollect = false ∧ Supplied history name := by
  constructor
  · rintro ⟨before, c, later, eq, brought, kept⟩
    cases later using List.reverseRecOn with
    | nil =>
      obtain ⟨_, last⟩ := List.append_inj' eq rfl
      obtain rfl := (List.cons_eq_cons.mp last).1
      exact .inl brought
    | append_singleton later last =>
      rw [← List.cons_append, ← List.append_assoc] at eq
      obtain ⟨rfl, same⟩ := List.append_inj' eq rfl
      obtain rfl := (List.cons_eq_cons.mp same).1
      exact .inr ⟨kept change (by simp), before, c, later, rfl, brought,
        fun d mem => kept d (by simp [mem])⟩
  · rintro (brought | ⟨kept, before, c, later, rfl, brought, kept'⟩)
    · exact ⟨history, change, [], rfl, brought, by simp⟩
    · refine ⟨before, c, later ++ [change], by simp, brought, fun d mem => ?_⟩
      rcases List.mem_append.mp mem with mem | mem
      · exact kept' d mem
      · obtain rfl := List.mem_singleton.mp mem
        exact kept

theorem names_insert (filled : name ≠ "") : (v.insert name).names = place name v.names := by
  simp [insert, filled]

theorem names_extend {names : List String} (filled : "" ∉ names) :
    (v.extend names).names = names.foldl (fun names name => place name names) v.names := by
  induction names generalizing v with
  | nil => rfl
  | cons name names ih =>
    have first : name ≠ "" := by
      rintro rfl
      exact filled List.mem_cons_self
    have later := @ih (v.insert name) fun mem => filled (List.mem_cons_of_mem name mem)
    rw [names_insert first] at later
    exact later

theorem mem_apply : n ∈ (change.apply v).names ↔
    n ≠ "" ∧ (n ∈ change.supplied ∨ change.isCollect = false ∧ n ∈ v.names) := by
  have filled : ∀ u : Vocabulary, n ∈ u.names → n ≠ "" := by
    rintro u mem rfl
    exact u.nonempty mem
  cases change with
  | insert name =>
    have := filled v
    simp only [Change.apply, Change.supplied, Change.isCollect, mem_insert, List.mem_singleton]
    grind
  | extend names =>
    have := filled v
    simp only [Change.apply, Change.supplied, Change.isCollect, mem_extend]
    grind
  | merge other =>
    have := filled v
    have := filled other
    simp only [Change.apply, Change.supplied, Change.isCollect, mem_merge]
    grind
  | collect names =>
    simp only [Change.apply, Change.supplied, Change.isCollect, mem_ofList]
    grind

/-- A vocabulary holds what was supplied to it. -/
theorem mem_after_iff : n ∈ (after history).names ↔ n ≠ "" ∧ Supplied history n := by
  induction history using List.reverseRecOn with
  | nil => simp [after, Vocabulary.empty, not_supplied_nil]
  | append_singleton history change ih =>
    rw [after_concat, mem_apply, supplied_concat_iff, ih]
    grind

theorem length_place {names : List String} (new : name ∉ names) :
    (place name names).length = names.length + 1 := by
  induction names with
  | nil => rfl
  | cons m names ih => grind [place]

theorem isNew_iff : v.isNew name = true ↔ name ≠ "" ∧ name ∉ v.names := by
  simp [isNew, contains]

theorem insert_of_not_new (old : v.isNew name = false) : v.insert name = v := by
  refine eq_of_mem_iff fun n => ?_
  have there : name ≠ "" → name ∈ v.names := by
    simpa [isNew, contains] using old
  rw [mem_insert]
  grind

theorem size_insert_of_new (new : v.isNew name = true) : (v.insert name).size = v.size + 1 := by
  obtain ⟨filled, absent⟩ := isNew_iff.mp new
  rw [size, names_insert filled, length_place absent, size]

theorem isNew_iff_size_insert : v.isNew name = true ↔ (v.insert name).size = v.size + 1 := by
  constructor
  · exact size_insert_of_new
  · intro grown
    by_contra old
    rw [insert_of_not_new (by simpa using old)] at grown
    omega

/-- The names of another vocabulary are taken over without a look at whether they are empty. -/
theorem names_merge (v w : Vocabulary) :
    (v.merge w).names = w.names.foldl (fun names name => place name names) v.names :=
  names_extend w.nonempty

theorem merge_comm (v w : Vocabulary) : v.merge w = w.merge v :=
  eq_of_mem_iff fun n => by rw [mem_merge, mem_merge, or_comm]

theorem merge_assoc (v w u : Vocabulary) : (v.merge w).merge u = v.merge (w.merge u) :=
  eq_of_mem_iff fun n => by simp only [mem_merge, or_assoc]

theorem merge_self (v : Vocabulary) : v.merge v = v :=
  eq_of_mem_iff fun n => by rw [mem_merge, or_self]

end

/-- Whatever is done to a vocabulary, its names are in byte order, none is empty or comes twice, and
they are those that were supplied since names were last collected. So two vocabularies that were
supplied with the same names are the same. -/
theorem after_holds_supplied (history : List Change) :
    let v := after history
    (v.names.Pairwise fun a b => byteLt a b = true) ∧ "" ∉ v.names ∧
    (∀ n, v.contains n = true ↔ n ≠ "" ∧ Supplied history n) ∧
    (∀ n, (v.isNew n = true ↔ (v.insert n).size = v.size + 1) ∧
      (v.isNew n = false → v.insert n = v)) ∧
    (v.isEmpty = true ↔ v.size = 0) ∧
    (∀ other, (∀ n, n ≠ "" → (Supplied other n ↔ Supplied history n)) → after other = v) ∧
    ∀ w u : Vocabulary, v.merge w = w.merge v ∧ (v.merge w).merge u = v.merge (w.merge u) ∧
      v.merge v = v ∧
      (v.merge w).names = w.names.foldl (fun names name => place name names) v.names := by
  intro v
  refine ⟨v.sorted, v.nonempty, fun n => ?_, fun n => ⟨isNew_iff_size_insert, insert_of_not_new⟩,
    ?_, fun other same => ?_, fun w u => ⟨merge_comm v w, merge_assoc v w u, merge_self v,
      names_merge v w⟩⟩
  · rw [contains, List.contains_iff_mem, mem_after_iff]
  · rw [isEmpty, size, List.isEmpty_iff, List.length_eq_zero_iff]
  · refine eq_of_mem_iff fun n => ?_
    rw [mem_after_iff, mem_after_iff]
    exact and_congr_right (same n)

end TitleLint.Vocabulary
