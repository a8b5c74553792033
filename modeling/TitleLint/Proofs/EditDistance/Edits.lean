import Mathlib.Order.Bounds.Basic
import TitleLint.EditDistance

namespace TitleLint.EditDistance

/-- One character is inserted, deleted or substituted somewhere in a text. -/
inductive Edit : List Char → List Char → Prop
  | insert (front back : List Char) (c : Char) : Edit (front ++ back) (front ++ c :: back)
  | delete (front back : List Char) (c : Char) : Edit (front ++ c :: back) (front ++ back)
  | substitute (front back : List Char) (c d : Char) :
      Edit (front ++ c :: back) (front ++ d :: back)

/-- A number of edits one after another. -/
inductive Edits : Nat → List Char → List Char → Prop
  | none (xs : List Char) : Edits 0 xs xs
  | next {n : Nat} {xs ys zs : List Char} : Edit xs ys → Edits n ys zs → Edits (n + 1) xs zs

section

variable {xs ys zs : List Char} {m n : Nat}

theorem Edit.cons (c : Char) (h : Edit xs ys) : Edit (c :: xs) (c :: ys) := by
  cases h with
  | insert front back d => exact .insert (c :: front) back d
  | delete front back d => exact .delete (c :: front) back d
  | substitute front back d e => exact .substitute (c :: front) back d e

theorem Edits.cons (c : Char) (h : Edits n xs ys) : Edits n (c :: xs) (c :: ys) := by
  induction h with
  | none xs => exact .none (c :: xs)
  | next first _ ih => exact .next (first.cons c) ih

theorem Edits.min (hm : Edits m xs ys) (hn : Edits n xs ys) : Edits (min m n) xs ys := by
  rcases Nat.le_total m n with le | le
  · rwa [Nat.min_eq_left le]
  · rwa [Nat.min_eq_right le]

theorem edits_from_nil (ys : List Char) : Edits ys.length [] ys := by
  induction ys with
  | nil => exact .none []
  | cons y ys ih => exact .next (.insert [] [] y) (ih.cons y)

theorem edits_to_nil (xs : List Char) : Edits xs.length xs [] := by
  induction xs with
  | nil => exact .none []
  | cons x xs ih => exact .next (.delete [] xs x) ih

theorem edits_distance (xs ys : List Char) : Edits (distance xs ys) xs ys := by
  fun_induction distance xs ys with
  | case1 ys => exact edits_from_nil ys
  | case2 x xs => exact edits_to_nil (x :: xs)
  | case3 xs x ys kept deleted inserted =>
    have delete := Edits.next (.delete [] xs x) deleted
    have insert := Edits.next (.insert [] (x :: xs) x) (inserted.cons x)
    exact (kept.cons x).min (delete.min insert)
  | case4 x xs y ys _ substituted deleted inserted =>
    have substitute := Edits.next (.substitute [] xs x y) (substituted.cons y)
    have delete := Edits.next (.delete [] xs x) deleted
    have insert := Edits.next (.insert [] (x :: xs) y) (inserted.cons y)
    exact substitute.min (delete.min insert)

theorem distance_nil (xs : List Char) : distance xs [] = xs.length := by
  cases xs <;> simp [distance]

/-- The head is kept or substituted, it is deleted, or another is inserted before it. -/
theorem distance_cons_cons (x : Char) (xs : List Char) (y : Char) (ys : List Char) :
    distance (x :: xs) (y :: ys) = min (distance xs ys + if x = y then 0 else 1)
      (min (distance xs (y :: ys) + 1) (distance (x :: xs) ys + 1)) := by
  rw [distance]
  split <;> rfl

theorem distance_cons_le (x : Char) (xs ys : List Char) :
    distance (x :: xs) ys ≤ distance xs ys + 1 := by
  cases ys with
  | nil => simp [distance_nil]
  | cons y ys =>
    rw [distance_cons_cons]
    omega

theorem distance_le_cons_right (xs : List Char) (y : Char) (ys : List Char) :
    distance xs (y :: ys) ≤ distance xs ys + 1 := by
  cases xs with
  | nil => simp [distance]
  | cons x xs =>
    rw [distance_cons_cons]
    omega

theorem distance_le_cons (x : Char) (xs ys : List Char) :
    distance xs ys ≤ distance (x :: xs) ys + 1 := by
  induction ys with
  | nil => simp only [distance_nil, List.length_cons]; omega
  | cons y ys ih =>
    have inserted := distance_le_cons_right xs y ys
    rw [distance_cons_cons]
    split <;> omega

theorem distance_substitute_le (x z : Char) (xs ys : List Char) :
    distance (x :: xs) ys ≤ distance (z :: xs) ys + 1 := by
  induction ys with
  | nil => simp [distance_nil]
  | cons y ys ih =>
    rw [distance_cons_cons, distance_cons_cons]
    split <;> split <;> omega

theorem distance_cons_congr (c : Char) (h : ∀ ys, distance xs ys ≤ distance zs ys + 1)
    (ys : List Char) : distance (c :: xs) ys ≤ distance (c :: zs) ys + 1 := by
  induction ys with
  | nil =>
    have tails := h []
    simp only [distance_nil, List.length_cons] at tails ⊢
    omega
  | cons y ys ih =>
    have kept := h ys
    have deleted := h (y :: ys)
    rw [distance_cons_cons, distance_cons_cons]
    split <;> omega

/-- An edit brings a text nearer to another by one at most. -/
theorem Edit.distance_le (h : Edit xs zs) (ys : List Char) :
    distance xs ys ≤ distance zs ys + 1 := by
  -- An edit stands behind a common beginning, and each character of that leaves the bound as it is.
  cases h with
  | insert front back c =>
    induction front generalizing ys with
    | nil => exact distance_le_cons c back ys
    | cons d front ih => exact distance_cons_congr d ih ys
  | delete front back c =>
    induction front generalizing ys with
    | nil => exact distance_cons_le c back ys
    | cons d front ih => exact distance_cons_congr d ih ys
  | substitute front back c d =>
    induction front generalizing ys with
    | nil => exact distance_substitute_le c d back ys
    | cons e front ih => exact distance_cons_congr e ih ys

theorem distance_self (xs : List Char) : distance xs xs = 0 := by
  induction xs with
  | nil => exact distance_nil []
  | cons x xs ih =>
    rw [distance_cons_cons, if_pos rfl, ih]
    exact Nat.zero_min _

theorem Edits.distance_le (h : Edits n xs ys) : distance xs ys ≤ n := by
  induction h with
  | none xs => exact (distance_self xs).le
  | @next n xs ys zs first _ ih =>
    have nearer := first.distance_le zs
    omega

theorem Edits.eq_of_zero (h : Edits 0 xs ys) : xs = ys := by
  cases h
  rfl

theorem Edits.length_le (h : Edits n xs ys) : ys.length ≤ xs.length + n := by
  induction h with
  | none xs => exact Nat.le_refl _
  | @next n xs ys zs first _ ih =>
    have longer : ys.length ≤ xs.length + 1 := by
      cases first <;> simp only [List.length_append, List.length_cons] <;> omega
    omega

theorem isLeast_distance (xs ys : List Char) : IsLeast {n | Edits n xs ys} (distance xs ys) :=
  ⟨edits_distance xs ys, fun _ edits => edits.distance_le⟩

end

section

variable {s t : String} {n : Nat}

theorem isLeast_between (s t : String) :
    IsLeast {n | Edits n s.toList t.toList} (between s t) := by
  rw [between_eq]
  exact isLeast_distance s.toList t.toList

theorem eq_of_between_eq_zero (h : between s t = 0) : s = t := by
  have edits := (isLeast_between s t).1
  rw [h] at edits
  exact String.toList_inj.mp edits.eq_of_zero

theorem one_le_between (ne : s ≠ t) : 1 ≤ between s t :=
  Nat.one_le_iff_ne_zero.mpr fun eq => ne (eq_of_between_eq_zero eq)

theorem between_le (h : Edits n s.toList t.toList) : between s t ≤ n :=
  (isLeast_between s t).2 h

end

end TitleLint.EditDistance
