namespace TitleLint.EditDistance

/-- The least number of insertions, deletions and substitutions of characters between two texts. -/
def distance : List Char → List Char → Nat
  | [], ys => ys.length
  | _ :: xs, [] => xs.length + 1
  | x :: xs, y :: ys =>
    if x = y then min (distance xs ys) (min (distance xs (y :: ys) + 1) (distance (x :: xs) ys + 1))
    else min (distance xs ys + 1) (min (distance xs (y :: ys) + 1) (distance (x :: xs) ys + 1))
termination_by xs ys => xs.length + ys.length

/-- The distances from nothing to the ends of a text, the longest end first. -/
def emptyRow : List Char → List Nat
  | [] => [0]
  | _ :: ys => (ys.length + 1) :: emptyRow ys

/-- The distances from `x :: xs` to the ends of a text, given those from `xs`. -/
def nextRow (x : Char) : List Char → List Nat → List Nat
  | y :: ys, above :: row =>
    let rest := nextRow x ys row
    let kept := if x = y then row.headD 0 else row.headD 0 + 1
    min kept (min (above + 1) (rest.headD 0 + 1)) :: rest
  | _, row => [row.headD 0 + 1]

/-- The distances from a text to the ends of another. -/
def row : List Char → List Char → List Nat
  | [], ys => emptyRow ys
  | x :: xs, ys => nextRow x ys (row xs ys)

/-- The distance, from a table with one row for each end of the first text. -/
def between (s t : String) : Nat := (row s.toList t.toList).headD 0

theorem row_eq_cons (xs ys : List Char) :
    row xs ys = distance xs ys :: match ys with
      | [] => []
      | _ :: ys => row xs ys := by
  induction xs generalizing ys with
  | nil => cases ys <;> simp [row, emptyRow, distance]
  | cons x xs ih =>
    induction ys with
    | nil => simp [row, ih, nextRow, distance]; cases xs <;> simp [distance]
    | cons y ys ihy =>
      simp only [row] at ihy ⊢
      rw [ih (y :: ys)]
      simp only [nextRow]
      rw [ihy, ih ys]
      by_cases h : x = y <;> simp [distance, h]

theorem between_eq (s t : String) : between s t = distance s.toList t.toList := by
  rw [between, row_eq_cons]
  rfl

end TitleLint.EditDistance
