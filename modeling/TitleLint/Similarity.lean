/-!
How alike two words are, by the letters that they share in nearly the same places.
-/

namespace TitleLint.Similarity

/-- The first free place of a letter in a word, not farther from a place than a bound. -/
def partner? (range place : Nat) (taken : List Nat) (c : Char) (word : List Char) : Option Nat :=
  (word.zipIdx.find? fun (d, j) =>
    d == c && place ≤ j + range && j ≤ place + range && !taken.contains j).map (·.2)

/-- The letters of a word that have a partner in another, and the places of their partners. -/
def partners (range : Nat) (word : List Char) : Nat → List Nat → List Char → List (Char × Nat)
  | _, _, [] => []
  | i, taken, c :: cs =>
    match partner? range i taken c word with
    | some j => (c, j) :: partners range word (i + 1) (j :: taken) cs
    | none => partners range word (i + 1) taken cs

/-- Whether two words are alike: the mean of the shares of letters with a partner in each of them,
and of the letters among these that are in order, is at least seven tenths. -/
def areAlike (s t : String) : Bool :=
  let a := s.toList
  let b := t.toList
  let range := max a.length b.length / 2 - 1
  let found := partners range b 0 [] a
  let places := found.map (·.2)
  let partnersOfB := (b.zipIdx.filter fun (_, j) => places.contains j).map (·.1)
  let matched := found.length
  let swapped := ((found.map (·.1)).zip partnersOfB |>.filter fun (c, d) => c != d).length / 2
  let shares := matched * matched * (a.length + b.length) + (matched - swapped) * a.length * b.length
  0 < matched && 21 * (a.length * b.length * matched) ≤ 10 * shares

end TitleLint.Similarity
