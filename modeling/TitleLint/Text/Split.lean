namespace TitleLint.Text

/-- Whether `part` stands somewhere in `s`; the empty part stands everywhere. -/
def occurs (part : List Char) : List Char → Bool
  | [] => part.isEmpty
  | c :: cs => part.isPrefixOf (c :: cs) || occurs part cs

/-- What follows `head` in `s`, if `s` begins with it. -/
def after? (head s : List Char) : Option (List Char) :=
  if head.isPrefixOf s then some (s.drop head.length) else none

/-- What precedes `tail` in `s`, if `s` ends with it. -/
def before? (tail s : List Char) : Option (List Char) :=
  if tail.isSuffixOf s then some (s.take (s.length - tail.length)) else none

/-- The text up to the first occurrence of `mark`, or all of it. -/
def upTo (mark : List Char) : List Char → List Char
  | [] => []
  | c :: cs => if mark.isPrefixOf (c :: cs) then [] else c :: upTo mark cs

/-- Puts a character in front of the first piece. -/
def growFirst (c : Char) : List (List Char) → List (List Char)
  | [] => [[c]]
  | piece :: pieces => (c :: piece) :: pieces

/-- The pieces between separators, where `skip` characters of a separator are still to be passed. -/
def splitFrom (sep : List Char) : Nat → List Char → List (List Char)
  | _, [] => [[]]
  | skip + 1, _ :: cs => splitFrom sep skip cs
  | 0, c :: cs =>
    if sep.isPrefixOf (c :: cs) then [] :: splitFrom sep (sep.length - 1) cs
    else growFirst c (splitFrom sep 0 cs)

/-- The pieces between the occurrences of `sep`, which are taken from the left and do not overlap. -/
def splitOn (sep s : List Char) : List (List Char) := splitFrom sep 0 s

theorem occurs_iff {part s : List Char} : occurs part s = true ↔ part <:+: s := by
  induction s with
  | nil => simp [occurs]
  | cons c cs ih =>
    simp only [occurs, Bool.or_eq_true, List.isPrefixOf_iff_prefix, ih, List.infix_cons_iff]

theorem after?_eq_some_iff {head s rest : List Char} :
    after? head s = some rest ↔ s = head ++ rest := by
  unfold after?
  constructor
  · intro h
    split at h
    next hp =>
      obtain ⟨t, rfl⟩ := List.isPrefixOf_iff_prefix.mp hp
      simpa [eq_comm] using h
    next => simp at h
  · rintro rfl
    simp

theorem before?_eq_some_iff {tail s front : List Char} :
    before? tail s = some front ↔ s = front ++ tail := by
  unfold before?
  constructor
  · intro h
    split at h
    next hs =>
      obtain ⟨t, rfl⟩ := List.isSuffixOf_iff_suffix.mp hs
      simpa [eq_comm] using h
    next => simp at h
  · rintro rfl
    simp

theorem splitFrom_ne_nil (sep : List Char) (skip : Nat) (s : List Char) :
    splitFrom sep skip s ≠ [] := by
  induction s generalizing skip with
  | nil => simp [splitFrom]
  | cons c cs ih =>
    cases skip with
    | succ n => simpa [splitFrom] using ih n
    | zero =>
      simp only [splitFrom]
      split
      · simp
      · cases h : splitFrom sep 0 cs with
        | nil => exact absurd h (ih 0)
        | cons p ps => simp [growFirst]

end TitleLint.Text
