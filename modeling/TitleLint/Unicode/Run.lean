namespace TitleLint.Unicode

/-- A stretch of neighbouring characters that share a property. -/
structure Run (α : Type) where
  value : α
  length : Nat

def hexDigit? (c : Char) : Option Nat :=
  if '0' ≤ c ∧ c ≤ '9' then some (c.toNat - '0'.toNat)
  else if 'a' ≤ c ∧ c ≤ 'f' then some (c.toNat - 'a'.toNat + 10)
  else none

namespace Run

/-- Reads runs of the form "letter, length", the length being one where it is left out. -/
def readFrom {α : Type} (value : Char → α) (current : α) (length : Option Nat) :
    List Char → List (Run α)
  | [] => [⟨current, length.getD 1⟩]
  | c :: cs =>
    match hexDigit? c with
    | some d => readFrom value current (some (length.getD 0 * 16 + d)) cs
    | none => ⟨current, length.getD 1⟩ :: readFrom value (value c) none cs

def read {α : Type} (value : Char → α) : List Char → List (Run α)
  | [] => []
  | c :: cs => readFrom value (value c) none cs

/-- The value of the run that covers a position. -/
def at? {α : Type} : List (Run α) → Nat → Option α
  | [], _ => none
  | r :: rs, n => if n < r.length then some r.value else at? rs (n - r.length)

end Run

/-- Reads numbers in hexadecimal, separated by spaces. -/
def readNumbers (n : Nat) : List Char → List Nat
  | [] => [n]
  | c :: cs =>
    match hexDigit? c with
    | some d => readNumbers (n * 16 + d) cs
    | none => n :: readNumbers 0 cs

/-- Whether a position lies in a set that is given by the lengths of the gaps and blocks that
alternate, a gap first. -/
def inBlocks : List Nat → Nat → Bool
  | [], _ => false
  | [gap], n => gap ≤ n
  | gap :: block :: rest, n =>
    if n < gap then false else if n - gap < block then true else inBlocks rest (n - gap - block)

end TitleLint.Unicode
