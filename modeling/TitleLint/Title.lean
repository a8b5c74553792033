import TitleLint.Unicode.Property

namespace TitleLint

/-- A title of the form `type(scope)!: subject`. The parts in parentheses and the mark are optional,
and an empty scope counts as none. -/
structure Title where
  type : String
  scope : Option String
  breaking : Bool
  subject : String
  deriving DecidableEq, Repr

namespace Title

/-- What follows the type and the scope: an optional `!`, then `: ` and a subject on one line. -/
def subject? : List Char → Option (Bool × List Char)
  | '!' :: ':' :: ' ' :: s => if '\n' ∈ s then none else some (true, s)
  | ':' :: ' ' :: s => if '\n' ∈ s then none else some (false, s)
  | _ => none

/-- The longest scope that is closed before a subject, with the mark and the subject after it. -/
def scope? : List Char → Option (List Char × Bool × List Char)
  | [] => none
  | c :: cs =>
    if c = '\n' then none
    else
      match scope? cs with
      | some (s, rest) => some (c :: s, rest)
      | none => if c = ')' then (subject? cs).map fun rest => ([], rest) else none

/-- The slots after the type. -/
def slots? : List Char → Option (List Char × Bool × List Char)
  | '(' :: cs => scope? cs
  | cs => (subject? cs).map fun rest => ([], rest)

/-- Reads a title; one without a type or a subject is not a title. -/
def parse (s : String) : Option Title :=
  let cs := s.toList
  let type := cs.takeWhile Unicode.isWord
  match slots? (cs.dropWhile Unicode.isWord) with
  | some (scope, breaking, subject) =>
    if type.isEmpty ∨ subject.isEmpty then none
    else
      some
        { type := String.ofList type
          scope := if scope.isEmpty then none else some (String.ofList scope)
          breaking
          subject := String.ofList subject }
  | none => none

end Title

end TitleLint
