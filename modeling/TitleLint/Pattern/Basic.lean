import TitleLint.Pattern.CharClass

namespace TitleLint

namespace Pattern

/-- Conditions on a place in a text, which consume nothing. -/
inductive Assertion where
  | textStart
  | textEnd
  | lineStart
  | lineEnd
  /-- Line starts and ends where a carriage return ends a line too. -/
  | anyLineStart
  | anyLineEnd
  | boundary
  | noBoundary
  | wordStart
  | wordEnd
  | halfStart
  | halfEnd
  deriving DecidableEq, Repr

/-- A place in a text: the character before it and the text after it. -/
structure Cursor where
  last : Option Char
  rest : List Char
  deriving DecidableEq, Repr

def Assertion.holds (isWord : Char → Bool) (a : Assertion) (p : Cursor) : Bool :=
  let left := p.last.any isWord
  let right := p.rest.head?.any isWord
  match a with
  | .textStart => p.last.isNone
  | .textEnd => p.rest.isEmpty
  | .lineStart => p.last.all (· == '\n')
  | .lineEnd => p.rest.head?.all (· == '\n')
  | .anyLineStart =>
    p.last.all (· == '\n') || (p.last == some '\r' && p.rest.head? != some '\n')
  | .anyLineEnd =>
    p.rest.head?.all (· == '\r') || (p.rest.head? == some '\n' && p.last != some '\r')
  | .boundary => left != right
  | .noBoundary => left == right
  | .wordStart => !left && right
  | .wordEnd => left && !right
  | .halfStart => !left
  | .halfEnd => !right

end Pattern

/-- A regular expression. Groups and the order of preference are gone: only whether a text matches
is ever asked. -/
inductive Pattern where
  | empty
  | one (cls : Pattern.CharClass)
  | place (wordChars : Pattern.CharClass) (a : Pattern.Assertion)
  | append (p q : Pattern)
  | either (p q : Pattern)
  | repeated (p : Pattern) (least : Nat) (most : Option Nat)
  deriving Repr

namespace Pattern

/-- Places without repetitions; two places in one text are the same if as much text follows them. -/
def distinct : List Cursor → List Cursor
  | [] => []
  | p :: ps =>
    let others := distinct ps
    if others.any fun q => q.rest.length == p.rest.length then others else p :: others

/-- Follows every place by one more step. -/
def advance (step : Cursor → List Cursor) (ps : List Cursor) : List Cursor :=
  distinct (ps.flatMap step)

def times (step : Cursor → List Cursor) : Nat → List Cursor → List Cursor
  | 0, ps => ps
  | n + 1, ps => times step n (advance step ps)

/-- The places reached by at most `n` steps. -/
def upTo (step : Cursor → List Cursor) : Nat → List Cursor → List Cursor
  | 0, ps => ps
  | n + 1, ps => distinct (ps ++ upTo step n (advance step ps))

/-- The places at which a match that begins at a given place can end. More steps than there are
characters left reach no further place. -/
def ends : Pattern → Cursor → List Cursor
  | empty, p => [p]
  | one cls, ⟨_, rest⟩ =>
    match rest with
    | [] => []
    | c :: cs => if cls.mem c then [⟨some c, cs⟩] else []
  | place wordChars a, p => if a.holds wordChars.mem p then [p] else []
  | append p q, s => distinct ((p.ends s).flatMap q.ends)
  | either p q, s => distinct (p.ends s ++ q.ends s)
  | repeated p least most, s =>
    let bound := s.rest.length + 1
    let more := match most with
      | some most => min (most - least) bound
      | none => bound
    upTo p.ends more (times p.ends (min least bound) [s])

/-- Whether a match begins at the place or after it. -/
def matchesFrom (p : Pattern) (last : Option Char) : List Char → Bool
  | [] => !(p.ends ⟨last, []⟩).isEmpty
  | c :: cs => !(p.ends ⟨last, c :: cs⟩).isEmpty || matchesFrom p (some c) cs

def isMatch (p : Pattern) (s : String) : Bool := matchesFrom p none s.toList

end Pattern

end TitleLint
