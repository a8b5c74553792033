namespace TitleLint.Document

/-- The characters that a document may consist of. -/
def isAllowed (c : Char) : Bool :=
  let n := c.toNat
  c == '\t' || c == '\n' || c == '\r' || (0x20 ≤ n && n ≤ 0x7e) || n == 0x85 ||
    (0xa0 ≤ n && n ≤ 0xfffd) || 0x10000 ≤ n

def isBlank (c : Char) : Bool := c == ' ' || c == '\t'

def isBreak (c : Char) : Bool :=
  c == '\n' || c == '\r' || c == '\u0085' || c == '\u2028' || c == '\u2029'

def isNameChar (c : Char) : Bool := c.isAlphanum || c == '_' || c == '-'

/-- A place in a text. -/
structure Cursor where
  rest : List Char
  index : Nat := 0
  line : Nat := 0
  column : Nat := 0

namespace Cursor

/-- The character that stands some places ahead. -/
def ahead? (c : Cursor) (n : Nat) : Option Char := c.rest[n]?

def peek? (c : Cursor) : Option Char := c.rest.head?

def isAt (c : Cursor) (x : Char) : Bool := c.peek? == some x

def isAtEnd (c : Cursor) : Bool := c.rest.isEmpty

def isAtBlank (c : Cursor) : Bool := c.peek?.any isBlank

def isAtBreak (c : Cursor) : Bool := c.peek?.any isBreak

/-- Whether a line or the text ends some places ahead. -/
def endsLine (c : Cursor) (n : Nat) : Bool := (c.ahead? n).all isBreak

/-- Whether a blank stands some places ahead, or the line ends there. -/
def endsWord (c : Cursor) (n : Nat) : Bool := (c.ahead? n).all fun x => isBlank x || isBreak x

def skip (c : Cursor) : Cursor :=
  { c with rest := c.rest.drop 1, index := c.index + 1, column := c.column + 1 }

def skipMany (c : Cursor) : Nat → Cursor
  | 0 => c
  | n + 1 => c.skip.skipMany n

def skipLine (c : Cursor) : Cursor :=
  match c.rest with
  | '\r' :: '\n' :: rest => ⟨rest, c.index + 2, c.line + 1, 0⟩
  | _ :: rest => ⟨rest, c.index + 1, c.line + 1, 0⟩
  | [] => c

/-- What the end of a line stands for in a text: a line feed, unless it is of its own kind. -/
def lineEnd (c : Cursor) : List Char :=
  match c.peek? with
  | some '\u2028' => ['\u2028']
  | some '\u2029' => ['\u2029']
  | some _ => ['\n']
  | none => []

/-- Passes the characters of a kind. -/
def skipWhile (p : Char → Bool) (c : Cursor) : Cursor := c.skipMany (c.rest.takeWhile p).length

def skipComment (c : Cursor) : Cursor :=
  if c.isAt '#' then c.skipWhile fun x => !isBreak x else c

/-- Whether a mark of three characters stands at the beginning of a line. -/
def isAtMark (c : Cursor) (x : Char) : Bool :=
  c.column == 0 && c.rest.take 3 == [x, x, x] && c.endsWord 3

def isAtDocumentMark (c : Cursor) : Bool := c.isAtMark '-' || c.isAtMark '.'

end Cursor

end TitleLint.Document
