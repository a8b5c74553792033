import TitleLint.Source.Token

namespace TitleLint.Source

/-- A piece of a source, or all that stands in a pair of brackets. -/
inductive Item where
  | single (lexeme : Lexeme) (onNewLine : Bool)
  | group (b : Bracket) (items : List Item) (onNewLine : Bool)

namespace Item

mutual

def depth : Item → Nat
  | .single .. => 0
  | .group _ items _ => depths items + 1

def depths : List Item → Nat
  | [] => 0
  | i :: is => max (depth i) (depths is)

end

def onNewLine : Item → Bool
  | .single _ onNewLine => onNewLine
  | .group _ _ onNewLine => onNewLine

def word? : Item → Option String
  | .single (.word text) _ => some text
  | _ => none

def symbol? : Item → Option String
  | .single (.symbol text) _ => some text
  | _ => none

def comment? : Item → Option String
  | .single (.comment text) _ => some text
  | _ => none

def isWord (text : String) (i : Item) : Bool := i.word? == some text

def isSymbol (text : String) (i : Item) : Bool := i.symbol? == some text

def isGroup (b : Bracket) : Item → Bool
  | .group b' _ _ => b == b'
  | _ => false

def isComment (i : Item) : Bool := i.comment?.isSome

def inner : Item → List Item
  | .group _ items _ => items
  | _ => []

/-- Whether a word, a literal or the like stands here. -/
def isLiteral : Item → Bool
  | .single (.number _) _ | .single (.string _) _ | .single .otherLiteral _
  | .single (.privateName _) _ => true
  | .group .template _ _ => true
  | _ => false

/-! ### Brackets -/

/-- A pair of brackets that is open, with the items before it, the latest first. -/
structure Opened where
  bracket : Bracket
  onNewLine : Bool
  before : List Item

/-- Closes the innermost pair. -/
def close (inner : List Item) (o : Opened) : List Item :=
  .group o.bracket inner.reverse o.onNewLine :: o.before

/-- Words that are followed by braces with values or names, and not by a body. -/
def valuePrefixes : List String :=
  ["return", "throw", "typeof", "new", "await", "yield", "case", "default", "in", "of", "as",
    "satisfies", "extends", "import", "export"]

/-- Whether a pair holds statements or members. -/
def Opened.isBody (o : Opened) : Bool :=
  o.bracket = .brace &&
    match o.before.find? fun i => !i.isComment with
    | some (.single (.symbol text) _) => text = ";" || text = ">"
    | some (.single (.word text) _) => !valuePrefixes.contains text
    | _ => true

/-- Closes a pair whose end is missing. All but a body then ends before a semicolon. -/
def closeUnended (inner : List Item) (o : Opened) : List Item :=
  let after := if o.isBody then [] else inner.reverse.dropWhile fun i => !i.isSymbol ";"
  after.reverse ++ close (inner.drop after.length) o

/-- Closes the pairs up to the innermost one of a kind. -/
def closeTo (b : Bracket) : List Item → List Opened → List Item × List Opened
  | items, [] => (items, [])
  | items, o :: opened =>
    if o.bracket = b then (close items o, opened) else closeTo b (closeUnended items o) opened

/-- Puts pieces into their brackets, and gives those that are open at the end. A bracket that closes
nothing is dropped. -/
def nest (items : List Item) (opened : List Opened) : List Token → List Item × List Opened
  | [] => (items, opened)
  | t :: ts =>
    match t.lexeme with
    | .opening bracket => nest [] ({ bracket, onNewLine := t.onNewLine, before := items } :: opened) ts
    | .closing b =>
      if opened.any (·.bracket == b) then
        let (items, opened) := closeTo b items opened
        nest items opened ts
      else nest items opened ts
    | lexeme => nest (.single lexeme t.onNewLine :: items) opened ts

/-- Whether a source ends inside an expression: not every open pair is a body. -/
def isCutOff : List Item → List Opened → Bool
  | _, [] => false
  | items, o :: opened =>
    !(o.isBody || items.any (·.isSymbol ";")) ||
      isCutOff (closeUnended items o) opened

/-- The items of a source, and whether it ends inside an expression. Pairs that are open then reach
to the end. -/
def ofTokens (ts : List Token) : List Item × Bool :=
  let (items, opened) := nest [] [] ts
  ((opened.foldl closeUnended items).reverse, isCutOff items opened)

end Item

end TitleLint.Source
