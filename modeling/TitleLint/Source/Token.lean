import TitleLint.Unicode.Category
import TitleLint.Unicode.Property

namespace TitleLint.Source

/-- What comes in pairs. A template with holes is a pair too: its holes open and close it. -/
inductive Bracket where
  | round
  | square
  | brace
  | template
  deriving DecidableEq, Repr

/-- The pieces that a source is read in, blanks being left out. -/
inductive Lexeme where
  /-- A name or a keyword. -/
  | word (text : String)
  | privateName (text : String)
  | number (text : String)
  /-- A string literal with its quotes. -/
  | string (text : String)
  /-- A template without holes, or a regular expression. -/
  | otherLiteral
  | comment (text : String)
  | symbol (text : String)
  | opening (b : Bracket)
  | closing (b : Bracket)
  deriving DecidableEq, Repr

/-- A piece, and whether a line ends between the piece before it and this one. -/
structure Token where
  lexeme : Lexeme
  onNewLine : Bool := false
  deriving DecidableEq, Repr

namespace Token

def isBlank (c : Char) : Bool :=
  Unicode.isSpace c || c == '\ufeff' || c == '\u2060' || c == '\u200b'

def punctuation : List Char := ":;`\"'@#.,|^&<=>+-*/\\%?!~()[]\x7b\x7d".toList

/-- Whether a character can stand in a name. Digits cannot begin one. -/
def isNameChar (c : Char) : Bool :=
  0x20 < c.toNat && !isBlank c && !punctuation.contains c

def isNameStart (c : Char) : Bool := isNameChar c && !c.isDigit

/-- The length of a name that goes on here. A character may be escaped in it. -/
def nameLength : List Char → Nat
  | '\\' :: 'u' :: '\x7b' :: cs =>
    match cs.dropWhile (·.isAlphanum) with
    | '\x7d' :: _ => 4 + (cs.takeWhile (·.isAlphanum)).length + nameRest (cs.dropWhile (·.isAlphanum)).tail
    | _ => 0
  | '\\' :: 'u' :: cs => 6 + nameRest (cs.drop 4)
  | cs => nameRest cs
where
  nameRest (cs : List Char) : Nat := (cs.takeWhile fun c => isNameChar c || c == '\\').length

/-- The length of what is left of a string literal, with its closing quote. A string ends on its
line, unless a backslash stands before the line feed. -/
def stringLength? (quote : Char) : List Char → Option Nat
  | [] => none
  | ['\\'] => none
  | '\\' :: _ :: cs => (stringLength? quote cs).map (· + 2)
  | c :: cs =>
    if c = quote then some 1
    else if c = '\n' then none
    else (stringLength? quote cs).map (· + 1)

/-- The length of what is left of a template, up to its end or to a hole, and whether that is the
end. -/
def templateLength : List Char → Nat × Bool
  | [] => (0, true)
  | ['\\'] => (1, true)
  | '\\' :: _ :: cs => ((templateLength cs).1 + 2, (templateLength cs).2)
  | '`' :: _ => (1, true)
  | '$' :: '\x7b' :: _ => (2, false)
  | _ :: cs => ((templateLength cs).1 + 1, (templateLength cs).2)

/-- The length of what is left of a regular expression, without its flags. A slash does not end it
inside of a class. -/
def regexLength? (inClass : Bool) : List Char → Option Nat
  | [] => none
  | ['\\'] => none
  | '\\' :: _ :: cs => (regexLength? inClass cs).map (· + 2)
  | c :: cs =>
    if c = '\n' then none
    else if c = '/' ∧ !inClass then some 1
    else (regexLength? (c = '[' || (inClass && c != ']')) cs).map (· + 1)

/-- The length of what is left of a block comment. One that is not closed reaches to the end. -/
def blockCommentLength : List Char → Nat
  | [] => 0
  | '*' :: '/' :: _ => 2
  | _ :: cs => blockCommentLength cs + 1

def lineLength (cs : List Char) : Nat := (cs.takeWhile (· ≠ '\n')).length

def numberLength : List Char → Nat
  | e :: sign :: d :: cs =>
    if (e = 'e' ∨ e = 'E') ∧ (sign = '+' ∨ sign = '-') ∧ d.isDigit then 3 + numberLength cs
    else if isNameChar e || (e == '.' && sign != '.') then 1 + numberLength (sign :: d :: cs)
    else 0
  | c :: cs => if isNameChar c || c == '.' then 1 + numberLength cs else 0
  | [] => 0

/-- Symbols of several characters that must not be read one by one. -/
def longSymbols : List String := ["===", "!==", "...", "=>", "==", "!=", "?.", "??", "++", "--", "&&", "||"]

def symbolAt (cs : List Char) : String :=
  (longSymbols.find? fun s => s.toList.isPrefixOf cs).getD (String.ofList (cs.take 1))

/-- What the last piece was, as far as it decides what a slash means. -/
inductive Context where
  /-- An operand is complete, so that a slash divides. -/
  | operand
  | operator
  /-- A dot, after which a keyword is a name. -/
  | dot
  /-- A brace that closes a block or an operand. -/
  | brace
  deriving DecidableEq, Repr

/-- Keywords that an operand follows. -/
def operatorWords : List String :=
  ["return", "typeof", "instanceof", "in", "of", "new", "delete", "void", "throw", "case", "do",
    "else", "yield", "await", "extends", "default"]

/-- Keywords whose condition stands in parentheses. -/
def conditionWords : List String := ["if", "while", "for", "with"]

/-- What is known while a source is read. -/
structure Scan where
  context : Context := .operator
  onNewLine : Bool := false
  /-- The open brackets, and for each whether a condition stands in it. -/
  opened : List (Bracket × Bool) := []
  /-- Whether the last word announces a condition. -/
  atCondition : Bool := false

def Scan.after (s : Scan) : Lexeme → Scan
  | .comment _ => s
  | .word text =>
    { s with
      onNewLine := false
      context := if s.context != .dot && operatorWords.contains text then .operator else .operand
      atCondition := s.context != .dot && conditionWords.contains text }
  | .opening b =>
    { s with onNewLine := false, context := .operator, atCondition := false,
             opened := (b, s.atCondition) :: s.opened }
  | .closing b =>
    let condition := s.opened.any fun o => o == (b, true)
    { s with
      onNewLine := false
      atCondition := false
      context :=
        match b with
        | .brace => .brace
        | .round => if condition && s.opened.head? == some (b, true) then .operator else .operand
        | _ => .operand
      opened := (s.opened.dropWhile (·.1 != b)).drop 1 }
  | .symbol text =>
    { s with
      onNewLine := false
      atCondition := false
      context :=
        if text = "." ∨ text = "?." then .dot
        else if text = "!" ∨ text = "++" ∨ text = "--" then
          if s.context == .operand && !s.onNewLine then .operand else .operator
        else .operator }
  | _ => { s with onNewLine := false, context := .operand, atCondition := false }

/-- The piece at the beginning of a text that does not begin with a blank, and its length. -/
def first (s : Scan) (c : Char) (cs : List Char) : Lexeme × Nat :=
  let text := fun n => String.ofList (c :: cs.take n)
  let symbol := let sym := symbolAt (c :: cs); (Lexeme.symbol sym, sym.length - 1)
  match c with
  | '(' => (.opening .round, 0)
  | ')' => (.closing .round, 0)
  | '[' => (.opening .square, 0)
  | ']' => (.closing .square, 0)
  | '\x7b' => (.opening .brace, 0)
  | '\x7d' =>
    if (s.opened.head?.map (·.1)) = some .template then
      let (n, isEnd) := templateLength cs
      (if isEnd then .closing .template else .symbol "$", n)
    else (.closing .brace, 0)
  | '`' =>
    let (n, isEnd) := templateLength cs
    (if isEnd then .otherLiteral else .opening .template, n)
  | '"' | '\'' =>
    match stringLength? c cs with
    | some n => (.string (text n), n)
    | none => (.symbol (String.singleton c), lineLength cs)
  | '#' =>
    match cs with
    | '!' :: _ => (.comment (text (lineLength cs)), lineLength cs)
    | _ =>
      match nameLength cs with
      | 0 => symbol
      | n => (.privateName (text n), n)
  | '/' =>
    match cs with
    | '/' :: _ => (.comment (text (lineLength cs)), lineLength cs)
    | '*' :: rest =>
      let n := 1 + blockCommentLength rest
      (.comment (text n), n)
    | _ =>
      let isRegex := s.context == .operator || (s.context == .brace && s.onNewLine)
      match if isRegex then regexLength? false cs else none with
      | some n => (.otherLiteral, n + ((cs.drop n).takeWhile isNameChar).length)
      | none => symbol
  | '.' =>
    if (cs.head?.any Char.isDigit) then
      let n := numberLength cs
      (.number (text n), n)
    else symbol
  | c =>
    if c.isDigit then
      let n := numberLength cs
      (.number (text n), n)
    else if isNameStart c || (c = '\\' && 0 < nameLength (c :: cs)) then
      let n := nameLength (c :: cs) - 1
      (.word (text n), n)
    else symbol

def scanFrom (s : Scan) : List Char → List Token
  | [] => []
  | c :: cs =>
    if isBlank c then scanFrom { s with onNewLine := s.onNewLine || c == '\n' } cs
    else
      let (lexeme, n) := first s c cs
      { lexeme, onNewLine := s.onNewLine } :: scanFrom (s.after lexeme) (cs.drop n)
termination_by cs => cs.length
decreasing_by all_goals (simp only [List.length_cons, List.length_drop]; omega)

def scan (source : String) : List Token := scanFrom {} source.toList

end Token

end TitleLint.Source
