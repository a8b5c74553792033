import TitleLint.Source.Item

/-!
How far a construct reaches. Lists of items are free of comments here, and each function gives the
number of items that belong to the construct at their beginning.
-/

namespace TitleLint.Source.Extent

/-- One if a symbol comes next. -/
def ofSymbol (text : String) (items : List Item) : Nat :=
  if items.head?.any (·.isSymbol text) then 1 else 0

def ofGroup (b : Bracket) (items : List Item) : Nat := if items.head?.any (·.isGroup b) then 1 else 0

/-- Up to the `>` that closes an open `<`. -/
def angles? (depth : Nat) : List Item → Option Nat
  | [] => none
  | i :: is =>
    if i.isSymbol ";" || i.isWord "export" then none
    else if i.isSymbol "<" then (angles? (depth + 1) is).map (· + 1)
    else if i.isSymbol ">" then
      match depth with
      | 0 => some 1
      | depth + 1 => (angles? depth is).map (· + 1)
    else (angles? depth is).map (· + 1)

/-- Type parameters or arguments, if they come next. -/
def ofAngles (items : List Item) : Nat :=
  match items with
  | i :: is => if i.isSymbol "<" then ((angles? 0 is).map (· + 1)).getD 0 else 0
  | [] => 0

/-- Symbols that can stand in type arguments. -/
def typeSymbols : List String := [",", "|", "&", ".", "<", ">", "=>", "?", ":", "-", "..."]

/-- Type arguments of a call, after their `<`. -/
def ofTypeArguments? (items : List Item) : Option Nat := do
  let n ← angles? 0 items
  let isCall := match (items.drop n).head? with
    | some (.group .round ..) | some (.group .template ..) | some (.single .otherLiteral _) => true
    | _ => false
  let isType := (items.take n).all fun i => i.symbol?.all typeSymbols.contains
  if isCall && isType then some n else none

/-- Whether a symbol on a new line goes on with what stands before it. -/
def symbolContinues (text : String) : Bool :=
  match text.toList with
  | ['+'] | ['-'] => true
  | '!' :: '=' :: _ => true
  | c :: _ => ",.;*%><=?^|&/:".toList.contains c
  | [] => false

/-- Whether an item on a new line goes on with a type. -/
def continuesType : Item → Bool
  | .single (.symbol text) _ => symbolContinues text
  | .group .template .. => true
  | _ => false

/-- Whether an item on a new line goes on with an expression. -/
def continues : Item → Bool
  | .single (.symbol text) _ => symbolContinues text
  | .single (.word text) _ => text == "in" || text == "instanceof"
  | .single .otherLiteral _ => true
  | .group b .. => b != .brace
  | _ => false

/-- Words that a type follows. -/
def typePrefixes : List String :=
  ["keyof", "typeof", "readonly", "unique", "infer", "new", "abstract", "asserts", "import"]

/-- A type. With `lines`, it can end with its line. `complete` tells whether what was read so far
is a type, and `pending` counts the conditions whose branches are still to come. -/
def typeFrom (lines complete : Bool) (pending : Nat) : List Item → Nat
  | [] => 0
  | i :: is =>
    if complete && lines && i.onNewLine && !continuesType i then 0
    else
      match i with
      | .single (.symbol text) _ =>
        if text = "<" then
          match angles? 0 is with
          | some n => 1 + n + typeFrom lines complete pending (is.drop n)
          | none => 0
        else if text = "|" ∨ text = "&" then 1 + typeFrom lines false pending is
        else if complete then
          if text = "." ∨ text = "=>" then 1 + typeFrom lines false pending is
          else if text = "?" ∧ 0 < pending then 1 + typeFrom lines false pending is
          else if text = ":" ∧ 0 < pending then 1 + typeFrom lines false (pending - 1) is
          else 0
        else if text = "-" then 1 + typeFrom lines false pending is
        else 0
      | .single (.word text) _ =>
        if complete then
          if text = "is" then 1 + typeFrom lines false pending is
          else if text = "extends" then 1 + typeFrom lines false (pending + 1) is
          else 0
        else 1 + typeFrom lines (!typePrefixes.contains text) pending is
      | .group .square .. => 1 + typeFrom lines true pending is
      | _ => if complete || i.isComment then 0 else 1 + typeFrom lines true pending is
termination_by items => items.length
decreasing_by all_goals (simp only [List.length_cons, List.length_drop]; omega)

def ofType (lines : Bool) (items : List Item) : Nat := typeFrom lines false 0 items

/-- A type after a colon, if there is one. -/
def ofAnnotation (lines : Bool) (items : List Item) : Nat :=
  match items with
  | i :: is => if i.isSymbol ":" then 1 + ofType lines is else 0
  | [] => 0

/-- Type parameters, parameters and the type of what is returned. -/
def ofSignature (items : List Item) : Nat :=
  let n := ofAngles items
  let n := n + ofGroup .round (items.drop n)
  n + ofAnnotation true (items.drop n)

/-- What follows the word `function`, with the body. -/
def ofFunction (items : List Item) : Nat :=
  let n := ofSymbol "*" items
  let n := if (items.drop n).head?.any (·.word?.isSome) then n + 1 else n
  let n := n + ofSignature (items.drop n)
  n + ofGroup .brace (items.drop n)

/-- What precedes the braces of a declaration. -/
def head? : List Item → Option Nat
  | [] => none
  | i :: is =>
    if i.isGroup .brace then some 0
    else if i.isSymbol ";" then none
    else if i.isSymbol "<" then
      match angles? 0 is with
      | some n => (head? (is.drop n)).map (1 + n + ·)
      | none => (head? is).map (1 + ·)
    else (head? is).map (1 + ·)
termination_by items => items.length
decreasing_by all_goals (simp only [List.length_cons, List.length_drop]; omega)

/-- Words that an operand follows. -/
def operandPrefixes : List String := ["new", "typeof", "await", "yield", "void", "delete"]

/-- Words that begin a statement and nothing else. -/
def statementWords : List String :=
  ["export", "import", "const", "var", "let", "if", "for", "while", "do", "switch", "try", "return",
    "throw", "break", "continue", "debugger", "interface", "enum", "namespace", "declare", "abstract"]

/-- Where a comma or the end of a line can end an expression. -/
structure Limits where
  comma : Bool
  line : Bool

/-- An expression; `complete` tells whether what was read so far is one. It also ends where an
operand follows another. -/
def expressionFrom (l : Limits) (complete : Bool) : List Item → Nat
  | [] => 0
  | i :: is =>
    if i.isSymbol ";" || (l.comma && i.isSymbol ",") then 0
    else if complete && l.line && i.onNewLine && !continues i then 0
    else if complete then
      match i with
      | .single (.symbol text) _ =>
        if text = "@" then 0
        else if text = "++" ∨ text = "--" ∨ text = "!" then 1 + expressionFrom l true is
        else if text = "<" then
          match ofTypeArguments? is with
          | some n => 1 + n + expressionFrom l true (is.drop n)
          | none => 1 + expressionFrom l false is
        else if (text = "." ∨ text = "?.") ∧ is.head?.any fun i => i.word?.isSome || i.isLiteral then
          2 + expressionFrom l true (is.drop 1)
        else 1 + expressionFrom l false is
      | .single (.word text) _ =>
        if text = "as" ∨ text = "satisfies" then
          1 + ofType l.line is + expressionFrom l true (is.drop (ofType l.line is))
        else if text = "in" ∨ text = "instanceof" then 1 + expressionFrom l false is
        else 0
      | .single .otherLiteral _ => 1 + expressionFrom l true is
      | .single .. => 0
      | .group b .. => if b = .brace then 0 else 1 + expressionFrom l true is
    else
      match i with
      | .single (.symbol text) _ =>
        if text = "<" then
          match angles? 0 is with
          | some n => 1 + n + expressionFrom l false (is.drop n)
          | none => 1 + expressionFrom l false is
        else 1 + expressionFrom l false is
      | .single (.word text) _ =>
        if text = "function" then 1 + ofFunction is + expressionFrom l true (is.drop (ofFunction is))
        else if text = "class" then
          match head? is with
          | some n => 1 + n + 1 + expressionFrom l true (is.drop (n + 1))
          | none => 1 + expressionFrom l true is
        else if operandPrefixes.contains text then 1 + expressionFrom l false is
        else if text = "async" ∧ is.head?.any fun i => i.word?.isSome && !i.onNewLine then
          1 + expressionFrom l false is
        else if i.onNewLine && statementWords.contains text then 0
        else 1 + expressionFrom l true is
      | .group .round .. =>
        let n := ofAnnotation false is
        if 0 < n ∧ (is.drop n).head?.any (·.isSymbol "=>") then
          1 + n + expressionFrom l true (is.drop n)
        else 1 + expressionFrom l true is
      | _ => 1 + expressionFrom l true is
termination_by items => items.length
decreasing_by all_goals (simp only [List.length_cons, List.length_drop]; omega)

def ofExpression (l : Limits) (items : List Item) : Nat := expressionFrom l false items

def ofInitializer (items : List Item) : Nat := ofExpression ⟨true, true⟩ items

/-- An expression that is a statement, with its semicolon. -/
def ofExpressionStatement (items : List Item) : Nat :=
  let n := ofExpression ⟨false, true⟩ items
  n + ofSymbol ";" (items.drop n)

def ofDecorator (items : List Item) : Nat :=
  match items with
  | at' :: i :: is =>
    if !at'.isSymbol "@" then 0
    else if i.isGroup .round then 2
    else
      let path := (is.takeWhile fun i => i.isSymbol "." || i.word?.isSome).length
      let path := if (is.head?.any (·.isSymbol ".")) then path else 0
      let n := 2 + path
      let n := n + ofAngles (items.drop n)
      n + ofGroup .round (items.drop n)
  | [_] => 1
  | [] => 0

/-- One name that is declared, with its type and its initializer. -/
def ofDeclarator (items : List Item) : Nat :=
  let n := 1 + ofSymbol "!" (items.drop 1)
  let n := n + ofAnnotation true (items.drop n)
  match (items.drop n).head? with
  | some i => if i.isSymbol "=" then n + 1 + ofInitializer (items.drop (n + 1)) else n
  | none => n

/-- Declarations that are separated by commas. -/
def ofDeclarators (items : List Item) : Nat :=
  let n := ofDeclarator items
  match h : items.drop n with
  | i :: is => if i.isSymbol "," then n + 1 + ofDeclarators is else n
  | [] => n
termination_by items.length
decreasing_by
  have := congrArg List.length h
  simp at this
  omega

/-- The module that is imported from, with the attributes after it. -/
def ofModule (items : List Item) : Nat :=
  let before := (items.takeWhile fun i =>
    match i with
    | .single (.string _) _ => false
    | i => !i.isSymbol ";").length
  let n := min items.length (before + if (items.drop before).head?.any (·.isSymbol ";") then 0 else 1)
  let n := match items.drop n with
    | w :: b :: _ => if (w.isWord "with" || w.isWord "assert") && b.isGroup .brace then n + 2 else n
    | _ => n
  n + ofSymbol ";" (items.drop n)

def ofImport (items : List Item) : Nat :=
  let isAlias := (items.take 3).any (·.isSymbol "=")
  if isAlias then
    let n := ((items.takeWhile fun i => !i.isSymbol "=").length + 1)
    n + ofExpressionStatement (items.drop n)
  else ofModule items

/-- Whether a name can be declared here. -/
def isBinding (items : List Item) : Bool :=
  items.head?.any fun i => i.word?.isSome || i.isGroup .brace || i.isGroup .square

def isWordNext (items : List Item) : Bool := items.head?.any fun i => i.word?.isSome && !i.onNewLine

def ofDeclaration? (items : List Item) : Option Nat :=
  match items with
  | [] => none
  | i :: is =>
    let withBody := (head? is).map (· + 2)
    match i.word?.getD "" with
    | "class" => if is.head?.any fun i => i.word?.any fun w => w != "extends" && w != "implements" then withBody else none
    | "abstract" => if is.head?.any (·.isWord "class") then withBody else none
    | "function" => let n := 1 + ofFunction is; some (n + ofSymbol ";" (items.drop n))
    | "async" =>
      if is.head?.any fun i => i.isWord "function" && !i.onNewLine then
        let n := 2 + ofFunction (is.drop 1)
        some (n + ofSymbol ";" (items.drop n))
      else none
    | "const" | "let" | "var" =>
      if is.head?.any (·.isWord "enum") then withBody
      else if isBinding is then
        let n := 1 + ofDeclarators is
        some (n + ofSymbol ";" (items.drop n))
      else none
    | "interface" | "enum" => if isWordNext is then withBody else none
    | "namespace" => if isWordNext is then withBody else none
    | "module" =>
      match is.head? with
      | some (.single (.string _) _) => if (is.drop 1).head?.any (·.isGroup .brace) then some 3 else some (2 + ofSymbol ";" (is.drop 1))
      | _ => if isWordNext is then withBody else none
    | "global" => if is.head?.any (·.isGroup .brace) then some 2 else none
    | "type" =>
      if isWordNext is then
        let n := 2 + ofAngles (is.drop 1)
        let n := n + ofSymbol "=" (items.drop n)
        let n := n + ofType true (items.drop n)
        some (n + ofSymbol ";" (items.drop n))
      else none
    | "declare" => if isWordNext is then (ofDeclaration? is).map (· + 1) else none
    | _ => none

def ofExport (items : List Item) : Nat :=
  match items with
  | [] => 0
  | i :: is =>
    if i.isSymbol "*" then ofModule items
    else if i.isGroup .brace then
      if is.head?.any (·.isWord "from") then ofModule items else 1 + ofSymbol ";" is
    else if i.isSymbol "=" then 1 + ofExpressionStatement is
    else if i.isSymbol "@" then
      let n := ofDecorator items
      n + (ofDeclaration? (items.drop n)).getD 0
    else
      match i.word?.getD "" with
      | "default" => 1 + ((ofDeclaration? is).getD (ofExpressionStatement is))
      | "import" => 1 + ofImport is
      | "as" => let n := min items.length 3; n + ofSymbol ";" (items.drop n)
      | "type" =>
        if is.head?.any fun i => i.isGroup .brace || i.isSymbol "*" then
          if (is.drop 1).head?.any (·.isWord "from") || is.head?.any (·.isSymbol "*") then 1 + ofModule is
          else 2 + ofSymbol ";" (is.drop 1)
        else (ofDeclaration? items).getD (ofExpressionStatement items)
      | _ => (ofDeclaration? items).getD (ofExpressionStatement items)

/-- A statement. `fuel` bounds how deep statements stand in others. -/
def statementFrom : Nat → List Item → Nat
  | 0, _ => 1
  | _, [] => 0
  | fuel + 1, i :: is =>
    let items := i :: is
    let inner := fun n => n + statementFrom fuel (items.drop n)
    if i.isSymbol ";" || i.isGroup .brace then 1
    else if i.isSymbol "@" then inner (max 1 (ofDecorator items))
    else
      match i.word? with
      | none => max 1 (ofExpressionStatement items)
      | some word =>
        if is.head?.any (·.isSymbol ":") then inner 2
        else
          match word with
          | "if" =>
            let n := inner (1 + ofGroup .round is)
            if (items.drop n).head?.any (·.isWord "else") then inner (n + 1) else n
          | "while" | "with" => inner (1 + ofGroup .round is)
          | "for" =>
            let n := if is.head?.any (·.isWord "await") then 2 else 1
            inner (n + ofGroup .round (items.drop n))
          | "else" => inner 1
          | "do" =>
            let n := inner 1
            if (items.drop n).head?.any (·.isWord "while") then
              let n := n + 1 + ofGroup .round (items.drop (n + 1))
              n + ofSymbol ";" (items.drop n)
            else n
          | "try" =>
            let n := 1 + ofGroup .brace is
            let n := if (items.drop n).head?.any (·.isWord "catch") then
                let n := n + 1 + ofGroup .round (items.drop (n + 1))
                n + ofGroup .brace (items.drop n)
              else n
            if (items.drop n).head?.any (·.isWord "finally") then
              n + 1 + ofGroup .brace (items.drop (n + 1))
            else n
          | "switch" => let n := 1 + ofGroup .round is; n + ofGroup .brace (items.drop n)
          | "return" | "throw" | "break" | "continue" | "debugger" =>
            if is.head?.any (·.onNewLine) then 1 else 1 + ofExpressionStatement is
          | "import" =>
            if is.head?.any fun i => i.isGroup .round || i.isSymbol "." then ofExpressionStatement items
            else 1 + ofImport is
          | "export" => 1 + ofExport is
          | _ => (ofDeclaration? items).getD (max 1 (ofExpressionStatement items))

/-- A statement; a list that is not empty has at least one item that belongs to it. -/
def ofStatement (items : List Item) : Nat := max 1 (statementFrom (items.length + 1) items)

end TitleLint.Source.Extent
