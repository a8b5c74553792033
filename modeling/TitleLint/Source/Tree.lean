namespace TitleLint.Source

/-- The constructs of a source that matter for names. Every other construct is `other`. -/
inductive Kind where
  | program
  | comment
  | exportStatement
  | classDeclaration
  | abstractClassDeclaration
  | classBody
  | fieldDefinition
  | methodDefinition
  | statementBlock
  | lexicalDeclaration
  | variableDeclaration
  | variableDeclarator
  | parenthesizedExpression
  | asExpression
  | satisfiesExpression
  | object
  | pair
  | string
  | identifier
  | propertyIdentifier
  | other
  deriving DecidableEq, Repr

/-- The part that a child plays in its parent. -/
inductive Role where
  | name
  | value
  | key
  | body
  | declaration
  deriving DecidableEq, Repr

/-- A syntax tree. A leaf keeps the text that it stands for. -/
inductive Tree where
  | leaf (kind : Kind) (text : String)
  | node (kind : Kind) (children : List (Option Role × Tree))
  deriving Repr

namespace Tree

def kind : Tree → Kind
  | leaf kind _ => kind
  | node kind _ => kind

def text? : Tree → Option String
  | leaf _ text => some text
  | node .. => none

def children : Tree → List (Option Role × Tree)
  | leaf .. => []
  | node _ children => children

def isComment (t : Tree) : Bool := t.kind == .comment

/-- The children that are not comments. -/
def parts (t : Tree) : List Tree := (t.children.map (·.2)).filter (!·.isComment)

/-- The first child with a role. -/
def part? (role : Role) (t : Tree) : Option Tree := t.children.lookup (some role)

/-- Whether a part is written exactly like this. -/
def isNamed (role : Role) (name : String) (t : Tree) : Bool :=
  ((t.part? role).bind text?) == some name

end Tree

/-- Parentheses and type annotations around an expression. -/
def Kind.isWrapper : Kind → Bool
  | .parenthesizedExpression | .asExpression | .satisfiesExpression => true
  | _ => false

namespace Tree

mutual

/-- The expression inside all wrappers. A wrapper that has nothing in it stays. -/
def unwrap : Tree → Tree
  | leaf kind text => leaf kind text
  | node kind children =>
    if kind.isWrapper then (unwrapFirst? children).getD (node kind children) else node kind children

/-- What is inside the first child that is not a comment. -/
def unwrapFirst? : List (Option Role × Tree) → Option Tree
  | [] => none
  | (_, t) :: others => if t.isComment then unwrapFirst? others else some (unwrap t)

end

end Tree

end TitleLint.Source
