import TitleLint.Source.Tree
import TitleLint.SourceKind

namespace TitleLint

structure DisplayName where
  shape : Shape
  name : String
  deriving DecidableEq, Repr

namespace DisplayName

open Source

/-- Resolves the escapes of a string literal. Only a line feed, a tab and a carriage return have
letters of their own. -/
def unescape : List Char → List Char
  | [] => []
  | ['\\'] => []
  | '\\' :: c :: cs =>
    (match c with
      | 'n' => '\n'
      | 't' => '\t'
      | 'r' => '\r'
      | c => c) :: unescape cs
  | c :: cs => c :: unescape cs

/-- The text that a quoted literal stands for. A literal has a quote of one byte at either end. -/
def literal? (raw : String) : Option String :=
  match raw.toList with
  | [] | [_] => none
  | quote :: cs =>
    if quote.utf8Size = 1 ∧ (cs.getLastD quote).utf8Size = 1 then
      some (String.ofList (unescape cs.dropLast))
    else none

/-- The name that a pair gives, if it is a pair `displayName: '...'`. -/
def ofPair? (pair : Tree) : Option String :=
  match pair.part? .key, pair.part? .value with
  | some (.leaf .propertyIdentifier "displayName"), some (.leaf .string raw) => literal? raw
  | _, _ => none

/-- The name in an object literal: that of its first pair that gives one. -/
def ofObject? (object : Tree) : Option String :=
  ((object.parts.filter (·.kind == .pair)).findSome? ofPair?).filter (· ≠ "")

/-- The name in an initializer, which must be an object literal up to wrappers. -/
def ofValue? (value : Tree) : Option String :=
  let inner := value.unwrap
  if inner.kind == .object then ofObject? inner else none

/-- The statements of a source, without `export` before a declaration. -/
def statements (program : Tree) : List Tree :=
  program.parts.map fun s =>
    if s.kind == .exportStatement then (s.part? .declaration).getD s else s

def firstClass? (program : Tree) : Option Tree :=
  (statements program).find? fun s =>
    s.kind == .classDeclaration || s.kind == .abstractClassDeclaration

def members (class' : Tree) : List Tree := ((class'.part? .body).map Tree.parts).getD []

def isVariableStatement (t : Tree) : Bool :=
  t.kind == .lexicalDeclaration || t.kind == .variableDeclaration

def declarators (statement : Tree) : List Tree :=
  statement.parts.filter (·.kind == .variableDeclarator)

/-- The name in the first field `description` of the class that holds an object. -/
def ofDescription? (program : Tree) : Option String := do
  let class' ← firstClass? program
  let fields := (members class').filter fun m =>
    m.kind == .fieldDefinition && m.isNamed .name "description"
  let values := fields.filterMap fun m => (m.part? .value).map Tree.unwrap
  ofObject? (← values.find? (·.kind == .object))

/-- The name in the first local variable of the constructor of the class. -/
def ofConstructor? (program : Tree) : Option String := do
  let class' ← firstClass? program
  let constructor ← (members class').find? fun m =>
    m.kind == .methodDefinition && m.isNamed .name "constructor"
  let statement ← (← constructor.part? .body).parts.find? isVariableStatement
  let declarator ← (declarators statement).head?
  ofValue? (← declarator.part? .value)

/-- The name in the first variable `versionDescription`. -/
def ofVersionDescription? (program : Tree) : Option String := do
  let declarator ← (((statements program).filter isVariableStatement).flatMap declarators).find?
    (·.isNamed .name "versionDescription")
  ofValue? (← declarator.part? .value)

def ofShape? (program : Tree) : Shape → Option String
  | .description => ofDescription? program
  | .versionedBase => ofConstructor? program
  | .versionDescription => ofVersionDescription? program

/-- The name that a source of a kind declares: that of the first shape that has one. -/
def extract? (kind : SourceKind) (program : Tree) : Option DisplayName :=
  kind.shapes.findSome? fun shape => (ofShape? program shape).map fun name => { shape, name }

end DisplayName

end TitleLint
