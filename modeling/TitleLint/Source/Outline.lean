import TitleLint.Source.Extent
import TitleLint.Source.Tree

/-!
The outline of a source: its statements, the members of classes, the pairs of object literals and
the wrappers around them. Comments come first among the children of a list. A source with errors
has an outline too: what cannot be understood is passed over.
-/

namespace TitleLint.Source

open Extent

/-- Readers for what stands in brackets. -/
structure Outline where
  statements : List Item → List Tree
  members : List Item → List Tree
  pairs : List Item → List Tree
  /-- The expression in parentheses. -/
  enclosed : List Item → List Tree

namespace Outline

def none : Outline := ⟨fun _ => [], fun _ => [], fun _ => [], fun _ => []⟩

/-- Something of no interest. -/
def other : Tree := .node .other []

def plain (t : Tree) : Option Role × Tree := (Option.none, t)

def role (r : Role) (t : Tree) : Option Role × Tree := (some r, t)

def comments (items : List Item) : List Tree :=
  items.filterMap fun i => i.comment?.map (.leaf .comment)

def code (items : List Item) : List Item := items.filter (!·.isComment)

/-- Reads one construct after another. A step gives what it read and how many items that took; at
least one is passed. -/
def each (step : List Item → List Tree × Nat) : List Item → List Tree
  | [] => []
  | i :: is =>
    let (ts, n) := step (i :: is)
    ts ++ each step (is.drop (n - 1))
termination_by items => items.length
decreasing_by simp only [List.length_cons, List.length_drop]; omega

/-- The children of a list whose constructs are read by `step`. -/
def listed (step : List Item → List Tree × Nat) (items : List Item) : List Tree :=
  comments items ++ each step (code items)

/-- Puts type annotations around an expression. With anything else behind it, it is only a part of
an expression of another kind. -/
def annotated (t : Tree) : List Item → Tree
  | [] => t
  | i :: is =>
    let n := ofType false is
    let wrap := fun kind => annotated (.node kind [plain t, plain other]) (is.drop n)
    if n = 0 then other
    else if i.isWord "as" then wrap .asExpression
    else if i.isWord "satisfies" then wrap .satisfiesExpression
    else other
termination_by items => items.length
decreasing_by simp only [List.length_cons, List.length_drop]; omega

/-- The expression that these items are. -/
def expression (inside : Outline) (items : List Item) : Tree :=
  match items with
  | .group .round inner _ :: rest =>
    annotated (.node .parenthesizedExpression ((inside.enclosed inner).map plain)) rest
  | .group .brace inner _ :: rest => annotated (.node .object ((inside.pairs inner).map plain)) rest
  | .single (.string text) _ :: rest => annotated (.leaf .string text) rest
  | .single (.word text) _ :: rest => annotated (.leaf .identifier text) rest
  | _ => other

/-- What stands in parentheses; a list of expressions is of no interest. -/
def enclosedIn (inside : Outline) (items : List Item) : List Tree :=
  let items' := code items
  comments items ++
    if items'.isEmpty then []
    else if ofExpression ⟨true, false⟩ items' = items'.length then [expression inside items']
    else [other]

/-- The name of a member or the key of a pair. -/
def nameTree : Item → Tree
  | .single (.word text) _ => .leaf .propertyIdentifier text
  | .single (.string text) _ => .leaf .string text
  | .single (.privateName text) _ => .leaf .other text
  | .single (.number text) _ => .leaf .other text
  | _ => other

def isName (i : Item) : Bool :=
  match i with
  | .single (.word _) _ | .single (.string _) _ | .single (.privateName _) _ | .single (.number _) _
  | .group .square .. => true
  | _ => false

/-- Words that can precede the name of a member. -/
def modifiers : List String :=
  ["public", "private", "protected", "static", "abstract", "override", "readonly", "declare",
    "accessor", "async", "get", "set", "export"]

/-- How many modifiers precede the name of a member. -/
def modifierCount : List Item → Nat
  | i :: j :: is =>
    if i.word?.any modifiers.contains && (isName j || j.isSymbol "*") then 1 + modifierCount (j :: is)
    else if i.isSymbol "*" then 1
    else 0
  | _ => 0

/-- A method after its name, which takes the first of the items. -/
def method (inside : Outline) (name : Tree) (items : List Item) : Tree × Nat :=
  let n := ofSignature items
  match items.drop n with
  | .group .brace inner _ :: _ =>
    (.node .methodDefinition
      [role .name name, role .body (.node .statementBlock ((inside.statements inner).map plain))], n + 1)
  | _ => (other, n)

def isMethod (items : List Item) : Bool := items.head?.any fun i => i.isSymbol "<" || i.isGroup .round

def member (inside : Outline) (items : List Item) : List Tree × Nat :=
  match items with
  | [] => ([], 0)
  | i :: is =>
    if i.isSymbol "@" then ([], ofDecorator items)
    else if i.isWord "static" && is.head?.any (·.isGroup .brace) then ([other], 2)
    else
      let skipped := modifierCount items
      match items.drop skipped with
      | [] => ([], skipped)
      | name :: rest =>
        if !isName name then ([], skipped + 1)
        else
          let mark := max (ofSymbol "?" rest) (ofSymbol "!" rest)
          let before := skipped + 1 + mark
          let rest := rest.drop mark
          if isMethod rest then
            let (t, n) := method inside (nameTree name) rest
            ([t], before + n)
          else
            let n := ofAnnotation true rest
            match rest.drop n with
            | eq :: value =>
              if eq.isSymbol "=" then
                let m := ofInitializer value
                let children := if m = 0 then [] else [role .value (expression inside (value.take m))]
                ([.node .fieldDefinition (role .name (nameTree name) :: children)], before + n + 1 + m)
              else ([.node .fieldDefinition [role .name (nameTree name)]], before + n)
            | [] => ([.node .fieldDefinition [role .name (nameTree name)]], before + n)

/-- How much of a pair is lost before its value: all before an operand that follows a complete value,
with the name and the colon if that looks like another pair. -/
def lost (items : List Item) : Nat :=
  let n := ofExpression ⟨true, false⟩ items
  match _h : items.drop n with
  | i :: is =>
    if n = 0 || i.symbol?.isSome then 0
    else if is.head?.any (·.isSymbol ":") then n + 2 + lost (is.drop 1)
    else n + lost (i :: is)
  | [] => 0
termination_by items.length
decreasing_by all_goals
  have := congrArg List.length _h
  simp only [List.length_drop, List.length_cons] at this ⊢
  simp only [Bool.or_eq_true, decide_eq_true_eq, not_or] at *
  omega

/-- An entry of an object literal. -/
def entry (inside : Outline) (items : List Item) : List Tree × Nat :=
  let value := fun items => ofExpression ⟨true, false⟩ items
  let skipped := modifierCount items
  match items.drop skipped with
  | [] => ([], skipped)
  | key :: rest =>
    if key.isSymbol "..." then ([other], 1 + value rest)
    else if !isName key then ([], skipped + 1)
    else if isMethod rest then
      let (t, n) := method inside (nameTree key) rest
      ([t], skipped + 1 + n)
    else
      match rest with
      | colon :: rest =>
        if colon.isSymbol ":" then
          let before := lost rest
          let rest := rest.drop before
          let n := value rest
          let children := if n = 0 then [] else [role .value (expression inside (rest.take n))]
          ([.node .pair (role .key (nameTree key) :: children)], skipped + 2 + before + n)
        else if colon.isSymbol "=" then ([other], skipped + 2 + value rest)
        else ([other], skipped + 1)
      | [] => ([other], skipped + 1)

/-- A name that is declared, with its initializer. -/
def declarator (inside : Outline) (items : List Item) : List Tree × Nat :=
  let n := ofDeclarator items
  match items with
  | name :: rest =>
    if name.isSymbol "," then ([], 1)
    else
      let nameChild := role .name (match name.word? with
        | some text => .leaf .identifier text
        | Option.none => other)
      let before := ofSymbol "!" rest
      let before := before + ofAnnotation true (rest.drop before)
      let value := (rest.take (n - 1)).drop (before + 1)
      let children := if value.isEmpty then [] else [role .value (expression inside value)]
      ([.node .variableDeclarator (nameChild :: children)], n)
  | [] => ([], 0)

/-- The declarations that have an outline. Others are of no interest. -/
def declaration (inside : Outline) (items : List Item) : Tree :=
  let names := fun kind (rest : List Item) =>
    let rest := rest.filter fun i => !i.isSymbol ";"
    Tree.node kind ((each (declarator inside) rest).map plain)
  let class' := fun kind (rest : List Item) =>
    match rest.head?.bind Item.word?, rest.getLast? with
    | some name, some (.group .brace inner _) =>
      Tree.node kind
        [role .name (.leaf .identifier name),
          role .body (.node .classBody ((inside.members inner).map plain))]
    | _, _ => other
  match items with
  | [] => other
  | i :: rest =>
    match i.word?.getD "" with
    | "const" => if rest.head?.any (·.isWord "enum") then other else names .lexicalDeclaration rest
    | "let" => names .lexicalDeclaration rest
    | "var" => names .variableDeclaration rest
    | "class" => class' .classDeclaration rest
    | "abstract" => class' .abstractClassDeclaration (rest.drop 1)
    | _ => other

/-- The declaration at the beginning of a statement, if there is one. -/
def declared? (inside : Outline) (items : List Item) : Option Tree :=
  (ofDeclaration? items).map fun n => declaration inside (items.take n)

/-- Decorators are left out. -/
def undecorated (items : List Item) : List Item := items.drop (decoratorCount (items.length + 1) items)
where
  decoratorCount : Nat → List Item → Nat
    | 0, _ => 0
    | fuel + 1, items =>
      match ofDecorator items with
      | 0 => 0
      | n => n + decoratorCount fuel (items.drop n)

def statement (inside : Outline) (items : List Item) : List Tree × Nat :=
  let n := ofStatement items
  let own := undecorated (items.take n)
  match own with
  | i :: rest =>
    if rest.head?.any (·.isSymbol ":") then ([other], n)
    else if i.isWord "export" then
      let rest := if rest.head?.any (·.isWord "default") then rest.drop 1 else rest
      let children := match declared? inside (undecorated rest) with
        | some t => [role .declaration t]
        | Option.none => []
      ([.node .exportStatement children], n)
    else ([(declared? inside own).getD other], n)
  | [] => ([], n)

/-- The readers that reach one level deeper than those inside. -/
def deeper (inside : Outline) : Outline where
  statements := listed (statement inside)
  members := listed (member inside)
  pairs := listed (entry inside)
  enclosed := enclosedIn inside

/-- The readers that reach a number of levels deep. -/
def ofDepth : Nat → Outline
  | 0 => none
  | n + 1 => deeper (ofDepth n)

end Outline

/-- The syntax tree of a source. One that ends inside an expression loses the statement around it. -/
def Tree.ofSource (source : String) : Tree :=
  let (items, isCutOff) := Item.ofTokens (Token.scan source)
  let statements := (Outline.ofDepth (Item.depths items + 1)).statements items
  .node .program ((if isCutOff then statements.dropLast else statements).map Outline.plain)

end TitleLint.Source
