import TitleLint.Proofs.DisplayName.Reading

namespace TitleLint

/-- The first of a list that has a property. -/
def IsFirst {α : Type} (p : α → Prop) (xs : List α) (x : α) : Prop :=
  ∃ before after, xs = before ++ x :: after ∧ p x ∧ ∀ y ∈ before, ¬ p y

theorem IsFirst.holds {α : Type} {p : α → Prop} {xs : List α} {x : α} (h : IsFirst p xs x) : p x := by
  obtain ⟨_, _, _, holds, _⟩ := h
  exact holds

namespace DisplayName

open Source

/-- A pair `displayName: '...'` whose literal stands for the text. -/
structure GivesText (pair : Tree) (text : String) : Prop where
  kind : pair.kind = .pair
  key : pair.part? .key = some (.leaf .propertyIdentifier "displayName")
  value : ∃ raw, pair.part? .value = some (.leaf .string raw) ∧ literal? raw = some text

/-- The first such pair of an object literal decides, and its text must not be empty. -/
def ObjectDeclares (object : Tree) (name : String) : Prop :=
  name ≠ "" ∧ ∃ pair,
    IsFirst (fun entry => ∃ text, GivesText entry text) object.parts pair ∧ GivesText pair name

/-- What is declared has an object literal as its value, perhaps inside wrappers. -/
def HoldsObject (declared object : Tree) : Prop :=
  object.kind = .object ∧ ∃ value, declared.part? .value = some value ∧ value.UnwrapsTo object

def IsClass (t : Tree) : Prop := t.kind = .classDeclaration ∨ t.kind = .abstractClassDeclaration

/-- A field `description` that has an object literal as its value. -/
def IsDescription (t : Tree) : Prop :=
  t.kind = .fieldDefinition ∧ t.isNamed .name "description" = true ∧ ∃ object, HoldsObject t object

def IsConstructor (t : Tree) : Prop :=
  t.kind = .methodDefinition ∧ t.isNamed .name "constructor" = true

def IsVariables (t : Tree) : Prop := t.kind = .lexicalDeclaration ∨ t.kind = .variableDeclaration

/-- How a source declares a name in one of the shapes. -/
inductive Declares (program : Tree) : Shape → String → Prop
  | description {class' field object : Tree} {name : String} :
      IsFirst IsClass (statements program) class' → IsFirst IsDescription (members class') field →
      HoldsObject field object → ObjectDeclares object name → Declares program .description name
  | versionedBase {class' constructor body statement declarator object : Tree} {name : String} :
      IsFirst IsClass (statements program) class' →
      IsFirst IsConstructor (members class') constructor →
      constructor.part? .body = some body → IsFirst IsVariables body.parts statement →
      IsFirst (fun t => t.kind = .variableDeclarator) statement.parts declarator →
      HoldsObject declarator object → ObjectDeclares object name →
      Declares program .versionedBase name
  | versionDescription {declarator object : Tree} {name : String} :
      IsFirst (fun t => t.isNamed .name "versionDescription" = true)
        (((statements program).filter isVariableStatement).flatMap declarators) declarator →
      HoldsObject declarator object → ObjectDeclares object name →
      Declares program .versionDescription name

/-- What is found in a source of a kind. The field of a class comes before its constructor. -/
inductive Finds (program : Tree) : SourceKind → DisplayName → Prop
  | description {name : String} : Declares program .description name →
      Finds program .node ⟨.description, name⟩
  | versionedBase {name : String} : (∀ other, ¬ Declares program .description other) →
      Declares program .versionedBase name → Finds program .node ⟨.versionedBase, name⟩
  | versionDescription {name : String} : Declares program .versionDescription name →
      Finds program .descriptor ⟨.versionDescription, name⟩

section

variable {t program object : Tree} {name text : String}

end

end DisplayName

end TitleLint
