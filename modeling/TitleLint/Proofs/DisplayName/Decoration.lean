import Mathlib.Logic.Relation
import TitleLint.Proofs.DisplayName.Alike

namespace TitleLint.DisplayName

open Source Source.Tree

/-- One layer of parentheses or of a type annotation, with comments, around an expression. -/
inductive Layer (inner : Tree) : Tree → Prop
  | around {kind : Kind} {role : Option Role} (comments rest : List (Option Role × Tree)) :
      kind.isWrapper = true → (∀ c ∈ comments, c.2.isComment = true) →
      Layer inner (.node kind (comments ++ (role, inner) :: rest))

/-- A comment is put into a construct, or a layer is put around an object literal that a field or a
variable begins as, at any depth. -/
inductive DecoratedInside : Tree → Tree → Prop
  | comment {frame : Frame} {c : Tree} : frame.role = none → c.isComment = true →
      DecoratedInside frame.unfilled (frame.fill c)
  | initializer {frame : Frame} {value outer : Tree} :
      frame.kind = .fieldDefinition ∨ frame.kind = .variableDeclarator →
      frame.role = some .value → value.unwrap.kind = .object → Layer value outer →
      DecoratedInside (frame.fill value) (frame.fill outer)
  | deeper {frame : Frame} {s t : Tree} : DecoratedInside s t →
      DecoratedInside (frame.fill s) (frame.fill t)

/-- A source is decorated inside, or one of its classes or variable statements is exported. -/
inductive Decorated : Tree → Tree → Prop
  | inside {s t : Tree} : DecoratedInside s t → Decorated s t
  | exported {frame : Frame} {declaration statement : Tree} :
      isClass declaration = true ∨ isVariableStatement declaration = true →
      statement.kind = .exportStatement → statement.part? .declaration = some declaration →
      Decorated (frame.fill declaration) (frame.fill statement)

/-- A construct that adds nothing where members or statements are read. -/
structure Silent (t : Tree) : Prop where
  description : description? t = none
  constructor : constructor? t = none
  vars : variables? t = none
  statementClass : statementClass? t = none
  statementVariables : statementVariables? t = none

section

variable {frame : Frame} {c value outer s t : Tree}

theorem isComment_of_object (object : value.unwrap.kind = .object) : value.isComment = false := by
  cases comment : value.isComment with
  | false => rfl
  | true =>
    have kind := kind_of_isComment comment
    have bare : value.peel? = none := by simp [peel?, kind, Kind.isWrapper]
    rw [unwrap_of_bare bare, kind] at object
    cases object

theorem Layer.peel?_eq (layer : Layer value outer) (object : value.unwrap.kind = .object) :
    outer.peel? = some value := by
  obtain ⟨comments, rest, wrapper, silent⟩ := layer
  have before : (comments.map (·.2)).filter (!·.isComment) = [] := by
    simp only [List.filter_eq_nil_iff, List.forall_mem_map]
    intro c mem
    simp [silent c mem]
  rw [peel?_eq_some_iff]
  refine ⟨wrapper, ?_⟩
  rw [parts, children, List.map_append, List.filter_append, before, List.nil_append, List.map_cons,
    List.filter_cons_of_pos (by simp [isComment_of_object object]), List.head?_cons]

theorem Layer.object?_eq (layer : Layer value outer) (object : value.unwrap.kind = .object) :
    object? outer = object? value := by
  rw [object?, object?, unwrap_of_peel? (layer.peel?_eq object)]

theorem Silent.of_isComment (comment : c.isComment = true) : Silent c where
  description := description?_of_isComment comment
  constructor := constructor?_of_isComment comment
  vars := variables?_of_isComment comment
  statementClass := statementClass?_of_isComment comment
  statementVariables := statementVariables?_of_isComment comment

theorem Silent.of_kind (kind : t.kind = .object ∨ t.kind.isWrapper = true) : Silent t := by
  have expression : t.kind = .object ∨ t.kind = .parenthesizedExpression ∨ t.kind = .asExpression ∨
      t.kind = .satisfiesExpression := by
    cases own : t.kind <;> simp_all [Kind.isWrapper]
  obtain own | own | own | own := expression <;>
    constructor <;>
      simp [description?, constructor?, variables?, isVariableStatement, statementClass?_eq, class?,
        isClass, statementVariables?_eq, own]

theorem Silent.of_object (object : value.unwrap.kind = .object) : Silent value := by
  cases layer : value.peel? with
  | none => exact .of_kind (.inl (by rwa [unwrap_of_bare layer] at object))
  | some s => exact .of_kind (.inr (peel?_eq_some_iff.mp layer).1)

theorem Silent.children_unfilled (silent : Silent c) :
    AlikeChildren frame.unfilled (frame.fill c) where
  descriptions := (Frame.gather_fill_silent silent.description).symm
  constructors := (Frame.gather_fill_silent silent.constructor).symm
  vars := (Frame.gather_fill_silent silent.vars).symm
  statementClasses := (Frame.gather_fill_silent silent.statementClass).symm
  statementVariables := (Frame.gather_fill_silent silent.statementVariables).symm

theorem Silent.children_fill (before : Silent s) (after : Silent t) :
    AlikeChildren (frame.fill s) (frame.fill t) where
  descriptions := Frame.gather_fill (before.description.trans after.description.symm)
  constructors := Frame.gather_fill (before.constructor.trans after.constructor.symm)
  vars := Frame.gather_fill (before.vars.trans after.vars.symm)
  statementClasses := Frame.gather_fill (before.statementClass.trans after.statementClass.symm)
  statementVariables :=
    Frame.gather_fill (before.statementVariables.trans after.statementVariables.symm)

theorem alike_comment (role : frame.role = none) (comment : c.isComment = true) :
    Alike frame.unfilled (frame.fill c) := by
  have part (r : Role) : frame.unfilled.part? r = (frame.fill c).part? r :=
    (Frame.part?_fill_of_ne (by simp [role])).symm
  have parts : frame.unfilled.parts = (frame.fill c).parts := by
    simp [Frame.fill, Frame.unfilled, Tree.parts, children, comment]
  have entries : frame.unfilled.gather pair? = (frame.fill c).gather pair? :=
    (Frame.gather_fill_silent (pair?_of_isComment comment)).symm
  have declared : frame.unfilled.gather declarator? = (frame.fill c).gather declarator? :=
    (Frame.gather_fill_silent (declarator?_of_isComment comment)).symm
  have object : object? frame.unfilled = object? (frame.fill c) := by
    rw [object?_eq, object?_eq, parts, ofObject?_eq, ofObject?_eq, entries]
    rfl
  have class' : class? frame.unfilled = class? (frame.fill c) := by
    rw [class?, class?, part]
    rfl
  refine .of_parts rfl rfl ?_ object ?_ ?_ declared ?_ class' ?_ ?_ ?_
  · rw [ofPair?, ofPair?, part, part]
  · intro r name
    rw [Tree.isNamed, Tree.isNamed, part]
  · rw [variableOf, variableOf, part, part]
  · intro _
    rw [localsOf, localsOf, part]
  all_goals rw [part]

theorem alike_initializer (holder : frame.kind = .fieldDefinition ∨ frame.kind = .variableDeclarator)
    (role : frame.role = some .value) (same : object? s = object? t) :
    Alike (frame.fill s) (frame.fill t) := by
  have apart : frame.role ≠ some .name := by simp [role]
  refine AddsSame.alike ?_ rfl rfl
  obtain field | declarator := holder
  · simp only [AddsSame, Frame.kind_fill, field]
    rw [description?, description?, Frame.isNamed_fill_of_ne apart,
      Frame.bind_part?_fill fun _ => same]
    rfl
  · have value : ofValue? s = ofValue? t := by rw [ofValue?_eq, ofValue?_eq, same]
    simp only [AddsSame, Frame.kind_fill, declarator]
    rw [variableOf, variableOf, Frame.part?_fill_of_ne apart,
      ← Frame.part?_fill_of_ne (t := t) apart, Frame.bind_part?_fill fun _ => value]

theorem DecoratedInside.alike (h : DecoratedInside s t) : Alike s t ∧ AlikeChildren s t := by
  induction h with
  | comment role comment =>
    exact ⟨alike_comment role comment, (Silent.of_isComment comment).children_unfilled⟩
  | initializer holder role object layer =>
    have outer : Silent _ := .of_kind (.inr (peel?_eq_some_iff.mp (layer.peel?_eq object)).1)
    exact ⟨alike_initializer holder role (layer.object?_eq object).symm,
      (Silent.of_object object).children_fill outer⟩
  | deeper _ ih =>
    obtain ⟨alike, bodies⟩ := ih
    exact ⟨alike.fill fun _ _ => bodies, alike.children_fill⟩

theorem unexported_of_exported {declaration statement : Tree}
    (exported : statement.kind = .exportStatement)
    (holds : statement.part? .declaration = some declaration) :
    unexported statement = declaration := by
  simp [unexported, exported, holds]

theorem unexported_of_declaration {declaration : Tree}
    (own : isClass declaration = true ∨ isVariableStatement declaration = true) :
    unexported declaration = declaration := by
  have plain : (declaration.kind == .exportStatement) = false := by
    cases kind : declaration.kind <;> simp_all [isClass, isVariableStatement]
  simp [unexported, plain]

theorem Decorated.extract?_eq (h : Decorated s t) (kind : SourceKind) :
    extract? kind s = extract? kind t := by
  cases h with
  | inside decorated => exact decorated.alike.2.extract?_eq kind
  | @exported frame declaration statement own exported holds =>
    have same : unexported declaration = unexported statement := by
      rw [unexported_of_declaration own, unexported_of_exported exported holds]
    refine extract?_congr (fun _ => Frame.gather_fill ?_) (fun _ => Frame.gather_fill ?_)
    · rw [statementClass?, statementClass?, same]
    · rw [statementVariables?, statementVariables?, same]

end

/-- Comments, `export` and layers around an object literal make no difference to what is extracted,
and taking off layers ends at an expression that has none, unless one of them is empty. -/
theorem extract?_eq_of_decorated (kind : SourceKind) :
    (∀ program program', Relation.EqvGen Decorated program program' →
      extract? kind program = extract? kind program') ∧
    ∀ t : Tree, t.UnwrapsTo t.unwrap ∧
      ((∀ s, t.PeelsTo s → s.kind.isWrapper = true → s.parts ≠ []) →
        t.unwrap.kind.isWrapper = false) := by
  refine ⟨fun program program' decorated => ?_, fun t => ⟨unwrapsTo_unwrap t, ?_⟩⟩
  · induction decorated with
    | rel _ _ step => exact step.extract?_eq kind
    | refl => rfl
    | symm _ _ _ ih => exact ih.symm
    | trans _ _ _ _ _ first second => exact first.trans second
  · exact isWrapper_unwrap_of_filled

/-- A class that is described by a value. -/
def classDescribedBy (value : Tree) : Tree :=
  .node .classDeclaration [(some .body, .node .classBody [(none, .node .fieldDefinition
    [(some .name, .leaf .propertyIdentifier "description"), (some .value, value)])])]

theorem decorated_classDescribedBy {value outer : Tree} (object : value.unwrap.kind = .object)
    (layer : Layer value outer) : Decorated (.node .program [(none, classDescribedBy value)])
      (.node .program [(none, classDescribedBy outer)]) := by
  have field := @DecoratedInside.initializer ⟨.fieldDefinition,
    [(some .name, .leaf .propertyIdentifier "description")], some .value, []⟩ _ _ (.inl rfl) rfl
    object layer
  have body := @DecoratedInside.deeper ⟨.classBody, [], none, []⟩ _ _ field
  have class' := @DecoratedInside.deeper ⟨.classDeclaration, [], some .body, []⟩ _ _ body
  exact .inside (@DecoratedInside.deeper ⟨.program, [], none, []⟩ _ _ class')

/-- A described class, and the same class with a comment, `export` and two layers. -/
theorem extract?_classDescribedBy :
    let object := Source.Tree.node .object [(none, .node .pair [
      (some .key, .leaf .propertyIdentifier "displayName"), (some .value, .leaf .string "'Slack'")])]
    let comment := (none, Source.Tree.leaf .comment "/* a node */")
    let annotated := Source.Tree.node .asExpression [(none, object), (none, .leaf .other "Description")]
    let enclosed := Source.Tree.node .parenthesizedExpression [comment, (none, annotated)]
    let plain := Source.Tree.node .program [(none, classDescribedBy object)]
    let decorated := Source.Tree.node .program [comment,
      (none, .node .exportStatement [(some .declaration, classDescribedBy enclosed)])]
    extract? .node plain = extract? .node decorated ∧
      extract? .node plain = some ⟨.description, "Slack"⟩ ∧
      enclosed.unwrap.kind.isWrapper = false := by
  intro object comment annotated enclosed plain decorated
  have first := @decorated_classDescribedBy object annotated rfl
    (.around [] [(none, .leaf .other "Description")] rfl nofun)
  have second := @decorated_classDescribedBy annotated enclosed rfl
    (.around [comment] [] rfl (by simp [comment, isComment, Tree.kind]))
  have third := @Decorated.exported ⟨.program, [], none, []⟩ (classDescribedBy enclosed)
    (.node .exportStatement [(some .declaration, classDescribedBy enclosed)]) (.inl rfl) rfl rfl
  have fourth := @DecoratedInside.comment ⟨.program, [], none,
    [(none, .node .exportStatement [(some .declaration, classDescribedBy enclosed)])]⟩ comment.2 rfl rfl
  have steps : Relation.EqvGen Decorated plain decorated :=
    .trans _ _ _ (.rel _ _ first) (.trans _ _ _ (.rel _ _ second)
      (.trans _ _ _ (.rel _ _ third) (.rel _ _ (.inside fourth))))
  have filled (s : Tree) (reached : enclosed.PeelsTo s) (wrapper : s.kind.isWrapper = true) :
      s.parts ≠ [] := by
    obtain rfl | ⟨_, ⟨⟩, reached⟩ := Relation.ReflTransGen.cases_head reached
    · exact List.cons_ne_nil annotated []
    obtain rfl | ⟨_, ⟨⟩, reached⟩ := Relation.ReflTransGen.cases_head reached
    · exact List.cons_ne_nil object _
    obtain rfl | ⟨_, ⟨⟩, _⟩ := Relation.ReflTransGen.cases_head reached
    cases wrapper
  obtain ⟨same, ends⟩ := extract?_eq_of_decorated .node
  exact ⟨same plain decorated steps, by decide +kernel, (ends enclosed).2 filled⟩

end TitleLint.DisplayName
