import Mathlib.Logic.Relation
import TitleLint.Proofs.DisplayName.Alike

namespace TitleLint.DisplayName

open Source Source.Tree

/-- What may stand as the body of a class or of a method. -/
def isBody (kind : Kind) : Bool :=
  !(kind == .pair || kind == .object || kind == .fieldDefinition || kind == .methodDefinition)

/-- A part of a construct, where the name of a node cannot stand, is written in another way. -/
inductive Rewritten : Tree → Tree → Prop
  /-- The value of a pair with another key. -/
  | pairValue {frame : Frame} (old new : Tree) : frame.kind = .pair → frame.role = some .value →
      (frame.fill old).part? .key ≠ some (.leaf .propertyIdentifier "displayName") →
      Rewritten (frame.fill old) (frame.fill new)
  /-- A spread, a method or whatever else an object literal holds besides pairs. -/
  | entry {frame : Frame} {old new : Tree} : frame.kind = .object → old.kind ≠ .pair →
      new.kind ≠ .pair → Rewritten (frame.fill old) (frame.fill new)
  | fieldValue {frame : Frame} (old new : Tree) : frame.kind = .fieldDefinition →
      frame.role = some .value → (frame.fill old).isNamed .name "description" = false →
      Rewritten (frame.fill old) (frame.fill new)
  | methodBody {frame : Frame} (old new : Tree) : frame.kind = .methodDefinition →
      frame.role = some .body → (frame.fill old).isNamed .name "constructor" = false →
      Rewritten (frame.fill old) (frame.fill new)
  /-- All that follows the first variables of a method. -/
  | laterStatements {frame : Frame} {kind : Kind} {before : List (Option Role × Tree)}
      {vars : Option Role × Tree} (old new : List (Option Role × Tree)) :
      frame.kind = .methodDefinition → frame.role = some .body →
      isVariableStatement vars.2 = true →
      Rewritten (frame.fill (.node kind (before ++ vars :: old)))
        (frame.fill (.node kind (before ++ vars :: new)))

/-- Such a part is written in another way at any depth. No object literal, and none of its entries
and no member of a class, is the body of a class or of a method. -/
inductive RewrittenInside : Tree → Tree → Prop
  | here {s t : Tree} : Rewritten s t → RewrittenInside s t
  | deeper {frame : Frame} {s t : Tree} : RewrittenInside s t →
      (isRead frame.kind = true → frame.role = some .body → isBody s.kind = true) →
      RewrittenInside (frame.fill s) (frame.fill t)

/-- Whether a source of a kind has its name in such a statement, be it exported or not. -/
def concerns (kind : SourceKind) (statement : Tree) : Bool :=
  match kind with
  | .node => isClass (unexported statement)
  | .descriptor => isVariableStatement (unexported statement)

/-- A source of a kind is written in another way at one place, where the name of the node cannot
stand. -/
inductive RewrittenSource (kind : SourceKind) : Tree → Tree → Prop
  | statement {frame : Frame} {old new : Tree} : concerns kind old = false →
      concerns kind new = false → RewrittenSource kind (frame.fill old) (frame.fill new)
  | inside {frame : Frame} {s t : Tree} : RewrittenInside s t →
      RewrittenSource kind (frame.fill s) (frame.fill t)

section

variable {frame : Frame} {old new s t : Tree} {kind : SourceKind}

theorem ofPair?_of_key_ne (other : t.part? .key ≠ some (.leaf .propertyIdentifier "displayName")) :
    ofPair? t = none := by
  unfold ofPair?
  split
  next key _ => exact absurd key other
  next => rfl

theorem pair?_of_kind_ne (other : t.kind ≠ .pair) : pair? t = none := by
  rw [pair?, if_neg (by simpa using other)]

/-- Only the first variables of a body are looked at. -/
theorem gather_head?_of_variables {kind : Kind} {before rest others : List (Option Role × Tree)}
    {vars : Option Role × Tree} (declares : isVariableStatement vars.2 = true) :
    ((Source.Tree.node kind (before ++ vars :: rest)).gather variables?).head? =
      ((Source.Tree.node kind (before ++ vars :: others)).gather variables?).head? := by
  have told : variables? vars.2 = some (vars.2.gather declarator?) := if_pos declares
  simp only [gather, children, List.filterMap_append, List.filterMap_cons, told, List.head?_append,
    List.head?_cons]

theorem Rewritten.addsSame (h : Rewritten s t) : AddsSame s t := by
  cases h with
  | @pairValue frame old new pair value other =>
    have apart : frame.role ≠ some .key := by simp [value]
    have other' : (frame.fill new).part? .key ≠ some (.leaf .propertyIdentifier "displayName") := by
      rwa [Frame.part?_fill_of_ne apart, ← Frame.part?_fill_of_ne (t := old) apart]
    simp only [AddsSame, Frame.kind_fill, pair]
    rw [ofPair?_of_key_ne other, ofPair?_of_key_ne other']
  | @entry frame old new object oldOther newOther =>
    have silent : pair? old = pair? new := by
      rw [pair?_of_kind_ne oldOther, pair?_of_kind_ne newOther]
    simp only [AddsSame, Frame.kind_fill, object]
    rw [ofObject?_eq, ofObject?_eq, Frame.gather_fill silent]
  | @fieldValue frame old new field value other =>
    have apart : frame.role ≠ some .name := by simp [value]
    have other' : (frame.fill new).isNamed .name "description" = false := by
      rw [Frame.isNamed_fill_of_ne apart, other]
    simp only [AddsSame, Frame.kind_fill, field]
    simp [description?, other, other']
  | @methodBody frame old new method body other =>
    have apart : frame.role ≠ some .name := by simp [body]
    have other' : (frame.fill new).isNamed .name "constructor" = false := by
      rw [Frame.isNamed_fill_of_ne apart, other]
    simp only [AddsSame, Frame.kind_fill, method]
    simp [constructor?, other, other']
  | @laterStatements frame _ _ _ old new method body declares =>
    have apart : frame.role ≠ some .name := by simp [body]
    simp only [AddsSame, Frame.kind_fill, method]
    rw [constructor?, constructor?, Frame.isNamed_fill_of_ne apart, localsOf, localsOf,
      Frame.bind_part?_fill fun _ => gather_head?_of_variables declares]
    rfl

theorem Rewritten.kind_eq (h : Rewritten s t) : s.kind = t.kind := by
  cases h <;> rfl

theorem Rewritten.text?_eq (h : Rewritten s t) : s.text? = t.text? := by
  cases h <;> rfl

theorem Rewritten.not_isBody (h : Rewritten s t) : isBody s.kind = false := by
  cases h with
  | pairValue _ _ own | entry own | fieldValue _ _ own | methodBody _ _ own
  | laterStatements _ _ own => simp [isBody, own]

theorem RewrittenInside.alike (h : RewrittenInside s t) :
    Alike s t ∧ (isBody s.kind = true → AlikeChildren s t) := by
  induction h with
  | here written =>
    have alike := written.addsSame.alike written.kind_eq written.text?_eq
    refine ⟨alike, fun body => ?_⟩
    rw [written.not_isBody] at body
    cases body
  | deeper inside body ih =>
    obtain ⟨alike, bodies⟩ := ih
    exact ⟨alike.fill fun read role => bodies (body read role), fun _ => alike.children_fill⟩

theorem RewrittenSource.extract?_eq (h : RewrittenSource kind s t) :
    extract? kind s = extract? kind t := by
  cases h with
  | @statement frame old new oldOther newOther =>
    refine extract?_congr (fun node => ?_) (fun descriptor => ?_)
    · subst node
      have silent : statementClass? old = statementClass? new := by
        simp only [concerns] at oldOther newOther
        simp [statementClass?, class?, oldOther, newOther]
      exact Frame.gather_fill silent
    · subst descriptor
      have silent : statementVariables? old = statementVariables? new := by
        simp only [concerns] at oldOther newOther
        simp [statementVariables?, variables?, oldOther, newOther]
      exact Frame.gather_fill silent
  | inside written => exact written.alike.1.children_fill.extract?_eq kind

end

/-- Only the own name of a node is picked up: whatever names are written elsewhere in its source, the
same is extracted. -/
theorem extract?_eq_of_rewritten {kind : SourceKind} {program program' : Tree}
    (written : Relation.ReflTransGen (RewrittenSource kind) program program') :
    extract? kind program = extract? kind program' := by
  induction written with
  | refl => rfl
  | tail _ last ih => exact ih.trans last.extract?_eq

/-- A node with a name and with properties in its description, after another statement. -/
def describedNode (first properties : Tree) : Tree :=
  .node .program [(none, first), (none, .node .classDeclaration [(some .body, .node .classBody [
    (none, .node .fieldDefinition [(some .name, .leaf .propertyIdentifier "description"),
      (some .value, .node .object [
        (none, .node .pair [(some .key, .leaf .propertyIdentifier "displayName"),
          (some .value, .leaf .string "'Slack'")]),
        (none, .node .pair [(some .key, .leaf .propertyIdentifier "properties"),
          (some .value, properties)])])])])])]

theorem rewritten_describedNode (first last old new : Tree) (before : concerns .node first = false)
    (after : concerns .node last = false) :
    Relation.ReflTransGen (RewrittenSource .node) (describedNode first old)
      (describedNode last new) := by
  have pair : RewrittenInside
      (.node .pair [(some .key, .leaf .propertyIdentifier "properties"), (some .value, old)])
      (.node .pair [(some .key, .leaf .propertyIdentifier "properties"), (some .value, new)]) :=
    .here (@Rewritten.pairValue ⟨.pair, [(some .key, .leaf .propertyIdentifier "properties")],
      some .value, []⟩ old new rfl rfl (by simp [Frame.fill, part?, children]))
  have object := @RewrittenInside.deeper ⟨.object, [(none, .node .pair [
    (some .key, .leaf .propertyIdentifier "displayName"), (some .value, .leaf .string "'Slack'")])],
    none, []⟩ _ _ pair
    fun read => absurd read (by decide)
  have field := @RewrittenInside.deeper ⟨.fieldDefinition,
    [(some .name, .leaf .propertyIdentifier "description")], some .value, []⟩ _ _ object
    fun read => absurd read (by decide)
  have body := @RewrittenInside.deeper ⟨.classBody, [], none, []⟩ _ _ field
    fun read => absurd read (by decide)
  have class' := @RewrittenInside.deeper ⟨.classDeclaration, [], some .body, []⟩ _ _ body
    fun _ _ => rfl
  have properties : RewrittenSource .node (describedNode first old) (describedNode first new) :=
    @RewrittenSource.inside _ ⟨.program, [(none, first)], none, []⟩ _ _ class'
  have statement : RewrittenSource .node (describedNode first new) (describedNode last new) :=
    @RewrittenSource.statement _ ⟨.program, [], none, _⟩ _ _ before after
  exact .tail (.single properties) statement

/-- The names of properties, and those in other statements, are not that of the node. -/
theorem extract?_describedNode :
    let other := Source.Tree.node .object [(none, .node .pair [
      (some .key, .leaf .propertyIdentifier "displayName"), (some .value, .leaf .string "'Channel'")])]
    concerns .node other = false ∧
      extract? .node (describedNode (.leaf .other ";") (.leaf .other "[]")) =
        extract? .node (describedNode other other) ∧
      extract? .node (describedNode other other) = some ⟨.description, "Slack"⟩ :=
  ⟨by decide, extract?_eq_of_rewritten (rewritten_describedNode _ _ _ _ (by decide) (by decide)),
    by decide +kernel⟩

end TitleLint.DisplayName
