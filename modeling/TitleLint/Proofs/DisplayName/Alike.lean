import TitleLint.Proofs.DisplayName.Reading

namespace TitleLint.DisplayName

open Source Source.Tree

/-- Two constructs that add the same to the display name, wherever in a source they stand. -/
structure Alike (s t : Tree) : Prop where
  kind : s.kind = t.kind
  text : s.text? = t.text?
  pair : pair? s = pair? t
  object : object? s = object? t
  declarator : declarator? s = declarator? t
  vars : variables? s = variables? t
  description : description? s = description? t
  constructor : constructor? s = constructor? t
  class' : class? s = class? t
  statementClass : statementClass? s = statementClass? t
  statementVariables : statementVariables? s = statementVariables? t

/-- Two constructs whose children add the same, as those of a body or of a whole source do. -/
structure AlikeChildren (s t : Tree) : Prop where
  descriptions : s.gather description? = t.gather description?
  constructors : s.gather constructor? = t.gather constructor?
  vars : s.gather variables? = t.gather variables?
  statementClasses : s.gather statementClass? = t.gather statementClass?
  statementVariables : s.gather statementVariables? = t.gather statementVariables?

/-- Constructs of these kinds add to the name in a single way, and add the same. -/
def AddsSame (s t : Tree) : Prop :=
  match s.kind with
  | .pair => ofPair? s = ofPair? t
  | .object => ofObject? s = ofObject? t
  | .fieldDefinition => description? s = description? t
  | .methodDefinition => constructor? s = constructor? t
  | .variableDeclarator => variableOf s = variableOf t
  | _ => False

/-- Classes and methods are read through their bodies. -/
def isRead (kind : Kind) : Bool :=
  kind == .classDeclaration || kind == .abstractClassDeclaration || kind == .methodDefinition

section

variable {s t : Tree} {frame : Frame} {role : Role}

theorem AddsSame.alike (h : AddsSame s t) (kind : s.kind = t.kind) (text : s.text? = t.text?) :
    Alike s t := by
  unfold AddsSame at h
  split at h
  -- The last case is that of the other kinds.
  rotate_right
  next => exact h.elim
  all_goals
    rename_i own
    have own' := kind.symm.trans own
    constructor
    all_goals
      first
      | exact h
      | simp [pair?, object?_eq, declarator?, variables?, isVariableStatement, description?,
          constructor?, class?, isClass, statementClass?_eq, statementVariables?_eq, Kind.isWrapper,
          own, own', h, text]

/-- Constructs of one kind are alike if what is read of their parts is the same. -/
theorem Alike.of_parts (kind : s.kind = t.kind) (text : s.text? = t.text?)
    (pair : ofPair? s = ofPair? t) (object : object? s = object? t)
    (named : ∀ role name, s.isNamed role name = t.isNamed role name)
    (variable' : variableOf s = variableOf t) (declared : s.gather declarator? = t.gather declarator?)
    (locals : s.kind = .methodDefinition → localsOf s = localsOf t) (class' : class? s = class? t)
    (value : (s.part? .value).bind object? = (t.part? .value).bind object?)
    (exportedClass : (s.part? .declaration).bind class? = (t.part? .declaration).bind class?)
    (exportedVariables :
      (s.part? .declaration).bind variables? = (t.part? .declaration).bind variables?) :
    Alike s t := by
  have vars : variables? s = variables? t := by
    rw [variables?, variables?, isVariableStatement, isVariableStatement, kind, declared]
  have constructor' : constructor? s = constructor? t := by
    by_cases method : s.kind = .methodDefinition
    · rw [constructor?, constructor?, kind, named, locals method]
    · have method' : t.kind ≠ .methodDefinition := kind ▸ method
      simp [constructor?, method, method']
  exact {
    kind, text, object, vars, class'
    pair := by rw [pair?, pair?, kind, pair]
    declarator := by rw [declarator?, declarator?, kind, variable']
    description := by rw [description?, description?, kind, named, value]
    constructor := constructor'
    statementClass := by
      rw [statementClass?_eq, statementClass?_eq, kind, exportedClass, class']
    statementVariables := by
      rw [statementVariables?_eq, statementVariables?_eq, kind, exportedVariables, vars] }

theorem Alike.isNameKey_eq (h : Alike s t) : isNameKey s = isNameKey t := by
  rw [isNameKey, isNameKey, h.kind, h.text]

theorem Alike.stringText?_eq (h : Alike s t) : stringText? s = stringText? t := by
  rw [stringText?, stringText?, h.kind, h.text]

theorem Alike.isComment_eq (h : Alike s t) : s.isComment = t.isComment := by
  rw [Tree.isComment, Tree.isComment, h.kind]

theorem Alike.ofValue?_eq (h : Alike s t) : ofValue? s = ofValue? t := by
  rw [DisplayName.ofValue?_eq, DisplayName.ofValue?_eq, h.object]

theorem Alike.children_fill (h : Alike s t) : AlikeChildren (frame.fill s) (frame.fill t) where
  descriptions := Frame.gather_fill h.description
  constructors := Frame.gather_fill h.constructor
  vars := Frame.gather_fill h.vars
  statementClasses := Frame.gather_fill h.statementClass
  statementVariables := Frame.gather_fill h.statementVariables

theorem Alike.ofPair?_fill (h : Alike s t) : ofPair? (frame.fill s) = ofPair? (frame.fill t) := by
  rw [ofPair?_eq, ofPair?_eq, Frame.map_part?_fill fun _ => h.isNameKey_eq,
    Frame.bind_part?_fill fun _ => h.stringText?_eq]

theorem Alike.object?_fill (h : Alike s t) : object? (frame.fill s) = object? (frame.fill t) := by
  rw [object?_eq, object?_eq, Frame.bind_head?_parts_fill h.isComment_eq h.object,
    ofObject?_eq, ofObject?_eq, Frame.gather_fill h.pair]
  rfl

theorem Alike.isNamed_fill (h : Alike s t) (name : String) :
    (frame.fill s).isNamed role name = (frame.fill t).isNamed role name := by
  rw [Tree.isNamed, Tree.isNamed, Frame.bind_part?_fill fun _ => h.text]

theorem Alike.variableOf_fill (h : Alike s t) :
    variableOf (frame.fill s) = variableOf (frame.fill t) := by
  rw [variableOf, variableOf, Frame.bind_part?_fill fun _ => h.text,
    Frame.bind_part?_fill fun _ => h.ofValue?_eq]

theorem localsOf_fill (body : frame.role = some .body → AlikeChildren s t) :
    localsOf (frame.fill s) = localsOf (frame.fill t) := by
  rw [localsOf, localsOf,
    Frame.bind_part?_fill fun own => congrArg List.head? (body own).vars]

theorem class?_fill (body : isRead frame.kind = true → frame.role = some .body → AlikeChildren s t) :
    class? (frame.fill s) = class? (frame.fill t) := by
  by_cases own : isClass (frame.fill s) = true
  · have read : isRead frame.kind = true := Bool.or_eq_true_iff.mpr (.inl own)
    rw [class?, class?, Frame.map_part?_fill fun at' => (body read at').descriptions,
      Frame.map_part?_fill fun at' => (body read at').constructors]
    rfl
  · have own' : ¬ isClass (frame.fill t) = true := own
    rw [class?, class?, if_neg own, if_neg own']

/-- Where one construct stands for another that is alike, the construct around it stays alike. The
bodies of classes and methods are read in a way of their own. -/
theorem Alike.fill (h : Alike s t)
    (body : isRead frame.kind = true → frame.role = some .body → AlikeChildren s t) :
    Alike (frame.fill s) (frame.fill t) := by
  refine .of_parts rfl rfl h.ofPair?_fill h.object?_fill (fun _ => h.isNamed_fill)
    h.variableOf_fill (Frame.gather_fill h.declarator) ?_ (class?_fill body)
    (Frame.bind_part?_fill fun _ => h.object) (Frame.bind_part?_fill fun _ => h.class')
    (Frame.bind_part?_fill fun _ => h.vars)
  intro method
  have read : isRead frame.kind = true := Bool.or_eq_true_iff.mpr (.inr (beq_iff_eq.mpr method))
  exact localsOf_fill (body read)

/-- The name of a source depends on what its statements add in the way that its kind asks for. -/
theorem extract?_congr {kind : SourceKind} {p q : Tree}
    (classes : kind = .node → p.gather statementClass? = q.gather statementClass?)
    (vars : kind = .descriptor → p.gather statementVariables? = q.gather statementVariables?) :
    extract? kind p = extract? kind q := by
  cases kind with
  | node =>
    simp only [extract?, SourceKind.shapes, List.findSome?_cons, List.findSome?_nil, ofShape?,
      ofDescription?_eq, ofConstructor?_eq, classes rfl]
  | descriptor =>
    simp only [extract?, SourceKind.shapes, List.findSome?_cons, List.findSome?_nil, ofShape?,
      ofVersionDescription?_eq, vars rfl]

theorem AlikeChildren.extract?_eq (h : AlikeChildren s t) (kind : SourceKind) :
    extract? kind s = extract? kind t :=
  extract?_congr (fun _ => h.statementClasses) (fun _ => h.statementVariables)

end

end TitleLint.DisplayName
