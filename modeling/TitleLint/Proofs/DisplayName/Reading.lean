import TitleLint.DisplayName
import TitleLint.Proofs.Source.Children
import TitleLint.Proofs.Source.Unwrap

/-!
What each construct of a source adds to its display name. The name is read from these contributions
alone, so two sources whose constructs contribute the same have the same name.
-/

namespace TitleLint.DisplayName

open Source

def isNameKey (t : Tree) : Bool := t.kind == .propertyIdentifier && t.text? == some "displayName"

def stringText? (t : Tree) : Option String :=
  if t.kind = .string then t.text?.bind literal? else none

/-- The name that an entry of an object literal gives. -/
def pair? (t : Tree) : Option String := if t.kind == .pair then ofPair? t else none

/-- The name in the object literal that an expression is, wrappers aside. -/
def object? (t : Tree) : Option (Option String) :=
  if t.unwrap.kind == .object then some (ofObject? t.unwrap) else none

structure VariableReading where
  name : Option String
  /-- The name that the object literal gives that it begins as. -/
  value : Option String

def variableOf (t : Tree) : VariableReading :=
  ⟨(t.part? .name).bind Tree.text?, (t.part? .value).bind ofValue?⟩

def declarator? (t : Tree) : Option VariableReading :=
  if t.kind == .variableDeclarator then some (variableOf t) else none

def variables? (t : Tree) : Option (List VariableReading) :=
  if isVariableStatement t then some (t.gather declarator?) else none

/-- What a member gives as a field `description` that holds an object literal. -/
def description? (t : Tree) : Option (Option String) :=
  if t.kind == .fieldDefinition && t.isNamed .name "description" then (t.part? .value).bind object?
  else none

/-- The variables that a method declares first. -/
def localsOf (t : Tree) : List VariableReading :=
  ((t.part? .body).bind fun body => (body.gather variables?).head?).getD []

def constructor? (t : Tree) : Option (List VariableReading) :=
  if t.kind == .methodDefinition && t.isNamed .name "constructor" then some (localsOf t) else none

structure ClassReading where
  descriptions : List (Option String)
  constructors : List (List VariableReading)

def isClass (t : Tree) : Bool := t.kind == .classDeclaration || t.kind == .abstractClassDeclaration

def class? (t : Tree) : Option ClassReading :=
  if isClass t then
    some ⟨((t.part? .body).map (·.gather description?)).getD [],
      ((t.part? .body).map (·.gather constructor?)).getD []⟩
  else none

/-- A statement without `export` before it. -/
def unexported (t : Tree) : Tree :=
  if t.kind == .exportStatement then (t.part? .declaration).getD t else t

def statementClass? (t : Tree) : Option ClassReading := class? (unexported t)

def statementVariables? (t : Tree) : Option (List VariableReading) := variables? (unexported t)

section

variable {α β γ : Type}

theorem bind_find? (p : α → Bool) (v : α → β) (h : β → Option γ) (l : List α) :
    ((l.find? p).bind fun x => h (v x)) =
      (l.filterMap fun x => if p x then some (v x) else none).head?.bind h := by
  induction l with
  | nil => rfl
  | cons x xs ih => cases holds : p x <;> simp [holds, ih]

theorem flatMap_filter (p : α → Bool) (f : α → List β) (l : List α) :
    (l.filter p).flatMap f = (l.filterMap fun x => if p x then some (f x) else none).flatten := by
  induction l with
  | nil => rfl
  | cons x xs ih => cases holds : p x <;> simp [holds, ih]

end

section

variable {t : Tree}

theorem kind_of_isComment (h : t.isComment = true) : t.kind = .comment := by
  simpa [Tree.isComment] using h

theorem pair?_of_isComment (h : t.isComment = true) : pair? t = none := by
  simp [pair?, kind_of_isComment h]

theorem declarator?_of_isComment (h : t.isComment = true) : declarator? t = none := by
  simp [declarator?, kind_of_isComment h]

theorem variables?_of_isComment (h : t.isComment = true) : variables? t = none := by
  simp [variables?, isVariableStatement, kind_of_isComment h]

theorem description?_of_isComment (h : t.isComment = true) : description? t = none := by
  simp [description?, kind_of_isComment h]

theorem constructor?_of_isComment (h : t.isComment = true) : constructor? t = none := by
  simp [constructor?, kind_of_isComment h]

theorem unexported_of_isComment (h : t.isComment = true) : unexported t = t := by
  simp [unexported, kind_of_isComment h]

theorem statementClass?_of_isComment (h : t.isComment = true) : statementClass? t = none := by
  simp [statementClass?, unexported_of_isComment h, class?, isClass, kind_of_isComment h]

theorem statementVariables?_of_isComment (h : t.isComment = true) :
    statementVariables? t = none := by
  rw [statementVariables?, unexported_of_isComment h, variables?_of_isComment h]

theorem statementClass?_eq (t : Tree) : statementClass? t =
    if t.kind == .exportStatement then (t.part? .declaration).bind class? else class? t := by
  by_cases exported : t.kind = .exportStatement
  · cases declared : t.part? .declaration <;>
      simp [statementClass?, unexported, class?, isClass, exported, declared]
  · simp [statementClass?, unexported, exported]

theorem statementVariables?_eq (t : Tree) : statementVariables? t =
    if t.kind == .exportStatement then (t.part? .declaration).bind variables? else variables? t := by
  by_cases exported : t.kind = .exportStatement
  · cases declared : t.part? .declaration <;>
      simp [statementVariables?, unexported, variables?, isVariableStatement, exported, declared]
  · simp [statementVariables?, unexported, exported]

theorem ofPair?_eq (t : Tree) : ofPair? t =
    if (t.part? .key).map isNameKey = some true then (t.part? .value).bind stringText? else none := by
  have isKey (key : Tree) :
      isNameKey key = true ↔ key = .leaf .propertyIdentifier "displayName" := by
    cases key <;> simp [isNameKey, Tree.kind, Tree.text?]
  unfold ofPair?
  split
  next raw key value => simp [key, value, isNameKey, stringText?, Tree.kind, Tree.text?]
  next other =>
    split
    next found =>
      obtain ⟨key, at', name⟩ := Option.map_eq_some_iff.mp found
      rw [(isKey key).mp name] at at'
      cases value : t.part? .value with
      | none => rfl
      | some v =>
        cases v with
        | node => simp [stringText?, Tree.text?]
        | leaf kind text =>
          have noString : kind ≠ .string := by
            rintro rfl
            exact other text at' value
          simp [stringText?, Tree.kind, noString]
    next => rfl

theorem ofObject?_eq (t : Tree) : ofObject? t = (t.gather pair?).head?.filter (· ≠ "") := by
  have all : (t.parts.filter (·.kind == .pair)).filterMap ofPair? = t.gather pair? := by
    rw [List.filterMap_filter, ← Tree.filterMap_parts fun _ => pair?_of_isComment]
    rfl
  rw [ofObject?, ← List.head?_filterMap, all]

/-- A wrapper is what it holds first. -/
theorem object?_eq (t : Tree) : object? t =
    if t.kind.isWrapper then t.parts.head?.bind object?
    else if t.kind == .object then some (ofObject? t) else none := by
  cases layer : t.peel? with
  | some s =>
    obtain ⟨wrapper, first⟩ := Tree.peel?_eq_some_iff.mp layer
    rw [if_pos wrapper, first]
    simp only [object?, Tree.unwrap_of_peel? layer, Option.bind_some]
  | none =>
    rw [object?, Tree.unwrap_of_bare layer]
    by_cases wrapper : t.kind.isWrapper = true
    · have empty : t.parts.head? = none := by simpa [Tree.peel?, wrapper] using layer
      have noObject : (t.kind == .object) = false := by
        cases kind : t.kind <;> simp [kind, Kind.isWrapper] at wrapper ⊢
      rw [noObject, if_pos wrapper, empty]
      rfl
    · rw [if_neg wrapper]

theorem ofValue?_eq (t : Tree) : ofValue? t = (object? t).join := by
  by_cases object : t.unwrap.kind = .object <;> simp [ofValue?, object?, object]

theorem filterMap_members {α : Type} {f : Tree → Option α}
    (silent : ∀ c, c.isComment = true → f c = none) (t : Tree) :
    (members t).filterMap f = ((t.part? .body).map (·.gather f)).getD [] := by
  rw [members]
  cases t.part? .body with
  | none => rfl
  | some body => exact Tree.filterMap_parts silent body

theorem filterMap_statements {α : Type} {f : Tree → Option α}
    (silent : ∀ c, c.isComment = true → f (unexported c) = none) (program : Tree) :
    (statements program).filterMap f = program.gather fun s => f (unexported s) := by
  rw [← Tree.filterMap_parts silent, statements, List.filterMap_map]
  rfl

theorem class?_eq (t : Tree) : class? t =
    if isClass t then
      some ⟨(members t).filterMap description?, (members t).filterMap constructor?⟩
    else none := by
  rw [class?, filterMap_members fun _ => description?_of_isComment,
    filterMap_members fun _ => constructor?_of_isComment]

theorem bind_firstClass? {γ : Type} (h : ClassReading → Option γ) (program : Tree) :
    ((firstClass? program).bind fun c => h ⟨(members c).filterMap description?,
      (members c).filterMap constructor?⟩) = (program.gather statementClass?).head?.bind h := by
  have all := filterMap_statements (f := class?) (fun _ => statementClass?_of_isComment) program
  have first := bind_find? isClass
    (fun c => ⟨(members c).filterMap description?, (members c).filterMap constructor?⟩) h
    (statements program)
  simp only [← class?_eq] at first
  rw [all] at first
  exact first

theorem ofDescription?_eq (program : Tree) : ofDescription? program =
    (program.gather statementClass?).head?.bind fun c => c.descriptions.head?.join := by
  rw [← bind_firstClass?]
  refine Option.bind_congr fun c _ => ?_
  let fields := (members c).filter fun m => m.kind == .fieldDefinition && m.isNamed .name "description"
  have given (m : Tree) : (((m.part? .value).map Tree.unwrap).bind fun o =>
      if o.kind == .object then some (ofObject? o) else none) = (m.part? .value).bind object? := by
    rw [Option.bind_map]
    rfl
  have listed : (fields.filterMap fun m => (m.part? .value).bind object?) =
      (members c).filterMap description? := List.filterMap_filter
  have found := bind_find? (·.kind == .object) ofObject? id
    (fields.filterMap fun m => (m.part? .value).map Tree.unwrap)
  rw [List.filterMap_filterMap] at found
  simp only [given, listed] at found
  exact found

theorem bind_declarators (t : Tree) :
    ((declarators t).head?.bind fun d => (d.part? .value).bind ofValue?) =
      (t.gather declarator?).head?.bind (·.value) := by
  rw [← Tree.filterMap_parts fun _ => declarator?_of_isComment, declarators, List.head?_filter]
  exact bind_find? (·.kind == .variableDeclarator) variableOf VariableReading.value t.parts

theorem bind_variables (t : Tree) :
    ((t.parts.find? isVariableStatement).bind fun s =>
      (declarators s).head?.bind fun d => (d.part? .value).bind ofValue?) =
        (t.gather variables?).head?.bind fun vs => vs.head?.bind (·.value) := by
  simp only [bind_declarators]
  rw [← Tree.filterMap_parts fun _ => variables?_of_isComment]
  exact bind_find? isVariableStatement (Tree.gather declarator?)
    (fun vs => vs.head?.bind VariableReading.value) t.parts

theorem ofConstructor?_eq (program : Tree) : ofConstructor? program =
    (program.gather statementClass?).head?.bind fun c =>
      c.constructors.head?.bind fun vs => vs.head?.bind (·.value) := by
  have locals (m : Tree) : ((m.part? .body).bind fun body =>
      (body.parts.find? isVariableStatement).bind fun s =>
        (declarators s).head?.bind fun d => (d.part? .value).bind ofValue?) =
          (localsOf m).head?.bind (·.value) := by
    simp only [bind_variables, localsOf]
    cases m.part? .body with
    | none => rfl
    | some body => cases h : (body.gather variables?).head? <;> simp [h]
  rw [← bind_firstClass?]
  refine Option.bind_congr fun c _ => ?_
  have found := bind_find? (fun m => m.kind == .methodDefinition && m.isNamed .name "constructor")
    localsOf (fun vs => vs.head?.bind VariableReading.value) (members c)
  simp only [← locals] at found
  exact found

theorem ofVersionDescription?_eq (program : Tree) : ofVersionDescription? program =
    ((program.gather statementVariables?).flatten.find?
      fun v => v.name == some "versionDescription").bind (·.value) := by
  have declared (s : Tree) : (declarators s).map variableOf = s.gather declarator? := by
    rw [← Tree.filterMap_parts fun _ => declarator?_of_isComment, declarators, ← List.filterMap_eq_map,
      List.filterMap_filter]
    rfl
  have all : (((statements program).filter isVariableStatement).flatMap declarators).map variableOf =
      (program.gather statementVariables?).flatten := by
    simp only [List.map_flatMap, declared]
    rw [flatMap_filter]
    exact congrArg List.flatten
      (filterMap_statements (f := variables?) (fun _ => statementVariables?_of_isComment) program)
  rw [← all, List.find?_map, Option.bind_map]
  rfl

end

end TitleLint.DisplayName
