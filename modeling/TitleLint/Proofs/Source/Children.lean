import TitleLint.Source.Tree

namespace TitleLint.Source.Tree

/-- What the children tell, in their order. -/
def gather {α : Type} (f : Tree → Option α) (t : Tree) : List α :=
  t.children.filterMap fun child => f child.2

section

variable {α : Type} {f : Tree → Option α}

theorem bind_eq_join_map {β : Type} (x : Option β) (g : β → Option α) :
    x.bind g = (x.map g).join := by
  cases x <;> rfl

theorem filterMap_parts (silent : ∀ c, c.isComment = true → f c = none) (t : Tree) :
    t.parts.filterMap f = t.gather f := by
  rw [parts, List.filterMap_filter, List.filterMap_map, gather]
  congr 1
  funext child
  cases comment : child.2.isComment with
  | true => simp [comment, silent child.2 comment]
  | false => simp [comment]

/-- What the first child tells that is not a comment. -/
theorem bind_head?_parts (f : Tree → Option α) (t : Tree) :
    t.parts.head?.bind f =
      (t.gather fun c => if c.isComment then none else some (f c)).head?.join := by
  have told : t.parts.map f = t.gather fun c => if c.isComment then none else some (f c) := by
    rw [← filterMap_parts fun c comment => if_pos comment]
    rw [parts, List.filterMap_filter, ← List.filterMap_eq_map, List.filterMap_filter]
    congr 1
    funext c
    cases c.isComment <;> rfl
  rw [← told, List.head?_map, bind_eq_join_map]

end

/-- A construct without one of its children. -/
structure Frame where
  kind : Kind
  before : List (Option Role × Tree)
  /-- The part that the child plays. -/
  role : Option Role
  after : List (Option Role × Tree)

namespace Frame

def fill (frame : Frame) (t : Tree) : Tree :=
  .node frame.kind (frame.before ++ (frame.role, t) :: frame.after)

def unfilled (frame : Frame) : Tree := .node frame.kind (frame.before ++ frame.after)

section

variable {α : Type} {f : Tree → Option α} {frame : Frame} {role : Role} {s t : Tree}

@[simp]
theorem kind_fill : (frame.fill t).kind = frame.kind := rfl

theorem gather_fill (same : f s = f t) : (frame.fill s).gather f = (frame.fill t).gather f := by
  simp only [fill, gather, children, List.filterMap_append, List.filterMap_cons, same]

theorem gather_fill_silent (silent : f t = none) :
    (frame.fill t).gather f = frame.unfilled.gather f := by
  simp only [fill, unfilled, gather, children, List.filterMap_append, List.filterMap_cons, silent]

/-- A child of another role, or of none, is passed over. -/
theorem part?_fill_of_ne (other : frame.role ≠ some role) :
    (frame.fill t).part? role = frame.unfilled.part? role := by
  have differ : (some role == frame.role) = false := beq_eq_false_iff_ne.mpr (Ne.symm other)
  simp only [fill, unfilled, part?, children, List.lookup_append, List.lookup_cons, differ]

theorem isNamed_fill_of_ne {name : String} (other : frame.role ≠ some role) :
    (frame.fill s).isNamed role name = (frame.fill t).isNamed role name := by
  rw [isNamed, isNamed, part?_fill_of_ne other, part?_fill_of_ne other]

theorem map_part?_fill {g : Tree → α} (same : frame.role = some role → g s = g t) :
    ((frame.fill s).part? role).map g = ((frame.fill t).part? role).map g := by
  by_cases own : frame.role = some role
  · simp only [fill, part?, children, own, List.lookup_append, List.lookup_cons_self]
    cases frame.before.lookup (some role) with
    | some earlier => rfl
    | none => exact congrArg some (same own)
  · rw [part?_fill_of_ne own, part?_fill_of_ne own]

theorem bind_part?_fill (same : frame.role = some role → f s = f t) :
    ((frame.fill s).part? role).bind f = ((frame.fill t).part? role).bind f := by
  rw [bind_eq_join_map, bind_eq_join_map, map_part?_fill same]

theorem bind_head?_parts_fill (comment : s.isComment = t.isComment) (same : f s = f t) :
    (frame.fill s).parts.head?.bind f = (frame.fill t).parts.head?.bind f := by
  have told : (if s.isComment then none else some (f s)) =
      if t.isComment then none else some (f t) := by rw [comment, same]
  rw [bind_head?_parts, bind_head?_parts, gather_fill told]

end

end Frame

end TitleLint.Source.Tree
