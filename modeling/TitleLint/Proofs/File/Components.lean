import Mathlib.Data.List.Lex
import TitleLint.File.Tree
import TitleLint.Proofs.File.Order
import TitleLint.Proofs.Text.Split

namespace TitleLint.File

/-- What an entry of a directory can be called. -/
structure IsName (n : String) : Prop where
  proper : n ∉ ["", ".", ".."]
  free : '/' ∉ n.toList

/-- A part of a path, as paths are compared. -/
inductive Component where
  | root
  | here
  | parent
  | name (n : String)

namespace Component

def ofName (n : String) : Component := if n = ".." then parent else name n

def rank : Component → Nat
  | root => 0
  | here => 1
  | parent => 2
  | name _ => 3

/-- Names come last, in the order of their bytes. -/
def Before : Component → Component → Prop
  | name m, name n => Text.byteLt m n = true
  | c, d => c.rank < d.rank

end Component

namespace Path

/-- What stands before the names of a path. -/
def start (p : Path) : List Component :=
  if isAbsolute p then [.root] else if (names p).head? = some "." then [.here] else []

def components (p : Path) : List Component := start p ++ (Node.place p).map .ofName

/-- Whether one path comes before another, by its components. -/
def Before (p q : Path) : Prop := List.Lex Component.Before (components p) (components q)

section

variable {p q root : Path} {name : String} {rest as bs : List String}

theorem names_append_slash (p q : Path) : names (p ++ "/" ++ q) = names p ++ names q := by
  have text : (p ++ "/" ++ q).toList = p.toList ++ '/' :: q.toList := by simp
  rw [names, text, Text.splitOn_append_char, List.map_append]
  rfl

theorem names_slash (p : Path) : names (p ++ "/") = names p ++ [""] := by
  have pieces := names_append_slash p ""
  rwa [String.append_empty] at pieces

theorem names_of_name (h : IsName name) : names name = [name] := by
  rw [names, Text.splitOn_of_not_mem h.free, List.map_singleton, String.ofList_toList]

theorem isAbsolute_of_name (h : IsName name) : isAbsolute name = false := by
  cases absolute : isAbsolute name with
  | false => rfl
  | true => exact absurd ((List.isPrefixOf_iff_prefix.mp absolute).subset List.mem_cons_self) h.free

theorem place_of_name (h : IsName name) : Node.place name = [name] := by
  have proper := h.proper
  simp only [List.mem_cons, List.not_mem_nil, or_false, not_or] at proper
  simp [Node.place, names_of_name h, proper]

/-- A name is put behind a slash, which the path may bring along. -/
theorem join_cases (filled : p ≠ "") (relative : isAbsolute q = false) :
    ∃ front, (p = front ∨ p = front ++ "/") ∧ join p q = front ++ "/" ++ q := by
  have nonempty : p.isEmpty = false := by simpa using filled
  unfold join
  rw [relative, nonempty, Bool.or_false, if_neg Bool.false_ne_true]
  split
  next slash =>
    obtain ⟨front, eq⟩ := List.isSuffixOf_iff_suffix.mp slash
    have whole : p = String.ofList front ++ "/" := String.toList_inj.mp (by simp [eq])
    exact ⟨String.ofList front, .inr whole, by rw [← whole]⟩
  next => exact ⟨p, .inl rfl, rfl⟩

theorem place_join (filled : p ≠ "") (relative : isAbsolute q = false) :
    Node.place (join p q) = Node.place p ++ Node.place q := by
  obtain ⟨front, rfl | rfl, joined⟩ := join_cases filled relative
  · rw [joined, Node.place, names_append_slash, List.filter_append]
    rfl
  · have slash : Node.place (front ++ "/") = Node.place front := by simp [Node.place, names_slash]
    rw [joined, Node.place, names_append_slash, List.filter_append, slash]
    rfl

theorem names_ne_nil (p : Path) : names p ≠ [] := by
  simp [names, Text.splitOn_ne_nil]

theorem isAbsolute_append (filled : p ≠ "") (q : Path) : isAbsolute (p ++ q) = isAbsolute p := by
  cases chars : p.toList with
  | nil => exact absurd (String.toList_eq_nil_iff.mp chars) filled
  | cons c cs => simp [isAbsolute, chars, List.isPrefixOf]

theorem start_join (filled : p ≠ "") (relative : isAbsolute q = false) :
    start (join p q) = start p := by
  obtain ⟨front, own, joined⟩ := join_cases filled relative
  have absolute : isAbsolute (join p q) = isAbsolute p := by
    rcases own with rfl | rfl
    · rw [joined, String.append_assoc, isAbsolute_append filled]
    · rw [joined, isAbsolute_append filled]
  have head : (names (join p q)).head? = (names p).head? := by
    rw [joined, names_append_slash, List.head?_append_of_ne_nil _ (names_ne_nil front)]
    rcases own with rfl | rfl
    · rfl
    · rw [names_slash, List.head?_append_of_ne_nil _ (names_ne_nil front)]
  rw [start, start, absolute, head]

theorem components_join (filled : p ≠ "") (own : IsName name) :
    components (join p name) = components p ++ [.name name] := by
  have relative := isAbsolute_of_name own
  have proper := own.proper
  simp only [List.mem_cons, List.not_mem_nil, or_false, not_or] at proper
  simp [components, start_join filled relative, place_join filled relative, place_of_name own,
    Component.ofName, proper]

theorem join_ne_empty (filled : p ≠ "") (own : IsName name) : join p name ≠ "" := by
  obtain ⟨front, _, joined⟩ := join_cases filled (isAbsolute_of_name own)
  simp [joined]

/-- Going down from a directory adds the names that are passed. -/
theorem components_below (filled : root ≠ "") (own : ∀ n ∈ rest, IsName n) :
    components (below root rest) = components root ++ rest.map .name := by
  induction rest generalizing root with
  | nil => simp [below]
  | cons name rest ih =>
    have first := own name List.mem_cons_self
    have deeper := ih (join_ne_empty filled first) fun n mem => own n (List.mem_cons_of_mem name mem)
    rw [components_join filled first, List.append_assoc] at deeper
    exact deeper

theorem lex_of_namesLt (h : namesLt as bs = true) :
    List.Lex Component.Before (as.map .name) (bs.map .name) := by
  induction as generalizing bs with
  | nil =>
    cases bs with
    | nil => cases h
    | cons => exact .nil
  | cons a as ih =>
    cases bs with
    | nil => cases h
    | cons b bs =>
      obtain less | ⟨rfl, rest⟩ := namesLt_cons_iff.mp h
      · exact .rel less
      · exact .cons (ih rest)

/-- Below one directory the order of paths is that of the names. -/
theorem before_below (filled : root ≠ "") (left : ∀ n ∈ as, IsName n) (right : ∀ n ∈ bs, IsName n)
    (lt : namesLt as bs = true) : Before (below root as) (below root bs) := by
  rw [Before, components_below filled left, components_below filled right]
  exact List.Lex.append_left _ (lex_of_namesLt lt) _

end

end Path

end TitleLint.File
