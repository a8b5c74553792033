import Mathlib.Data.List.Induction
import TitleLint.Proofs.Text.Split
import TitleLint.SourceKind

namespace TitleLint.File.Path

/-- What follows the last slash. -/
def lastName (s : List Char) : List Char := (s.reverse.takeWhile (· ≠ '/')).reverse

section

variable {s name : List Char}

theorem lastName_append_of_free (s : List Char) (free : '/' ∉ name) :
    lastName (s ++ name) = lastName s ++ name := by
  have all : ∀ c ∈ name.reverse, decide (c ≠ '/') = true := by
    intro c mem
    have ne : c ≠ '/' := fun slash => free (slash ▸ List.mem_reverse.mp mem)
    exact decide_eq_true ne
  rw [lastName, lastName, List.reverse_append, List.takeWhile_append_of_pos all,
    List.reverse_append, List.reverse_reverse]

theorem takeWhile_append_slash (u v : List Char) :
    (u ++ '/' :: v).takeWhile (· ≠ '/') = u.takeWhile (· ≠ '/') := by
  induction u with
  | nil => rfl
  | cons c cs ih => rw [List.cons_append, List.takeWhile_cons, List.takeWhile_cons, ih]

theorem lastName_append_slash (s name : List Char) : lastName (s ++ '/' :: name) = lastName name := by
  have turned : (s ++ '/' :: name).reverse = name.reverse ++ '/' :: s.reverse := by simp
  rw [lastName, turned, takeWhile_append_slash]
  rfl

theorem lastName_of_free (free : '/' ∉ name) : lastName name = name := lastName_append_of_free [] free

theorem lastName_join (p q : Path) : lastName (join p q).toList = lastName q.toList := by
  unfold join
  split
  next => rfl
  next =>
    split
    next slash =>
      obtain ⟨front, eq⟩ := List.isSuffixOf_iff_suffix.mp slash
      rw [String.toList_append, ← eq, List.append_assoc]
      exact lastName_append_slash front q.toList
    next =>
      rw [String.toList_append, String.toList_append, List.append_assoc]
      exact lastName_append_slash p.toList q.toList

theorem lastName_below (root : Path) (above : List String) (name : String) :
    lastName (below root (above ++ [name])).toList = lastName name.toList := by
  rw [below, List.foldl_append]
  exact lastName_join _ name

theorem lastName_intercalate_concat (above : List (List Char)) (name : List Char) :
    lastName (['/'].intercalate (above ++ [name])) = lastName name := by
  induction above with
  | nil => rw [List.nil_append, List.intercalate_singleton]
  | cons first above ih =>
    rw [List.cons_append, List.intercalate_cons_of_ne_nil (by simp), List.append_assoc]
    exact (lastName_append_slash first _).trans ih

theorem lastName_intercalate (above : List String) (name : String) :
    lastName (String.intercalate "/" (above ++ [name])).toList = lastName name.toList := by
  rw [String.toList_intercalate, List.map_append]
  exact lastName_intercalate_concat _ name.toList

theorem getLast?_names (p : Path) : (names p).getLast? = some (String.ofList (lastName p.toList)) := by
  have whole := Text.intercalate_splitOn (List.cons_ne_nil '/' []) p.toList
  obtain ⟨above, name, pieces⟩ : ∃ above name, Text.splitOn ['/'] p.toList = above ++ [name] := by
    simpa [Text.splitOn_ne_nil] using List.eq_nil_or_concat (Text.splitOn ['/'] p.toList)
  have free : '/' ∉ name := Text.not_mem_of_mem_splitOn (s := p.toList) (by simp [pieces])
  have own : lastName p.toList = name := by
    rw [← whole, pieces, lastName_intercalate_concat, lastName_of_free free]
  rw [names, pieces, List.map_append, List.map_singleton, List.getLast?_concat, own]

theorem fileName?_of_lastName {p : Path} {name : String} (last : lastName p.toList = name.toList)
    (proper : name ∉ ["", ".", ".."]) : fileName? p = some name := by
  have ends := getLast?_names p
  rw [last, String.ofList_toList, List.getLast?_eq_some_iff] at ends
  obtain ⟨above, eq⟩ := ends
  simp only [List.mem_cons, List.not_mem_nil, or_false, not_or] at proper
  obtain ⟨filled, here, parent⟩ := proper
  have found : (names p).reverse.find? (fun n => n ≠ "" ∧ n ≠ ".") = some name := by
    simp [eq, filled, here]
  rw [fileName?, found]
  split
  next eq => exact absurd (Option.some.inj eq) parent
  next => rfl

end

end TitleLint.File.Path
