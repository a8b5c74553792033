import TitleLint.Proofs.Text.Split
import TitleLint.Text.Lines

namespace TitleLint.Text

/-- The lines of a text, where a line feed ends each of them and nothing else does. -/
def fedLines (s : List Char) : List (List Char) := (splitOn ['\n'] s).dropLast

section

variable {line s t : List Char} {lines : List (List Char)}

theorem splitOn_flatMap_feed (free : ∀ line ∈ lines, '\n' ∉ line) :
    splitOn ['\n'] (lines.flatMap (· ++ ['\n'])) = lines ++ [[]] := by
  induction lines with
  | nil => rfl
  | cons line lines ih =>
    have later := ih fun other mem => free other (List.mem_cons_of_mem line mem)
    rw [List.flatMap_cons, List.append_assoc, List.singleton_append, splitOn_append_char, later,
      splitOn_of_not_mem (free line List.mem_cons_self), List.singleton_append,
      List.cons_append]

/-- Lines with line feeds behind them are found again exactly if they hold no others. -/
theorem fedLines_flatMap_iff :
    fedLines (lines.flatMap (· ++ ['\n'])) = lines ↔ ∀ line ∈ lines, '\n' ∉ line := by
  constructor
  · intro found line mem
    rw [← found] at mem
    exact not_mem_of_mem_splitOn ((List.dropLast_sublist _).mem mem)
  · intro free
    rw [fedLines, splitOn_flatMap_feed free, List.dropLast_concat]

/-- There are as many lines as line feeds. -/
theorem length_fedLines (s : List Char) : (fedLines s).length = s.count '\n' := by
  rw [fedLines, List.length_dropLast, length_splitOn_char, Nat.add_sub_cancel]

theorem feed_not_mem_dropReturn (free : '\n' ∉ line) : '\n' ∉ dropReturn line := by
  unfold dropReturn
  split
  · exact fun mem => free (List.mem_of_mem_take mem)
  · exact free

theorem feed_not_mem_of_mem_linesFrom (free : '\n' ∉ s) (mem : line ∈ linesFrom s t) :
    '\n' ∉ line := by
  induction t generalizing s with
  | nil =>
    unfold linesFrom at mem
    split at mem
    · simp at mem
    · obtain rfl := List.mem_singleton.mp mem
      simpa using free
  | cons c t ih =>
    unfold linesFrom at mem
    split at mem
    next =>
      rcases List.mem_cons.mp mem with rfl | later
      · exact feed_not_mem_dropReturn (by simpa using free)
      · exact ih (by simp) later
    next other => exact ih (by simp [free, Ne.symm other]) mem

/-- The lines of a message hold no line feeds. -/
theorem feed_not_mem_of_mem_lines {message shown : String} (mem : shown ∈ Text.lines message) :
    '\n' ∉ shown.toList := by
  obtain ⟨line, own, rfl⟩ := List.mem_map.mp mem
  rw [String.toList_ofList]
  exact feed_not_mem_of_mem_linesFrom List.not_mem_nil own

end

end TitleLint.Text
