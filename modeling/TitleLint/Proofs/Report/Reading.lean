import Mathlib.Data.List.Forall2
import TitleLint.Proofs.Text.Lines
import TitleLint.Report

/-!
Reading a text report without colours. The title stands in its first line. Every issue has a line
that begins with its rule, and the further lines of its message are indented deeper than that.
-/

namespace TitleLint.Report

/-- The lines of a message as a report shows them. An empty message has an empty line. -/
def shownLines (message : String) : List String :=
  match Text.lines message with
  | [] => [""]
  | line :: lines => line :: lines

/-- What a text report tells of an issue. -/
def told (i : Issue) : Rule × List String := (i.rule, shownLines i.message)

/-- What stands before the rule of an issue. -/
def issueMark : List Char := "  [".toList

/-- What stands before the further lines of a message. -/
def indent : List Char := "    ".toList

def issueLine (r : Rule) (line : String) : List Char :=
  issueMark ++ (r.code.toList ++ "] ".toList ++ line.toList)

def furtherLine (line : String) : List Char := indent ++ line.toList

/-- The lines that a report has for an issue. -/
structure IsBlock (i : Issue) (block : List (List Char)) : Prop where
  lines : ∃ line further, shownLines i.message = line :: further ∧
    block = issueLine i.rule line :: further.map furtherLine
  /-- Only the first of them looks like the beginning of an issue. -/
  one : block.countP issueMark.isPrefixOf = 1

/-- The rule and the text in a line, if the line begins an issue. -/
def issue? (line : List Char) : Option (Rule × List Char) := do
  let shown ← Text.after? issueMark line
  let rule ← Rule.ofCode? (String.ofList (shown.takeWhile (· ≠ ']')))
  return (rule, (shown.dropWhile (· ≠ ']')).drop 2)

/-- The issues in the lines of a report, behind the further lines of an issue above them. -/
def readIssues : List (List Char) → Option (List String × List (Rule × List String))
  | [] => some ([], [])
  | line :: lines =>
    match readIssues lines with
    | none => none
    | some (further, issues) =>
      match Text.after? indent line with
      | some shown => some (String.ofList shown :: further, issues)
      | none =>
        (issue? line).map fun (rule, shown) =>
          ([], (rule, String.ofList shown :: further) :: issues)

/-- The title in front of the number of issues, which stands in the last brackets of a line. -/
def titleBefore (line : List Char) : List Char :=
  ((line.reverse.dropWhile (· ≠ '(')).drop 2).reverse

/-- The title of a report, and what the report tells of the issues. -/
def read? (report : String) : Option (String × List (Rule × List String)) :=
  match Text.fedLines report.toList with
  | [] => none
  | line :: lines =>
    match readIssues lines with
    | some ([], []) => (Text.after? "OK ".toList line).map fun title => (String.ofList title, [])
    | some ([], issues) =>
      (Text.after? "FAIL ".toList line).map fun shown => (String.ofList (titleBefore shown), issues)
    | _ => none

/-! ### Lines -/

/-- The lines of an issue whose message has these lines. -/
def block (r : Rule) (line : String) (further : List String) : List (List Char) :=
  issueLine r line :: further.map furtherLine

def issueLines (i : Issue) : List (List Char) :=
  block i.rule ((Text.lines i.message).headD "") (Text.lines i.message).tail

/-- How the first line of a report ends, behind the opening bracket. -/
def countText (n : Nat) : List Char :=
  (Nat.repr n).toList ++ (if n = 1 then " issue)" else " issues)").toList

def headline (title : String) (issues : List Issue) : List Char :=
  if issues.isEmpty then "OK ".toList ++ title.toList
  else "FAIL ".toList ++ (title.toList ++ ' ' :: '(' :: countText issues.length)

section

variable {title : String} {issues : List Issue} {i : Issue}

theorem shownLines_eq (message : String) :
    shownLines message = (Text.lines message).headD "" :: (Text.lines message).tail := by
  unfold shownLines
  split
  next empty => rw [empty]; rfl
  next line lines eq => rw [eq]; rfl

theorem not_mem_code {r : Rule} {c : Char} (letter : c.isLower = false) (line : c ≠ '_') :
    c ∉ r.code.toList := by
  intro mem
  rcases Rule.isLower_of_mem_code mem with lower | eq
  · simp [letter] at lower
  · exact line eq

theorem feed_not_mem_shownLines {message shown : String} (mem : shown ∈ shownLines message) :
    '\n' ∉ shown.toList := by
  unfold shownLines at mem
  split at mem
  next =>
    obtain rfl := List.mem_singleton.mp mem
    exact List.not_mem_nil
  next eq => exact Text.feed_not_mem_of_mem_lines (eq ▸ mem)

theorem isBlock_issueLines (i : Issue) : IsBlock i (issueLines i) := by
  refine ⟨⟨_, _, shownLines_eq i.message, rfl⟩, ?_⟩
  have first : issueMark.isPrefixOf (issueLine i.rule ((Text.lines i.message).headD "")) = true :=
    List.isPrefixOf_iff_prefix.mpr (List.prefix_append _ _)
  have others : ((Text.lines i.message).tail.map furtherLine).countP issueMark.isPrefixOf = 0 := by
    refine List.countP_eq_zero.mpr fun line mem => ?_
    obtain ⟨shown, _, rfl⟩ := List.mem_map.mp mem
    simp [issueMark, furtherLine, indent]
  rw [issueLines, block, List.countP_cons_of_pos first, others]

theorem toList_issueText (i : Issue) :
    (issueText false i).toList = (issueLines i).flatMap (· ++ ['\n']) := by
  simp only [issueText, issueLines]
  generalize (Text.lines i.message).tail = further
  simp [block, issueLine, furtherLine, issueMark, indent, Style.paint, String.toList_join,
    List.flatMap_map]

theorem toList_text (title : String) (issues : List Issue) :
    (text false title issues).toList =
      (headline title issues :: issues.flatMap issueLines).flatMap (· ++ ['\n']) := by
  unfold text headline countText
  split
  next none => simp [List.isEmpty_iff.mp none, Style.paint]
  next =>
    split
    all_goals simp [Style.paint, String.toList_join, List.flatMap_map, toList_issueText,
      List.flatMap_assoc]

theorem not_mem_countText {c : Char} (digit : c.isDigit = false) (noun : c ∉ " issues)".toList)
    (n : Nat) : c ∉ countText n := by
  intro mem
  rcases List.mem_append.mp mem with count | behind
  · rw [Nat.toList_repr] at count
    have own := Nat.isDigit_of_mem_toDigits (by decide) (by decide) count
    exact absurd own (by simp [digit])
  · have one : ∀ d ∈ " issue)".toList, d ∈ " issues)".toList := by simp
    split at behind
    · exact noun (one c behind)
    · exact noun behind

theorem feed_not_mem_headline (oneLine : '\n' ∉ title.toList) : '\n' ∉ headline title issues := by
  unfold headline
  split
  · simp [oneLine]
  · have count := not_mem_countText (c := '\n') rfl (by decide) issues.length
    simp [oneLine, count]

theorem feed_not_mem_issueLines {shown : List Char} (mem : shown ∈ issueLines i) :
    '\n' ∉ shown := by
  obtain ⟨line, further, lines, eq⟩ := (isBlock_issueLines i).lines
  have free : ∀ shown ∈ line :: further, '\n' ∉ shown.toList := fun shown own =>
    feed_not_mem_shownLines (lines ▸ own)
  have code : '\n' ∉ i.rule.code.toList := not_mem_code rfl (by decide)
  rw [eq] at mem
  rcases List.mem_cons.mp mem with rfl | behind
  · simp [issueLine, issueMark, code, free line List.mem_cons_self]
  · obtain ⟨other, own, rfl⟩ := List.mem_map.mp behind
    simp [furtherLine, indent, free other (List.mem_cons_of_mem line own)]

theorem fedLines_text (oneLine : '\n' ∉ title.toList) :
    Text.fedLines (text false title issues).toList =
      headline title issues :: issues.flatMap issueLines := by
  rw [toList_text, Text.fedLines_flatMap_iff]
  intro line mem
  rcases List.mem_cons.mp mem with rfl | issue
  · exact feed_not_mem_headline oneLine
  · obtain ⟨i, _, own⟩ := List.mem_flatMap.mp issue
    exact feed_not_mem_issueLines own

end

/-! ### Reading -/

section

variable {lines : List (List Char)} {further : List String} {issues : List (Rule × List String)}

theorem issue?_issueLine (r : Rule) (line : String) :
    issue? (issueLine r line) = some (r, line.toList) := by
  have plain : ∀ c ∈ r.code.toList, decide (c ≠ ']') = true := fun c mem =>
    decide_eq_true fun bracket => not_mem_code rfl (by decide) (bracket ▸ mem)
  have shown : Text.after? issueMark (issueLine r line) =
      some (r.code.toList ++ ']' :: ' ' :: line.toList) := by
    rw [Text.after?_eq_some_iff]
    simp [issueLine]
  rw [issue?, shown]
  simp only [Option.bind_eq_bind, Option.bind_some, List.takeWhile_append_of_pos plain,
    List.dropWhile_append_of_pos plain]
  simp [Rule.ofCode?_code]

theorem readIssues_furtherLines (read : readIssues lines = some (further, issues))
    (others : List String) :
    readIssues (others.map furtherLine ++ lines) = some (others ++ further, issues) := by
  induction others with
  | nil => exact read
  | cons line others ih =>
    have shown : Text.after? indent (furtherLine line) = some line.toList :=
      Text.after?_eq_some_iff.mpr rfl
    simp [readIssues, ih, shown]

/-- The lines of an issue are read as that issue, whatever issues stand below. -/
theorem readIssues_block (read : readIssues lines = some ([], issues)) (r : Rule) (line : String)
    (further : List String) :
    readIssues (block r line further ++ lines) = some ([], (r, line :: further) :: issues) := by
  have behind := readIssues_furtherLines read further
  have unindented : Text.after? indent (issueLine r line) = none := by
    simp [Text.after?, indent, issueLine, issueMark]
  simp [readIssues, block, behind, unindented, issue?_issueLine]

theorem readIssues_flatMap (issues : List Issue) :
    readIssues (issues.flatMap issueLines) = some ([], issues.map told) := by
  induction issues with
  | nil => rfl
  | cons i issues ih =>
    rw [List.flatMap_cons, issueLines, readIssues_block ih, List.map_cons, told, shownLines_eq]

end

theorem titleBefore_bracket {tail : List Char} (free : '(' ∉ tail) (front : List Char) :
    titleBefore (front ++ ' ' :: '(' :: tail) = front := by
  have skipped : ∀ c ∈ tail.reverse, decide (c ≠ '(') = true := by
    intro c mem
    refine decide_eq_true fun eq => free ?_
    rwa [eq, List.mem_reverse] at mem
  rw [titleBefore, List.reverse_append, List.reverse_cons, List.reverse_cons, List.append_assoc,
    List.append_assoc, List.dropWhile_append_of_pos skipped]
  simp

theorem read?_eq {title : String} (oneLine : '\n' ∉ title.toList) (issues : List Issue) :
    read? (text false title issues) = some (title, issues.map told) := by
  rw [read?, fedLines_text oneLine]
  simp only [readIssues_flatMap]
  cases issues with
  | nil =>
    have shown : Text.after? "OK ".toList (headline title []) = some title.toList :=
      Text.after?_eq_some_iff.mpr rfl
    simp only [List.map_nil, shown, Option.map_some, String.ofList_toList]
  | cons i issues =>
    have shown : Text.after? "FAIL ".toList (headline title (i :: issues)) =
        some (title.toList ++ ' ' :: '(' :: countText (issues.length + 1)) :=
      Text.after?_eq_some_iff.mpr rfl
    have count := not_mem_countText (c := '(') rfl (by decide) (issues.length + 1)
    simp only [List.map_cons, shown, Option.map_some, titleBefore_bracket count,
      String.ofList_toList]

/-- A text report without colours tells the title, and of each issue its rule and the lines of its
message. It consists of one line for the title and the lines of the issues in their order. So reports
that differ in what they tell are different texts. -/
theorem read?_text {title : String} (oneLine : '\n' ∉ title.toList) (issues : List Issue) :
    read? (text false title issues) = some (title, issues.map told) ∧
      (∃ first blocks, Text.fedLines (text false title issues).toList = first :: blocks.flatten ∧
        ¬ issueMark <+: first ∧ List.Forall₂ IsBlock issues blocks) ∧
      ∀ title' issues', '\n' ∉ title'.toList →
        text false title issues = text false title' issues' →
          title = title' ∧ issues.length = issues'.length ∧ issues.map told = issues'.map told := by
  refine ⟨read?_eq oneLine issues, ⟨headline title issues, issues.map issueLines, ?_, ?_, ?_⟩, ?_⟩
  · rw [fedLines_text oneLine, List.flatMap_def]
  · unfold headline
    split
    · simp [issueMark]
    · simp [issueMark]
  · rw [List.forall₂_map_right_iff]
    exact List.forall₂_same.mpr fun i _ => isBlock_issueLines i
  · intro title' issues' oneLine' same
    have own := read?_eq oneLine issues
    rw [same, read?_eq oneLine' issues', Option.some.injEq, Prod.mk.injEq] at own
    obtain ⟨titles, tells⟩ := own
    have lengths := congrArg List.length tells
    rw [List.length_map, List.length_map] at lengths
    exact ⟨titles.symm, lengths.symm, tells.symm⟩

/-- Two issues, where the message of the first looks like the second. -/
def lookalikes : List Issue :=
  [{ rule := .invalidType, message := "a\n  [invalid_scope] b\n\n" },
    { rule := .invalidScope, message := "" }]

/-- A message that looks like a further issue is told from one. -/
theorem read?_text_of_lookalikes :
    '\n' ∉ "fix: show (2 issues)".toList ∧
      read? (text false "fix: show (2 issues)" lookalikes) =
        some ("fix: show (2 issues)",
          [(.invalidType, ["a", "  [invalid_scope] b", ""]), (.invalidScope, [""])]) ∧
      text false "fix: show (2 issues)" lookalikes ≠
        text false "fix: show (2 issues)"
          [{ rule := .invalidType, message := "a" }, { rule := .invalidScope, message := "b" },
            { rule := .invalidScope, message := "" }] := by
  have oneLine : '\n' ∉ "fix: show (2 issues)".toList := by decide
  have tells : lookalikes.map told =
      [(.invalidType, ["a", "  [invalid_scope] b", ""]), (.invalidScope, [""])] := by decide +kernel
  have reads := read?_text oneLine lookalikes
  refine ⟨oneLine, tells ▸ reads.1, fun same => ?_⟩
  have lengths := (reads.2.2 _ _ oneLine same).2.1
  exact absurd lengths (by decide)

end TitleLint.Report
