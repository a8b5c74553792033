namespace TitleLint.Text

/-- Drops one carriage return at the end. -/
def dropReturn (s : List Char) : List Char :=
  if ['\r'].isSuffixOf s then s.take (s.length - 1) else s

/-- The lines of a text, without their line feeds and the carriage returns before those.
A line feed at the end closes the last line and opens none. -/
def linesFrom (line : List Char) : List Char → List (List Char)
  | [] => if line.isEmpty then [] else [line.reverse]
  | c :: cs =>
    if c = '\n' then dropReturn line.reverse :: linesFrom [] cs else linesFrom (c :: line) cs

def lines (s : String) : List String := (linesFrom [] s.toList).map String.ofList

end TitleLint.Text
