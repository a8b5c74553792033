import TitleLint.Document.Token

/-!
How scalars are read. Each reader gives the text and the place behind it, or nothing where the
notation is broken.
-/

namespace TitleLint.Document

/-- Text that is gathered while line ends are folded. -/
structure Folding where
  /-- What is gathered so far, the latest first. -/
  gathered : List Char := []
  /-- Blanks on the line, the latest first. -/
  blanks : List Char := []
  /-- The first line end of a gap and the ones after it. -/
  firstBreak : List Char := []
  otherBreaks : List Char := []
  /-- Whether a gap reaches over the end of a line. -/
  overLine : Bool := false

namespace Folding

def add (f : Folding) (x : Char) : Folding := { f with gathered := x :: f.gathered }

/-- Adds a blank or the end of a line, at which the cursor is. -/
def addGap (f : Folding) (c : Cursor) : Folding × Cursor :=
  if c.isAtBlank then
    if f.overLine then (f, c.skip)
    else ({ f with blanks := c.rest.take 1 ++ f.blanks }, c.skip)
  else if f.overLine then ({ f with otherBreaks := f.otherBreaks ++ c.lineEnd }, c.skipLine)
  else ({ f with blanks := [], firstBreak := c.lineEnd, overLine := true }, c.skipLine)

/-- Puts what a gap stands for behind the text: the blanks of a line, one space for the end of a
line, or the line ends after the first. -/
def close (f : Folding) : Folding :=
  let gap :=
    if !f.overLine then f.blanks.reverse
    else if f.firstBreak = ['\n'] then if f.otherBreaks.isEmpty then [' '] else f.otherBreaks
    else f.firstBreak ++ f.otherBreaks
  { gathered := gap.reverse ++ f.gathered }

def text (f : Folding) : String := String.ofList f.gathered.reverse

end Folding

namespace Scalar

def hexDigit? (c : Char) : Option Nat :=
  if '0' ≤ c ∧ c ≤ '9' then some (c.toNat - '0'.toNat)
  else if 'a' ≤ c ∧ c ≤ 'f' then some (c.toNat - 'a'.toNat + 10)
  else if 'A' ≤ c ∧ c ≤ 'F' then some (c.toNat - 'A'.toNat + 10)
  else none

def hexValue? (n : Nat) : List Char → Option Nat
  | [] => some n
  | c :: cs =>
    match hexDigit? c with
    | some d => hexValue? (n * 16 + d) cs
    | none => none

/-- The character of a number, unless it is a surrogate or too large. -/
def charOf? (n : Nat) : Option Char :=
  if n < 0xd800 ∨ (0xdfff < n ∧ n ≤ 0x10ffff) then some (Char.ofNat n) else none

/-- The character that an escape by number names. -/
def numbered? (length : Nat) (c : Cursor) : Option (Char × Cursor) :=
  let digits := c.rest.take length
  if digits.length < length then none
  else ((hexValue? 0 digits).bind charOf?).map fun x => (x, c.skipMany length)

def shortEscape? : Char → Option Char
  | '0' => some '\x00'
  | 'a' => some '\x07'
  | 'b' => some '\x08'
  | 't' => some '\t'
  | '\t' => some '\t'
  | 'n' => some '\n'
  | 'v' => some '\x0b'
  | 'f' => some '\x0c'
  | 'r' => some '\r'
  | 'e' => some '\x1b'
  | ' ' => some ' '
  | '"' => some '"'
  | '/' => some '/'
  | '\\' => some '\\'
  | 'N' => some '\u0085'
  | '_' => some '\u00a0'
  | 'L' => some '\u2028'
  | 'P' => some '\u2029'
  | _ => none

def escape? (c : Cursor) : Option (Char × Cursor) :=
  match c.peek? with
  | some 'x' => numbered? 2 c.skip
  | some 'u' => numbered? 4 c.skip
  | some 'U' => numbered? 8 c.skip
  | some x => (shortEscape? x).map fun y => (y, c.skip)
  | none => none

/-- A quoted scalar after its opening quote. -/
def quotedFrom (quote : Char) : Nat → Folding → Cursor → Option (String × Cursor)
  | 0, _, _ => none
  | fuel + 1, f, c =>
    if c.isAtDocumentMark then none
    else
      match c.peek? with
      | none => none
      | some x =>
        if isBlank x || isBreak x then
          let (f, c) := f.addGap c
          quotedFrom quote fuel f c
        else if x = quote then
          if quote = '\'' ∧ c.ahead? 1 = some '\'' then
            quotedFrom quote fuel (f.close.add '\'') (c.skipMany 2)
          else some (f.close.text, c.skip)
        else if x = '\\' ∧ quote = '"' then
          if (c.ahead? 1).any isBreak then
            quotedFrom quote fuel { f.close with overLine := true } c.skip.skipLine
          else
            match escape? c.skip with
            | some (y, c) => quotedFrom quote fuel (f.close.add y) c
            | none => none
        else quotedFrom quote fuel (f.close.add x) c.skip

def quoted (quote : Char) (c : Cursor) : Option (String × Cursor) :=
  quotedFrom quote (c.rest.length + 1) {} c

def isFlowMark (c : Char) : Bool := [',', '[', ']', '\x7b', '\x7d'].contains c

/-- A plain scalar. It ends where the indentation falls below `indent`, outside of brackets. The
result also tells whether a line ends behind it. -/
def plainFrom (indent : Nat) (inFlow : Bool) : Nat → Bool → Folding → Cursor → Option (String × Bool × Cursor)
  | 0, _, _, _ => none
  | fuel + 1, afterGap, f, c =>
    let done := some (f.text, f.overLine, c)
    match c.peek? with
    | none => done
    | some x =>
      if isBlank x || isBreak x then
        if f.overLine && c.column < indent && x == '\t' then none
        else
          let (f, c) := f.addGap c
          plainFrom indent inFlow fuel true f c
      else if afterGap && ((!inFlow && f.overLine && c.column < indent) || c.isAtDocumentMark || x == '#') then
        done
      else if inFlow && x == ':' && (c.ahead? 1).any fun y => y == '?' || isFlowMark y then none
      else if (x == ':' && c.endsWord 1) || (inFlow && isFlowMark x) then done
      else plainFrom indent inFlow fuel false (f.close.add x) c.skip

def plain (indent : Nat) (inFlow : Bool) (c : Cursor) : Option (String × Bool × Cursor) :=
  plainFrom indent inFlow (c.rest.length + 1) true {} c

/-- How the line ends behind a block scalar are kept. -/
inductive Chomping where
  | strip
  | clip
  | keep
  deriving DecidableEq, Repr

/-- Passes indentation and empty lines. Without a given indentation all blanks count. The result
holds the line ends and the widest indentation. -/
def emptyLines (indent : Nat) : Nat → Nat → List Char → Cursor → Option (List Char × Nat × Cursor)
  | 0, _, _, _ => none
  | fuel + 1, widest, breaks, c =>
    let spaces := (c.rest.takeWhile (· = ' ')).length
    let c := c.skipMany (if indent = 0 then spaces else min spaces (indent - c.column))
    let widest := max widest c.column
    if (indent = 0 ∨ c.column < indent) ∧ c.isAt '\t' then none
    else if c.isAtBreak then emptyLines indent fuel widest (breaks ++ c.lineEnd) c.skipLine
    else some (breaks, widest, c)

/-- The lines of a block scalar. `firstBreak` and `otherBreaks` end the last line; they are folded
between two lines that do not begin with a blank. -/
def blockLines (literal : Bool) (chomping : Chomping) (indent : Nat) :
    Nat → (gathered firstBreak otherBreaks : List Char) → (blankBefore : Bool) → Cursor →
    Option (String × Cursor)
  | 0, _, _, _, _, _ => none
  | fuel + 1, gathered, firstBreak, otherBreaks, blankBefore, c =>
    if c.column = indent ∧ !c.isAtEnd then
      let isBlankLine := c.isAtBlank
      let gap :=
        if !literal && firstBreak == ['\n'] && !blankBefore && !isBlankLine then
          if otherBreaks.isEmpty then [' '] else otherBreaks
        else firstBreak ++ otherBreaks
      let line := c.rest.takeWhile fun x => !isBreak x
      let c := c.skipMany line.length
      let firstBreak := c.lineEnd
      match emptyLines indent (c.rest.length + 1) 0 [] c.skipLine with
      | none => none
      | some (otherBreaks, _, c) =>
        blockLines literal chomping indent fuel (line.reverse ++ gap.reverse ++ gathered) firstBreak
          otherBreaks isBlankLine c
    else
      let tail := match chomping with
        | .strip => []
        | .clip => firstBreak
        | .keep => firstBreak ++ otherBreaks
      some (String.ofList (gathered.reverse ++ tail), c)

/-- The mark of indentation and chomping behind the indicator of a block scalar. -/
def blockHeader (c : Cursor) : Option (Chomping × Nat × Cursor) :=
  let chomping? := fun (c : Cursor) =>
    if c.isAt '+' then some (Chomping.keep, c.skip)
    else if c.isAt '-' then some (Chomping.strip, c.skip)
    else none
  let digit? := fun (c : Cursor) => (c.peek?.filter Char.isDigit).map fun d => (d.toNat - '0'.toNat, c.skip)
  let header :=
    match chomping? c with
    | some (chomping, c) =>
      match digit? c with
      | some (d, c) => if d = 0 then none else some (chomping, d, c)
      | none => some (chomping, 0, c)
    | none =>
      match digit? c with
      | some (d, c) =>
        if d = 0 then none
        else
          match chomping? c with
          | some (chomping, c) => some (chomping, d, c)
          | none => some (.clip, d, c)
      | none => some (.clip, 0, c)
  match header with
  | none => none
  | some (chomping, d, c) =>
    let c := (c.skipWhile isBlank).skipComment
    if c.endsLine 0 then some (chomping, d, if c.isAtEnd then c else c.skipLine) else none

/-- A block scalar after its indicator; `outer` is the indentation around it, if there is one. -/
def block (literal : Bool) (outer : Option Nat) (c : Cursor) : Option (String × Cursor) := do
  let (chomping, d, c) ← blockHeader c
  let given := if d = 0 then 0 else outer.getD 0 + d
  let (breaks, widest, c) ← emptyLines given (c.rest.length + 1) 0 [] c
  let least := (outer.map (· + 1)).getD 0
  let indent := if given = 0 then max (max widest least) 1 else given
  blockLines literal chomping indent (c.rest.length + 1) [] [] breaks false c

end Scalar

end TitleLint.Document
