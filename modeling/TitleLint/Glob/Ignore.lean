import TitleLint.Glob.Parse
import TitleLint.Text.Lines
import TitleLint.Unicode.Property

namespace TitleLint.Glob

/-- A line of an ignore file. -/
structure IgnoreRule where
  glob : Glob
  /-- Whether the line takes back what earlier lines ignore. -/
  keeps : Bool
  onlyDirectories : Bool
  deriving Repr

namespace IgnoreRule

def trimEnd (s : List Char) : List Char := (s.reverse.dropWhile Unicode.isSpace).reverse

/-- The line without its mark, whether it takes back, and whether it is bound to the directory of
its file. An escaped mark is part of the pattern. -/
def readMarks : List Char → List Char × Bool × Bool
  | '\\' :: '!' :: cs => ('!' :: cs, false, false)
  | '\\' :: '#' :: cs => ('#' :: cs, false, false)
  | '!' :: '/' :: cs => (cs, true, true)
  | '!' :: cs => (cs, true, false)
  | '/' :: cs => (cs, false, true)
  | cs => (cs, false, false)

/-- Drops a slash at the end, which confines a rule to directories. -/
def readSlash (s : List Char) : List Char × Bool :=
  match s.reverse with
  | '/' :: '\\' :: cs => (cs.reverse, true)
  | '/' :: cs => (cs.reverse, true)
  | _ => (s, false)

/-- The glob of a pattern: one without a slash matches at any depth, and one that ends in `/**`
matches what is inside a directory only. -/
def globText (s : List Char) (isBound : Bool) : List Char :=
  let anywhere := !isBound && !s.contains '/' && s ≠ ['*', '*']
  let s := if anywhere then '*' :: '*' :: '/' :: s else s
  if ['/', '*', '*'].isSuffixOf s then s ++ ['/', '*'] else s

/-- Reads a line. Comments, empty lines and patterns that cannot be read give no rule. -/
def ofLine? (line : List Char) : Option IgnoreRule :=
  let line := if ['\\', ' '].isSuffixOf line then line else trimEnd line
  match line with
  | [] | '#' :: _ => none
  | _ =>
    let (s, keeps, isBound) := readMarks line
    let (s, onlyDirectories) := readSlash s
    match Glob.parse { withinName := true, openClasses := true } (String.ofList (globText s isBound)) with
    | .ok glob => some { glob, keeps, onlyDirectories }
    | .error _ => none

/-- The lines of bytes, without line feeds and the carriage returns before them. -/
def byteLines (line : List UInt8) : List UInt8 → List (List UInt8)
  | [] => if line.isEmpty then [] else [line.reverse]
  | b :: bs =>
    if b = 10 then (if line.head? = some 13 then line.drop 1 else line).reverse :: byteLines [] bs
    else byteLines (b :: line) bs

def textOfBytes? (bs : List UInt8) : Option (List Char) :=
  (String.fromUTF8? ⟨bs.toArray⟩).map String.toList

/-- The rules of an ignore file, up to the first line that is not text. A byte order mark before
the first line is dropped. -/
def ofFile (content : ByteArray) : List IgnoreRule :=
  let lines := ((byteLines [] content.data.toList).map textOfBytes?).takeWhile Option.isSome
  match lines.filterMap id with
  | [] => []
  | line :: lines => (line.dropWhile (· = '\ufeff') :: lines).filterMap ofLine?

end IgnoreRule

/-- What the last rule that applies to a path says: whether to ignore it, if any rule applies. -/
def verdict? (rules : List IgnoreRule) (names : List String) (isDirectory : Bool) : Option Bool :=
  (rules.reverse.find? fun r => (isDirectory || !r.onlyDirectories) && r.glob.isMatch names).map
    fun r => !r.keeps

end TitleLint.Glob
