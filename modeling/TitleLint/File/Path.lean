import TitleLint.Text.Bytes
import TitleLint.Text.Split

namespace TitleLint.File

abbrev Path := String

namespace Path

def isAbsolute (p : Path) : Bool := ['/'].isPrefixOf p.toList

/-- One path below another. An absolute path replaces what it is joined to. -/
def join (p q : Path) : Path :=
  if isAbsolute q || p.isEmpty then q
  else if ['/'].isSuffixOf p.toList then p ++ q
  else p ++ "/" ++ q

/-- The names between slashes, with the empty ones. -/
def names (p : Path) : List String := (Text.splitOn ['/'] p.toList).map String.ofList

/-- The last name of a path, unless that is the parent directory. -/
def fileName? (p : Path) : Option String :=
  match (names p).reverse.find? fun n => n ≠ "" ∧ n ≠ "." with
  | some ".." => none
  | name => name

/-- The part of a name before its last dot. A dot that comes first does not count. -/
def stem (name : String) : String :=
  let cs := name.toList.reverse
  match cs.dropWhile (· ≠ '.') with
  | '.' :: front@(_ :: _) => String.ofList front.reverse
  | _ => name

def stem? (p : Path) : Option String := (fileName? p).map stem

/-- Whether one list of names comes before another; a name is compared by its bytes. -/
def namesLt : List String → List String → Bool
  | _, [] => false
  | [], _ :: _ => true
  | a :: as, b :: bs => Text.byteLt a b || (a == b && namesLt as bs)

/-- The path of names below a directory. -/
def below (p : Path) (rest : List String) : Path := rest.foldl join p

end Path

end TitleLint.File
