import TitleLint.File.Tree
import TitleLint.Glob.Ignore

/-!
Which entries of a directory are ignored, by the rules that the directories of a tree and the
repositories in it bring along. The excludes that a user has set up for all repositories are not
among these rules: a tree is walked as for a user who has none.
-/

namespace TitleLint.Walk

open File Glob

/-- What one directory says about ignored files. -/
structure IgnoreLevel where
  plain : List IgnoreRule
  tracked : List IgnoreRule
  /-- The rules of the repository's own `info/exclude`. -/
  excluded : List IgnoreRule
  /-- Whether a repository begins here. -/
  isRepository : Bool
  /-- The names from this directory to the one whose entries are judged. -/
  below : List String := []

namespace IgnoreLevel

def rulesAt (t : Tree) (p : Path) : List IgnoreRule :=
  match t.read p with
  | .ok content => IgnoreRule.ofFile content
  | .error _ => []

def firstLine? (t : Tree) (p : Path) : Option String :=
  match t.read p with
  | .ok content =>
    match IgnoreRule.byteLines [] content.data.toList with
    | line :: _ => (IgnoreRule.textOfBytes? line).map String.ofList
    | [] => none
  | .error _ => none

/-- The directory that a repository is kept in. A file `.git` names one that belongs to another
working tree, and the common directory is written there. -/
def repository? (t here : Tree) : Option Path :=
  match here.node ".git" with
  | .ok (.file _) => do
    let line ← firstLine? here ".git"
    let dir ← (Text.after? "gitdir: ".toList line.toList).map String.ofList
    let common ← firstLine? t (Path.join dir "commondir")
    return if ['.'].isPrefixOf common.toList then Path.join dir common else common
  | _ => some ".git"

/-- The rules that a directory brings along. -/
def ofDirectory (t : Tree) (place : List String) : IgnoreLevel :=
  let here := { t with current := place }
  { plain := rulesAt here ".ignore"
    tracked := rulesAt here ".gitignore"
    excluded :=
      match here.node ".git", repository? t here with
      | .ok (.file _), some dir => rulesAt t (Path.join dir "info/exclude")
      | _, some dir => rulesAt here (Path.join dir "info/exclude")
      | _, none => []
    isRepository := here.contains ".git" }

/-- The rules as they apply one directory further down. -/
def enter (name : String) (l : IgnoreLevel) : IgnoreLevel := { l with below := l.below ++ [name] }

/-- The levels of a directory, from those of the directory above it. -/
def inside (t : Tree) (place : List String) (name : String) (levels : List IgnoreLevel) :
    List IgnoreLevel :=
  .ofDirectory t place :: levels.map (enter name)

/-- The levels that belong to the innermost repository, or none outside of any. -/
def inRepository : List IgnoreLevel → List IgnoreLevel
  | [] => []
  | l :: ls =>
    if l.isRepository then [l]
    else
      match inRepository ls with
      | [] => []
      | inner => l :: inner

/-- What the first level says that says anything. -/
def firstVerdict? (rules : IgnoreLevel → List IgnoreRule) (levels : List IgnoreLevel) (name : String)
    (isDirectory : Bool) : Option Bool :=
  levels.findSome? fun l => verdict? (rules l) (l.below ++ [name]) isDirectory

/-- Whether an entry is ignored, by levels from the inside out. Rules that are bound to a
repository yield to others. -/
def isIgnored (levels : List IgnoreLevel) (name : String) (isDirectory : Bool) : Bool :=
  let repository := inRepository levels
  let verdict := firstVerdict? plain levels name isDirectory
    <|> firstVerdict? tracked repository name isDirectory
    <|> firstVerdict? excluded repository name isDirectory
  verdict.getD false

/-- The levels of the directories above a place, the nearest first. -/
def above (t : Tree) (place : List String) : List IgnoreLevel :=
  ((List.range place.length).map fun n =>
    { ofDirectory t (place.take n) with below := place.drop n }).reverse

end IgnoreLevel

end TitleLint.Walk
