import TitleLint.File.Path

namespace TitleLint.File

inductive Node where
  | file (content : ByteArray)
  | link (target : Path)
  | directory (entries : List (String × Node))

inductive Error where
  | notFound
  | notDirectory
  | isDirectory
  | tooManyLinks
  | nameTooLong
  | nulInName
  | notText
  deriving DecidableEq, Repr

def Error.message : Error → String
  | .notFound => "No such file or directory (os error 2)"
  | .notDirectory => "Not a directory (os error 20)"
  | .isDirectory => "Is a directory (os error 21)"
  | .tooManyLinks => "Too many levels of symbolic links (os error 40)"
  | .nameTooLong => "File name too long (os error 36)"
  | .nulInName => "file name contained an unexpected NUL byte"
  | .notText => "stream did not contain valid UTF-8"

namespace Node

protected def empty : Node := directory []

def entry? (name : String) : Node → Option Node
  | directory entries => entries.lookup name
  | _ => none

/-- The node at a place, links being left as they are. -/
def at? : Node → List String → Option Node
  | n, [] => some n
  | n, name :: rest =>
    match n.entry? name with
    | some m => m.at? rest
    | none => none
termination_by _ names => names.length

def isDirectory : Node → Bool
  | directory _ => true
  | _ => false

/-- Changes the entry of a name, which need not exist. -/
def update (name : String) (change : Option Node → Node) : List (String × Node) → List (String × Node)
  | [] => [(name, change none)]
  | (n, m) :: entries =>
    if n = name then (n, change (some m)) :: entries else (n, m) :: update name change entries

/-- Puts a node at a place and makes the directories above it. A directory keeps what it holds. -/
def put (content : Node) : List String → Node → Node
  | [], old =>
    match content, old with
    | directory [], directory entries => directory entries
    | _, _ => content
  | name :: rest, old =>
    let entries := match old with
      | directory entries => entries
      | _ => []
    directory (update name (fun m => put content rest (m.getD .empty)) entries)

/-- The names that lead to a place in a tree; blank parts and the directory itself are left out. -/
def place (p : Path) : List String := p.names.filter fun n => n ≠ "" ∧ n ≠ "."

end Node

/-- A directory tree, and the directory in it that relative paths begin at. -/
structure Tree where
  root : Node
  current : List String := []

namespace Tree

def linkLimit : Nat := 40

/-- Follows names from a directory, through links, to the place they lead to. -/
def follow (root : Node) (links : Nat) (done : List String) (names : List String) :
    Except Error (List String) :=
  match names with
  | [] => .ok done
  | name :: rest =>
    match root.at? done with
    | none => .error .notFound
    | some dir =>
      if !dir.isDirectory then .error .notDirectory
      else if name = "" ∨ name = "." then follow root links done rest
      else if name = ".." then follow root links done.dropLast rest
      else if 255 < name.utf8ByteSize then .error .nameTooLong
      else
        match dir.entry? name with
        | none => .error .notFound
        | some (.link target) =>
          match links with
          | 0 => .error .tooManyLinks
          | links + 1 =>
            follow root links (if target.isAbsolute then [] else done) (Path.names target ++ rest)
        | some _ => follow root links (done ++ [name]) rest
termination_by (links, names.length)

def resolve (t : Tree) (p : Path) : Except Error (List String) :=
  if p.isEmpty then .error .notFound
  else if p.toList.contains '\x00' then .error .nulInName
  else follow t.root linkLimit (if p.isAbsolute then [] else t.current) p.names

def node (t : Tree) (p : Path) : Except Error Node := do
  let place ← t.resolve p
  match t.root.at? place with
  | some n => .ok n
  | none => .error .notFound

def contains (t : Tree) (p : Path) : Bool := (t.node p).toOption.isSome

def isDirectory (t : Tree) (p : Path) : Bool := (t.node p).toOption.any Node.isDirectory

def read (t : Tree) (p : Path) : Except Error ByteArray := do
  match ← t.node p with
  | .file content => .ok content
  | _ => .error .isDirectory

def readText (t : Tree) (p : Path) : Except Error String := do
  match String.fromUTF8? (← t.read p) with
  | some s => .ok s
  | none => .error .notText

def currentPath (t : Tree) : Path := "/" ++ String.intercalate "/" t.current

end Tree

end TitleLint.File
