import TitleLint.SourceKind
import TitleLint.Walk.Files

namespace TitleLint

open File

/-- A search for source files below a directory. -/
structure Walk where
  root : Path
  nodePatterns : List String := ["**/*.node.ts"]
  descriptorPatterns : List String := ["**/versionDescription.ts"]
  excludedPatterns : List String := []
  deriving DecidableEq, Repr

namespace Walk

/-- What the patterns of a list are for. -/
inductive PatternRole where
  | node
  | descriptor
  | excluded
  deriving DecidableEq, Repr

/-- Why a search cannot be made. -/
inductive DiscoveryError where
  | rootNotFound (root : Path)
  | badPattern (role : PatternRole) (pattern : String) (cause : Glob.Error)
  deriving DecidableEq, Repr

/-- A pattern as it is read: backslashes separate names. -/
def slashed (pattern : String) : String :=
  String.ofList (pattern.toList.map fun c => if c = '\\' then '/' else c)

def DiscoveryError.headline : DiscoveryError → String
  | .rootNotFound root => "Node source root not found: " ++ root
  | .badPattern .node .. => "Invalid include pattern"
  | .badPattern .descriptor .. => "Invalid version description pattern"
  | .badPattern .excluded .. => "Invalid exclude pattern"

def DiscoveryError.message (e : DiscoveryError) : String :=
  match e with
  | .rootNotFound _ => e.headline
  | .badPattern _ pattern cause =>
    e.headline ++ ": Invalid glob: " ++ pattern ++ ": error parsing glob '" ++ slashed pattern ++
      "': " ++ cause.message

def readPatterns (role : PatternRole) : List String → Except DiscoveryError (List Glob)
  | [] => .ok []
  | pattern :: patterns =>
    match Glob.parse {} (slashed pattern) with
    | .error cause => .error (.badPattern role pattern cause)
    | .ok glob => (readPatterns role patterns).map (glob :: ·)

/-- The globs by which files are chosen. -/
structure Choice where
  nodes : List Glob
  descriptors : List Glob
  excluded : List Glob

namespace Choice

def ofWalk (w : Walk) : Except DiscoveryError Choice := do
  let nodes ← readPatterns .node w.nodePatterns
  let descriptors ← readPatterns .descriptor w.descriptorPatterns
  let excluded ← readPatterns .excluded w.excludedPatterns
  return { nodes, descriptors, excluded }

/-- The kind that a file is chosen as. Descriptors come before nodes. -/
def kind? (c : Choice) (names : List String) : Option SourceKind :=
  let matchesAny := fun (globs : List Glob) => globs.any (·.isMatch names)
  if matchesAny c.excluded then none
  else if matchesAny c.descriptors then some .descriptor
  else if matchesAny c.nodes then some .node
  else none

/-- The chosen ones among files, in the order of their names. -/
def select (c : Choice) (files : List (List String)) : List (SourceKind × List String) :=
  let chosen := files.filterMap fun names => (c.kind? names).map fun kind => (kind, names)
  chosen.mergeSort fun a b => !Path.namesLt b.2 a.2

end Choice

/-- The source files that a search finds, in the order of their paths. -/
def discover (t : Tree) (w : Walk) : Except DiscoveryError (List (SourceKind × Path)) := do
  if !t.isDirectory w.root then throw (.rootNotFound w.root)
  let choice ← Choice.ofWalk w
  return (choice.select (files t w.root)).map fun f => (f.1, Path.below w.root f.2)

end Walk

end TitleLint
