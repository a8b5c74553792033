import TitleLint.File.Path

namespace TitleLint

/-- What a source file is expected to declare. -/
inductive SourceKind where
  /-- The class of a node. -/
  | node
  /-- The description of one version of a node. -/
  | descriptor
  deriving DecidableEq, Repr

/-- Where in a source the display name was found. -/
inductive Shape where
  /-- In the field `description` of the class. -/
  | description
  /-- In the first local variable of the constructor of the class. -/
  | versionedBase
  /-- In the variable `versionDescription`. -/
  | versionDescription
  deriving DecidableEq, Repr

def Shape.code : Shape → String
  | .description => "description"
  | .versionedBase => "versioned-base"
  | .versionDescription => "version-description"

namespace SourceKind

def code : SourceKind → String
  | .node => "node"
  | .descriptor => "descriptor"

def descriptorStem : String := "versionDescription"

def ofPath (p : File.Path) : SourceKind :=
  if File.Path.stem? p = some descriptorStem then .descriptor else .node

/-- The shapes that are looked for, in order. -/
def shapes : SourceKind → List Shape
  | .node => [.description, .versionedBase]
  | .descriptor => [.versionDescription]

end SourceKind

end TitleLint
