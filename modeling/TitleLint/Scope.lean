import TitleLint.Text.Split
import TitleLint.Unicode.Property
import TitleLint.Vocabulary

namespace TitleLint

/-- What is known about a scope that names a node. -/
inductive Resolution where
  | known
  | unknown (closest : Option String)
  deriving DecidableEq, Repr

namespace Scope

/-- A scope is known if it begins with a name. Otherwise the nearest name is looked for, without
what follows the first suffix in the scope. -/
def resolve (scope suffix : String) (v : Vocabulary) : Resolution :=
  if v.names.any fun name => name.toList.isPrefixOf scope.toList then .known
  else .unknown (v.closest? (String.ofList (Text.upTo suffix.toList scope.toList)))

def pieces (scopes : String) : List String :=
  (Text.splitOn [',', ' '] scopes.toList).map String.ofList

/-- Whether a comma is followed directly by something other than a blank. -/
def hasTightComma (scopes : String) : Bool :=
  ((Text.splitOn [','] scopes.toList).drop 1).any fun after =>
    match after with
    | [] => false
    | c :: _ => !Unicode.isSpace c

end Scope

end TitleLint
