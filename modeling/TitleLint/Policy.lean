import TitleLint.Pattern.Parse

namespace TitleLint

structure Policy where
  types : List String
  /-- Scopes that are valid whatever names are known. -/
  scopes : List String
  ticket : Pattern
  changelogMarker : String

inductive PolicyError where
  | invalidTicketPattern (pattern : String)
  deriving DecidableEq, Repr

def PolicyError.message : PolicyError → String
  | .invalidTicketPattern pattern => "Invalid ticket pattern: " ++ pattern

namespace Policy

def defaultTypes : List String := ["feat", "fix", "perf", "test", "docs", "refactor", "build", "ci"]

def defaultScopes : List String := ["API", "core", "editor"]

def defaultTicketText : String := "n8n-\\d\x7b3,5\x7d"

def defaultMarker : String := "(no-changelog)"

/-- A scope that ends like this names a node. -/
def nodeSuffix : String := " Node"

/-- `n8n-` and three to five digits. -/
def defaultTicket : Pattern :=
  let letter := fun c => Pattern.one (.folded (.single c))
  .append (letter 'n') <| .append (letter '8') <| .append (letter 'n') <| .append (letter '-') <|
    .repeated (.one .digit) 3 (some 5)

/-- Builds a policy; the ticket pattern ignores case. -/
def make (types scopes : List String) (ticketText changelogMarker : String) :
    Except PolicyError Policy :=
  match Pattern.read? ticketText with
  | some ticket => .ok { types, scopes, ticket, changelogMarker }
  | none => .error (.invalidTicketPattern ticketText)

protected def default : Policy :=
  ⟨defaultTypes, defaultScopes, defaultTicket, defaultMarker⟩

instance : Inhabited Policy := ⟨Policy.default⟩

def isKnownType (p : Policy) (type : String) : Bool := p.types.contains type

def isFixedScope (p : Policy) (scope : String) : Bool := p.scopes.contains scope

def isNodeScope (scope : String) : Bool := nodeSuffix.toList.isSuffixOf scope.toList

def hasTicket (p : Policy) (title : String) : Bool := p.ticket.isMatch title

end Policy

end TitleLint
