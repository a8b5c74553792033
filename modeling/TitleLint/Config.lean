import TitleLint.Document.Decode
import TitleLint.Policy
import TitleLint.Unicode.Property
import TitleLint.Walk.Bounded

/-!
The configuration of a project. Everything in it may be left out, and then the usual value is taken.
-/

namespace TitleLint

open File

/-- Where a project's display names are looked for. -/
structure NodeSettings where
  root : Option Path := none
  nodePatterns : List String := []
  descriptorPatterns : List String := []
  excludedPatterns : Option (List String) := none
  timeoutSeconds : Option Nat := none
  deriving DecidableEq, Repr

structure Config where
  types : Option (List String) := none
  scopes : Option (List String) := none
  ticketText : Option String := none
  changelogMarker : Option String := none
  nodes : NodeSettings := {}
  deriving DecidableEq, Repr

section

open Document Document.Decoder

def NodeSettings.decoder : Decoder NodeSettings :=
  let strings := list (text "a string")
  record "NodesConfig"
    [.of "root" (optional (text "path string")) fun s x => { s with root := x },
      .of "include" strings fun s x => { s with nodePatterns := x },
      .of "version_descriptions" strings fun s x => { s with descriptorPatterns := x },
      .of "exclude" (optional strings) fun s x => { s with excludedPatterns := x },
      .of "timeout_secs" (optional nat) fun s x => { s with timeoutSeconds := x }]
    {}

def Config.decoder : Decoder Config :=
  let string := text "a string"
  record "Config"
    [.of "types" (optional (list string)) fun c x => { c with types := x },
      .of "scopes" (optional (list string)) fun c x => { c with scopes := x },
      .of "ticket_pattern" (optional string) fun c x => { c with ticketText := x },
      .of "changelog_marker" (optional string) fun c x => { c with changelogMarker := x },
      .of "nodes" NodeSettings.decoder fun c x => { c with nodes := x }]
    {}

end

namespace Config

/-- Reads a configuration. A blank text is one in which everything is left out. -/
def parse (text : String) : Except Document.Fault Config :=
  if text.toList.all Unicode.isSpace then .ok {} else Document.decode decoder {} text

def usualPath : Path := ".config/titlecheck/config.yaml"

inductive LoadError where
  | notFound (path : Path)
  | unreadable (path : Path) (cause : File.Error)
  | rejected (path : Path) (cause : Document.Fault)
  deriving DecidableEq, Repr

def LoadError.headline : LoadError → String
  | .notFound path => "Config file not found at " ++ path
  | .unreadable path _ => "Failed to read config file: " ++ path
  | .rejected path _ => "Failed to parse config file: " ++ path

def LoadError.message (e : LoadError) : String :=
  match e with
  | .notFound _ => e.headline
  | .unreadable _ cause => e.headline ++ ": " ++ cause.message
  | .rejected _ cause => e.headline ++ ": " ++ cause.message

/-- Loads a configuration. One that need not exist is taken as blank where there is none. -/
def load (t : Tree) (path : Path) (mustExist : Bool) : Except LoadError Config :=
  if !t.contains path then if mustExist then .error (.notFound path) else .ok {}
  else
    match t.readText path with
    | .error cause => .error (.unreadable path cause)
    | .ok text =>
      match parse text with
      | .error cause => .error (.rejected path cause)
      | .ok c => .ok c

def policy (c : Config) : Except PolicyError Policy :=
  Policy.make (c.types.getD Policy.defaultTypes) (c.scopes.getD Policy.defaultScopes)
    (c.ticketText.getD Policy.defaultTicketText) (c.changelogMarker.getD Policy.defaultMarker)

def usualNodeRoot : Path := "packages/nodes-base/nodes"

def usualExclusions : List String := ["node_modules/**", "dist/**"]

/-- The search for the files of a project. A list without patterns leaves the usual ones. -/
def walk (c : Config) (project : Path) : Walk :=
  let w : Walk := { root := project.join (c.nodes.root.getD usualNodeRoot) }
  let orUsual := fun (given usual : List String) => if given.isEmpty then usual else given
  { w with
    nodePatterns := orUsual c.nodes.nodePatterns w.nodePatterns
    descriptorPatterns := orUsual c.nodes.descriptorPatterns w.descriptorPatterns
    excludedPatterns := c.nodes.excludedPatterns.getD usualExclusions }

def timeoutSeconds (c : Config) : Nat := c.nodes.timeoutSeconds.getD 120

end Config

end TitleLint
