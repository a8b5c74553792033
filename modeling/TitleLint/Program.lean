import TitleLint.CommandLine
import TitleLint.Config
import TitleLint.Report
import TitleLint.Validation

/-!
The program: what it prints and the status it ends with, given the files, its arguments, the time
that a search takes, and whether its output shows colours. Colours are for reports. The help is the
same with them, and the emphasis that it can have is not given.
-/

namespace TitleLint

open File

/-- What the program tells beside its output. -/
inductive Notice where
  | collecting (root : Path)
  | scanning (project : Path)
  | found (names files : Nat)
  | unreadable (files : List String)
  | warning (w : Warning)
  | failure (headline : String)
  deriving DecidableEq, Repr

def Notice.text (coloured : Bool) : Notice → String
  | collecting root =>
    Style.boldBlue.paint coloured "->" ++ " Collecting node display names from " ++ root ++ "...\n"
  | scanning project =>
    Style.boldBlue.paint coloured "->" ++ " Scanning node sources in " ++ project ++ "...\n"
  | found names files =>
    "   Found " ++ Style.green.paint coloured (Nat.repr names) ++ " display names in " ++
      Nat.repr files ++ " files\n"
  | unreadable files =>
    Style.boldYellow.paint coloured "!" ++ " " ++ Nat.repr files.length ++
      " files could not be read:\n" ++ String.join (files.map fun f => "   " ++ f ++ "\n")
  | warning w => Style.yellow.paint coloured "WARN" ++ " " ++ w.message ++ "\n"
  | failure headline => Style.boldRed.paint coloured "error:" ++ " " ++ headline ++ "\n"

structure Outcome where
  status : Nat := 0
  output : String := ""
  notices : List Notice := []
  deriving DecidableEq, Repr

namespace Program

/-- The status when the title has issues. -/
def issueStatus : Nat := 1

/-- The status when the program is misused or misconfigured. -/
def errorStatus : Nat := 2

/-- Ends a run with an error. -/
def fail (headline : String) (before : List Notice) : Outcome :=
  { status := errorStatus, notices := before ++ [.failure headline] }

def isProject (t : Tree) (place : List String) : Bool :=
  let here := { t with current := place }
  here.contains ".git" || here.contains "package.json"

/-- The nearest project among a directory and those above it. -/
def projectFrom? (t : Tree) : List String → Option (List String)
  | [] => if isProject t [] then some [] else none
  | name :: above =>
    let place := (name :: above).reverse
    if isProject t place then some place else projectFrom? t above

/-- The project that the program works on: one that is named, or the nearest one around the current
directory, or that directory. -/
def projectRoot (t : Tree) (o : CommandLine.Options) : Path :=
  match o.root with
  | some root => root
  | none => { t with current := (projectFrom? t t.current.reverse).getD t.current }.currentPath

/-- The configuration of a project; one that is named must exist. -/
def loadConfig (t : Tree) (project : Path) (o : CommandLine.Options) : Except Config.LoadError Config :=
  match o.config with
  | some path => Config.load t path true
  | none => Config.load t (project.join Config.usualPath) false

def walk (c : Config) (project : Path) (o : CommandLine.Options) : BoundedWalk where
  walk := c.walk project
  timeout := .seconds (o.timeout.getD c.timeoutSeconds)

/-- How many steps of a search its time is enough for, or `none` if it is enough for all. -/
abbrev Clock := BoundedWalk → Option Nat

/-- A search that has no time is given up at once, and any other is taken to end in time. -/
def deadline : Clock := fun b => if b.timeout.micros = 0 then some 0 else none

def check (t : Tree) (clock : Clock) (coloured : Bool) (c : Config) (b : BoundedWalk)
    (f : OutputFormat) (title : String) : Outcome :=
  match c.policy with
  | .error _ => fail "Invalid title policy" []
  | .ok policy =>
    let (found, ()) := Validation.validate policy (.always (b.loading t (clock b))) title ()
    { status := if found.issues.isEmpty then 0 else issueStatus
      output := Report.render f coloured title found.issues
      notices := (if found.loads = 0 then [] else [.collecting b.walk.root]) ++
        found.warnings.map .warning }

def listNames (t : Tree) (clock : Clock) (project : Path) (b : BoundedWalk) (f : OutputFormat) :
    Outcome :=
  match b.harvest t (clock b) with
  | .error e => fail e.headline [.scanning project]
  | .ok h =>
    { output := h.names.render f
      notices := [.scanning project, .found h.names.size h.scanned] ++
        if h.warnings.isEmpty then [] else [.unreadable h.warnings] }

def runCommand (t : Tree) (clock : Clock) (coloured : Bool) (i : CommandLine.Invocation) : Outcome :=
  let project := projectRoot t i.options
  match loadConfig t project i.options with
  | .error e => fail e.headline []
  | .ok c =>
    let format := i.options.format.getD "text"
    match OutputFormat.ofName? format with
    | none => fail ("Unknown output format '" ++ format ++ "' (expected text or json)") []
    | some f =>
      let b := walk c project i.options
      match i.command with
      | .check title => check t clock coloured c b f title
      | .names => listNames t clock project b f

/-- Runs the program in the current directory of a tree, with the time that a clock gives. The report
is coloured if the output shows colours. -/
def runTimed (clock : Clock) (coloured : Bool) (t : Tree) (args : List String) : Outcome :=
  match CommandLine.parse args with
  | .ok i => runCommand t clock coloured i
  | .error (.misused e) => fail e.message []
  | .error (.helpWanted topic) => { output := topic.text }
  | .error .versionWanted => { output := CommandLine.version }

/-- Runs the program in the current directory of a tree. Its output shows no colours unless that is
said. -/
def run (t : Tree) (args : List String) (coloured : Bool := false) : Outcome :=
  runTimed deadline coloured t args

end Program

end TitleLint
