import TitleLint.Program

/-!
The program on a file system. All that a run can ask for is gathered into a tree before it.
-/

namespace TitleLint.Surroundings

open File

/-- What is gathered of a file system. -/
structure Gathered where
  root : Node := .empty
  /-- The directories that are gathered as a whole. -/
  complete : List (List String) := []

abbrev Gathering := StateT Gathered IO

def pathOf (place : List String) : Path := "/" ++ String.intercalate "/" place

def put (place : List String) (n : Node) : Gathering Unit :=
  modify fun g => { g with root := .put n place g.root }

/-- Gathers what names lead to from a directory, and all that is in it if it is taken as a whole.
What cannot be read is left out. -/
partial def gather (whole : Bool) (done : List String) : List String → Gathering Unit
  | [] => do
    put done .empty
    if whole ∧ done ∉ (← get).complete then
      modify fun g => { g with complete := done :: g.complete }
      for entry in ← (← IO.FS.realPath (pathOf done)).readDir do
        try gather whole done [entry.fileName] catch _ => pure ()
  | ".." :: rest => gather whole done.dropLast rest
  | name :: rest => do
    let place := done ++ [name]
    let real ← IO.FS.realPath (pathOf place)
    if real.toString ≠ pathOf place then
      put place (.link real.toString)
      gather whole [] (Node.place real.toString ++ rest)
    else if ← real.isDir then gather whole place rest
    else put place (.file (← IO.FS.readBinFile (pathOf place)))

/-- Gathers what a path leads to, if there is something. -/
def gatherPath (whole : Bool) (current : List String) (p : Path) : Gathering Unit := do
  try gather whole [] (Node.place ((pathOf current).join p)) catch _ => pure ()

/-- Gathers what tells where a project begins and which files are ignored, in the directories on the
way to a place. -/
def gatherMarks (place : List String) : Gathering Unit := do
  for n in List.range (place.length + 1) do
    for mark in [".git", "package.json", ".gitignore", ".ignore", ".git/info/exclude"] do
      gatherPath false (place.take n) mark

/-- Gathers what a run in the current directory can ask for. -/
def gatherFor (current : List String) (args : List String) : Gathering Unit := do
  gatherPath false [] (pathOf current)
  match CommandLine.parse args with
  | .error _ => pure ()
  | .ok i =>
    gatherMarks current
    let project := Program.projectRoot ⟨(← get).root, current⟩ i.options
    gatherPath false current (i.options.config.getD (project.join Config.usualPath))
    match Program.loadConfig ⟨(← get).root, current⟩ project i.options with
    | .error _ => pure ()
    | .ok c =>
      let root := (c.walk project).root
      gatherPath true current root
      match (Tree.mk (← get).root current).resolve root with
      | .ok place => gatherMarks place
      | .error _ => pure ()

/-- Whether the environment has a variable, with a value that does not switch it off. -/
def isSet (name : String) (off : List String) : IO Bool := do
  return (← IO.getEnv name).any (· ∉ off)

/-- Whether the output shows colours: on a terminal that can, unless the environment says otherwise. -/
def showsColours : IO Bool := do
  if (← isSet "FORCE_COLOR" ["0", "false"]) || (← isSet "CLICOLOR_FORCE" ["0"]) then return true
  if (← isSet "NO_COLOR" ["0"]) || !(← isSet "TERM" ["dumb"]) then return false
  (← IO.getStdout).isTty

end TitleLint.Surroundings

def main (args : List String) : IO UInt32 := do
  let current := TitleLint.File.Node.place (← IO.currentDir).toString
  let (_, gathered) ← (TitleLint.Surroundings.gatherFor current args).run {}
  let coloured ← TitleLint.Surroundings.showsColours
  let outcome := TitleLint.Program.run ⟨gathered.root, current⟩ args coloured
  for notice in outcome.notices do
    IO.eprint (notice.text true)
  IO.print outcome.output
  return outcome.status.toUInt32
