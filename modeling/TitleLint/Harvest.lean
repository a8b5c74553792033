import TitleLint.DisplayName
import TitleLint.NameSource
import TitleLint.Source.Outline
import TitleLint.Walk.Discovery

namespace TitleLint

open File

structure Harvest where
  names : Vocabulary := .empty
  /-- How many files were looked at. -/
  scanned : Nat := 0
  /-- A line for each file that could not be read. -/
  warnings : List String := []
  deriving DecidableEq

structure Unreadable where
  path : Path
  cause : File.Error
  deriving DecidableEq, Repr

def Unreadable.message (u : Unreadable) : String := "Failed to read " ++ u.path ++ ": " ++ u.cause.message

namespace DisplayName

/-- The name that a source text of a kind declares. -/
def ofText? (kind : SourceKind) (text : String) : Option DisplayName := extract? kind (.ofSource text)

/-- The name that a file declares. -/
def ofFile (t : Tree) (kind : SourceKind) (p : Path) : Except Unreadable (Option DisplayName) :=
  match t.readText p with
  | .ok text => .ok (ofText? kind text)
  | .error cause => .error { path := p, cause }

end DisplayName

namespace Harvest

instance : Inhabited Harvest := ⟨{}⟩

def record (h : Harvest) (p : Path) (outcome : Except Unreadable (Option DisplayName)) : Harvest :=
  match outcome with
  | .ok (some found) => { h with scanned := h.scanned + 1, names := h.names.insert found.name }
  | .ok none => { h with scanned := h.scanned + 1 }
  | .error e => { h with scanned := h.scanned + 1, warnings := h.warnings ++ [p ++ ": " ++ e.message] }

/-- Puts one harvest behind another. -/
def merge (g h : Harvest) : Harvest where
  names := g.names.merge h.names
  scanned := g.scanned + h.scanned
  warnings := g.warnings ++ h.warnings

/-- The harvest of files whose kinds are given. -/
def ofFiles (t : Tree) (files : List (SourceKind × Path)) : Harvest :=
  files.foldl (fun h f => h.record f.2 (DisplayName.ofFile t f.1 f.2)) {}

@[simp]
theorem ofFiles_nil (t : Tree) : ofFiles t [] = {} := rfl

theorem ofFiles_concat (t : Tree) (files : List (SourceKind × Path)) (f : SourceKind × Path) :
    ofFiles t (files ++ [f]) =
      (ofFiles t files).record f.2 (DisplayName.ofFile t f.1 f.2) := by
  simp [ofFiles]

/-- The harvest of files, whose names tell their kinds. -/
def ofPaths (t : Tree) (paths : List Path) : Harvest :=
  ofFiles t (paths.map fun p => (.ofPath p, p))

/-- The harvest of texts that are at hand, with the names that they have as files. -/
def ofTexts (texts : List (Path × String)) : Harvest :=
  texts.foldl (fun h f => h.record f.1 (.ok (DisplayName.ofText? (.ofPath f.1) f.2))) {}

/-- How the names of a harvest are loaded for a check. -/
def loading (h : Harvest) : Loading := { unreadable := h.warnings, names := .ok h.names }

end Harvest

namespace Walk

def harvest (t : Tree) (w : Walk) : Except DiscoveryError Harvest :=
  (w.discover t).map (Harvest.ofFiles t)

end Walk

namespace Loading

/-- How the names of a harvest are loaded, or why they cannot be. -/
def ofHarvest {ε : Type} (message : ε → String) : Except ε Harvest → Loading
  | .ok h => h.loading
  | .error e => { names := .error (message e) }

end Loading

end TitleLint
