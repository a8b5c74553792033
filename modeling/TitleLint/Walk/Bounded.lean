import TitleLint.Duration
import TitleLint.Harvest

namespace TitleLint

open File

/-- A search that is given up when it takes too long. -/
structure BoundedWalk where
  walk : Walk
  timeout : Duration
  deriving DecidableEq, Repr

namespace BoundedWalk

/-- Why a bounded search has no harvest. -/
inductive Failure where
  | discovery (cause : Walk.DiscoveryError)
  | timedOut (timeout : Duration) (root : Path)
  deriving DecidableEq, Repr

def Failure.headline : Failure → String
  | .discovery cause => cause.headline
  | .timedOut timeout root =>
    "Timed out after " ++ timeout.text ++ " collecting node display names from " ++ root

def Failure.message (f : Failure) : String :=
  match f with
  | .discovery cause => cause.message
  | .timedOut .. => f.headline

/-- How far a search has come. -/
inductive Progress where
  | notStarted
  | reading (left : List (SourceKind × Path)) (gathered : Harvest)
  | finished (outcome : Except Walk.DiscoveryError Harvest)

/-- One step of a search: to find the files, to read one of them, or to hand over the harvest. -/
def advance (t : Tree) (w : Walk) : Progress → Progress
  | .notStarted =>
    match w.discover t with
    | .ok files => .reading files {}
    | .error e => .finished (.error e)
  | .reading [] gathered => .finished (.ok gathered)
  | .reading (f :: left) gathered =>
    .reading left (gathered.record f.2 (DisplayName.ofFile t f.1 f.2))
  | .finished outcome => .finished outcome

/-- How far a search comes in a number of steps. -/
def progress (t : Tree) (w : Walk) : Nat → Progress
  | 0 => .notStarted
  | n + 1 => advance t w (progress t w n)

/-- The harvest, if the search is done before its deadline. The deadline may pass after any number
of steps, or not at all. -/
def harvest (t : Tree) (b : BoundedWalk) (deadline : Option Nat) : Except Failure Harvest :=
  let outcome :=
    match deadline with
    | none => some (b.walk.harvest t)
    | some steps =>
      match progress t b.walk steps with
      | .finished outcome => some outcome
      | _ => none
  match outcome with
  | some (.ok h) => .ok h
  | some (.error e) => .error (.discovery e)
  | none => .error (.timedOut b.timeout b.walk.root)

def loading (t : Tree) (b : BoundedWalk) (deadline : Option Nat) : Loading :=
  .ofHarvest Failure.message (b.harvest t deadline)

end BoundedWalk

end TitleLint
