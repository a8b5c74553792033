import TitleLint.Text.Quoted
import TitleLint.Vocabulary

namespace TitleLint

/-- What is reported beside the issues while a title is checked. -/
inductive Warning where
  /-- A file that could not be read. -/
  | unreadable (text : String)
  | noNames
  | loadFailed (cause : String)
  | scopeSkipped (scope : String)
  deriving DecidableEq, Repr

def Warning.message : Warning → String
  | .unreadable text => text
  | .noNames => "failed to find any node display names"
  | .loadFailed cause => "failed to load node display names error=" ++ cause
  | .scopeSkipped scope =>
    "no node display names available, skipping node scope check scope=" ++ Text.quoted scope

/-- One attempt at loading the names: the files that could not be read, then the names or the
reason why there are none. -/
structure Loading where
  unreadable : List String := []
  names : Except String Vocabulary

namespace Loading

/-- The names that a check can use; it cannot use an empty vocabulary. -/
def usable? (l : Loading) : Option Vocabulary :=
  match l.names with
  | .ok v => if v.isEmpty then none else some v
  | .error _ => none

def warnings (l : Loading) : List Warning :=
  l.unreadable.map .unreadable ++
    match l.names with
    | .ok v => if v.isEmpty then [.noNames] else []
    | .error cause => [.loadFailed cause]

end Loading

/-- Where names are loaded from. Each loading may come out differently. -/
structure NameSource (σ : Type) where
  load : σ → Loading × σ

namespace NameSource

/-- The source that always yields the same. -/
def always (l : Loading) : NameSource Unit := ⟨fun _ => (l, ())⟩

def ofVocabulary (v : Vocabulary) : NameSource Unit := always { names := .ok v }

end NameSource

/-- The names during one check. They are loaded when they are first asked for, and what came of it
is kept, even if it is nothing. -/
structure LazyNames (σ : Type) where
  state : σ
  /-- What the check can use, once the names were loaded. -/
  kept : Option (Option Vocabulary) := none
  /-- How often the names were loaded. -/
  loads : Nat := 0
  warnings : List Warning := []

namespace LazyNames

variable {σ : Type}

def warn (w : Warning) (n : LazyNames σ) : LazyNames σ := { n with warnings := n.warnings ++ [w] }

def get (source : NameSource σ) (n : LazyNames σ) : Option Vocabulary × LazyNames σ :=
  match n.kept with
  -- Names that could not be loaded are not asked for again.
  | some names => (names, n)
  | none =>
    let (loading, state) := source.load n.state
    (loading.usable?,
      { state
        kept := some loading.usable?
        loads := n.loads + 1
        warnings := n.warnings ++ loading.warnings })

end LazyNames

end TitleLint
