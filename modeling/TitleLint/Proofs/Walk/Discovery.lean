import TitleLint.Proofs.File.Order
import TitleLint.Walk.Discovery

namespace TitleLint.Walk

open File

section

variable {t : Tree} {w : Walk} {choice : Choice} {found : List (List String)}

theorem readPatterns_of_valid {patterns : List String} (role : PatternRole)
    (valid : ∀ p ∈ patterns, ∃ glob, Glob.parse {} (slashed p) = .ok glob) :
    ∃ globs, readPatterns role patterns = .ok globs := by
  induction patterns with
  | nil => exact ⟨[], rfl⟩
  | cons p patterns ih =>
    obtain ⟨glob, parsed⟩ := valid p List.mem_cons_self
    obtain ⟨globs, read⟩ := ih fun q mem => valid q (List.mem_cons_of_mem p mem)
    exact ⟨glob :: globs, by rw [readPatterns, parsed, read]; rfl⟩

/-- A search finds the files that its patterns choose, if its root is a directory and its patterns can
be read. -/
theorem discover_eq_ok_iff {sources : List (SourceKind × Path)} : w.discover t = .ok sources ↔
    t.isDirectory w.root = true ∧ ∃ choice, Choice.ofWalk w = .ok choice ∧
      sources = (choice.select (files t w.root)).map fun f => (f.1, Path.below w.root f.2) := by
  cases directory : t.isDirectory w.root with
  | false =>
    simp only [discover, directory]
    constructor
    · nofun
    · nofun
  | true =>
    cases chosen : Choice.ofWalk w with
    | error e =>
      simp only [discover, directory, chosen]
      constructor
      · nofun
      · nofun
    | ok choice =>
      simp only [discover, directory, chosen]
      constructor
      · intro h
        exact ⟨trivial, choice, rfl, (Except.ok.inj h).symm⟩
      · rintro ⟨-, _, ⟨⟩, rfl⟩
        rfl

theorem kind?_of_mem_select {f : SourceKind × List String} (mem : f ∈ choice.select found) :
    choice.kind? f.2 = some f.1 := by
  obtain ⟨names, _, chosen⟩ := List.mem_filterMap.mp (List.mem_mergeSort.mp mem)
  obtain ⟨kind, own, rfl⟩ := Option.map_eq_some_iff.mp chosen
  exact own

/-- The chosen files come in the order of their names. -/
theorem select_sorted (choice : Choice) (found : List (List String)) :
    (choice.select found).Pairwise fun f g => Path.namesLt g.2 f.2 = false := by
  let le (f g : SourceKind × List String) : Bool := !Path.namesLt g.2 f.2
  have trans (f g h : SourceKind × List String) (fg : le f g = true) (gh : le g h = true) :
      le f h = true := by
    simp only [le, Bool.not_eq_true'] at fg gh ⊢
    exact Path.not_namesLt_trans fg gh
  have total (f g : SourceKind × List String) : (le f g || le g f) = true := by
    cases before : Path.namesLt g.2 f.2 with
    | false => simp [le, before]
    | true => simp [le, Path.namesLt_asymm before]
  refine (List.pairwise_mergeSort trans total _).imp fun sorted => ?_
  simpa [le] using sorted

end

end TitleLint.Walk
