import Mathlib.Data.List.Sort
import TitleLint.Proofs.Except
import TitleLint.Proofs.Harvest.Sources
import TitleLint.Proofs.Walk.Discovery
import TitleLint.Proofs.Walk.Moving

namespace TitleLint.Walk

open File

/-- Whether a pattern can be read. -/
def IsPattern (p : String) : Prop := ∃ glob, Glob.parse {} (slashed p) = .ok glob

/-- Whether all patterns of a search can be read. -/
def IsReadable (w : Walk) : Prop :=
  ∀ p ∈ w.nodePatterns ++ w.descriptorPatterns ++ w.excludedPatterns, IsPattern p

/-- Whether one of these patterns matches the path of these names. -/
def matchesAny (patterns names : List String) : Bool :=
  patterns.any fun p => (Glob.parse {} (slashed p)).toOption.any (·.isMatch names)

/-- What the patterns of a search say of a file. A descriptor is not looked at as a node. -/
def Takes (w : Walk) (kind : SourceKind) (names : List String) : Prop :=
  matchesAny w.excludedPatterns names = false ∧
    (matchesAny w.descriptorPatterns names = true ∧ kind = .descriptor ∨
      matchesAny w.descriptorPatterns names = false ∧ matchesAny w.nodePatterns names = true ∧
        kind = .node)

/-- The files that a search finds, as their kinds and their names below the root. -/
structure Finds (t : Tree) (w : Walk) (chosen : List (SourceKind × List String)) : Prop where
  discovered : w.discover t = .ok (chosen.map fun f => (f.1, Path.below w.root f.2))
  /-- It does not matter in which order the files come. -/
  anyOrder : ∃ choice, Choice.ofWalk w = .ok choice ∧
    ∀ yielded, yielded.Perm (files t w.root) → choice.select yielded = chosen
  mem_iff : ∀ kind names, (kind, names) ∈ chosen ↔ names ∈ files t w.root ∧ w.Takes kind names
  relative : ∀ f ∈ chosen, Path.components (Path.below w.root f.2) =
    Path.components w.root ++ f.2.map .name
  increasing : (chosen.map fun f => Path.below w.root f.2).Pairwise Path.Before

section

variable {t : Tree} {w : Walk} {choice : Choice} {kind : SourceKind} {names : List String}
  {yielded : List (List String)} {chosen : List (SourceKind × List String)}

/-! ### Patterns -/

theorem readPatterns_eq_ok_iff {role : PatternRole} {patterns : List String} {globs : List Glob} :
    readPatterns role patterns = .ok globs ↔
      List.Forall₂ (fun p glob => Glob.parse {} (slashed p) = .ok glob) patterns globs := by
  induction patterns generalizing globs with
  | nil => simp [readPatterns, eq_comm]
  | cons p patterns ih =>
    rw [List.forall₂_cons_left_iff, readPatterns]
    cases Glob.parse {} (slashed p) with
    | error cause => simp
    | ok glob =>
      rw [Except.map_eq_ok_iff]
      constructor
      · rintro ⟨others, rest, rfl⟩
        exact ⟨glob, others, rfl, ih.mp rest, rfl⟩
      · rintro ⟨_, others, ⟨⟩, rest, rfl⟩
        exact ⟨others, ih.mpr rest, rfl⟩

theorem isPattern_of_readPatterns {role : PatternRole} {patterns : List String} {globs : List Glob}
    (read : readPatterns role patterns = .ok globs) : ∀ p ∈ patterns, IsPattern p := by
  have each := readPatterns_eq_ok_iff.mp read
  induction each with
  | nil => simp
  | cons parsed rest ih =>
    exact List.forall_mem_cons.mpr ⟨⟨_, parsed⟩, ih (readPatterns_eq_ok_iff.mpr rest)⟩

theorem matchesAny_of_readPatterns {role : PatternRole} {patterns : List String} {globs : List Glob}
    (read : readPatterns role patterns = .ok globs) :
    globs.any (·.isMatch names) = matchesAny patterns names := by
  have each := readPatterns_eq_ok_iff.mp read
  induction each with
  | nil => rfl
  | cons parsed rest ih =>
    rw [matchesAny, List.any_cons, List.any_cons, parsed, ih (readPatterns_eq_ok_iff.mpr rest)]
    rfl

theorem ofWalk_eq_ok_iff : Choice.ofWalk w = .ok choice ↔
    readPatterns .node w.nodePatterns = .ok choice.nodes ∧
      readPatterns .descriptor w.descriptorPatterns = .ok choice.descriptors ∧
      readPatterns .excluded w.excludedPatterns = .ok choice.excluded := by
  simp only [Choice.ofWalk, Except.bind_eq_ok_iff]
  constructor
  · rintro ⟨nodes, node, descriptors, descriptor, excluded, exclusion, ⟨⟩⟩
    exact ⟨node, descriptor, exclusion⟩
  · rintro ⟨node, descriptor, exclusion⟩
    exact ⟨_, node, _, descriptor, _, exclusion, rfl⟩

/-- The patterns of a search make a choice if all of them can be read. -/
theorem exists_ofWalk_iff : (∃ choice, Choice.ofWalk w = .ok choice) ↔ w.IsReadable := by
  simp only [IsReadable, List.mem_append]
  constructor
  · rintro ⟨choice, own⟩ p ((mem | mem) | mem)
    · exact isPattern_of_readPatterns (ofWalk_eq_ok_iff.mp own).1 p mem
    · exact isPattern_of_readPatterns (ofWalk_eq_ok_iff.mp own).2.1 p mem
    · exact isPattern_of_readPatterns (ofWalk_eq_ok_iff.mp own).2.2 p mem
  · intro readable
    obtain ⟨nodes, node⟩ := readPatterns_of_valid .node fun p mem => readable p (.inl (.inl mem))
    obtain ⟨descriptors, descriptor⟩ :=
      readPatterns_of_valid .descriptor fun p mem => readable p (.inl (.inr mem))
    obtain ⟨excluded, exclusion⟩ :=
      readPatterns_of_valid .excluded fun p mem => readable p (.inr mem)
    exact ⟨⟨nodes, descriptors, excluded⟩, ofWalk_eq_ok_iff.mpr ⟨node, descriptor, exclusion⟩⟩

theorem isReadable_of_excluded (root : Path) {excluded : List String}
    (patterns : ∀ p ∈ excluded, IsPattern p) :
    IsReadable { root, excludedPatterns := excluded } := by
  intro p mem
  simp only [List.mem_append, List.mem_singleton] at mem
  rcases mem with (rfl | rfl) | mem
  · exact ⟨_, rfl⟩
  · exact ⟨_, rfl⟩
  · exact patterns p mem

theorem kind?_eq_some_iff (own : Choice.ofWalk w = .ok choice) :
    choice.kind? names = some kind ↔ w.Takes kind names := by
  obtain ⟨nodes, descriptors, excluded⟩ := ofWalk_eq_ok_iff.mp own
  simp only [Choice.kind?, matchesAny_of_readPatterns nodes, matchesAny_of_readPatterns descriptors,
    matchesAny_of_readPatterns excluded, Takes]
  cases matchesAny w.excludedPatterns names <;> cases matchesAny w.descriptorPatterns names <;>
    cases matchesAny w.nodePatterns names <;> simp [eq_comm]

theorem takes_excluding_iff (more : List String) :
    Takes { w with excludedPatterns := w.excludedPatterns ++ more } kind names ↔
      w.Takes kind names ∧ matchesAny more names = false := by
  have either : matchesAny (w.excludedPatterns ++ more) names =
      (matchesAny w.excludedPatterns names || matchesAny more names) := List.any_append
  simp only [Takes, either, Bool.or_eq_false_iff]
  tauto

/-! ### What is chosen -/

theorem mem_select_iff : (kind, names) ∈ choice.select yielded ↔
    names ∈ yielded ∧ choice.kind? names = some kind := by
  simp [Choice.select]

/-- Different files are chosen once each, and so in a strict order. -/
theorem select_increasing (distinct : yielded.Nodup) :
    (choice.select yielded).Pairwise fun f g => Path.namesLt f.2 g.2 = true := by
  have names : ((choice.select yielded).map Prod.snd).Nodup := by
    refine ((List.mergeSort_perm _ _).map Prod.snd).nodup_iff.mpr ?_
    rw [List.map_filterMap]
    refine distinct.filterMap fun f g own mem mem' => ?_
    have left : (∃ kind, choice.kind? f = some kind) ∧ f = own := by simpa using mem
    have right : (∃ kind, choice.kind? g = some kind) ∧ g = own := by simpa using mem'
    exact left.2.trans right.2.symm
  refine ((select_sorted choice yielded).and (List.pairwise_map.mp names)).imp ?_
  rintro f g ⟨before, other⟩
  obtain less | same | greater := Path.namesLt_or_eq_or f.2 g.2
  · exact less
  · exact absurd same other
  · rw [before] at greater
    cases greater

/-- The order makes a selection the only one with its members. -/
theorem select_eq (distinct : yielded.Nodup)
    (increasing : chosen.Pairwise fun f g => Path.namesLt f.2 g.2 = true)
    (members : ∀ kind names, (kind, names) ∈ chosen ↔
      names ∈ yielded ∧ choice.kind? names = some kind) : choice.select yielded = chosen := by
  let before (f g : SourceKind × List String) : Prop := Path.namesLt f.2 g.2 = true
  have irrefl : Std.Irrefl before := ⟨fun f => by simp [before, Path.namesLt_irrefl]⟩
  have antisymm : Std.Antisymm before :=
    ⟨fun f g fg gf => absurd gf (by simp [before, Path.namesLt_asymm fg])⟩
  have same : ∀ f, f ∈ choice.select yielded ↔ f ∈ chosen := fun ⟨kind, names⟩ =>
    mem_select_iff.trans (members kind names).symm
  exact (@select_increasing choice yielded distinct).eq_of_mem_iff increasing same

/-! ### What is found -/

theorem ne_empty_of_isDirectory {p : Path} (directory : t.isDirectory p = true) : p ≠ "" := by
  rintro rfl
  have failed : t.resolve "" = .error .notFound := rfl
  simp [File.Tree.isDirectory, File.Tree.node, failed, bind, Except.bind, Except.toOption]
    at directory

theorem finds_of_mem_iff (directory : t.isDirectory w.root = true) (readable : w.IsReadable)
    (distinct : (files t w.root).Nodup) (named : ∀ f ∈ files t w.root, ∀ n ∈ f, IsName n)
    (increasing : chosen.Pairwise fun f g => Path.namesLt f.2 g.2 = true)
    (members : ∀ kind names, (kind, names) ∈ chosen ↔ names ∈ files t w.root ∧ w.Takes kind names) :
    Finds t w chosen := by
  obtain ⟨choice, own⟩ := exists_ofWalk_iff.mpr readable
  have filled := ne_empty_of_isDirectory directory
  have proper : ∀ f ∈ chosen, ∀ n ∈ f.2, IsName n := fun f mem =>
    named f.2 ((members f.1 f.2).mp mem).1
  have selected : ∀ yielded, yielded.Perm (files t w.root) → choice.select yielded = chosen := by
    intro yielded perm
    refine select_eq (perm.nodup_iff.mpr distinct) increasing fun kind names => ?_
    rw [members, perm.mem_iff, kind?_eq_some_iff own]
  constructor
  case discovered =>
    exact discover_eq_ok_iff.mpr ⟨directory, choice, own, by rw [selected _ (List.Perm.refl _)]⟩
  case anyOrder => exact ⟨choice, own, selected⟩
  case mem_iff => exact members
  case relative => exact fun f mem => Path.components_below filled (proper f mem)
  case increasing =>
    rw [List.pairwise_map]
    refine increasing.imp_of_mem fun mem mem' lt => ?_
    exact Path.before_below filled (proper _ mem) (proper _ mem') lt

theorem exists_finds (tree : t.root.WellNamed) (directory : t.isDirectory w.root = true)
    (readable : w.IsReadable) : ∃ chosen, Finds t w chosen ∧
      chosen.Pairwise fun f g => Path.namesLt f.2 g.2 = true := by
  obtain ⟨choice, own⟩ := exists_ofWalk_iff.mpr readable
  have distinct := nodup_files tree w.root
  have increasing := @select_increasing choice _ distinct
  refine ⟨choice.select (files t w.root), finds_of_mem_iff directory readable distinct
    (fun f mem => isName_of_mem_files tree mem) increasing fun kind names => ?_, increasing⟩
  rw [mem_select_iff, kind?_eq_some_iff own]

/-- A search only fails for want of a directory or for a pattern that cannot be read. -/
theorem exists_finds_iff (tree : t.root.WellNamed) :
    (∃ chosen, Finds t w chosen) ↔ t.isDirectory w.root = true ∧ w.IsReadable := by
  constructor
  · rintro ⟨chosen, found⟩
    obtain ⟨directory, choice, own, _⟩ := discover_eq_ok_iff.mp found.discovered
    exact ⟨directory, exists_ofWalk_iff.mp ⟨choice, own⟩⟩
  · rintro ⟨directory, readable⟩
    obtain ⟨chosen, found, _⟩ := exists_finds tree directory readable
    exact ⟨chosen, found⟩

theorem discover_iff_finds (tree : t.root.WellNamed) {sources : List (SourceKind × Path)} :
    w.discover t = .ok sources ↔
      ∃ chosen, Finds t w chosen ∧ sources = chosen.map fun f => (f.1, Path.below w.root f.2) := by
  constructor
  · intro discovered
    obtain ⟨directory, choice, own, _⟩ := discover_eq_ok_iff.mp discovered
    obtain ⟨chosen, found⟩ :=
      (exists_finds_iff tree).mpr ⟨directory, exists_ofWalk_iff.mp ⟨choice, own⟩⟩
    exact ⟨chosen, found, Except.ok.inj (discovered.symm.trans found.discovered)⟩
  · rintro ⟨chosen, found, rfl⟩
    exact found.discovered

/-- A search finds each file once, as what its patterns say of it, and in the order of the paths,
however the files come. More exclusions take away what they match, and below another root the same
files are found by their paths there. -/
theorem finds_of_readable (tree : t.root.WellNamed) (directory : t.isDirectory w.root = true)
    (readable : w.IsReadable) : ∃ chosen, Finds t w chosen ∧
      (∀ more : List String, (∀ p ∈ more, IsPattern p) →
        Finds t { w with excludedPatterns := w.excludedPatterns ++ more }
          (chosen.filter fun f => !matchesAny more f.2)) ∧
      ∀ (t' : Tree) (root' : Path), t'.isDirectory root' = true →
        (files t' root').Perm (files t w.root) → Finds t' { w with root := root' } chosen := by
  obtain ⟨chosen, found, increasing⟩ := exists_finds tree directory readable
  have distinct := nodup_files tree w.root
  have named : ∀ f ∈ files t w.root, ∀ n ∈ f, IsName n := fun f mem => isName_of_mem_files tree mem
  -- Both keep the order and the names, so that only the members are left to compare.
  refine ⟨chosen, found, fun more patterns => ?_, fun t' root' directory' same => ?_⟩
  · have readable' : IsReadable { w with excludedPatterns := w.excludedPatterns ++ more } := by
      intro p mem
      rw [← List.append_assoc, List.mem_append] at mem
      exact mem.elim (readable p) (patterns p)
    refine finds_of_mem_iff directory readable' distinct named (increasing.filter _)
      fun kind names => ?_
    rw [List.mem_filter, found.mem_iff, takes_excluding_iff, Bool.not_eq_true', and_assoc]
  · refine finds_of_mem_iff directory' readable (same.nodup_iff.mpr distinct) (fun f mem =>
      named f (same.mem_iff.mp mem)) increasing fun kind names => ?_
    rw [found.mem_iff, same.mem_iff]
    rfl

end

/-- The two sources in a directory further down. -/
def nestedSources : Tree where
  root := .directory [("nodes", twoSources.root)]

theorem wellNamed_twoSources : twoSources.root.WellNamed := by
  refine .directory ?_ (by decide) ?_
  · intro e mem
    simp only [List.mem_cons, List.not_mem_nil, or_false] at mem
    rcases mem with rfl | rfl
    · exact ⟨by decide, by decide⟩
    · exact ⟨by decide, by decide⟩
  · intro e mem
    simp only [List.mem_cons, List.not_mem_nil, or_false] at mem
    rcases mem with rfl | rfl
    · exact .file _
    · exact .file _

theorem selfContained_twoSources : twoSources.root.SelfContained := by
  refine .directory ?_ (by simp)
  intro e mem
  simp only [List.mem_cons, List.not_mem_nil, or_false] at mem
  rcases mem with rfl | rfl
  · exact .file _
  · exact .file _

theorem at?_nestedSources : nestedSources.root.at? ["nodes"] = some twoSources.root := by
  simp [nestedSources, Node.at?, Node.entry?]

theorem resolve_nestedSources : nestedSources.resolve "/nodes" = .ok ["nodes"] := by
  have path : Path.names "/nodes" = ["", "nodes"] := by decide +kernel
  have absolute : Path.isAbsolute "/nodes" = true := by decide +kernel
  have short : ¬ 255 < "nodes".utf8ByteSize := by decide +kernel
  simp [File.Tree.resolve, File.Tree.follow, nestedSources, path, absolute, Node.at?,
    Node.isDirectory, Node.entry?, short, twoSources]

theorem isDirectory_nestedSources : nestedSources.isDirectory "/nodes" = true := by
  have node : nestedSources.node "/nodes" = .ok twoSources.root := by
    rw [File.Tree.node, resolve_nestedSources]
    simp only [bind, Except.bind, at?_nestedSources]
  rw [File.Tree.isDirectory, node]
  rfl

theorem files_nestedSources : files nestedSources "/nodes" = files twoSources "/" := by
  have level : IgnoreLevel.ofDirectory nestedSources [] = ⟨[], [], [], false, []⟩ :=
    ofDirectory_of_absent (by decide +kernel)
  have here : twoSources.root.at? [] = some twoSources.root := by rw [Node.at?]
  refine files_moved wellNamed_twoSources selfContained_twoSources resolve_nestedSources
    resolve_twoSources at?_nestedSources here ?_ (by simp [IgnoreLevel.above])
  simp only [IgnoreLevel.above, List.length_singleton, List.range_one, List.map_singleton,
    List.reverse_singleton, List.forall_mem_singleton, List.take_zero, level]
  exact ⟨rfl, rfl⟩

theorem finds_of_readable_twoSources :
    let w : Walk := { root := "/", excludedPatterns := ["dist/**"] }
    ∃ chosen, Finds twoSources w chosen ∧
      Finds twoSources { w with excludedPatterns := ["dist/**", "*.node.ts"] }
        (chosen.filter fun f => !matchesAny ["*.node.ts"] f.2) ∧
      Finds nestedSources { w with root := "/nodes" } chosen := by
  intro w
  have readable : w.IsReadable := isReadable_of_excluded "/" fun p mem => by
    obtain rfl := List.mem_singleton.mp mem
    exact ⟨_, rfl⟩
  obtain ⟨chosen, found, fewer, moved⟩ :=
    finds_of_readable wellNamed_twoSources isDirectory_twoSources readable
  refine ⟨chosen, found, fewer ["*.node.ts"] ?_, moved nestedSources "/nodes"
    isDirectory_nestedSources (List.Perm.of_eq files_nestedSources)⟩
  intro p mem
  obtain rfl := List.mem_singleton.mp mem
  exact ⟨_, rfl⟩

end TitleLint.Walk
