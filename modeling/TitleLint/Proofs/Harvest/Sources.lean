import TitleLint.Proofs.Harvest.Reduction
import TitleLint.Proofs.Walk.Deadline
import TitleLint.Proofs.Walk.Discovery
import TitleLint.Proofs.Walk.Kinds

namespace TitleLint

open File

namespace Harvest

section

variable {t : Tree} {texts : List (Path × String)} {sources : List (SourceKind × Path)}

theorem ofPaths_eq_ofFiles (kinds : ∀ f ∈ sources, f.1 = .ofPath f.2) :
    ofPaths t (sources.map Prod.snd) = ofFiles t sources := by
  have same : (sources.map Prod.snd).map (fun p => (SourceKind.ofPath p, p)) = sources := by
    rw [List.map_map]
    refine (List.map_congr_left fun f mem => ?_).trans (List.map_id sources)
    obtain ⟨kind, p⟩ := f
    exact congrArg (·, p) (kinds (kind, p) mem).symm
  rw [ofPaths, same]

theorem ofTexts_concat (texts : List (Path × String)) (f : Path × String) :
    ofTexts (texts ++ [f]) =
      (ofTexts texts).record f.1 (.ok (DisplayName.ofText? (.ofPath f.1) f.2)) := by
  simp [ofTexts]

/-- It makes no difference whether a text is at hand or is read from a file. -/
theorem ofTexts_eq_ofPaths (readable : ∀ f ∈ texts, t.readText f.1 = .ok f.2) :
    ofTexts texts = ofPaths t (texts.map Prod.fst) := by
  induction texts using List.reverseRecOn with
  | nil => rfl
  | append_singleton texts f ih =>
    have last := readable f (by simp)
    have earlier := ih fun g mem => readable g (by simp [mem])
    rw [ofTexts_concat, earlier, ofPaths, ofPaths, List.map_append, List.map_append,
      List.map_singleton, List.map_singleton, ofFiles_concat]
    simp only [DisplayName.ofFile, last]

theorem mem_names_record_ok {h : Harvest} {p : Path} {found : Option DisplayName} {name : String} :
    name ∈ (h.record p (.ok found)).names.names ↔
      name ∈ h.names.names ∨ name ≠ "" ∧ ∃ d, found = some d ∧ d.name = name := by
  cases found with
  | none => simp [record]
  | some d =>
    simp only [record, Vocabulary.mem_insert, Option.some.injEq, exists_eq_left']
    refine or_congr_right ⟨?_, ?_⟩
    · rintro ⟨rfl, filled⟩
      exact ⟨filled, rfl⟩
    · rintro ⟨filled, rfl⟩
      exact ⟨rfl, filled⟩

/-- The names of texts are those that they declare. -/
theorem mem_names_ofTexts {name : String} :
    name ∈ (ofTexts texts).names.names ↔
      name ≠ "" ∧ ∃ f ∈ texts, ∃ d, DisplayName.ofText? (.ofPath f.1) f.2 = some d ∧
        d.name = name := by
  induction texts using List.reverseRecOn with
  | nil => simp [ofTexts, Vocabulary.empty]
  | append_singleton texts f ih =>
    simp only [ofTexts_concat, mem_names_record_ok, ih, List.mem_append, List.mem_singleton,
      or_and_right, exists_or, exists_eq_left, ← and_or_left]

theorem warnings_record_ok (h : Harvest) (p : Path) (found : Option DisplayName) :
    (h.record p (.ok found)).warnings = h.warnings := by
  cases found <;> rfl

theorem warnings_ofTexts (texts : List (Path × String)) : (ofTexts texts).warnings = [] := by
  induction texts using List.reverseRecOn with
  | nil => rfl
  | append_singleton texts f ih => rw [ofTexts_concat, warnings_record_ok, ih]

end

end Harvest

namespace Walk

/-- The files that a search has found, given in another way, are harvested as in the search. -/
structure SourcesAgree (t : Tree) (w : Walk) (sources : List (SourceKind × Path)) : Prop where
  kinds : ∀ f ∈ sources, f.1 = .ofPath f.2
  /-- Given by their paths. -/
  paths : w.harvest t = .ok (.ofPaths t (sources.map Prod.snd))
  /-- Nothing else is gathered, and the warnings are in the order of the paths. -/
  gathers : Harvest.Gathers t sources (.ofPaths t (sources.map Prod.snd))
  ordered : ∃ found : List (SourceKind × List String),
    sources = found.map (fun f => (f.1, Path.below w.root f.2)) ∧
      found.Pairwise fun f g => Path.namesLt g.2 f.2 = false
  /-- Given by their paths and texts, if all of them are texts. -/
  texts : ∀ texts : List (Path × String), texts.map Prod.fst = sources.map Prod.snd →
    (∀ f ∈ texts, t.readText f.1 = .ok f.2) →
      w.harvest t = .ok (.ofTexts texts) ∧ (Harvest.ofTexts texts).warnings = []

section

variable {t : Tree} {w : Walk} {choice : Choice} {sources : List (SourceKind × Path)}

theorem sourcesAgree_of_kinds (found : w.discover t = .ok sources)
    (kinds : ∀ f ∈ sources, f.1 = .ofPath f.2) : SourcesAgree t w sources := by
  have files := Harvest.ofPaths_eq_ofFiles (t := t) kinds
  have paths : w.harvest t = .ok (.ofPaths t (sources.map Prod.snd)) := by
    rw [files, BoundedWalk.harvest_of_discover found]
  obtain ⟨_, choice, _, listed⟩ := discover_eq_ok_iff.mp found
  refine ⟨kinds, paths, ?_, ⟨_, listed, select_sorted choice _⟩, fun texts same readable => ?_⟩
  · rw [files]
    exact Harvest.gathers_ofFiles t sources
  · rw [Harvest.ofTexts_eq_ofPaths readable, same]
    exact ⟨paths, by rw [← same, ← Harvest.ofTexts_eq_ofPaths readable, Harvest.warnings_ofTexts]⟩

theorem ofWalk_of_excluded (root : Path) {excluded : List String} {globs : List Glob}
    (read : readPatterns .excluded excluded = .ok globs) :
    Choice.ofWalk { root, excludedPatterns := excluded } =
      .ok ⟨[defaultNodes], [defaultDescriptors], globs⟩ := by
  have nodes : readPatterns .node ["**/*.node.ts"] = .ok [defaultNodes] := rfl
  have descriptors : readPatterns .descriptor ["**/versionDescription.ts"] =
      .ok [defaultDescriptors] := rfl
  simp only [Choice.ofWalk, nodes, descriptors, read]
  rfl

end

/-- A search by the default patterns succeeds whenever its root is a directory, and what it finds is
harvested in the same way as the same files given by their paths, or by their paths and texts. -/
theorem sourcesAgree_of_default_patterns (t : Tree) (root : Path) (excluded : List String)
    (valid : ∀ p ∈ excluded, ∃ glob, Glob.parse {} (slashed p) = .ok glob) :
    (t.isDirectory root = true →
      ∃ sources, discover t { root, excludedPatterns := excluded } = .ok sources) ∧
    ∀ sources, discover t { root, excludedPatterns := excluded } = .ok sources →
      SourcesAgree t { root, excludedPatterns := excluded } sources := by
  obtain ⟨globs, read⟩ := readPatterns_of_valid .excluded valid
  have chosen := ofWalk_of_excluded root read
  constructor
  · intro directory
    exact ⟨_, discover_eq_ok_iff.mpr ⟨directory, _, chosen, rfl⟩⟩
  · intro sources found
    refine sourcesAgree_of_kinds found ?_
    obtain ⟨_, choice, own, rfl⟩ := discover_eq_ok_iff.mp found
    obtain rfl := Except.ok.inj (own.symm.trans chosen)
    intro f mem
    obtain ⟨g, selected, rfl⟩ := List.mem_map.mp mem
    exact kind?_eq_ofPath rfl rfl (kind?_of_mem_select selected)

/-- Nothing is found by a path whose first name is not there. -/
theorem node_of_absent {entries : List (String × Node)} {p : Path} {name : String}
    {rest : List String} (relative : p.isAbsolute = false) (path : p.names = name :: rest)
    (proper : name ∉ ["", ".", ".."]) (absent : entries.lookup name = none) :
    ∃ e, File.Tree.node { root := .directory entries } p = .error e := by
  have blocked : ∃ e, Tree.follow (.directory entries) Tree.linkLimit [] (name :: rest) = .error e := by
    simp only [List.mem_cons, List.not_mem_nil, or_false, not_or] at proper
    obtain ⟨filled, here, parent⟩ := proper
    unfold Tree.follow
    simp only [Node.at?, Node.isDirectory, Node.entry?, filled, here, parent, absent, or_self,
      Bool.not_true, Bool.false_eq_true, if_false]
    split
    next => exact ⟨_, rfl⟩
    next => exact ⟨_, rfl⟩
  obtain ⟨e, failed⟩ := blocked
  unfold File.Tree.node File.Tree.resolve
  split
  next => exact ⟨_, rfl⟩
  next =>
    split
    next => exact ⟨_, rfl⟩
    next =>
      simp only [relative, path, Bool.false_eq_true, if_false, failed]
      exact ⟨e, rfl⟩

/-- A directory without files for it brings no rules. -/
theorem ofDirectory_of_absent {entries : List (String × Node)}
    (absent : ∀ name ∈ [".ignore", ".gitignore", ".git"], entries.lookup name = none) :
    IgnoreLevel.ofDirectory { root := .directory entries } [] = ⟨[], [], [], false, []⟩ := by
  obtain ⟨_, plain⟩ := @node_of_absent entries ".ignore" ".ignore" [] (by decide +kernel)
    (by decide +kernel) (by decide +kernel) (absent _ (by decide))
  obtain ⟨_, tracked⟩ := @node_of_absent entries ".gitignore" ".gitignore" [] (by decide +kernel)
    (by decide +kernel) (by decide +kernel) (absent _ (by decide))
  obtain ⟨_, repository⟩ := @node_of_absent entries ".git" ".git" [] (by decide +kernel)
    (by decide +kernel) (by decide +kernel) (absent _ (by decide))
  obtain ⟨_, excluded⟩ := @node_of_absent entries ".git/info/exclude" ".git" ["info", "exclude"]
    (by decide +kernel) (by decide +kernel) (by decide +kernel) (absent _ (by decide))
  have path : Path.join ".git" "info/exclude" = ".git/info/exclude" := by decide +kernel
  simp only [IgnoreLevel.ofDirectory, IgnoreLevel.rulesAt, IgnoreLevel.repository?, Tree.read,
    Tree.contains, plain, tracked, repository, excluded, path]
  rfl

/-- A directory with a node and the description of a version. -/
def twoSources : Tree where
  root := .directory [("Slack.node.ts", .file ⟨#[]⟩), ("versionDescription.ts", .file ⟨#[]⟩)]

theorem resolve_twoSources : twoSources.resolve "/" = .ok [] := by
  have path : Path.names "/" = ["", ""] := by decide +kernel
  have filled : String.isEmpty "/" = false := by decide +kernel
  simp [File.Tree.resolve, File.Tree.follow, twoSources, path, filled, Node.at?, Node.isDirectory]

theorem isDirectory_twoSources : twoSources.isDirectory "/" = true := by
  have whole : twoSources.root.at? [] = some twoSources.root := by rw [Node.at?]
  have node : twoSources.node "/" = .ok twoSources.root := by
    rw [File.Tree.node, resolve_twoSources]
    simp only [bind, Except.bind, whole]
  rw [File.Tree.isDirectory, node]
  rfl

theorem files_twoSources : files twoSources "/" = [["Slack.node.ts"], ["versionDescription.ts"]] := by
  have level : IgnoreLevel.ofDirectory twoSources [] = ⟨[], [], [], false, []⟩ :=
    ofDirectory_of_absent (by decide +kernel)
  have above : IgnoreLevel.above twoSources [] = [] := rfl
  simp only [files, resolve_twoSources, level, above]
  simp [twoSources, Node.at?, filesAmong, IgnoreLevel.isIgnored, IgnoreLevel.inRepository,
    IgnoreLevel.firstVerdict?, Glob.verdict?]

theorem discover_twoSources : discover twoSources { root := "/", excludedPatterns := ["dist/**"] } =
    .ok [(.node, "/Slack.node.ts"), (.descriptor, "/versionDescription.ts")] := by
  let choice : Choice := ⟨[defaultNodes], [defaultDescriptors],
    [⟨"dist".toList.map .literal ++ [.trailingStars], false⟩]⟩
  have node : choice.kind? ["Slack.node.ts"] = some .node := by decide +kernel
  have descriptor : choice.kind? ["versionDescription.ts"] = some .descriptor := by decide +kernel
  have ordered : Path.namesLt ["versionDescription.ts"] ["Slack.node.ts"] = false := by
    decide +kernel
  have selected : choice.select [["Slack.node.ts"], ["versionDescription.ts"]] =
      [(.node, ["Slack.node.ts"]), (.descriptor, ["versionDescription.ts"])] := by
    simp [Choice.select, node, descriptor, List.mergeSort, ordered]
  refine discover_eq_ok_iff.mpr ⟨isDirectory_twoSources, choice, ofWalk_of_excluded "/" rfl, ?_⟩
  rw [files_twoSources, selected]
  decide +kernel

theorem readText_twoSources {name : String} (path : Path.names ("/" ++ name) = ["", name])
    (proper : name ∉ ["", ".", ".."]) (short : ¬ 255 < name.utf8ByteSize)
    (clean : '\x00' ∉ name.toList) (listed : twoSources.root.entry? name = some (.file ⟨#[]⟩)) :
    twoSources.readText ("/" ++ name) = .ok "" := by
  simp only [List.mem_cons, List.not_mem_nil, or_false, not_or] at proper
  obtain ⟨filled, here, parent⟩ := proper
  have place : twoSources.resolve ("/" ++ name) = .ok [name] := by
    have root : twoSources.root.isDirectory = true := rfl
    have text : ("/" ++ name).toList = '/' :: name.toList := String.toList_append
    simp [File.Tree.resolve, File.Tree.follow, path, text, clean, Path.isAbsolute, Node.at?, root,
      filled, here, parent, short, listed]
  have node : twoSources.node ("/" ++ name) = .ok (.file ⟨#[]⟩) := by
    rw [File.Tree.node, place]
    simp [bind, Except.bind, Node.at?, listed]
  have read : twoSources.read ("/" ++ name) = .ok ⟨#[]⟩ := by
    rw [File.Tree.read, node]
    rfl
  rw [File.Tree.readText, read]
  rfl

theorem sourcesAgree_twoSources :
    twoSources.isDirectory "/" = true ∧
      SourcesAgree twoSources { root := "/", excludedPatterns := ["dist/**"] }
        [(.node, "/Slack.node.ts"), (.descriptor, "/versionDescription.ts")] ∧
      harvest twoSources { root := "/", excludedPatterns := ["dist/**"] } =
        .ok (.ofTexts [("/Slack.node.ts", ""), ("/versionDescription.ts", "")]) := by
  have valid : ∀ p ∈ ["dist/**"], ∃ glob, Glob.parse {} (slashed p) = .ok glob := by
    intro p mem
    obtain rfl := List.mem_singleton.mp mem
    exact ⟨_, rfl⟩
  have node : twoSources.readText "/Slack.node.ts" = .ok "" :=
    @readText_twoSources "Slack.node.ts" (by decide +kernel) (by decide +kernel) (by decide +kernel)
      (by decide +kernel) rfl
  have descriptor : twoSources.readText "/versionDescription.ts" = .ok "" :=
    @readText_twoSources "versionDescription.ts" (by decide +kernel) (by decide +kernel)
      (by decide +kernel) (by decide +kernel) rfl
  have agree := (sourcesAgree_of_default_patterns twoSources "/" ["dist/**"] valid).2 _
    discover_twoSources
  have texts := agree.texts [("/Slack.node.ts", ""), ("/versionDescription.ts", "")] rfl
    (by simp [node, descriptor])
  exact ⟨isDirectory_twoSources, agree, texts.1⟩

end Walk

end TitleLint
