import TitleLint.Proofs.Walk.Files

namespace TitleLint

open File

namespace File

namespace Node

/-- A node without links in which nothing stands for a repository that is kept elsewhere. -/
inductive SelfContained : Node → Prop
  | file (content : ByteArray) : SelfContained (.file content)
  | directory {entries : List (String × Node)} (inner : ∀ e ∈ entries, SelfContained e.2)
      (kept : ∀ content, (".git", Node.file content) ∉ entries) : SelfContained (.directory entries)

section

variable {n m : Node} {name : String} {entries : List (String × Node)}

theorem SelfContained.inner (h : SelfContained (.directory entries)) :
    ∀ e ∈ entries, SelfContained e.2 := by
  cases h with
  | directory inner kept => exact inner

theorem SelfContained.kept (h : SelfContained (.directory entries)) (content : ByteArray) :
    (".git", Node.file content) ∉ entries := by
  cases h with
  | directory inner kept => exact kept content

theorem SelfContained.of_entry (h : n.SelfContained) (found : n.entry? name = some m) :
    m.SelfContained := by
  cases h with
  | file content => cases found
  | directory inner kept => exact inner (name, m) (mem_of_lookup found)

theorem at?_concat {root : Node} {place : List String} (here : root.at? place = some n)
    (entry : n.entry? name = some m) : root.at? (place ++ [name]) = some m := by
  induction place generalizing root with
  | nil =>
    obtain rfl : root = n := by simpa [Node.at?] using here
    simp [Node.at?, entry]
  | cons first place ih =>
    rw [Node.at?] at here
    rw [List.cons_append, Node.at?]
    cases inner : root.entry? first with
    | none => simp [inner] at here
    | some below =>
      rw [inner] at here
      exact ih here

/-- Only in a directory anything can be found. -/
theorem isDirectory_of_at? {root : Node} {place : List String}
    (found : root.at? place = some (.directory entries)) : ∃ all, root = .directory all := by
  cases root with
  | directory all => exact ⟨all, rfl⟩
  | file | link => cases place <;> simp [Node.at?, Node.entry?] at found

end

end Node

namespace Tree

section

variable {root root' n : Node} {done done' : List String} {t t' : Tree} {place place' : List String}

theorem follow_cons {name : String} {rest : List String} (links : Nat)
    (here : root.at? done = some n) (down : name ≠ "..") (own : n.SelfContained) :
    follow root links done (name :: rest) =
      if !n.isDirectory then .error .notDirectory
      else if name = "" ∨ name = "." then follow root links done rest
      else if 255 < name.utf8ByteSize then .error .nameTooLong
      else
        match n.entry? name with
        | some _ => follow root links (done ++ [name]) rest
        | none => .error .notFound := by
  rw [follow, here]
  simp only [down, if_false]
  congr 3
  cases entry : n.entry? name with
  | none => rfl
  | some m => cases own.of_entry entry <;> rfl

/-- From the same node names lead to the same node, or fail alike, if they do not lead back. -/
theorem follow_congr {names : List String} (links : Nat) (own : n.SelfContained)
    (down : ".." ∉ names) (here : root.at? done = some n) (here' : root'.at? done' = some n) :
    (∃ e, follow root links done names = .error e ∧ follow root' links done' names = .error e) ∨
      ∃ place place' m, follow root links done names = .ok place ∧
        follow root' links done' names = .ok place' ∧ root.at? place = some m ∧
        root'.at? place' = some m := by
  induction names generalizing n done done' with
  | nil => exact .inr ⟨done, done', n, by rw [follow], by rw [follow], here, here'⟩
  | cons name rest ih =>
    rw [List.mem_cons, not_or] at down
    have down' : name ≠ ".." := Ne.symm down.1
    rw [follow_cons links here down' own, follow_cons links here' down' own]
    split
    next => exact .inl ⟨_, rfl, rfl⟩
    next =>
      split
      next => exact ih own down.2 here here'
      next =>
        split
        next => exact .inl ⟨_, rfl, rfl⟩
        next =>
          cases entry : n.entry? name with
          | none => exact .inl ⟨_, rfl, rfl⟩
          | some m =>
            exact ih (own.of_entry entry) down.2 (Node.at?_concat here entry)
              (Node.at?_concat here' entry)

theorem node_congr {p : Path} (own : n.SelfContained) (relative : p.isAbsolute = false)
    (down : ".." ∉ p.names) (here : t.root.at? place = some n)
    (here' : t'.root.at? place' = some n) :
    node { t with current := place } p = node { t' with current := place' } p := by
  unfold node resolve
  simp only [relative, Bool.false_eq_true, if_false]
  split
  next => rfl
  next =>
    split
    next => rfl
    next =>
      obtain ⟨e, left, right⟩ | ⟨_, _, m, left, right, found, found'⟩ :=
        follow_congr linkLimit own down here here'
      · rw [left, right]
        rfl
      · rw [left, right]
        simp only [bind, Except.bind, found, found']

end

end Tree

end File

namespace Walk

namespace IgnoreLevel

/-- A level that says nothing. Outside of a repository its rules have no say. -/
structure IsQuiet (l : IgnoreLevel) : Prop where
  plain : l.plain = []
  outside : l.isRepository = false

section

variable {t t' : Tree} {place place' : List String} {entries : List (String × Node)}

theorem node_git_ne_file (own : (Node.directory entries).SelfContained)
    (here : t.root.at? place = some (.directory entries)) (content : ByteArray) :
    File.Tree.node { t with current := place } ".git" ≠ .ok (.file content) := by
  have path : Path.names ".git" = [".git"] := by decide +kernel
  have clean : ".git".toList.contains '\x00' = false := by decide +kernel
  have relative : Path.isAbsolute ".git" = false := by decide +kernel
  have filled : String.isEmpty ".git" = false := by decide +kernel
  have short : ¬ 255 < ".git".utf8ByteSize := by decide +kernel
  intro found
  unfold File.Tree.node File.Tree.resolve at found
  simp only [filled, clean, relative, path, Bool.false_eq_true, if_false] at found
  rw [Tree.follow_cons Tree.linkLimit here (by decide) own] at found
  cases entry : Node.entry? ".git" (.directory entries) with
  | none => simp [entry, Node.isDirectory, short, bind, Except.bind] at found
  | some m =>
    have there := Node.at?_concat here entry
    have same : m = .file content := by
      simpa [entry, Node.isDirectory, short, bind, Except.bind, Tree.follow, there] using found
    exact own.kept content (Node.mem_of_lookup (same ▸ entry))

/-- What a directory brings along, if no repository for it is kept elsewhere. -/
theorem ofDirectory_eq (own : (Node.directory entries).SelfContained)
    (here : t.root.at? place = some (.directory entries)) :
    ofDirectory t place =
      { plain := rulesAt { t with current := place } ".ignore"
        tracked := rulesAt { t with current := place } ".gitignore"
        excluded := rulesAt { t with current := place } ".git/info/exclude"
        isRepository := Tree.contains { t with current := place } ".git" } := by
  have kept := node_git_ne_file own here
  have exclude : Path.join ".git" "info/exclude" = ".git/info/exclude" := by decide +kernel
  have repository : repository? t { t with current := place } = some ".git" := by
    unfold repository?
    split
    next content file => exact absurd file (kept content)
    next => rfl
  simp only [ofDirectory, repository, exclude]

/-- What a directory brings along does not depend on where it is. -/
theorem ofDirectory_congr (own : (Node.directory entries).SelfContained)
    (here : t.root.at? place = some (.directory entries))
    (here' : t'.root.at? place' = some (.directory entries)) :
    ofDirectory t place = ofDirectory t' place' := by
  have node {p : Path} (relative : p.isAbsolute = false) (down : ".." ∉ p.names) :=
    Tree.node_congr own relative down here here'
  have rules {p : Path} (relative : p.isAbsolute = false) (down : ".." ∉ p.names) :
      rulesAt { t with current := place } p = rulesAt { t' with current := place' } p := by
    rw [rulesAt, rulesAt, File.Tree.read, File.Tree.read, node relative down]
  rw [ofDirectory_eq own here, ofDirectory_eq own here', Tree.contains, Tree.contains,
    @rules ".ignore" (by decide +kernel) (by decide +kernel),
    @rules ".gitignore" (by decide +kernel) (by decide +kernel),
    @rules ".git/info/exclude" (by decide +kernel) (by decide +kernel),
    @node ".git" (by decide +kernel) (by decide +kernel)]

theorem firstVerdict?_append {rules : IgnoreLevel → List Glob.IgnoreRule} {outer : List IgnoreLevel}
    (silent : ∀ l ∈ outer, rules l = []) (inner : List IgnoreLevel) (name : String)
    (isDirectory : Bool) :
    firstVerdict? rules (inner ++ outer) name isDirectory =
      firstVerdict? rules inner name isDirectory := by
  have none : firstVerdict? rules outer name isDirectory = none :=
    List.findSome?_eq_none_iff.mpr fun l mem => by rw [silent l mem]; rfl
  rw [firstVerdict?, List.findSome?_append]
  exact (congrArg _ none).trans Option.or_none

theorem inRepository_append {outer : List IgnoreLevel} (none : ∀ l ∈ outer, l.isRepository = false)
    (inner : List IgnoreLevel) : inRepository (inner ++ outer) = inRepository inner := by
  induction inner with
  | nil =>
    induction outer with
    | nil => rfl
    | cons l ls ih =>
      have rest := ih fun m mem => none m (List.mem_cons_of_mem l mem)
      rw [List.nil_append] at rest
      simp [inRepository, none l List.mem_cons_self, rest]
  | cons l ls ih => simp [inRepository, ih]

/-- Levels that say nothing on the outside have no bearing. -/
theorem isIgnored_append {outer : List IgnoreLevel} (quiet : ∀ l ∈ outer, l.IsQuiet)
    (inner : List IgnoreLevel) (name : String) (isDirectory : Bool) :
    isIgnored (inner ++ outer) name isDirectory = isIgnored inner name isDirectory := by
  simp only [isIgnored, inRepository_append fun l mem => (quiet l mem).outside,
    firstVerdict?_append fun l mem => (quiet l mem).plain]

theorem isQuiet_map_enter {outer : List IgnoreLevel} (quiet : ∀ l ∈ outer, l.IsQuiet)
    (name : String) : ∀ l ∈ outer.map (enter name), l.IsQuiet := by
  simp only [List.forall_mem_map]
  exact fun l mem => ⟨(quiet l mem).plain, (quiet l mem).outside⟩

end

end IgnoreLevel

section

variable {t t' : Tree}

/-- The same entries are walked alike wherever they are. -/
theorem filesAmong_congr {place place' : List String} {all : List (String × Node)}
    {outer outer' : List IgnoreLevel} (quiet : ∀ l ∈ outer, l.IsQuiet)
    (quiet' : ∀ l ∈ outer', l.IsQuiet) (named : (Node.directory all).WellNamed)
    (own : (Node.directory all).SelfContained) (here : t.root.at? place = some (.directory all))
    (here' : t'.root.at? place' = some (.directory all))
    (unvisited unvisited' within within' : List (List String)) (inner : List IgnoreLevel)
    (names : List String) : ∀ entries, entries ⊆ all →
      filesAmong t unvisited within (inner ++ outer) place names entries =
        filesAmong t' unvisited' within' (inner ++ outer') place' names entries
  | [], _ => by rw [filesAmong, filesAmong]
  | (name, .file content) :: entries, part => by
    have rest := filesAmong_congr quiet quiet' named own here here' unvisited unvisited' within
      within' inner names entries (List.subset_of_cons_subset part)
    rw [filesAmong, filesAmong, IgnoreLevel.isIgnored_append quiet,
      IgnoreLevel.isIgnored_append quiet', rest]
  | (name, .directory inside) :: entries, part => by
    have rest := filesAmong_congr quiet quiet' named own here here' unvisited unvisited' within
      within' inner names entries (List.subset_of_cons_subset part)
    have mem : (name, Node.directory inside) ∈ all := part List.mem_cons_self
    have entry : Node.entry? name (.directory all) = some (.directory inside) :=
      named.lookup_of_mem mem
    have deeper := Node.at?_concat here entry
    have deeper' := Node.at?_concat here' entry
    -- In both places the levels inside begin with the same one, and the outer ones stay quiet.
    have level := IgnoreLevel.ofDirectory_congr (own.inner _ mem) deeper deeper'
    have below := filesAmong_congr (IgnoreLevel.isQuiet_map_enter quiet name)
      (IgnoreLevel.isQuiet_map_enter quiet' name) (named.inner _ mem) (own.inner _ mem) deeper
      deeper' unvisited unvisited' ((place ++ [name]) :: within) ((place' ++ [name]) :: within')
      (.ofDirectory t (place ++ [name]) :: inner.map (IgnoreLevel.enter name)) (names ++ [name])
      inside (List.Subset.refl _)
    rw [List.cons_append, List.cons_append] at below
    rw [filesAmong, filesAmong]
    simp only [IgnoreLevel.isIgnored_append quiet, IgnoreLevel.isIgnored_append quiet', rest,
      IgnoreLevel.inside, List.map_append, ← level, below]
  -- A self-contained directory has no links.
  | (name, .link target) :: entries, part => by
    cases own.inner _ (part List.mem_cons_self)
termination_by entries => sizeOf entries

theorem files_of_directory {root : Path} {place : List String} {all : List (String × Node)}
    (resolved : t.resolve root = .ok place) (here : t.root.at? place = some (.directory all)) :
    ∃ unvisited, files t root = filesAmong t unvisited [place]
      (.ofDirectory t place :: IgnoreLevel.above t place) place [] all := by
  unfold files
  rw [resolved]
  dsimp only
  split
  next whole entries _ found =>
    obtain rfl : entries = all := by simpa [found] using here
    exact ⟨_, rfl⟩
  next other =>
    obtain ⟨whole, top⟩ := Node.isDirectory_of_at? here
    exact absurd here (other whole all top)

/-- A self-contained directory is walked alike wherever it is, if nothing is ignored from above and no
repository begins there. -/
theorem files_moved {root root' : Path} {place place' : List String} {all : List (String × Node)}
    (named : (Node.directory all).WellNamed) (own : (Node.directory all).SelfContained)
    (resolved : t.resolve root = .ok place)
    (resolved' : t'.resolve root' = .ok place') (here : t.root.at? place = some (.directory all))
    (here' : t'.root.at? place' = some (.directory all))
    (quiet : ∀ l ∈ IgnoreLevel.above t place, l.IsQuiet)
    (quiet' : ∀ l ∈ IgnoreLevel.above t' place', l.IsQuiet) : files t root = files t' root' := by
  obtain ⟨unvisited, walked⟩ := files_of_directory resolved here
  obtain ⟨unvisited', walked'⟩ := files_of_directory resolved' here'
  rw [walked, walked', ← IgnoreLevel.ofDirectory_congr own here here']
  exact filesAmong_congr quiet quiet' named own here here' unvisited unvisited' [place] [place']
    [.ofDirectory t place] [] all (List.Subset.refl all)

end

end Walk

end TitleLint
