import TitleLint.Config
import TitleLint.Proofs.Document.Fields
import TitleLint.Proofs.Harvest.Sources
import TitleLint.Proofs.Walk.Selection

namespace TitleLint

open Document Document.Decoder File

namespace Config

/-- What the lists of a configuration are where lists are given under keys. -/
structure Holds (c : Config) (given : List String → Option (List String)) : Prop where
  types : c.types = given ["types"]
  scopes : c.scopes = given ["scopes"]
  nodePatterns : c.nodes.nodePatterns = (given ["nodes", "include"]).getD []
  descriptorPatterns :
    c.nodes.descriptorPatterns = (given ["nodes", "version_descriptions"]).getD []
  excludedPatterns : c.nodes.excludedPatterns = given ["nodes", "exclude"]

/-- The list that the text of a configuration gives under keys, even if it is empty. -/
def listAt? (text : String) (keys : List String) : Option (List String) :=
  if text.toList.all Unicode.isSpace then none
  else do
    let d ← Document.ofText? text
    let root ← d.root
    (d.under? root keys).bind d.textsOf?

/-- The search below a root that the text of a configuration describes. Of the patterns by which files
are chosen, an empty list leaves the usual ones. -/
def walkOf (text : String) (root : Path) : Walk where
  root
  nodePatterns := ((listAt? text ["nodes", "include"]).filter (· ≠ [])).getD ["**/*.node.ts"]
  descriptorPatterns := ((listAt? text ["nodes", "version_descriptions"]).filter (· ≠ [])).getD
    ["**/versionDescription.ts"]
  excludedPatterns := (listAt? text ["nodes", "exclude"]).getD usualExclusions

section

variable {d : Document} {place : Place} {n : Document.Node Nat} {s : NodeSettings} {c : Config}
  {text : String}

theorem nodes_of_decoder (read : NodeSettings.decoder d place n = .ok s) :
    s.nodePatterns = ((d.under? n ["include"]).bind d.textsOf?).getD [] ∧
      s.descriptorPatterns = ((d.under? n ["version_descriptions"]).bind d.textsOf?).getD [] ∧
      s.excludedPatterns = (d.under? n ["exclude"]).bind d.textsOf? := by
  refine ⟨@get_texts _ d place n "a string" _ "include" s _ _ (·.nodePatterns) ?_ rfl read,
    @get_texts _ d place n "a string" _ "version_descriptions" s _ _ (·.descriptorPatterns) ?_ rfl
      read,
    @get_optional_texts _ d place n "a string" _ "exclude" s _ _ (·.excludedPatterns) ?_ rfl read⟩
  all_goals simp [Owns, Field.of, Field.Sets, Field.Keeps, Except.map_eq_ok_iff]

theorem holds_of_decoder (read : decoder d place n = .ok c) :
    Holds c fun keys => (d.under? n keys).bind d.textsOf? := by
  have nodes := @get_record _ _ d place n _ "nodes" NodeSettings.decoder Config.nodes c _ _
    (by simp [Owns, Field.of, Field.Sets, Field.Keeps, Except.map_eq_ok_iff]) read
  have below : c.nodes.nodePatterns = ((d.under? n ["nodes", "include"]).bind d.textsOf?).getD [] ∧
      c.nodes.descriptorPatterns =
        ((d.under? n ["nodes", "version_descriptions"]).bind d.textsOf?).getD [] ∧
      c.nodes.excludedPatterns = (d.under? n ["nodes", "exclude"]).bind d.textsOf? := by
    rw [under?_cons n "nodes" ["include"], under?_cons n "nodes" ["version_descriptions"],
      under?_cons n "nodes" ["exclude"]]
    cases value : d.under? n ["nodes"] with
    | none =>
      rw [nodes.2 value]
      exact ⟨rfl, rfl, rfl⟩
    | some m =>
      obtain ⟨_, read'⟩ := nodes.1 m value
      exact nodes_of_decoder read'
  refine ⟨@get_optional_texts _ d place n "a string" _ "types" c _ _ Config.types ?_ rfl read,
    @get_optional_texts _ d place n "a string" _ "scopes" c _ _ Config.scopes ?_ rfl read,
    below.1, below.2.1, below.2.2⟩
  all_goals simp [Owns, Field.of, Field.Sets, Field.Keeps, Except.map_eq_ok_iff]

theorem holds_blank : Holds {} fun _ => none := ⟨rfl, rfl, rfl, rfl, rfl⟩

theorem holds_of_parse (accepted : parse text = .ok c) : Holds c (listAt? text) := by
  unfold parse at accepted
  unfold listAt?
  split at accepted
  next blank =>
    obtain rfl := Except.ok.inj accepted
    simpa [blank] using holds_blank
  next written =>
    simp only [written]
    unfold Document.decode at accepted
    split at accepted
    next => cases accepted
    next d own =>
      split at accepted
      next empty =>
        obtain rfl := Except.ok.inj accepted
        simpa [own, empty] using holds_blank
      next root whole =>
        split at accepted
        next read =>
          obtain rfl := Except.ok.inj accepted
          simpa [own, whole] using holds_of_decoder read
        next => cases accepted

theorem walk_eq_walkOf (accepted : parse text = .ok c) (project : Path) :
    c.walk project = walkOf text (project.join (c.nodes.root.getD usualNodeRoot)) := by
  have holds := holds_of_parse accepted
  have filled (given : Option (List String)) (usual : List String) :
      (if (given.getD []).isEmpty then usual else given.getD []) =
        (given.filter (· ≠ [])).getD usual := by
    cases given with
    | none => rfl
    | some patterns => cases patterns <;> rfl
  simp only [walk, walkOf, holds.nodePatterns, holds.descriptorPatterns, holds.excludedPatterns,
    filled]

theorem lists_of_policy (accepted : parse text = .ok c) {p : Policy} (made : c.policy = .ok p) :
    p.types = (listAt? text ["types"]).getD Policy.defaultTypes ∧
      p.scopes = (listAt? text ["scopes"]).getD Policy.defaultScopes := by
  have holds := holds_of_parse accepted
  unfold policy Policy.make at made
  split at made
  next =>
    obtain rfl := Except.ok.inj made
    exact ⟨by rw [holds.types], by rw [holds.scopes]⟩
  next => cases made

/-- The lists that the text of a configuration gives are what titles are checked and files are chosen
by, even if they are empty, and lists that it leaves out are the usual ones. Only of the patterns by
which files are chosen, empty lists count as left out. -/
theorem finds_of_parse (accepted : parse text = .ok c) (project : Path) (t : Tree)
    (tree : t.root.WellNamed) :
    let w := walkOf text (project.join (c.nodes.root.getD usualNodeRoot))
    (∀ p, c.policy = .ok p → p.types = (listAt? text ["types"]).getD Policy.defaultTypes ∧
      p.scopes = (listAt? text ["scopes"]).getD Policy.defaultScopes) ∧
    c.walk project = w ∧
    (∀ sources, (c.walk project).discover t = .ok sources ↔
      ∃ chosen, Walk.Finds t w chosen ∧
        sources = chosen.map fun f => (f.1, Path.below w.root f.2)) ∧
    ((∃ chosen, Walk.Finds t w chosen) ↔ t.isDirectory w.root = true ∧ w.IsReadable) := by
  intro w
  have walked : c.walk project = w := walk_eq_walkOf accepted project
  refine ⟨fun p made => lists_of_policy accepted made, walked, fun sources => ?_,
    Walk.exists_finds_iff tree⟩
  rw [walked]
  exact Walk.discover_iff_finds tree

end

theorem finds_of_parse_empty_lists :
    let text := "types: []\nnodes:\n  root: /\n  include: []\n  exclude: []\n"
    let c : Config :=
      { types := some [], nodes := { root := some "/", excludedPatterns := some [] } }
    parse text = .ok c ∧ listAt? text ["types"] = some [] ∧
      listAt? text ["nodes", "exclude"] = some [] ∧
      (∀ p, c.policy = .ok p → p.types = []) ∧
      c.walk "" = { root := "/", excludedPatterns := [] } ∧
      ∃ chosen, Walk.Finds Walk.twoSources (c.walk "") chosen := by
  intro text c
  have accepted : parse text = .ok c := by decide +kernel
  have types : listAt? text ["types"] = some [] := by decide +kernel
  have exclude : listAt? text ["nodes", "exclude"] = some [] := by decide +kernel
  have whole : walkOf text "/" = { root := "/", excludedPatterns := [] } := by decide +kernel
  obtain ⟨policy, walked, _, found⟩ :=
    finds_of_parse accepted "" Walk.twoSources Walk.wellNamed_twoSources
  have root : Path.join "" (c.nodes.root.getD usualNodeRoot) = "/" := by decide +kernel
  rw [root, whole] at walked found
  refine ⟨accepted, types, exclude, fun p made => ?_, walked, ?_⟩
  · rw [(policy p made).1, types, Option.getD_some]
  · rw [walked]
    exact found.mpr ⟨Walk.isDirectory_twoSources, Walk.isReadable_of_excluded "/" (by simp)⟩

/-- An empty list of patterns for nodes is not taken as given. -/
theorem not_forall_nodePatterns :
    ¬ ∀ (text : String) (c : Config) (project : Path) (given : List String), parse text = .ok c →
      listAt? text ["nodes", "include"] = some given → (c.walk project).nodePatterns = given := by
  intro h
  have accepted : parse "nodes:\n  include: []\n" = .ok {} := by decide +kernel
  have given : listAt? "nodes:\n  include: []\n" ["nodes", "include"] = some [] := by decide +kernel
  exact absurd (h _ _ "" [] accepted given) (by decide)

end Config

end TitleLint
