import TitleLint.Proofs.File.LastName
import TitleLint.Proofs.Glob.Ends
import TitleLint.Walk.Discovery

namespace TitleLint.Walk

open File Glob Path

/-- The glob that node files are found by unless other patterns are given. -/
def defaultNodes : Glob := ⟨.leadingStars :: .star :: ".node.ts".toList.map .literal, false⟩

/-- The glob that descriptions of versions are found by unless other patterns are given. -/
def defaultDescriptors : Glob :=
  ⟨.leadingStars :: "versionDescription.ts".toList.map .literal, false⟩

section

variable {names : List String} {p root : Path}

theorem lastName_below_eq (ne : names ≠ []) :
    lastName (below root names).toList = lastName (String.intercalate "/" names).toList := by
  obtain rfl | ⟨above, name, rfl⟩ := List.eq_nil_or_concat names
  · exact absurd rfl ne
  · rw [List.concat_eq_append, lastName_below, lastName_intercalate]

theorem ends_of_defaultDescriptors (h : defaultDescriptors.isMatch names = true) :
    lastName (String.intercalate "/" names).toList = "versionDescription.ts".toList := by
  obtain whole | inside := ends_of_leadingStars (by decide) h
  · rw [String.ofList_toList] at whole
    rw [Text.bytes_inj whole]
    decide
  · have ends : Text.bytes "/versionDescription.ts" <:+
        Text.bytes (String.intercalate "/" names) := inside
    obtain ⟨front, eq⟩ := Text.suffix_of_bytes (by decide) ends
    rw [← eq]
    exact lastName_append_slash front _

theorem ends_of_defaultNodes (h : defaultNodes.isMatch names = true) :
    ".node.ts".toList <:+ lastName (String.intercalate "/" names).toList := by
  have ends := ends_of_star h
  rw [String.ofList_toList] at ends
  obtain ⟨front, eq⟩ := Text.suffix_of_bytes (by decide) ends
  rw [← eq, lastName_append_of_free front (by decide)]
  exact List.suffix_append _ _

theorem ofPath_of_descriptor (last : lastName p.toList = "versionDescription.ts".toList) :
    SourceKind.ofPath p = .descriptor := by
  have name := fileName?_of_lastName last (by decide)
  rw [SourceKind.ofPath, stem?, name]
  decide

theorem stem_of_node (front : List Char) :
    stem (String.ofList (front ++ ".node.ts".toList)) = String.ofList (front ++ ".node".toList) := by
  simp [stem]

theorem ofPath_of_node (last : ".node.ts".toList <:+ lastName p.toList) :
    SourceKind.ofPath p = .node := by
  obtain ⟨front, eq⟩ := last
  have name : lastName p.toList = (String.ofList (front ++ ".node.ts".toList)).toList := by
    rw [String.toList_ofList, eq]
  have proper : String.ofList (front ++ ".node.ts".toList) ∉ ["", ".", ".."] := by
    intro mem
    have short : ∀ name ∈ ["", ".", ".."], name.toList.length ≤ 2 := by decide
    have long : ".node.ts".toList.length = 8 := by decide
    have length := short _ mem
    rw [String.toList_ofList, List.length_append] at length
    omega
  have other : String.ofList (front ++ ".node".toList) ≠ SourceKind.descriptorStem := by
    intro same
    have last := congrArg (fun s => s.toList.getLast?) same
    simp [SourceKind.descriptorStem] at last
  rw [SourceKind.ofPath, stem?, fileName?_of_lastName name proper, Option.map_some, stem_of_node,
    if_neg]
  simpa using other

/-- A file that is chosen by the default patterns is chosen as what its path says. -/
theorem kind?_eq_ofPath {choice : Choice} {kind : SourceKind} (nodes : choice.nodes = [defaultNodes])
    (descriptors : choice.descriptors = [defaultDescriptors])
    (chosen : choice.kind? names = some kind) :
    kind = .ofPath (below root names) := by
  have path (name : lastName (String.intercalate "/" names).toList ≠ []) :
      lastName (below root names).toList = lastName (String.intercalate "/" names).toList := by
    refine lastName_below_eq fun empty => name ?_
    rw [empty]
    rfl
  simp only [Choice.kind?, nodes, descriptors, List.any_cons, List.any_nil, Bool.or_false] at chosen
  split at chosen
  next => cases chosen
  next =>
    split at chosen
    next descriptor =>
      obtain rfl := Option.some.inj chosen
      have name := ends_of_defaultDescriptors descriptor
      refine (ofPath_of_descriptor ?_).symm
      rw [path (by rw [name]; decide), name]
    next =>
      split at chosen
      next node =>
        obtain rfl := Option.some.inj chosen
        have name := ends_of_defaultNodes node
        refine (ofPath_of_node ?_).symm
        have filled : lastName (String.intercalate "/" names).toList ≠ [] := by
          intro empty
          rw [empty] at name
          exact absurd (List.suffix_nil.mp name) (by decide)
        rwa [path filled]
      next => cases chosen

end

end TitleLint.Walk
