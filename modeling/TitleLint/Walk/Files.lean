import TitleLint.Walk.IgnoreLevel

namespace TitleLint.Walk

open File

/-- The places of the directories in a tree, links being left out. -/
def directories (place : List String) : List (String × Node) → List (List String)
  | [] => []
  | (name, node) :: entries =>
    (match node with
      | .directory inner => (place ++ [name]) :: directories (place ++ [name]) inner
      | _ => []) ++ directories place entries

/-- The files that a walk through these entries of a directory finds, as the names that lead to
them. Links are followed, but not to a directory that the walk is in: `within` holds the places of
those. `unvisited` holds every directory that no link has led to on the way here. -/
def filesAmong (t : Tree) (unvisited within : List (List String)) (levels : List IgnoreLevel)
    (place names : List String) : List (String × Node) → List (List String)
  | [] => []
  | (name, node) :: entries =>
    let file := if IgnoreLevel.isIgnored levels name false then [] else [names ++ [name]]
    let found :=
      match node with
      | .file _ => file
      | .directory inner =>
        if IgnoreLevel.isIgnored levels name true then []
        else
          let place := place ++ [name]
          filesAmong t unvisited (place :: within) (IgnoreLevel.inside t place name levels) place
            (names ++ [name]) inner
      | .link _ =>
        match Tree.follow t.root Tree.linkLimit place [name] with
        | .error _ => []
        | .ok target =>
          match t.root.at? target with
          | some (.file _) => file
          | some (.directory inner) =>
            if IgnoreLevel.isIgnored levels name true ∨ target ∈ within then []
            else if _h : target ∈ unvisited then
              filesAmong t (unvisited.erase target) (target :: within)
                (IgnoreLevel.inside t target name levels) target (names ++ [name]) inner
            else []
          | _ => []
    found ++ filesAmong t unvisited within levels place names entries
termination_by entries => (unvisited.length, sizeOf entries)
decreasing_by
  · exact .right _ (by simp only [List.cons.sizeOf_spec, Prod.mk.sizeOf_spec, Node.directory.sizeOf_spec]; omega)
  · have := List.length_pos_of_mem _h
    exact .left _ _ (by rw [List.length_erase_of_mem _h]; omega)
  · exact .right _ (by simp only [List.cons.sizeOf_spec, Prod.mk.sizeOf_spec]; omega)

/-- The files below a directory that no rule ignores. Rules of the directories above count too. -/
def files (t : Tree) (root : Path) : List (List String) :=
  match t.resolve root with
  | .error _ => []
  | .ok place =>
    match t.root, t.root.at? place with
    | .directory all, some (.directory entries) =>
      filesAmong t ([] :: directories [] all) [place]
        (IgnoreLevel.ofDirectory t place :: IgnoreLevel.above t place) place [] entries
    | _, _ => []

end TitleLint.Walk
