import TitleLint.Proofs.File.Components
import TitleLint.Walk.Files

namespace TitleLint

open File

namespace File.Node

/-- The entries of every directory have different names, and a path can hold them. -/
inductive WellNamed : Node → Prop
  | file (content : ByteArray) : WellNamed (.file content)
  | link (target : Path) : WellNamed (.link target)
  | directory {entries : List (String × Node)} (names : ∀ e ∈ entries, IsName e.1)
      (distinct : (entries.map Prod.fst).Nodup) (inner : ∀ e ∈ entries, WellNamed e.2) :
      WellNamed (.directory entries)

section

variable {n m : Node} {e : String × Node} {entries : List (String × Node)}

theorem WellNamed.names (h : WellNamed (.directory entries)) : ∀ e ∈ entries, IsName e.1 := by
  cases h with
  | directory names distinct inner => exact names

theorem WellNamed.distinct (h : WellNamed (.directory entries)) : (entries.map Prod.fst).Nodup := by
  cases h with
  | directory names distinct inner => exact distinct

theorem WellNamed.inner (h : WellNamed (.directory entries)) : ∀ e ∈ entries, WellNamed e.2 := by
  cases h with
  | directory names distinct inner => exact inner

theorem WellNamed.tail (h : WellNamed (.directory (e :: entries))) :
    WellNamed (.directory entries) :=
  .directory (fun e' mem => h.names e' (List.mem_cons_of_mem e mem))
    (List.nodup_cons.mp h.distinct).2 fun e' mem => h.inner e' (List.mem_cons_of_mem e mem)

theorem mem_of_lookup {name : String} (found : entries.lookup name = some m) :
    (name, m) ∈ entries := by
  obtain ⟨before, after, eq, _⟩ := List.lookup_eq_some_iff.mp found
  simp [eq]

theorem WellNamed.lookup_of_mem (h : WellNamed (.directory entries)) (mem : e ∈ entries) :
    entries.lookup e.1 = some e.2 := by
  obtain ⟨before, after, rfl⟩ := List.append_of_mem mem
  have distinct := h.distinct
  rw [List.map_append, List.map_cons, List.nodup_append] at distinct
  refine List.lookup_eq_some_iff.mpr ⟨before, after, rfl, fun f own => ?_⟩
  have other := distinct.2.2 f.1 (List.mem_map_of_mem own) e.1 List.mem_cons_self
  simpa using Ne.symm other

theorem WellNamed.at? {place : List String} (h : n.WellNamed) (found : n.at? place = some m) :
    m.WellNamed := by
  induction place generalizing n with
  | nil =>
    rw [Node.at?] at found
    exact Option.some.inj found ▸ h
  | cons name rest ih =>
    rw [Node.at?] at found
    cases n with
    | file | link => cases found
    | directory entries =>
      cases entry : Node.entry? name (.directory entries) with
      | none => simp [entry] at found
      | some inner =>
        rw [entry] at found
        exact ih (h.inner (name, inner) (mem_of_lookup entry)) found

end

end File.Node

namespace Walk

/-- Files that are found behind `names` go through these entries, and none is found twice. -/
structure Listing (names : List String) (entries : List (String × Node))
    (found : List (List String)) : Prop where
  behind : ∀ f ∈ found, ∃ e ∈ entries, ∃ rest, f = names ++ e.1 :: rest ∧ ∀ n ∈ rest, IsName n
  distinct : found.Nodup

namespace Listing

variable {names : List String} {name : String} {n : Node} {e : String × Node}
  {entries inner : List (String × Node)} {found others : List (List String)}

theorem none (names : List String) (entries : List (String × Node)) : Listing names entries [] :=
  ⟨by simp, List.nodup_nil⟩

theorem own (names : List String) (name : String) (n : Node) :
    Listing names [(name, n)] [names ++ [name]] := by
  refine ⟨fun f mem => ?_, by simp⟩
  exact ⟨(name, n), List.mem_singleton_self _, [], List.mem_singleton.mp mem, by simp⟩

/-- What is found inside an entry is found behind the entry. -/
theorem inside (h : Listing (names ++ [name]) inner found) (named : ∀ e ∈ inner, IsName e.1)
    (n : Node) : Listing names [(name, n)] found := by
  refine ⟨fun f mem => ?_, h.distinct⟩
  obtain ⟨e, own, rest, rfl, proper⟩ := h.behind f mem
  refine ⟨(name, n), List.mem_singleton_self _, e.1 :: rest, by simp, fun m part => ?_⟩
  obtain rfl | deeper := List.mem_cons.mp part
  · exact named e own
  · exact proper m deeper

theorem cons (h : Listing names [e] found) (h' : Listing names entries others)
    (apart : e.1 ∉ entries.map Prod.fst) : Listing names (e :: entries) (found ++ others) := by
  constructor
  · intro f mem
    obtain here | there := List.mem_append.mp mem
    · obtain ⟨e', own, rest⟩ := h.behind f here
      exact ⟨e', List.mem_cons.mpr (.inl (List.mem_singleton.mp own)), rest⟩
    · obtain ⟨e', own, rest⟩ := h'.behind f there
      exact ⟨e', List.mem_cons_of_mem e own, rest⟩
  · refine List.nodup_append.mpr ⟨h.distinct, h'.distinct, fun f here g there same => ?_⟩
    obtain ⟨e', own, rest, rfl, _⟩ := h.behind f here
    obtain ⟨e'', other, rest', rfl, _⟩ := h'.behind g there
    obtain rfl := List.mem_singleton.mp own
    have name := (List.cons.inj (List.append_cancel_left same)).1
    exact apart (name ▸ List.mem_map_of_mem other)

end Listing

section

variable {t : Tree}

theorem listing_filesAmong (tree : t.root.WellNamed) (unvisited within : List (List String))
    (levels : List IgnoreLevel) (place names : List String) :
    ∀ entries, (Node.directory entries).WellNamed →
      Listing names entries (filesAmong t unvisited within levels place names entries)
  | [], _ => by
    rw [filesAmong]
    exact .none names []
  | (name, .file content) :: entries, named => by
    rw [filesAmong]
    refine .cons ?_ (listing_filesAmong tree unvisited within levels place names entries named.tail)
      (List.nodup_cons.mp named.distinct).1
    split
    next => exact .none names _
    next => exact .own names name _
  | (name, .directory inner) :: entries, named => by
    rw [filesAmong]
    refine .cons ?_ (listing_filesAmong tree unvisited within levels place names entries named.tail)
      (List.nodup_cons.mp named.distinct).1
    have below := named.inner _ List.mem_cons_self
    split
    next => exact .none names _
    next => exact (listing_filesAmong tree unvisited _ _ _ _ inner below).inside below.names _
  | (name, .link target) :: entries, named => by
    rw [filesAmong]
    refine .cons ?_ (listing_filesAmong tree unvisited within levels place names entries named.tail)
      (List.nodup_cons.mp named.distinct).1
    split
    next => exact .none names _
    next target _ =>
      split
      next =>
        split
        next => exact .none names _
        next => exact .own names name _
      next inner found =>
        have below := tree.at? found
        split
        next => exact .none names _
        next =>
          split
          next => exact (listing_filesAmong tree _ _ _ _ _ inner below).inside below.names _
          next => exact .none names _
      next => exact .none names _
termination_by entries => (unvisited.length, sizeOf entries)
decreasing_by
  · exact .right _ (by simp only [List.cons.sizeOf_spec, Prod.mk.sizeOf_spec]; omega)
  · exact .right _ (by
      simp only [List.cons.sizeOf_spec, Prod.mk.sizeOf_spec, Node.directory.sizeOf_spec]
      omega)
  · exact .right _ (by simp only [List.cons.sizeOf_spec, Prod.mk.sizeOf_spec]; omega)
  -- A directory that a link leads to is no longer among those that no link has led to.
  · rename_i listed
    have some := List.length_pos_of_mem listed
    exact .left _ _ (by rw [List.length_erase_of_mem listed]; omega)
  · exact .right _ (by simp only [List.cons.sizeOf_spec, Prod.mk.sizeOf_spec]; omega)

theorem listing_files (tree : t.root.WellNamed) (root : Path) :
    ∃ entries, (∀ e ∈ entries, IsName e.1) ∧ Listing [] entries (files t root) := by
  unfold files
  split
  next => exact ⟨[], by simp, .none [] []⟩
  next place _ =>
    split
    next all entries _ found =>
      have named := tree.at? found
      exact ⟨entries, named.names, listing_filesAmong tree _ _ _ _ _ entries named⟩
    next => exact ⟨[], by simp, .none [] []⟩

theorem nodup_files (tree : t.root.WellNamed) (root : Path) : (files t root).Nodup := by
  obtain ⟨_, _, listing⟩ := listing_files tree root
  exact listing.distinct

theorem isName_of_mem_files (tree : t.root.WellNamed) {root : Path} {f : List String}
    (mem : f ∈ files t root) : ∀ n ∈ f, IsName n := by
  obtain ⟨_, named, listing⟩ := listing_files tree root
  obtain ⟨e, own, rest, rfl, proper⟩ := listing.behind f mem
  intro n part
  obtain rfl | deeper := List.mem_cons.mp part
  · exact named e own
  · exact proper n deeper

end

end Walk

end TitleLint
