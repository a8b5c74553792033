import Mathlib.Data.List.Induction
import TitleLint.Harvest
import TitleLint.Proofs.Vocabulary.Members

namespace TitleLint.Harvest

open File

/-- The file can be read and declares the name. -/
def Declares (t : Tree) (f : SourceKind × Path) (name : String) : Prop :=
  ∃ found, DisplayName.ofFile t f.1 f.2 = .ok (some found) ∧ found.name = name

/-- The line about a file that cannot be read. -/
def failure? (t : Tree) (f : SourceKind × Path) : Option String :=
  match DisplayName.ofFile t f.1 f.2 with
  | .ok _ => none
  | .error e => some (f.2 ++ ": " ++ e.message)

/-- All that there is to gather from files, and nothing else. -/
structure Gathers (t : Tree) (files : List (SourceKind × Path)) (h : Harvest) : Prop where
  scanned : h.scanned = files.length
  warnings : h.warnings = files.filterMap (failure? t)
  names : ∀ name, name ∈ h.names.names ↔ name ≠ "" ∧ ∃ f ∈ files, Declares t f name

section

variable {t : Tree} {files others : List (SourceKind × Path)} {g h : Harvest}

theorem Gathers.unique (hg : Gathers t files g) (hh : Gathers t files h) : g = h := by
  have names : g.names = h.names :=
    Vocabulary.eq_of_mem_iff fun name => (hg.names name).trans (hh.names name).symm
  obtain ⟨_, _, _⟩ := g
  obtain ⟨_, _, _⟩ := h
  simp only [mk.injEq]
  exact ⟨names, hg.scanned.trans hh.scanned.symm, hg.warnings.trans hh.warnings.symm⟩

theorem gathers_nil (t : Tree) : Gathers t [] {} := by
  refine ⟨rfl, rfl, fun name => ?_⟩
  simp [Vocabulary.empty]

theorem gathers_single (t : Tree) (f : SourceKind × Path) :
    Gathers t [f] (record {} f.2 (DisplayName.ofFile t f.1 f.2)) := by
  cases outcome : DisplayName.ofFile t f.1 f.2 with
  | error e =>
    refine ⟨rfl, by simp [record, failure?, outcome], fun name => ?_⟩
    simp [record, Declares, outcome, Vocabulary.empty]
  | ok found =>
    cases found with
    | none =>
      refine ⟨rfl, by simp [record, failure?, outcome], fun name => ?_⟩
      simp [record, Declares, outcome, Vocabulary.empty]
    | some found =>
      refine ⟨rfl, by simp [record, failure?, outcome], fun name => ?_⟩
      simp only [record, Vocabulary.mem_insert, Vocabulary.empty, List.not_mem_nil, false_or,
        List.mem_singleton, exists_eq_left, Declares, outcome, Except.ok.injEq,
        Option.some.injEq, exists_eq_left']
      constructor
      · rintro ⟨rfl, nonempty⟩
        exact ⟨nonempty, rfl⟩
      · rintro ⟨nonempty, rfl⟩
        exact ⟨rfl, nonempty⟩

/-- One harvest behind another is the harvest of the files of both. -/
theorem Gathers.merge (hg : Gathers t files g) (hh : Gathers t others h) :
    Gathers t (files ++ others) (g.merge h) := by
  refine ⟨?_, ?_, fun name => ?_⟩
  · rw [List.length_append, ← hg.scanned, ← hh.scanned]
    rfl
  · rw [List.filterMap_append, ← hg.warnings, ← hh.warnings]
    rfl
  · simp only [Harvest.merge, Vocabulary.mem_merge, hg.names, hh.names, List.mem_append,
      or_and_right, exists_or, ← and_or_left]

theorem record_eq_merge (h : Harvest) (p : Path)
    (outcome : Except Unreadable (Option DisplayName)) :
    h.record p outcome = h.merge (record {} p outcome) := by
  -- Both sides have the same names; how the list of them is built does not matter.
  have insert_eq (v : Vocabulary) (name : String) :
      v.insert name = v.merge (Vocabulary.empty.insert name) :=
    Vocabulary.eq_of_mem_iff fun n => by
      simp [Vocabulary.mem_insert, Vocabulary.mem_merge, Vocabulary.empty]
  have merge_empty (v : Vocabulary) : v = v.merge .empty :=
    Vocabulary.eq_of_mem_iff fun n => by simp [Vocabulary.mem_merge, Vocabulary.empty]
  cases outcome with
  | error e => simp [record, Harvest.merge, ← merge_empty]
  | ok found =>
    cases found with
    | none => simp [record, Harvest.merge, ← merge_empty]
    | some found => simp [record, Harvest.merge, ← insert_eq]

theorem gathers_ofFiles (t : Tree) (files : List (SourceKind × Path)) :
    Gathers t files (ofFiles t files) := by
  -- The files are recorded from left to right, so the last one is split off.
  induction files using List.reverseRecOn with
  | nil => exact gathers_nil t
  | append_singleton files f ih =>
    rw [ofFiles_concat, record_eq_merge]
    exact ih.merge (gathers_single t f)

end

/-- A way to put harvests of single files together, with nothing in between as often as wanted. -/
inductive Reduction where
  | nothing
  | file (f : SourceKind × Path)
  | join (left right : Reduction)

namespace Reduction

/-- The files of a reduction, from left to right. -/
def files : Reduction → List (SourceKind × Path)
  | nothing => []
  | file f => [f]
  | join left right => left.files ++ right.files

def harvest (t : Tree) : Reduction → Harvest
  | nothing => {}
  | file f => record {} f.2 (DisplayName.ofFile t f.1 f.2)
  | join left right => (left.harvest t).merge (right.harvest t)

theorem gathers_harvest (t : Tree) (r : Reduction) : Gathers t r.files (r.harvest t) := by
  induction r with
  | nothing => exact gathers_nil t
  | file f => exact gathers_single t f
  | join left right left_gathers right_gathers => exact left_gathers.merge right_gathers

end Reduction

section

variable {t : Tree} {before after : List (SourceKind × Path)} {f : SourceKind × Path}

/-- A file that cannot be read leaves its own line behind. -/
theorem ofFiles_of_unreadable {e : Unreadable} (unread : DisplayName.ofFile t f.1 f.2 = .error e) :
    ofFiles t (before ++ f :: after) =
      { names := (ofFiles t (before ++ after)).names
        scanned := (ofFiles t (before ++ after)).scanned + 1
        warnings := (ofFiles t before).warnings ++ (f.2 ++ ": " ++ e.message) ::
          (ofFiles t after).warnings } := by
  have without := gathers_ofFiles t (before ++ after)
  have silent (name : String) : ¬ Declares t f name := by
    rintro ⟨found, read, _⟩
    rw [unread] at read
    cases read
  have told : failure? t f = some (f.2 ++ ": " ++ e.message) := by simp [failure?, unread]
  refine (gathers_ofFiles t (before ++ f :: after)).unique ⟨?_, ?_, fun name => ?_⟩
  · simp only [without.scanned, List.length_append, List.length_cons]
    omega
  · simp only [(gathers_ofFiles t before).warnings, (gathers_ofFiles t after).warnings,
      List.filterMap_append, List.filterMap_cons_some told]
  · simp only [without.names, List.mem_append, List.mem_cons, or_and_right, exists_or,
      exists_eq_left, silent, false_or]

end

/-- In whatever way the harvests of single files are put together, the harvest is that of the files
read one after another: it counts them, it has a line for each that cannot be read, in their order,
and it has the names that the others declare. One that cannot be read changes nothing else. -/
theorem reduction_harvest_eq_ofFiles (t : Tree) (r : Reduction) :
    r.harvest t = ofFiles t r.files ∧ Gathers t r.files (r.harvest t) ∧
      ∀ before f after e, r.files = before ++ f :: after →
        DisplayName.ofFile t f.1 f.2 = .error e →
          r.harvest t =
            { names := (ofFiles t (before ++ after)).names
              scanned := (ofFiles t (before ++ after)).scanned + 1
              warnings := (ofFiles t before).warnings ++ (f.2 ++ ": " ++ e.message) ::
                (ofFiles t after).warnings } := by
  have gathers := r.gathers_harvest t
  have sequential : r.harvest t = ofFiles t r.files := gathers.unique (gathers_ofFiles t r.files)
  refine ⟨sequential, gathers, ?_⟩
  intro before f after e listed unread
  rw [sequential, listed, ofFiles_of_unreadable unread]

end TitleLint.Harvest
