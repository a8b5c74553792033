import TitleLint.Proofs.DisplayName.Literal
import TitleLint.Proofs.Harvest.Sources
import TitleLint.Proofs.Json.RoundTrip
import TitleLint.Proofs.Text.Lines
import TitleLint.Report

namespace TitleLint

namespace Vocabulary

open File

/-- The lines of the text that lists the names are the names. -/
def ListsNames (v : Vocabulary) : Prop :=
  Text.fedLines (v.render .text).toList = v.names.map String.toList

theorem toList_render_text (v : Vocabulary) :
    (v.render .text).toList = (v.names.map String.toList).flatMap (· ++ ['\n']) := by
  simp [render, String.toList_join, List.flatMap_map]

theorem listsNames_iff (v : Vocabulary) :
    v.ListsNames ↔ ∀ name ∈ v.names, '\n' ∉ name.toList := by
  rw [ListsNames, toList_render_text, Text.fedLines_flatMap_iff, List.forall_mem_map]

/-- Every line feed in a name takes a line more. -/
theorem length_fedLines_render (v : Vocabulary) :
    (Text.fedLines (v.render .text).toList).length =
      v.names.length + (v.names.flatMap String.toList).count '\n' := by
  rw [Text.length_fedLines, toList_render_text]
  induction v.names with
  | nil => rfl
  | cons name names ih =>
    simp only [List.map_cons, List.flatMap_cons, List.count_append, List.count_singleton_self,
      List.length_cons, ih]
    omega

/-- Where a vocabulary holds whatever is declared, what counts is what is declared. -/
theorem listsNames_iff_of_mem_iff {v : Vocabulary} {declared : String → Prop}
    (names : ∀ name, name ∈ v.names ↔ name ≠ "" ∧ declared name) :
    v.ListsNames ↔ ∀ name, declared name → '\n' ∉ name.toList := by
  rw [listsNames_iff]
  constructor
  · intro free name own inside
    have filled : name ≠ "" := by
      rintro rfl
      exact List.not_mem_nil inside
    exact free name ((names name).mpr ⟨filled, own⟩) inside
  · intro free name mem
    exact free name ((names name).mp mem).2

/-- The text that lists harvested names has them as its lines exactly if no source declares a name
with a line feed, which a literal writes by itself or by its letter behind a backslash. Otherwise it
has more lines than names. The list in the other format always holds the names. -/
theorem listsNames_of_harvest_iff (t : Tree) (files : List (SourceKind × Path))
    (texts : List (Path × String)) :
    ((Harvest.ofFiles t files).names.ListsNames ↔
      ∀ name, (∃ f ∈ files, Harvest.Declares t f name) → '\n' ∉ name.toList) ∧
    ((Harvest.ofTexts texts).names.ListsNames ↔
      ∀ name, (∃ f ∈ texts, ∃ d, DisplayName.ofText? (.ofPath f.1) f.2 = some d ∧ d.name = name) →
        '\n' ∉ name.toList) ∧
    (∀ cs, '\n' ∈ DisplayName.unescape cs ↔ DisplayName.WritesLineFeed cs) ∧
    ∀ v : Vocabulary,
      (v.ListsNames ↔ ∀ name ∈ v.names, '\n' ∉ name.toList) ∧
      (Text.fedLines (v.render .text).toList).length =
        v.names.length + (v.names.flatMap String.toList).count '\n' ∧
      Json.IsOutput (v.render .json) (.list (v.names.map .string)) := by
  refine ⟨?_, ?_, DisplayName.feed_mem_unescape_iff, fun v => ?_⟩
  · exact listsNames_iff_of_mem_iff (Harvest.gathers_ofFiles t files).names
  · exact listsNames_iff_of_mem_iff fun _ => Harvest.mem_names_ofTexts
  · exact ⟨listsNames_iff v, length_fedLines_render v, Json.isOutput_document _⟩

/-- A node whose name goes over two lines. -/
def twoLineNode : Path × String :=
  ("Two.node.ts", "class Two \x7b description = \x7b displayName: 'Two\\nLines' \x7d \x7d")

theorem not_forall_listsNames : ¬ ∀ texts, (Harvest.ofTexts texts).names.ListsNames := by
  intro all
  have found : (Harvest.ofTexts [twoLineNode]).names.names = ["Two\nLines"] := by decide +kernel
  have free := (listsNames_iff _).mp (all [twoLineNode]) "Two\nLines" (by simp [found])
  exact free (by decide)

end Vocabulary

end TitleLint
