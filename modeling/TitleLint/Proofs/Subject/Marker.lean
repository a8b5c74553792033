import Mathlib.Data.List.Infix
import TitleLint.Subject

namespace TitleLint

namespace Text

/-- `part` stands in `s` at the place `i`. -/
def StandsAt (part s : List Char) (i : Nat) : Prop := part <+: s.drop i

instance (part s : List Char) (i : Nat) : Decidable (StandsAt part s i) :=
  inferInstanceAs (Decidable (part <+: s.drop i))

section

variable {part s front back : List Char} {i : Nat}

theorem infix_iff_standsAt : part <:+: s ↔ ∃ i, StandsAt part s i := by
  constructor
  · rintro ⟨before, after, rfl⟩
    exact ⟨before.length, by simp [StandsAt]⟩
  · rintro ⟨i, here⟩
    exact here.isInfix.trans (List.drop_suffix i s).isInfix

theorem StandsAt.add_length_le (h : StandsAt part s i) (ne : part ≠ []) :
    i + part.length ≤ s.length := by
  have le := h.length_le
  have pos := List.length_pos_iff.mpr ne
  rw [List.length_drop] at le
  omega

theorem standsAt_append_self (front part : List Char) :
    StandsAt part (front ++ part) front.length := by
  simp [StandsAt]

/-- What stands in a text and does not reach beyond its front stands in the front. -/
theorem standsAt_front_iff (ne : part ≠ []) : StandsAt part front i ↔
    StandsAt part (front ++ back) i ∧ i + part.length ≤ front.length := by
  constructor
  · intro h
    have le := h.add_length_le ne
    refine ⟨?_, le⟩
    rw [StandsAt, List.drop_append_of_le_length (by omega)]
    exact h.trans (List.prefix_append _ back)
  · rintro ⟨h, le⟩
    rw [StandsAt, List.drop_append_of_le_length (by omega)] at h
    refine List.prefix_of_prefix_length_le h (List.prefix_append _ back) ?_
    rw [List.length_drop]
    omega

end

end Text

namespace Subject

open Text

/-- The text ends in a space, and no other space stands directly before it. -/
structure EndsInOneSpace (s : List Char) : Prop where
  space : [' '] <:+ s
  single : ¬ [' ', ' '] <:+ s

/-- The marker stands at the end of the subject, behind one space. -/
structure ClosesAt (marker subject : List Char) (i : Nat) : Prop where
  stands : StandsAt marker subject i
  last : i + marker.length = subject.length
  spaced : EndsInOneSpace (subject.take i)

/-- If the marker stands in the subject at all, then only at its end, behind one space. -/
def OnlyCloses (marker subject : List Char) : Prop :=
  (∀ i, ¬ StandsAt marker subject i) ∨
    ∃ i, ClosesAt marker subject i ∧ ∀ j, StandsAt marker subject j → j = i

/-- If the marker stands in the subject at all, then at its end, behind one space, and everywhere
else it reaches into the one at the end. -/
def ClosesOrOverlaps (marker subject : List Char) : Prop :=
  (∀ i, ¬ StandsAt marker subject i) ∨ ∃ i, ClosesAt marker subject i ∧
    ∀ j, StandsAt marker subject j → j = i ∨ i < j + marker.length

/-- The marker could begin once more inside itself, behind one space. -/
def BeginsInside (marker : List Char) : Prop := ∃ front back, marker = front ++ back ∧
  back ≠ [] ∧ back <+: marker ∧ EndsInOneSpace front

section

variable {marker subject front : List Char} {i : Nat}

theorem closesAt_iff : ClosesAt marker subject i ↔
    ∃ front, subject = front ++ marker ∧ front.length = i ∧ EndsInOneSpace front := by
  constructor
  · intro h
    have whole : marker = subject.drop i :=
      h.stands.eq_of_length (by rw [List.length_drop, ← h.last]; omega)
    refine ⟨subject.take i, ?_, ?_, h.spaced⟩
    · rw [whole, List.take_append_drop]
    · rw [List.length_take, ← h.last]
      omega
  · rintro ⟨front, rfl, rfl, spaced⟩
    exact ⟨standsAt_append_self front marker, by simp, by simpa using spaced⟩

/-- Every other place of a marker at the end lies before it or reaches into it. -/
theorem forall_standsAt_iff (ne : marker ≠ []) : (∀ j, StandsAt marker (front ++ marker) j →
    j = front.length ∨ front.length < j + marker.length) ↔ ¬ marker <:+: front := by
  have pos := List.length_pos_iff.mpr ne
  rw [infix_iff_standsAt, not_exists]
  constructor
  · intro h j inside
    obtain ⟨here, le⟩ := (standsAt_front_iff ne).mp inside
    rcases h j here with eq | lt <;> omega
  · intro h j here
    by_contra apart
    exact h j ((standsAt_front_iff ne).mpr ⟨here, by omega⟩)

end

theorem hasMisplacedMarker_of_absent {subject marker : String}
    (absent : ¬ marker.toList <:+: subject.toList) : hasMisplacedMarker subject marker = false := by
  have none : occurs marker.toList subject.toList = false := by
    rwa [Bool.eq_false_iff, ne_eq, occurs_iff]
  simp [hasMisplacedMarker, none]

theorem hasMisplacedMarker_of_not_last {subject marker : String} (ne : marker ≠ "")
    (present : marker.toList <:+: subject.toList) (not_last : ¬ marker.toList <:+ subject.toList) :
    hasMisplacedMarker subject marker = true := by
  have last : before? marker.toList subject.toList = none := by
    rw [Option.eq_none_iff_forall_ne_some]
    intro front eq
    exact not_last ⟨front, (before?_eq_some_iff.mp eq).symm⟩
  simp [hasMisplacedMarker, ne, occurs_iff.mpr present, last]

theorem hasMisplacedMarker_of_last {subject marker : String} {front : List Char} (ne : marker ≠ "")
    (last : subject.toList = front ++ marker.toList) :
    hasMisplacedMarker subject marker = false ↔
      EndsInOneSpace front ∧ ¬ marker.toList <:+: front := by
  have present : occurs marker.toList subject.toList = true :=
    occurs_iff.mpr ⟨front, [], by simp [last]⟩
  have spaced : EndsInOneSpace front ↔
      [' '].isSuffixOf front = true ∧ ¬ [' ', ' '].isSuffixOf front = true := by
    simp only [List.isSuffixOf_iff_suffix]
    exact ⟨fun h => ⟨h.space, h.single⟩, fun h => ⟨h.1, h.2⟩⟩
  rw [spaced, ← occurs_iff]
  simp [hasMisplacedMarker, ne, present, before?_eq_some_iff.mpr last, and_assoc,
    -List.isSuffixOf_iff_suffix]

theorem hasMisplacedMarker_iff {subject marker : String} (ne : marker ≠ "") :
    hasMisplacedMarker subject marker = false ↔
      ClosesOrOverlaps marker.toList subject.toList := by
  have chars : marker.toList ≠ [] := fun e => ne (String.toList_eq_nil_iff.mp e)
  by_cases present : marker.toList <:+: subject.toList
  · have some_place : ¬ ∀ i, ¬ StandsAt marker.toList subject.toList i := by
      rwa [← not_exists, not_not, ← infix_iff_standsAt]
    rw [ClosesOrOverlaps, or_iff_right some_place]
    by_cases last : marker.toList <:+ subject.toList
    · obtain ⟨front, eq⟩ := last
      rw [hasMisplacedMarker_of_last ne eq.symm, ← eq, ← forall_standsAt_iff chars]
      constructor
      · intro h
        exact ⟨front.length, closesAt_iff.mpr ⟨front, rfl, rfl, h.1⟩, h.2⟩
      · rintro ⟨i, closes, others⟩
        obtain ⟨other, eq', rfl, spaced⟩ := closesAt_iff.mp closes
        obtain rfl := List.append_cancel_right eq'
        exact ⟨spaced, others⟩
    · rw [hasMisplacedMarker_of_not_last ne present last]
      refine iff_of_false (by simp) ?_
      rintro ⟨i, closes, _⟩
      obtain ⟨front, eq, _⟩ := closesAt_iff.mp closes
      exact last ⟨front, eq.symm⟩
  · rw [hasMisplacedMarker_of_absent present]
    refine iff_of_true rfl (.inl fun i here => present ?_)
    exact infix_iff_standsAt.mpr ⟨i, here⟩

theorem EndsInOneSpace.of_suffix {s t : List Char} (h : EndsInOneSpace s) (inside : t <:+ s)
    (ne : t ≠ []) : EndsInOneSpace t :=
  ⟨List.suffix_of_suffix_length_le h.space inside (List.length_pos_iff.mpr ne),
    fun double => h.single (double.trans inside)⟩

section

variable {marker subject : List Char} {i j : Nat}

theorem beginsInside_of_overlap (closes : ClosesAt marker subject i)
    (here : StandsAt marker subject j) (before : j < i) (overlaps : i < j + marker.length) :
    BeginsInside marker := by
  have le := closes.last
  refine ⟨marker.take (i - j), marker.drop (i - j), (List.take_append_drop _ _).symm, ?_, ?_, ?_⟩
  · rw [ne_eq, List.drop_eq_nil_iff]
    omega
  · -- Both markers hold what stands behind the place of the second one.
    have later := List.IsPrefix.drop here (i - j)
    obtain ⟨front, rfl, rfl, _⟩ := closesAt_iff.mp closes
    rwa [List.drop_drop, Nat.add_sub_cancel' before.le, List.drop_left] at later
  · have start : marker.take (i - j) = (subject.take i).drop j := by
      rw [List.drop_take]
      refine (List.IsPrefix.take here (i - j)).eq_of_length ?_
      simp only [List.length_take, List.length_drop]
      omega
    refine closes.spaced.of_suffix (start ▸ List.drop_suffix j _) ?_
    rw [ne_eq, List.take_eq_nil_iff]
    rintro (none | none)
    · omega
    · simp [none] at overlaps
      omega

theorem closesOrOverlaps_iff (ne : marker ≠ []) (free : ¬ BeginsInside marker) :
    ClosesOrOverlaps marker subject ↔ OnlyCloses marker subject := by
  refine or_congr_right (exists_congr fun i => and_congr_right fun closes => ?_)
  constructor
  · intro h j here
    by_contra other
    have overlaps := (h j here).resolve_left other
    have le := here.add_length_le ne
    have last := closes.last
    exact free (beginsInside_of_overlap closes here (by omega) overlaps)
  · exact fun h j here => .inl (h j here)

/-- A marker that begins inside itself can overlap the one at the end. -/
theorem exists_overlap (inside : BeginsInside marker) :
    ∃ subject, ClosesOrOverlaps marker subject ∧ ¬ OnlyCloses marker subject := by
  obtain ⟨front, back, eq, back_ne, begins, spaced⟩ := inside
  have pos : 0 < back.length := List.length_pos_iff.mpr back_ne
  have len := congrArg List.length eq
  rw [List.length_append] at len
  have first : StandsAt marker (front ++ marker) 0 := by
    obtain ⟨rest, more⟩ := begins
    refine ⟨rest, ?_⟩
    conv_lhs => rw [eq, List.append_assoc, more]
    rw [List.drop_zero]
  refine ⟨front ++ marker, .inr ⟨front.length, closesAt_iff.mpr ⟨front, rfl, rfl, spaced⟩, ?_⟩, ?_⟩
  · exact fun j _ => .inr (by omega)
  · rintro (nowhere | ⟨i, closes, only⟩)
    · exact nowhere 0 first
    · have place := only front.length (standsAt_append_self front marker)
      rw [← only 0 first, List.length_eq_zero_iff] at place
      have space := spaced.space
      simp [place] at space

end

theorem not_beginsInside_of_no_space {marker : List Char} (h : ' ' ∉ marker) :
    ¬ BeginsInside marker := by
  rintro ⟨front, back, rfl, _, _, spaced⟩
  exact h (List.mem_append_left back (spaced.space.subset (List.mem_singleton_self ' ')))

/-- A marker is not misplaced exactly if it does not occur, or closes the subject behind one space
and occurs elsewhere only where it reaches into this last one. So it occurs nowhere else, whatever
the subject is, exactly for the markers that cannot begin inside themselves behind one space, and
those without a space cannot. -/
theorem hasMisplacedMarker_eq_false_iff {marker : String} (ne : marker ≠ "") :
    (∀ subject, hasMisplacedMarker subject marker = false ↔
      ClosesOrOverlaps marker.toList subject.toList) ∧
    ((∀ subject, hasMisplacedMarker subject marker = false ↔
      OnlyCloses marker.toList subject.toList) ↔ ¬ BeginsInside marker.toList) ∧
    (' ' ∉ marker.toList → ¬ BeginsInside marker.toList) := by
  refine ⟨fun subject => hasMisplacedMarker_iff ne, ?_, not_beginsInside_of_no_space⟩
  constructor
  · intro h inside
    obtain ⟨subject, closes, more⟩ := exists_overlap inside
    have placed := (@hasMisplacedMarker_iff (String.ofList subject) marker ne).mpr (by simpa)
    exact more (by simpa using (h _).mp placed)
  · intro free subject
    have chars : marker.toList ≠ [] := fun e => ne (String.toList_eq_nil_iff.mp e)
    rw [hasMisplacedMarker_iff ne, closesOrOverlaps_iff chars free]

theorem onlyCloses_noChangelog : "(no-changelog)" ≠ "" ∧
    OnlyCloses "(no-changelog)".toList "fix a (rare) typo (no-changelog)".toList := by
  have ne : "(no-changelog)" ≠ "" := by decide
  obtain ⟨_, exactly, free⟩ := hasMisplacedMarker_eq_false_iff ne
  exact ⟨ne, (exactly.mpr (free (by decide)) _).mp (by decide)⟩

/-- A marker that stands in the subject twice is overlooked if the two overlap. -/
theorem not_forall_hasMisplacedMarker : ¬ ∀ subject marker : String, marker ≠ "" →
    (hasMisplacedMarker subject marker = false ↔
      OnlyCloses marker.toList subject.toList) := by
  intro h
  have accepted : hasMisplacedMarker "say no no no" "no no" = false := by decide
  rcases (h "say no no no" "no no" (by decide)).mp accepted with nowhere | ⟨i, _, only⟩
  · exact nowhere 4 (by decide)
  · have first := only 4 (by decide)
    have second := only 7 (by decide)
    omega

end Subject

end TitleLint
