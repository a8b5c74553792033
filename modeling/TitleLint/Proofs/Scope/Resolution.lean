import TitleLint.Proofs.Text.Bytes
import TitleLint.Proofs.Text.Split
import TitleLint.Proofs.Validation.Basic
import TitleLint.Proofs.Vocabulary.Nearest

namespace TitleLint.Scope

open EditDistance Text Vocabulary

/-- A scope that ends with a suffix has no other occurrence of it. -/
def EndsOnce (front suffix : String) : Prop :=
  ∀ before after : List Char,
    front.toList ++ suffix.toList = before ++ suffix.toList ++ after → after = []

section

variable {front suffix : String} {v : Vocabulary}

theorem isUpTo_front_iff (front suffix : String) :
    IsUpTo suffix.toList (front ++ suffix).toList front.toList ↔ EndsOnce front suffix := by
  rw [String.toList_append]
  constructor
  · intro found before after eq
    have length := congrArg List.length eq
    have shortest := found.first before ⟨after, eq.symm⟩
    simp only [List.length_append] at length
    exact List.length_eq_zero_iff.mp (by omega)
  · intro once
    refine ⟨List.prefix_rfl, fun other inside => ?_⟩
    obtain ⟨after, eq⟩ := inside
    have last := once other after eq.symm
    rw [last, List.append_nil] at eq
    exact Nat.le_of_eq (congrArg List.length (List.append_cancel_right eq)).symm

theorem isUpTo_suffix (ne : suffix ≠ "") :
    IsUpTo suffix.toList (front ++ suffix).toList
      (upTo suffix.toList (front ++ suffix).toList) := by
  have filled : suffix.toList ≠ [] := by simpa using ne
  rw [String.toList_append]
  exact isUpTo_upTo filled (List.suffix_append front.toList suffix.toList).isInfix

/-- What comes before the first of several suffixes lacks a part of what comes before the last. -/
theorem exists_part_of_not_endsOnce (ne : suffix ≠ "") (again : ¬ EndsOnce front suffix) :
    ∃ c rest, front.toList = upTo suffix.toList (front ++ suffix).toList ++ c :: rest := by
  have found := @isUpTo_suffix front suffix ne
  have left := (List.prefix_append _ suffix.toList).trans found.occurs
  have whole : front.toList ++ suffix.toList <+: (front ++ suffix).toList := by simp
  have right := (List.prefix_append front.toList suffix.toList).trans whole
  have short := found.first front.toList whole
  obtain ⟨rest, eq⟩ := List.prefix_of_prefix_length_le left right short
  cases rest with
  | nil =>
    rw [List.append_nil] at eq
    rw [eq] at found
    exact absurd ((isUpTo_front_iff front suffix).mp found) again
  | cons c rest => exact ⟨c, rest, eq.symm⟩

theorem mem_pair {name s t : String} (mem : name ∈ (ofList [s, t]).names) : name = s ∨ name = t := by
  simpa using (mem_ofList.mp mem).1

/-- Of two names, one is nearest to a text and the other to a longer text that begins with it. -/
theorem isNearest_pair {needle rest : List Char} {c d e : Char} (lt : d.val.toNat < e.val.toNat)
    (ascii : e.val.toNat < 128) (other : c ≠ e) :
    let short := String.ofList (needle ++ [e])
    let long := String.ofList (needle ++ d :: c :: rest)
    IsNearest (ofList [short, long]) (String.ofList needle) short ∧
      IsNearest (ofList [short, long]) (String.ofList (needle ++ c :: rest)) long := by
  intro short long
  have short_known : short ∈ (ofList [short, long]).names := by
    rw [mem_ofList]
    simp [short]
  have long_known : long ∈ (ofList [short, long]).names := by
    rw [mem_ofList]
    simp [long]
  constructor
  · have near : between (String.ofList needle) short ≤ 1 := by
      refine between_le (.next ?_ (.none _))
      simpa [short] using Edit.insert needle [] e
    have far : 2 ≤ between (String.ofList needle) long := by
      have length := (isLeast_between (String.ofList needle) long).1.length_le
      have longer : long.toList.length = needle.length + rest.length + 2 := by simp [long]; omega
      rw [longer, String.toList_ofList] at length
      omega
    refine ⟨short_known, fun name mem => ?_⟩
    rcases mem_pair mem with rfl | rfl
    · exact .refl _ short
    · exact .inl (by omega)
  · have near : between (String.ofList (needle ++ c :: rest)) long ≤ 1 := by
      refine between_le (.next ?_ (.none _))
      simpa [long] using Edit.insert needle (c :: rest) d
    have away : 1 ≤ between (String.ofList (needle ++ c :: rest)) short := by
      refine one_le_between fun eq => other ?_
      have lists := String.ofList_injective eq
      exact (List.cons_eq_cons.mp (List.append_cancel_left lists)).1
    refine ⟨long_known, fun name mem => ?_⟩
    rcases mem_pair mem with rfl | rfl
    -- Where both are one edit away, the order of the two characters decides.
    · rcases Nat.lt_or_eq_of_le (near.trans away) with lt' | eq
      · exact .inl lt'
      · exact .inr ⟨eq, .inr (byteLt_of_ascii lt ascii needle (c :: rest) [])⟩
    · exact .refl _ long

theorem exists_ascii_pair (c : Char) :
    ∃ d e : Char, d.val.toNat < e.val.toNat ∧ e.val.toNat < 128 ∧ c ≠ d ∧ c ≠ e := by
  by_cases first : c = 'a'
  · exact ⟨'b', 'c', by decide, by decide, by simp [first], by simp [first]⟩
  by_cases last : c = 'c'
  · exact ⟨'a', 'b', by decide, by decide, by simp [last], by simp [last]⟩
  · exact ⟨'a', 'c', by decide, by decide, first, last⟩

theorem not_prefix_of_ne {needle rest tail scope : List Char} {c d : Char}
    (begins : needle ++ c :: rest <+: scope) (ne : c ≠ d) : ¬ needle ++ d :: tail <+: scope := by
  intro also
  obtain ⟨behind, rfl⟩ := begins
  rw [List.append_assoc, List.prefix_append_right_inj, List.cons_append,
    List.cons_prefix_cons] at also
  exact ne also.1.symm

theorem endsOnce_of_forall_resolve (ne : suffix ≠ "")
    (looked : ∀ v : Vocabulary, (∀ name ∈ v.names, ¬ name.toList <+: (front ++ suffix).toList) →
      resolve (front ++ suffix) suffix v = .unknown (v.closest? front)) :
    EndsOnce front suffix := by
  by_contra again
  obtain ⟨c, rest, eq⟩ := exists_part_of_not_endsOnce ne again
  obtain ⟨d, e, lt, ascii, other, other'⟩ := exists_ascii_pair c
  generalize hn : upTo suffix.toList (front ++ suffix).toList = needle at eq
  have begins : needle ++ c :: rest <+: (front ++ suffix).toList := by simp [← eq]
  let short := String.ofList (needle ++ [e])
  let long := String.ofList (needle ++ d :: c :: rest)
  obtain ⟨near, far⟩ := isNearest_pair lt ascii other'
  rw [← eq, String.ofList_toList] at far
  have unknown : ∀ name ∈ (ofList [short, long]).names,
      ¬ name.toList <+: (front ++ suffix).toList := by
    intro name mem
    rcases mem_pair mem with rfl | rfl
    · rw [String.toList_ofList]
      exact not_prefix_of_ne begins other'
    · rw [String.toList_ofList]
      exact not_prefix_of_ne begins other
  have same := (Validation.resolve_of_unknown suffix unknown).symm.trans (looked _ unknown)
  rw [hn, closest?_eq_some_iff.mpr near, closest?_eq_some_iff.mpr far] at same
  have lists := String.ofList_injective (Option.some.inj (Resolution.unknown.inj same))
  have chars := (List.cons_eq_cons.mp (List.append_cancel_left lists)).1
  rw [chars] at lt
  exact absurd lt (Nat.lt_irrefl _)

theorem resolve_suggestion {closest : String}
    (found : resolve (front ++ suffix) suffix v = .unknown (some closest)) :
    resolve (closest ++ suffix) suffix v = .known := by
  have unknown : ∀ name ∈ v.names, ¬ name.toList <+: (front ++ suffix).toList := by
    intro name known begins
    rw [Validation.resolve_eq_known_iff.mpr ⟨name, known, begins⟩] at found
    cases found
  rw [Validation.resolve_of_unknown suffix unknown] at found
  have known := mem_of_closest? (Resolution.unknown.inj found)
  exact Validation.resolve_eq_known_iff.mpr ⟨closest, known, by simp⟩

end

/-- A scope that begins with a name is known. For any other, the name is looked for that is closest
to what comes before the first suffix in the scope; this is the scope without its last suffix,
whatever the names are, exactly if the suffix comes once. A closest name makes a known scope. -/
theorem resolve_of_suffix {front suffix : String} (ne : suffix ≠ "") :
    (∀ v : Vocabulary, resolve (front ++ suffix) suffix v = .known ↔
      ∃ name ∈ v.names, name.toList <+: (front ++ suffix).toList) ∧
    (∃ needle : String, IsUpTo suffix.toList (front ++ suffix).toList needle.toList ∧
      ∀ v : Vocabulary, (∀ name ∈ v.names, ¬ name.toList <+: (front ++ suffix).toList) →
        resolve (front ++ suffix) suffix v = .unknown (v.closest? needle)) ∧
    ((∀ v : Vocabulary, (∀ name ∈ v.names, ¬ name.toList <+: (front ++ suffix).toList) →
      resolve (front ++ suffix) suffix v = .unknown (v.closest? front)) ↔ EndsOnce front suffix) ∧
    ∀ (v : Vocabulary) (closest : String),
      resolve (front ++ suffix) suffix v = .unknown (some closest) →
        resolve (closest ++ suffix) suffix v = .known := by
  have found := @isUpTo_suffix front suffix ne
  refine ⟨fun v => Validation.resolve_eq_known_iff, ?_, ?_, fun v closest => resolve_suggestion⟩
  · refine ⟨String.ofList (upTo suffix.toList (front ++ suffix).toList), ?_, fun v unknown => ?_⟩
    · rwa [String.toList_ofList]
    · exact Validation.resolve_of_unknown suffix unknown
  · refine ⟨endsOnce_of_forall_resolve ne, fun once v unknown => ?_⟩
    have needle := found.unique ((isUpTo_front_iff front suffix).mpr once)
    rw [Validation.resolve_of_unknown suffix unknown, needle, String.ofList_toList]

theorem resolve_mattermos :
    let v := ofList ["Gmail", "Mattermost"]
    " Node" ≠ "" ∧ EndsOnce "Mattermos" " Node" ∧
      resolve ("Mattermos" ++ " Node") " Node" v = .unknown (some "Mattermost") ∧
      resolve ("Mattermost" ++ " Node") " Node" v = .known := by
  intro v
  have ne : " Node" ≠ "" := by decide
  obtain ⟨_, _, looked, suggested⟩ := @resolve_of_suffix "Mattermos" " Node" ne
  have cut : upTo " Node".toList ("Mattermos" ++ " Node").toList = "Mattermos".toList := by decide
  have before := @isUpTo_suffix "Mattermos" " Node" ne
  rw [cut] at before
  have once := (isUpTo_front_iff "Mattermos" " Node").mp before
  have closest : v.closest? "Mattermos" = some "Mattermost" := by decide
  have found := looked.mpr once v (by decide)
  rw [closest] at found
  exact ⟨ne, once, found, suggested v "Mattermost" found⟩

/-- The name of a node may contain the suffix. -/
theorem not_forall_resolve_of_suffix :
    ¬ ∀ (v : Vocabulary) (front suffix : String), suffix ≠ "" →
      (resolve (front ++ suffix) suffix v = .known ↔
        ∃ name ∈ v.names, name.toList <+: (front ++ suffix).toList) ∧
      ((∀ name ∈ v.names, ¬ name.toList <+: (front ++ suffix).toList) →
        resolve (front ++ suffix) suffix v = .unknown (v.closest? front)) ∧
      ∀ closest, resolve (front ++ suffix) suffix v = .unknown (some closest) →
        resolve (closest ++ suffix) suffix v = .known := by
  intro h
  let v := ofList ["Coda", "Code Node Runner"]
  have unknown : ∀ name ∈ v.names, ¬ name.toList <+: ("Code Node Runne" ++ " Node").toList := by
    decide
  have looked := (h v "Code Node Runne" " Node" (by decide)).2.1 unknown
  exact absurd looked (by decide)

end TitleLint.Scope
