import Mathlib.Data.List.TakeWhile
import TitleLint.Title

namespace TitleLint.Title

/-- A title as it is written; an empty scope keeps its parentheses. -/
def text (t : Title) : String :=
  t.type ++ (match t.scope with
    | some scope => "(" ++ scope ++ ")"
    | none => "") ++ (if t.breaking then "!" else "") ++ ": " ++ t.subject

/-- One way of writing a text as a type of word characters, an optional scope, an optional mark
and a subject, where neither the scope nor the subject goes beyond its line. -/
structure Reads (title : String) (w : Title) : Prop where
  text_eq : w.text = title
  type_ne_empty : w.type ≠ ""
  type_word : ∀ c ∈ w.type.toList, Unicode.isWord c = true
  scope_line : ∀ scope, w.scope = some scope → '\n' ∉ scope.toList
  subject_line : '\n' ∉ w.subject.toList

def scopeLength (w : Title) : Nat := (w.scope.getD "").length

/-- The way of writing a text that has the longest scope. -/
structure ReadsLongest (title : String) (w : Title) : Prop extends Reads title w where
  longest : ∀ v, Reads title v → v.scopeLength ≤ w.scopeLength

/-- Empty parentheses count as no scope. -/
def withoutEmptyScope (w : Title) : Title := { w with scope := w.scope.filter (· ≠ "") }

/-- The mark and the subject, as they follow the scope. -/
def ending (breaking : Bool) (subject : List Char) : List Char :=
  (if breaking then ['!'] else []) ++ ':' :: ' ' :: subject

/-- All that follows the type. -/
def slots (w : Title) : List Char :=
  match w.scope with
  | some scope => '(' :: (scope.toList ++ ')' :: ending w.breaking w.subject.toList)
  | none => ending w.breaking w.subject.toList

theorem toList_text (w : Title) : w.text.toList = w.type.toList ++ w.slots := by
  cases hs : w.scope <;> cases hb : w.breaking <;> simp [text, slots, ending, hs, hb]

theorem ending_inj {b b' : Bool} {s s' : List Char} (h : ending b s = ending b' s') :
    b = b' ∧ s = s' := by
  cases b <;> cases b' <;> simp_all [ending]

theorem subject?_ending {breaking : Bool} {subject : List Char} (line : '\n' ∉ subject) :
    subject? (ending breaking subject) = some (breaking, subject) := by
  cases breaking <;> simp [ending, subject?, line]

theorem eq_ending_of_subject? {cs subject : List Char} {breaking : Bool}
    (h : subject? cs = some (breaking, subject)) :
    cs = ending breaking subject ∧ '\n' ∉ subject := by
  unfold subject? at h
  split at h
  next s =>
    split at h
    next => simp at h
    next line =>
      obtain ⟨rfl, rfl⟩ := Prod.mk.inj (Option.some.inj h)
      exact ⟨rfl, line⟩
  next s =>
    split at h
    next => simp at h
    next line =>
      obtain ⟨rfl, rfl⟩ := Prod.mk.inj (Option.some.inj h)
      exact ⟨rfl, line⟩
  next => simp at h

/-- A scope is closed in front of a mark and a subject, and nothing is left over. -/
structure Closes (cs scope : List Char) (breaking : Bool) (subject : List Char) : Prop where
  eq : cs = scope ++ ')' :: ending breaking subject
  scope_line : '\n' ∉ scope
  subject_line : '\n' ∉ subject

theorem Closes.eq_of_length {cs s s' u u' : List Char} {b b' : Bool} (h : Closes cs s b u)
    (h' : Closes cs s' b' u') (len : s.length = s'.length) : s = s' ∧ b = b' ∧ u = u' := by
  obtain ⟨hs, rest⟩ := List.append_inj (h.eq.symm.trans h'.eq) len
  exact ⟨hs, ending_inj (List.cons.inj rest).2⟩

theorem closes_of_scope? {cs scope subject : List Char} {breaking : Bool}
    (h : scope? cs = some (scope, breaking, subject)) : Closes cs scope breaking subject := by
  induction cs generalizing scope with
  | nil => simp [scope?] at h
  | cons c cs ih =>
    simp only [scope?] at h
    split at h
    next => simp at h
    next line =>
      split at h
      next inner rest hr =>
        obtain ⟨rfl, rfl⟩ := Prod.mk.inj (Option.some.inj h)
        have hc := ih hr
        refine ⟨by simp [hc.eq], ?_, hc.subject_line⟩
        simp [hc.scope_line, Ne.symm line]
      next =>
        split at h
        next hc =>
          obtain ⟨rest, hrest, eq⟩ := Option.map_eq_some_iff.mp h
          obtain ⟨rfl, rfl⟩ := Prod.mk.inj eq
          obtain ⟨rfl, subjectLine⟩ := eq_ending_of_subject? hrest
          exact ⟨by simp [hc], by simp, subjectLine⟩
        next => simp at h

/-- Reading a scope never stops at a shorter one. -/
theorem exists_scope?_of_closes {cs scope subject : List Char} {breaking : Bool}
    (h : Closes cs scope breaking subject) :
    ∃ longer b s, scope? cs = some (longer, b, s) ∧ scope.length ≤ longer.length := by
  induction cs generalizing scope with
  | nil => simpa using h.eq
  | cons c cs ih =>
    cases scope with
    -- The scope could end here, unless a longer one is read.
    | nil =>
      obtain ⟨rfl, rfl⟩ := List.cons.inj h.eq
      have last : subject? (ending breaking subject) = some (breaking, subject) :=
        subject?_ending h.subject_line
      cases hr : scope? (ending breaking subject) with
      | none => exact ⟨[], breaking, subject, by simp [scope?, hr, last], Nat.le_refl _⟩
      | some found => exact ⟨')' :: found.1, found.2.1, found.2.2, by simp [scope?, hr], by simp⟩
    | cons d scope =>
      obtain ⟨rfl, hcs⟩ := List.cons.inj h.eq
      have line : '\n' ≠ c ∧ '\n' ∉ scope := by simpa using h.scope_line
      obtain ⟨longer, b, s, hr, len⟩ := ih ⟨hcs, line.2, h.subject_line⟩
      exact ⟨c :: longer, b, s, by simp [scope?, hr, Ne.symm line.1], by simpa using len⟩

theorem isWord_eq_false_of_slots (w : Title) : ∀ c ∈ w.slots.head?, Unicode.isWord c = false := by
  cases hs : w.scope <;> cases hb : w.breaking <;> simp [slots, ending, hs, hb] <;> decide

/-- The type is all the word characters at the beginning, so the slots after it are fixed. -/
theorem reads_of_slots {title : String} {w : Title} (type_ne : w.type ≠ "")
    (ht : w.type.toList = title.toList.takeWhile Unicode.isWord)
    (hs : w.slots = title.toList.dropWhile Unicode.isWord)
    (scope_line : ∀ scope, w.scope = some scope → '\n' ∉ scope.toList)
    (subject_line : '\n' ∉ w.subject.toList) : Reads title w := by
  refine ⟨?_, type_ne, ?_, scope_line, subject_line⟩
  · rw [← String.toList_inj, toList_text, ht, hs, List.takeWhile_append_dropWhile]
  · intro c hc
    rw [ht] at hc
    exact List.mem_takeWhile_imp hc

namespace Reads

variable {title : String} {v w : Title}

theorem toList_eq (h : Reads title w) : title.toList = w.type.toList ++ w.slots := by
  rw [← h.text_eq, toList_text]

theorem takeWhile_eq (h : Reads title w) :
    title.toList.takeWhile Unicode.isWord = w.type.toList := by
  have stop : w.slots.takeWhile Unicode.isWord = [] := by
    cases hw : w.slots with
    | nil => rfl
    | cons c cs => simp [isWord_eq_false_of_slots w c (by simp [hw])]
  rw [h.toList_eq, List.takeWhile_append_of_pos h.type_word, stop, List.append_nil]

theorem dropWhile_eq (h : Reads title w) : title.toList.dropWhile Unicode.isWord = w.slots := by
  have split := List.takeWhile_append_dropWhile (p := Unicode.isWord) (l := title.toList)
  rw [h.takeWhile_eq] at split
  exact List.append_cancel_left (split.trans h.toList_eq)

theorem type_eq (hv : Reads title v) (hw : Reads title w) : v.type = w.type :=
  String.toList_inj.mp (hv.takeWhile_eq.symm.trans hw.takeWhile_eq)

theorem slots_eq (hv : Reads title v) (hw : Reads title w) : v.slots = w.slots :=
  hv.dropWhile_eq.symm.trans hw.dropWhile_eq

theorem scope_eq_none (hv : Reads title v) (hw : Reads title w) (hs : w.scope = none) :
    v.scope = none := by
  have eq := slots_eq hv hw
  cases hv' : v.scope with
  | none => rfl
  | some scope => cases hb : w.breaking <;> simp [slots, ending, hs, hv', hb] at eq

theorem closes {scope : String} (h : Reads title w) (hs : w.scope = some scope) :
    Closes w.slots.tail scope.toList w.breaking w.subject.toList := by
  refine ⟨?_, h.scope_line scope hs, h.subject_line⟩
  simp [slots, hs]

theorem eq_of_scope_eq_none (hv : Reads title v) (hw : Reads title w) (hs : w.scope = none) :
    v = w := by
  have hs' := hv.scope_eq_none hw hs
  have ht := hv.type_eq hw
  have eq := hv.slots_eq hw
  simp only [slots, hs, hs'] at eq
  obtain ⟨hb, hu⟩ := ending_inj eq
  have hu' := String.toList_inj.mp hu
  cases v
  cases w
  simp_all

end Reads

/-- The longest reading is the only one of its length. -/
theorem ReadsLongest.unique {title : String} {v w : Title} (hv : ReadsLongest title v)
    (hw : ReadsLongest title w) : v = w := by
  cases hs : w.scope with
  | none => exact hv.toReads.eq_of_scope_eq_none hw.toReads hs
  | some scope =>
    cases hs' : v.scope with
    | none => exact (hw.toReads.eq_of_scope_eq_none hv.toReads hs').symm
    | some scope' =>
      have le := hw.longest v hv.toReads
      have ge := hv.longest w hw.toReads
      simp only [scopeLength, hs, hs', Option.getD_some] at le ge
      have hc := hw.closes hs
      have hc' := hv.closes hs'
      rw [hv.slots_eq hw.toReads] at hc'
      obtain ⟨eq, hb, hu⟩ := hc'.eq_of_length hc (by simp only [String.length_toList]; omega)
      have ht := hv.type_eq hw.toReads
      cases v
      cases w
      simp_all [String.toList_inj]

theorem slots?_of_no_scope {w : Title} (hs : w.scope = none) (line : '\n' ∉ w.subject.toList) :
    slots? w.slots = some ([], w.breaking, w.subject.toList) := by
  have hu : subject? (ending w.breaking w.subject.toList) = some (w.breaking, w.subject.toList) :=
    subject?_ending line
  cases hb : w.breaking <;> simp_all [slots, ending, slots?]

/-- If a text can be read as a title at all, the slots found in it are those of a reading with the
longest scope. -/
theorem Reads.exists_longest {title : String} {v : Title} (h : Reads title v) :
    ∃ w, ReadsLongest title w ∧ slots? (title.toList.dropWhile Unicode.isWord) =
      some ((w.scope.getD "").toList, w.breaking, w.subject.toList) := by
  rw [h.dropWhile_eq]
  cases hs : v.scope with
  | none =>
    refine ⟨v, ⟨h, fun u hu => ?_⟩, by simpa [hs] using slots?_of_no_scope hs h.subject_line⟩
    rw [hu.eq_of_scope_eq_none h hs]
  | some scope =>
    obtain ⟨longer, b, s, hr, _⟩ := exists_scope?_of_closes (h.closes hs)
    have hc := closes_of_scope? hr
    let w : Title := ⟨v.type, some (String.ofList longer), b, String.ofList s⟩
    have hslots : w.slots = v.slots := by
      have eq := hc.eq
      simp only [slots, hs, List.tail_cons] at eq
      simp [w, slots, hs, eq]
    have hw : Reads title w := by
      refine reads_of_slots h.type_ne_empty h.takeWhile_eq.symm
        (hslots.trans h.dropWhile_eq.symm) ?_ (by simpa [w] using hc.subject_line)
      intro inner eq
      cases Option.some.inj eq
      simpa using hc.scope_line
    refine ⟨w, ⟨hw, fun u hu => ?_⟩, by simpa [slots, hs, slots?, w] using hr⟩
    cases hu' : u.scope with
    | none => simp [scopeLength, hu']
    | some other =>
      have ho := hu.closes hu'
      rw [hu.slots_eq h] at ho
      obtain ⟨found, b', s', hr', len⟩ := exists_scope?_of_closes ho
      have same : found = longer := (Prod.mk.inj (Option.some.inj (hr'.symm.trans hr))).1
      simpa only [scopeLength, hu', w, same, Option.getD_some, String.length_toList,
        String.length_ofList] using len

theorem exists_reads_of_parse {title : String} {t : Title} (h : parse title = some t) :
    ∃ v, Reads title v := by
  let type := String.ofList (title.toList.takeWhile Unicode.isWord)
  have ht : type.toList = title.toList.takeWhile Unicode.isWord := String.toList_ofList
  unfold parse at h
  dsimp only at h
  split at h
  next scope breaking subject hslots =>
    split at h
    next => simp at h
    next nonempty =>
      have type_ne : type ≠ "" := by
        rw [← ht, List.isEmpty_iff, String.toList_eq_nil_iff] at nonempty
        exact fun eq => nonempty (.inl eq)
      unfold slots? at hslots
      split at hslots
      next cs hcs =>
        have hc := closes_of_scope? hslots
        refine ⟨⟨type, some (String.ofList scope), breaking, String.ofList subject⟩,
          reads_of_slots type_ne ht ?_ ?_ (by simpa using hc.subject_line)⟩
        · rw [hcs, hc.eq]
          simp [slots]
        · intro inner eq
          cases Option.some.inj eq
          simpa using hc.scope_line
      next =>
        obtain ⟨rest, hrest, eq⟩ := Option.map_eq_some_iff.mp hslots
        obtain ⟨rfl, rfl⟩ := Prod.mk.inj eq
        obtain ⟨hcs, line⟩ := eq_ending_of_subject? hrest
        refine ⟨⟨type, none, breaking, String.ofList subject⟩,
          reads_of_slots type_ne ht ?_ (by simp) (by simpa using line)⟩
        rw [hcs]
        simp [slots]
  next => simp at h

/-- What is found in a title is its longest reading, unless that one has no subject. -/
theorem parse_of_longest {title : String} {w : Title} (h : ReadsLongest title w) :
    parse title = if w.subject = "" then none else some w.withoutEmptyScope := by
  obtain ⟨w', h', hslots⟩ := h.toReads.exists_longest
  obtain rfl := h.unique h'
  have type_ne : w.type.toList ≠ [] := fun e => h.type_ne_empty (String.toList_eq_nil_iff.mp e)
  simp only [parse, hslots, h.takeWhile_eq, List.isEmpty_iff, String.toList_eq_nil_iff, type_ne,
    false_or, String.ofList_toList]
  split
  next => rfl
  next =>
    cases hs : w.scope with
    | none => simp [withoutEmptyScope, hs]
    | some scope =>
      by_cases empty : scope = "" <;> simp [withoutEmptyScope, hs, empty, Option.filter_some]

theorem parse_eq_some_iff {title : String} {t : Title} :
    parse title = some t ↔
      ∃ w, ReadsLongest title w ∧ w.subject ≠ "" ∧ t = w.withoutEmptyScope := by
  constructor
  · intro h
    obtain ⟨v, hv⟩ := exists_reads_of_parse h
    obtain ⟨w, hw, _⟩ := hv.exists_longest
    rw [parse_of_longest hw] at h
    split at h
    next => simp at h
    next subject => exact ⟨w, hw, subject, (Option.some.inj h).symm⟩
  · intro h
    obtain ⟨w, hw, subject, rfl⟩ := h
    rw [parse_of_longest hw, if_neg subject]

theorem parse_eq_none_iff {title : String} :
    parse title = none ↔ ∀ w, ReadsLongest title w → w.subject = "" := by
  constructor
  · intro h w hw
    by_contra subject
    have found := parse_eq_some_iff.mpr ⟨w, hw, subject, rfl⟩
    simp [h] at found
  · intro h
    cases hp : parse title with
    | none => rfl
    | some t =>
      obtain ⟨w, hw, subject, _⟩ := parse_eq_some_iff.mp hp
      exact absurd (h w hw) subject

theorem parse_of_no_type {title : String} (h : title.toList.takeWhile Unicode.isWord = []) :
    parse title = none := by
  rw [parse_eq_none_iff]
  intro w hw
  have type_nil := hw.toReads.takeWhile_eq.symm.trans h
  exact absurd (String.toList_eq_nil_iff.mp type_nil) hw.type_ne_empty

/-- A text is a title if and only if it can be written as one and its longest reading has a
subject; then that reading is the title. There is a longest reading as soon as there is any, there
is no second one, and without parentheses there is no other reading at all. -/
theorem parse_iff_longest_reading (title : String) :
    (∀ t, parse title = some t ↔
      ∃ w, ReadsLongest title w ∧ w.subject ≠ "" ∧ t = w.withoutEmptyScope) ∧
    (parse title = none ↔
      (∀ v, ¬ Reads title v) ∨ ∃ w, ReadsLongest title w ∧ w.subject = "") ∧
    (∀ v, Reads title v → ∃ w, ReadsLongest title w) ∧
    (∀ v w, ReadsLongest title v → ReadsLongest title w → v = w) ∧
    ∀ v w, Reads title v → Reads title w → w.scope = none → v = w := by
  refine ⟨fun t => parse_eq_some_iff, ?_, ?_, fun v w => ReadsLongest.unique,
    fun v w => Reads.eq_of_scope_eq_none⟩
  · rw [parse_eq_none_iff]
    constructor
    · intro h
      by_cases some_reading : ∃ v, Reads title v
      · obtain ⟨v, hv⟩ := some_reading
        obtain ⟨w, hw, _⟩ := hv.exists_longest
        exact .inr ⟨w, hw, h w hw⟩
      · exact .inl (not_exists.mp some_reading)
    · rintro (unread | ⟨v, hv, subject⟩) w hw
      · exact absurd hw.toReads (unread w)
      · rw [hw.unique hv, subject]
  · intro v hv
    obtain ⟨w, hw, _⟩ := hv.exists_longest
    exact ⟨w, hw⟩

end TitleLint.Title
