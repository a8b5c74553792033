import TitleLint.Proofs.Title.Reading
import TitleLint.Text.Split

namespace TitleLint.Title

/-- Whether a scope in front of the subject could also be closed inside it. -/
def closesScope (subject : String) : Bool :=
  Text.occurs "): ".toList subject.toList || Text.occurs ")!: ".toList subject.toList

theorem closesScope_iff {subject : String} :
    closesScope subject = true ↔ ∃ inner b s, subject.toList = inner ++ ')' :: ending b s := by
  simp only [closesScope, Bool.or_eq_true, Text.occurs_iff]
  constructor
  · intro h
    rcases h with ⟨inner, s, h⟩ | ⟨inner, s, h⟩
    · exact ⟨inner, false, s, by simpa [ending] using h.symm⟩
    · exact ⟨inner, true, s, by simpa [ending] using h.symm⟩
  · intro h
    obtain ⟨inner, b, s, h⟩ := h
    cases b with
    | false => exact .inl ⟨inner, s, by simp [h, ending]⟩
    | true => exact .inr ⟨inner, s, by simp [h, ending]⟩

theorem closesScope_eq_false_of_not_mem {subject : String} (h : ')' ∉ subject.toList) :
    closesScope subject = false := by
  by_contra closes
  obtain ⟨inner, b, s, eq⟩ := closesScope_iff.mp (Bool.not_eq_false _ ▸ closes)
  simp [eq] at h

theorem ending_eq_append (b : Bool) (s : List Char) : ending b s = ending b [] ++ s := by
  simp [ending]

theorem mem_ending {c : Char} {b : Bool} {s : List Char} :
    c ∈ ending b s ↔ (b = true ∧ c = '!') ∨ c = ':' ∨ c = ' ' ∨ c ∈ s := by
  cases b <;> simp [ending]

/-- Between a scope and its subject no parenthesis is closed. -/
theorem eq_append_of_ending_eq {b : Bool} {subject front rest : List Char}
    (h : ending b subject = front ++ ')' :: rest) :
    ∃ inner, front = ending b inner ∧ subject = inner ++ ')' :: rest := by
  rw [ending_eq_append] at h
  rcases List.append_eq_append_iff.mp h with ⟨inner, hf, hs⟩ | ⟨c, hf, hs⟩
  · exact ⟨inner, by rw [hf, ← ending_eq_append], hs⟩
  · cases c with
    | nil => exact ⟨[], by simpa using hf.symm, by simpa using hs.symm⟩
    | cons d c =>
      obtain ⟨rfl, _⟩ := List.cons.inj hs
      have mem : ')' ∈ ending b [] := by simp [hf]
      simp [mem_ending] at mem

/-- The scope may go on to where it could be closed inside the subject. -/
theorem Reads.closing {title scope : String} {w : Title} {inner s : List Char} {b : Bool}
    (h : Reads title w) (hs : w.scope = some scope)
    (hu : w.subject.toList = inner ++ ')' :: ending b s) :
    Reads title ⟨w.type, some (String.ofList (scope.toList ++ ')' :: ending w.breaking inner)), b,
      String.ofList s⟩ := by
  have subject_line := h.subject_line
  simp only [hu, List.mem_append, List.mem_cons, mem_ending, not_or] at subject_line
  have scope_line := h.scope_line scope hs
  refine reads_of_slots h.type_ne_empty h.takeWhile_eq.symm ?_ ?_ ?_
  · rw [h.dropWhile_eq]
    simp [slots, hs, hu, ending]
  · rintro _ ⟨⟩
    simp [mem_ending, scope_line, subject_line.1]
  · simpa using subject_line.2.2.2.2.2

/-- A subject in which the scope could be closed gives way to a longer scope. -/
theorem Reads.exists_longer {title scope : String} {w : Title} (h : Reads title w)
    (hs : w.scope = some scope) (closes : closesScope w.subject = true) :
    ∃ v, Reads title v ∧ w.scopeLength < v.scopeLength := by
  obtain ⟨inner, b, s, hu⟩ := closesScope_iff.mp closes
  refine ⟨_, h.closing hs hu, ?_⟩
  simp only [scopeLength, hs, Option.getD_some, String.length_ofList, List.length_append,
    List.length_cons, String.length_toList]
  omega

theorem readsLongest_text {t : Title} (h : Reads t.text t)
    (free : t.scope = none ∨ closesScope t.subject = false) : ReadsLongest t.text t := by
  refine ⟨h, fun v hv => ?_⟩
  cases hs : t.scope with
  | none => rw [hv.eq_of_scope_eq_none h hs]
  | some scope =>
    cases hs' : v.scope with
    | none => simp [scopeLength, hs']
    | some longer =>
      have hc := h.closes hs
      have hc' := hv.closes hs'
      rw [hv.slots_eq h] at hc'
      simp only [scopeLength, hs, hs', Option.getD_some]
      have same := hc.eq.symm.trans hc'.eq
      -- The other scope is the longer one if more follows; then its end lies inside the subject.
      rcases List.append_eq_append_iff.mp same with ⟨more, hl, hr⟩ | ⟨more, hl, _⟩
      · cases more with
        | nil =>
          have len := congrArg List.length hl
          simp only [List.append_nil, String.length_toList] at len
          omega
        | cons d more =>
          obtain ⟨rfl, he⟩ := List.cons.inj hr
          obtain ⟨inner, _, hu⟩ := eq_append_of_ending_eq he
          have closes := closesScope_iff.mpr ⟨inner, v.breaking, v.subject.toList, hu⟩
          simp [hs, closes] at free
      · have len := congrArg List.length hl
        simp only [List.length_append, String.length_toList] at len
        omega

theorem withoutEmptyScope_eq_self {t : Title} (h : ∀ scope, t.scope = some scope → scope ≠ "") :
    t.withoutEmptyScope = t := by
  obtain ⟨type, scope, breaking, subject⟩ := t
  cases scope with
  | none => rfl
  | some scope => simp [withoutEmptyScope, Option.filter_some, h scope rfl]

/-- A title that is written down is found again if the scope cannot be closed inside the
subject. -/
theorem parse_text {t : Title} (h : Reads t.text t)
    (scope_ne : ∀ scope, t.scope = some scope → scope ≠ "") (subject_ne : t.subject ≠ "")
    (free : t.scope = none ∨ closesScope t.subject = false) : parse t.text = some t :=
  parse_eq_some_iff.mpr
    ⟨t, readsLongest_text h free, subject_ne, (withoutEmptyScope_eq_self scope_ne).symm⟩

theorem parse_text_ne {t : Title} {scope : String} (h : Reads t.text t) (hs : t.scope = some scope)
    (closes : closesScope t.subject = true) : parse t.text ≠ some t := by
  intro found
  obtain ⟨v, hv, longer⟩ := h.exists_longer hs closes
  obtain ⟨w, hw, _, eq⟩ := parse_eq_some_iff.mp found
  have hw' : w.scope = some scope := by
    rw [eq] at hs
    exact (Option.filter_eq_some_iff.mp hs).1
  have len := hw.longest v hv
  simp only [scopeLength, hs, hw'] at longer len
  omega

/-- Reading a title that was written down gives it back exactly if it has no scope or a scope that
cannot be closed inside the subject. -/
theorem parse_text_eq_some_iff {t : Title} (type_ne : t.type ≠ "")
    (type_word : ∀ c ∈ t.type.toList, Unicode.isWord c = true)
    (scope_ne : ∀ scope, t.scope = some scope → scope ≠ "")
    (scope_line : ∀ scope, t.scope = some scope → '\n' ∉ scope.toList)
    (subject_ne : t.subject ≠ "") (subject_line : '\n' ∉ t.subject.toList) :
    parse t.text = some t ↔ t.scope = none ∨ closesScope t.subject = false := by
  have h : Reads t.text t := ⟨rfl, type_ne, type_word, scope_line, subject_line⟩
  constructor
  · intro found
    cases hs : t.scope with
    | none => exact .inl rfl
    | some scope =>
      right
      by_contra closes
      exact parse_text_ne h hs (Bool.not_eq_false _ ▸ closes) found
  · exact parse_text h scope_ne subject_ne

theorem parse_text_of_core :
    parse (text ⟨"fix", some "core", true, "call f(x) twice: done"⟩) =
      some ⟨"fix", some "core", true, "call f(x) twice: done"⟩ := by
  refine (parse_text_eq_some_iff (by decide) (List.all_eq_true.mp (by decide)) ?_ ?_ (by decide)
    (by decide)).mpr (.inr (by decide))
  · rintro _ ⟨⟩
    decide
  · rintro _ ⟨⟩
    decide

/-- A call in the subject can take the scope over. -/
theorem not_forall_parse_text : ¬ ∀ t : Title, t.type ≠ "" →
    (∀ c ∈ t.type.toList, Unicode.isWord c = true) →
    (∀ scope, t.scope = some scope →
      scope ≠ "" ∧ '(' ∉ scope.toList ∧ ')' ∉ scope.toList ∧ '\n' ∉ scope.toList) →
    t.subject ≠ "" → '\n' ∉ t.subject.toList → parse t.text = some t := by
  intro h
  have found := h ⟨"fix", some "core", false, "call eval(): now"⟩ (by decide)
    (List.all_eq_true.mp (by decide)) (by rintro _ ⟨⟩; decide) (by decide) (by decide)
  have misread : parse (text ⟨"fix", some "core", false, "call eval(): now"⟩) =
      some ⟨"fix", some "core): call eval(", false, "now"⟩ := by decide
  exact absurd (misread.symm.trans found) (by decide)

end TitleLint.Title
