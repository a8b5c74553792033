import TitleLint.Proofs.Text.Infix
import TitleLint.Proofs.Title.Composition

namespace TitleLint.Title

/-- A title whose subject goes on. -/
def extended (w : Title) (more : String) : Title := { w with subject := w.subject ++ more }

/-- Behind its type, the title opens a parenthesis. -/
def OpensScope (title type : String) : Prop := (type ++ "(").toList <+: title.toList

/-- The subject ends as a scope does where it is closed, but for the space. -/
def EndsAsScope (subject : String) : Prop :=
  "):".toList <:+ subject.toList ∨ ")!:".toList <:+ subject.toList

instance (title type : String) : Decidable (OpensScope title type) :=
  inferInstanceAs (Decidable (_ <+: _))

instance (subject : String) : Decidable (EndsAsScope subject) :=
  inferInstanceAs (Decidable (_ ∨ _))

section

variable {title more subject rest : String} {w t : Title}

theorem text_extended (w : Title) (more : String) : (w.extended more).text = w.text ++ more :=
  String.append_assoc.symm

theorem Reads.extended (h : Reads title w) (line : '\n' ∉ more.toList) :
    Reads (title ++ more) (w.extended more) := by
  refine ⟨?_, h.type_ne_empty, h.type_word, h.scope_line, ?_⟩
  · rw [text_extended, h.text_eq]
  · simp [Title.extended, h.subject_line, line]

theorem Reads.opensScope_iff (h : Reads title w) : OpensScope title w.type ↔ w.scope ≠ none := by
  rw [OpensScope, String.toList_append, h.toList_eq, List.prefix_append_right_inj]
  cases hs : w.scope <;> cases hb : w.breaking <;> simp [slots, ending, hs, hb]

theorem Reads.parse_eq (h : Reads title t) (scope_ne : ∀ scope, t.scope = some scope → scope ≠ "")
    (subject_ne : t.subject ≠ "") (free : t.scope = none ∨ closesScope t.subject = false) :
    parse title = some t := by
  have whole := h.text_eq
  rw [← whole] at h ⊢
  exact parse_text h scope_ne subject_ne free

/-- A blank behind the subject closes a scope in it exactly if the subject ends as one does. -/
theorem closesScope_blank : closesScope (subject ++ " " ++ rest) = true ↔
    closesScope subject = true ∨ EndsAsScope subject ∨ closesScope rest = true := by
  have plain := @Text.infix_concat_iff "):".toList subject.toList rest.toList ' ' (by decide)
  have marked := @Text.infix_concat_iff ")!:".toList subject.toList rest.toList ' ' (by decide)
  have whole : (subject ++ " " ++ rest).toList = subject.toList ++ ' ' :: rest.toList := by simp
  simp only [closesScope, EndsAsScope, whole, Bool.or_eq_true, Text.occurs_iff]
  refine (or_congr plain marked).trans (or_or_or_comm.trans (or_congr_right ?_))
  exact or_or_or_comm

theorem endsAsScope_iff : EndsAsScope subject ↔
    ∃ inner b, subject.toList ++ [' '] = inner ++ ')' :: ending b [] := by
  constructor
  · rintro (⟨inner, eq⟩ | ⟨inner, eq⟩)
    · exact ⟨inner, false, by simp [← eq, ending]⟩
    · exact ⟨inner, true, by simp [← eq, ending]⟩
  · rintro ⟨inner, b, eq⟩
    cases b with
    | false =>
      left
      exact ⟨inner, List.append_cancel_right (by simpa [ending] using eq.symm)⟩
    | true =>
      right
      exact ⟨inner, List.append_cancel_right (by simpa [ending] using eq.symm)⟩

/-- A title goes on as it begins if its subject is exchanged for one that closes no scope. -/
theorem parse_with_subject (parsed : parse title = some t) (ne : subject ≠ "")
    (line : '\n' ∉ subject.toList)
    (free : ¬ OpensScope title t.type ∨ closesScope subject = false) :
    ∃ front, title = front ++ t.subject ∧ parse (front ++ subject) = some { t with subject } := by
  obtain ⟨w, longest, _, rfl⟩ := parse_eq_some_iff.mp parsed
  have h := longest.toReads
  let front := { w with subject := "" }.text
  have text_eq (s : String) : { w with subject := s }.text = front ++ s := by
    simpa [extended] using text_extended { w with subject := "" } s
  have reads : Reads (front ++ subject) { w with subject } :=
    ⟨text_eq subject, h.type_ne_empty, h.type_word, h.scope_line, line⟩
  refine ⟨front, h.text_eq.symm.trans (text_eq w.subject), ?_⟩
  refine parse_eq_some_iff.mpr ⟨{ w with subject }, ?_, ne, rfl⟩
  rw [← text_eq] at reads ⊢
  refine readsLongest_text reads (free.imp_left fun closed => ?_)
  by_contra opened
  exact closed (h.opensScope_iff.mpr opened)

/-- What is written behind a title belongs to its subject, if no scope is closed by it. -/
theorem parse_append (parsed : parse title = some t) (line : '\n' ∉ more.toList)
    (free : ¬ OpensScope title t.type ∨ closesScope (t.subject ++ more) = false) :
    parse (title ++ more) = some (t.extended more) := by
  obtain ⟨w, longest, subject_ne, rfl⟩ := parse_eq_some_iff.mp parsed
  have whole_line : '\n' ∉ (w.subject ++ more).toList := by
    simp [longest.toReads.subject_line, line]
  have whole_ne : w.subject ++ more ≠ "" := by simp [subject_ne]
  obtain ⟨front, eq, parsed'⟩ := parse_with_subject parsed whole_ne whole_line free
  rw [eq, String.append_assoc]
  exact parsed'

theorem closesScope_eq_false_of_parse (parsed : parse title = some t)
    (opened : OpensScope title t.type) : closesScope t.subject = false := by
  obtain ⟨w, longest, _, rfl⟩ := parse_eq_some_iff.mp parsed
  obtain ⟨scope, hs⟩ := Option.ne_none_iff_exists'.mp (longest.toReads.opensScope_iff.mp opened)
  by_contra closes
  obtain ⟨v, reads, longer⟩ := longest.toReads.exists_longer hs (Bool.not_eq_false _ ▸ closes)
  have le := longest.longest v reads
  omega

/-- A blank and a text behind a title belong to its subject, unless the blank closes the scope. -/
theorem parse_append_blank (parsed : parse title = some t) (line : '\n' ∉ rest.toList)
    (rest_free : closesScope rest = false)
    (free : ¬ OpensScope title t.type ∨ ¬ EndsAsScope t.subject) :
    parse (title ++ " " ++ rest) = some (t.extended (" " ++ rest)) := by
  rw [String.append_assoc]
  refine parse_append parsed (by simp [line]) ?_
  rw [← String.append_assoc, ← Bool.not_eq_true, closesScope_blank]
  by_cases opened : OpensScope title t.type
  · have ends := free.resolve_left (not_not_intro opened)
    simp [closesScope_eq_false_of_parse parsed opened, ends, rest_free]
  · exact .inl opened

/-- A subject that ends as a scope does is taken into the scope by a blank behind it. -/
theorem parse_append_of_endsAsScope (parsed : parse title = some t)
    (opened : OpensScope title t.type) (ends : EndsAsScope t.subject)
    (rest_ne : rest ≠ "") (line : '\n' ∉ rest.toList) (free : closesScope rest = false) :
    ∃ scope b, parse (title ++ " " ++ rest) = some ⟨t.type, some scope, b, rest⟩ := by
  obtain ⟨w, longest, subject_ne, rfl⟩ := parse_eq_some_iff.mp parsed
  obtain ⟨scope, hs⟩ := Option.ne_none_iff_exists'.mp (longest.toReads.opensScope_iff.mp opened)
  obtain ⟨inner, b, eq⟩ := endsAsScope_iff.mp ends
  have subject_eq : (w.subject ++ (" " ++ rest)).toList = inner ++ ')' :: ending b rest.toList := by
    have longer : w.subject.toList ++ [' '] ++ rest.toList =
        inner ++ ')' :: ending b [] ++ rest.toList := congrArg (· ++ rest.toList) eq
    simpa [ending_eq_append b rest.toList] using longer
  have extended := @Reads.extended title (" " ++ rest) w longest.toReads (by simp [line])
  have reads := extended.closing hs subject_eq
  rw [String.ofList_toList, ← String.append_assoc] at reads
  refine ⟨_, b, reads.parse_eq ?_ rest_ne (.inr free)⟩
  rintro _ ⟨⟩ empty
  simpa using congrArg String.toList empty

end

end TitleLint.Title
