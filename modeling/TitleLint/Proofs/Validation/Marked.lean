import TitleLint.Proofs.Policy.Ticket
import TitleLint.Proofs.Subject.Marker
import TitleLint.Proofs.Title.Extension
import TitleLint.Proofs.Validation.Parts

namespace TitleLint

/-- A text with the marker behind it. -/
def marked (text : String) : String := text ++ " (no-changelog)"

theorem marked_eq (text : String) : marked text = text ++ " " ++ Policy.defaultMarker :=
  (@String.append_assoc text " " Policy.defaultMarker).symm

theorem toList_marked (text : String) :
    (marked text).toList = text.toList ++ ' ' :: Policy.defaultMarker.toList :=
  String.toList_append

/-- No ticket number reaches into the marker. -/
theorem Policy.hasTicket_marked {p : Policy} (pattern : p.ticket = defaultTicket) (title : String) :
    p.hasTicket (marked title) = p.hasTicket title := by
  rw [Bool.eq_iff_iff, hasTicket_iff pattern, hasTicket_iff pattern]
  refine exists_congr fun run => and_congr_right fun ticket => ?_
  rw [toList_marked, Text.infix_append_cons_iff ticket.space_not_mem, or_iff_left]
  exact fun inside => absurd (inside.subset ticket.eight_mem) (by decide)

namespace Subject

/-- The subject ends in no space, and the marker is nowhere in it. -/
structure Unmarked (subject : String) : Prop where
  tight : ¬ " ".toList <:+ subject.toList
  absent : ¬ "(no-changelog)".toList <:+: subject.toList

section

variable {subject : String}

theorem startsUppercase_append (ne : subject ≠ "") (rest : String) :
    startsUppercase (subject ++ rest) = startsUppercase subject := by
  cases h : subject.toList with
  | nil => exact absurd (String.toList_eq_nil_iff.mp h) ne
  | cons c cs => simp [startsUppercase, h]

theorem firstWord_append_blank (subject rest : String) :
    firstWord (subject ++ " " ++ rest) = firstWord subject := by
  simp only [firstWord, String.toList_append, List.append_assoc, List.takeWhile_append]
  split
  -- The subject is one word, which the blank ends.
  next all =>
    have whole := (List.takeWhile_prefix _).eq_of_length all
    simpa using whole.symm
  next => rfl

theorem isPastTense_append_blank (subject rest : String) :
    isPastTense (subject ++ " " ++ rest) = isPastTense subject := by
  rw [isPastTense, isPastTense, firstWord_append_blank]

theorem endsWithPeriod_marked (subject : String) : endsWithPeriod (marked subject) = false := by
  rw [Bool.eq_false_iff, ne_eq, endsWithPeriod, List.isSuffixOf_iff_suffix, toList_marked]
  rintro ⟨front, eq⟩
  simpa [Policy.defaultMarker] using congrArg List.getLast? eq

theorem Unmarked.placed (h : Unmarked subject) :
    hasMisplacedMarker subject Policy.defaultMarker = false :=
  hasMisplacedMarker_of_absent h.absent

theorem Unmarked.placed_marked (h : Unmarked subject) :
    hasMisplacedMarker (marked subject) Policy.defaultMarker = false := by
  have last : (marked subject).toList =
      (subject.toList ++ [' ']) ++ Policy.defaultMarker.toList := by
    simp [toList_marked]
  refine (hasMisplacedMarker_of_last (by decide) last).mpr ⟨⟨?_, fun double => ?_⟩, ?_⟩
  · exact List.suffix_append subject.toList [' ']
  · obtain ⟨front, eq⟩ := double
    exact h.tight ⟨front, List.append_cancel_right (by simpa using eq)⟩
  · rw [Text.infix_append_cons_iff (by decide)]
    rintro (inside | inside)
    · exact h.absent inside
    · exact absurd inside (by decide)

end

end Subject

namespace Validation

section

variable {p : Policy} {names : Option Vocabulary} {t : Title}

theorem breaksSubjectRule_marked {subject : String} {r : Rule} (mem : r ∈ subjectRules)
    (marker : p.changelogMarker = Policy.defaultMarker) (ne : subject ≠ "")
    (unmarked : Subject.Unmarked subject) :
    breaksSubjectRule p (marked subject) r =
      (decide (r ≠ .subjectTrailingPeriod) && breaksSubjectRule p subject r) := by
  simp only [subjectRules, List.mem_cons, List.not_mem_nil, or_false] at mem
  rcases mem with rfl | rfl | rfl | rfl
  · exact Subject.startsUppercase_append ne " (no-changelog)"
  · exact Subject.endsWithPeriod_marked subject
  · simpa [breaksSubjectRule, marked_eq] using Subject.isPastTense_append_blank subject _
  · simp [breaksSubjectRule, marker, unmarked.placed, unmarked.placed_marked]

theorem titleIssues_marked (marker : p.changelogMarker = Policy.defaultMarker)
    (ne : t.subject ≠ "") (unmarked : Subject.Unmarked t.subject) :
    titleIssues p names { t with subject := marked t.subject } =
      without .subjectTrailingPeriod (titleIssues p names t) :=
  titleIssues_of_one_less rfl rfl (by decide)
    fun _ mem => breaksSubjectRule_marked mem marker ne unmarked

theorem subjectIssue_mem_titleIssues_iff {r : Rule} (subjectRule : r ∈ subjectRules) :
    .of p r ∈ titleIssues p names t ↔ breaksSubjectRule p t.subject r = true := by
  refine ⟨fun mem => breaksSubjectRule_of_mem mem subjectRule, fun broken => ?_⟩
  rw [titleIssues_eq_parts, subjectIssues_eq]
  refine List.mem_append_right _ (List.mem_map_of_mem ?_)
  exact List.mem_filter.mpr ⟨subjectRule, broken⟩

end

section

variable {σ : Type} {p : Policy} {source : NameSource σ} {title : String} {t : Title} {s r : σ}

theorem issues_marked_of_free (pure : source.IsPure)
    (marker : p.changelogMarker = Policy.defaultMarker) (noTicket : p.hasTicket title = false)
    (noTicket' : p.hasTicket (marked title) = false) (parsed : Title.parse title = some t)
    (unmarked : Subject.Unmarked t.subject)
    (free : ¬ Title.OpensScope title t.type ∨ ¬ Title.EndsAsScope t.subject) :
    (validate p source (marked title) r).1.issues =
      without .subjectTrailingPeriod (validate p source title s).1.issues := by
  have parsed' : Title.parse (marked title) = some { t with subject := marked t.subject } := by
    have found := @Title.parse_append_blank title Policy.defaultMarker t parsed (by decide)
      (by decide) free
    rwa [← marked_eq] at found
  obtain ⟨w, _, ne, rfl⟩ := Title.parse_eq_some_iff.mp parsed
  rw [issues_of_title noTicket parsed, issues_of_title noTicket' parsed', pure r s]
  exact titleIssues_marked marker ne unmarked

/-- If the blank closes the scope, the marker is all that is left of the subject, and misplaced. -/
theorem issues_marked_of_taken (marker : p.changelogMarker = Policy.defaultMarker)
    (noTicket : p.hasTicket title = false) (noTicket' : p.hasTicket (marked title) = false)
    (parsed : Title.parse title = some t) (unmarked : Subject.Unmarked t.subject)
    (opened : Title.OpensScope title t.type) (ends : Title.EndsAsScope t.subject) :
    .of p .changelogMarkerMisplaced ∈ (validate p source (marked title) r).1.issues ∧
      .of p .changelogMarkerMisplaced ∉ (validate p source title s).1.issues := by
  obtain ⟨scope, b, parsed'⟩ := @Title.parse_append_of_endsAsScope title Policy.defaultMarker t
    parsed opened ends (by decide) (by decide) (by decide)
  rw [← marked_eq] at parsed'
  rw [issues_of_title noTicket parsed, issues_of_title noTicket' parsed',
    subjectIssue_mem_titleIssues_iff (by decide), subjectIssue_mem_titleIssues_iff (by decide)]
  have alone : Subject.hasMisplacedMarker Policy.defaultMarker Policy.defaultMarker = true := by
    decide
  simp [breaksSubjectRule, marker, unmarked.placed, alone]

end

/-- Behind a title whose subject is free of the marker and ends in no space, the marker takes away
the issue of a final period and changes no other, unless its blank closes the scope inside the
subject. -/
theorem issues_marked {σ : Type} {p : Policy} {source : NameSource σ} (pure : source.IsPure)
    (pattern : p.ticket = Policy.defaultTicket)
    (marker : p.changelogMarker = Policy.defaultMarker) {title : String} {t : Title}
    (parsed : Title.parse title = some t) (unmarked : Subject.Unmarked t.subject) (s r : σ) :
    (validate p source (marked title) r).1.issues =
        without .subjectTrailingPeriod (validate p source title s).1.issues ↔
      p.hasTicket title = true ∨ ¬ Title.OpensScope title t.type ∨
        ¬ Title.EndsAsScope t.subject := by
  have same := Policy.hasTicket_marked pattern title
  cases ticket : p.hasTicket title with
  | true =>
    refine iff_of_true ?_ (.inl rfl)
    rw [issues_of_ticket ticket, issues_of_ticket (same.trans ticket)]
    rfl
  | false =>
    rw [or_iff_right Bool.false_ne_true, ← not_and_or]
    constructor
    · rintro eq ⟨opened, ends⟩
      obtain ⟨misplaced, placed⟩ := @issues_marked_of_taken σ p source title t s r marker ticket
        (same.trans ticket) parsed unmarked opened ends
      rw [eq] at misplaced
      exact placed (List.mem_of_mem_filter misplaced)
    · intro free
      exact issues_marked_of_free pure marker ticket (same.trans ticket) parsed unmarked
        (not_and_or.mp free)

theorem issues_marked_of_period :
    let p : Policy := ⟨["fix"], ["core"], Policy.defaultTicket, Policy.defaultMarker⟩
    let title := "fix(core): Call eval(now) once."
    issuesWith p .empty (marked title) =
      without .subjectTrailingPeriod (issuesWith p .empty title) := by
  intro p title
  have parsed : Title.parse title = some ⟨"fix", some "core", false, "Call eval(now) once."⟩ := by
    decide
  exact (issues_marked (NameSource.isPure_always _) rfl rfl parsed ⟨by decide, by decide⟩ () ()).mpr
    (.inr (.inr (by decide)))

/-- The blank in front of the marker can close the scope inside the subject. -/
theorem not_forall_issues_marked :
    ¬ ∀ (p : Policy) (σ : Type) (source : NameSource σ) (title : String) (t : Title) (s r : σ),
    p.ticket = Policy.defaultTicket → p.changelogMarker = Policy.defaultMarker → source.IsPure →
    Title.parse title = some t → Subject.Unmarked t.subject →
    (validate p source (marked title) r).1.issues =
      without .subjectTrailingPeriod (validate p source title s).1.issues := by
  intro h
  let title := "fix(core): call eval():"
  have parsed : Title.parse title = some ⟨"fix", some "core", false, "call eval():"⟩ := by decide
  have noTicket : Policy.default.hasTicket title = false := by decide +kernel
  have noTicket' : Policy.default.hasTicket (marked title) = false := by decide +kernel
  have unmarked : Subject.Unmarked "call eval():" := ⟨by decide, by decide⟩
  have same := h .default Unit (.ofVocabulary .empty) title _ () () rfl rfl
    (NameSource.isPure_always _) parsed unmarked
  obtain ⟨misplaced, placed⟩ := @issues_marked_of_taken Unit .default (.ofVocabulary .empty) title _
    () () rfl noTicket noTicket' parsed unmarked (by decide) (by decide)
  rw [same] at misplaced
  exact placed (List.mem_of_mem_filter misplaced)

end Validation

end TitleLint
