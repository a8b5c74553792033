import TitleLint.Proofs.Policy.Ticket
import TitleLint.Proofs.Subject.Marker
import TitleLint.Proofs.Validation.Parts

namespace TitleLint

namespace Policy

/-- At the place `i` the text reads `n8n-` in either case, and then three decimal digits or more. -/
def ReadsTicketAt (s : List Char) (i : Nat) : Prop := ∃ a b number after,
  s.drop i = a :: '8' :: b :: '-' :: (number ++ after) ∧ a ∈ ['n', 'N'] ∧ b ∈ ['n', 'N'] ∧
    3 ≤ number.length ∧ ∀ c ∈ number, Unicode.isDecimalDigit c = true

section

variable {s : List Char}

theorem readsTicketAt_iff {i : Nat} :
    ReadsTicketAt s i ↔ ∃ run, IsTicket run ∧ Text.StandsAt run s i := by
  constructor
  · rintro ⟨a, b, number, after, here, ha, hb, enough, digits⟩
    refine ⟨a :: '8' :: b :: '-' :: number.take 3, ⟨a, b, _, rfl, ha, hb, ?_, ?_⟩, ?_⟩
    · rw [List.length_take, Nat.min_eq_left enough]
    · exact fun c mem => digits c (List.mem_of_mem_take mem)
    · rw [Text.StandsAt, here]
      simpa using (List.take_prefix 3 number).trans (List.prefix_append number after)
  · rintro ⟨_, ⟨a, b, number, rfl, ha, hb, len, digits⟩, after, here⟩
    exact ⟨a, b, number, after, by simpa using here.symm, ha, hb, len.ge, digits⟩

theorem hasTicket_iff_readsTicketAt {p : Policy} (default : p.ticket = defaultTicket)
    {title : String} : p.hasTicket title = true ↔ ∃ i, ReadsTicketAt title.toList i := by
  simp only [hasTicket_iff default, readsTicketAt_iff, Text.infix_iff_standsAt]
  constructor
  · rintro ⟨run, ticket, i, here⟩
    exact ⟨i, run, ticket, here⟩
  · rintro ⟨i, run, ticket, here⟩
    exact ⟨run, ticket, i, here⟩

end

end Policy

namespace Validation

theorem rule_ne_ticket_of_mem_titleIssues {p : Policy} {names : Option Vocabulary} {t : Title}
    {i : Issue} (mem : i ∈ titleIssues p names t) : i.rule ≠ .ticketNumberPresent := by
  have others : ∀ r ∈ typeRules ++ scopeRules ++ subjectRules, r ≠ .ticketNumberPresent := by decide
  apply others
  rw [titleIssues_eq_parts, List.mem_append, List.mem_append] at mem
  rw [List.mem_append, List.mem_append]
  exact mem.imp (Or.imp (typeIssues_rule i) (scopeIssues_rule i)) (subjectIssues_rule i)

theorem rule_ne_ticket {σ : Type} {p : Policy} {source : NameSource σ} {title : String} {s : σ}
    (noTicket : p.hasTicket title = false) :
    ∀ i ∈ (validate p source title s).1.issues, i.rule ≠ .ticketNumberPresent := by
  intro i mem
  cases parsed : Title.parse title with
  | none =>
    rw [issues_of_no_title noTicket parsed, List.mem_singleton] at mem
    simp [mem]
  | some t =>
    rw [issues_of_title noTicket parsed] at mem
    exact rule_ne_ticket_of_mem_titleIssues mem

/-- Under the default pattern a text in which a ticket number can be read anywhere is reported for
that alone, whether it is a title or not, and no names are loaded for it. No other text is. -/
theorem validate_readsTicket {σ : Type} {p : Policy}
    (pattern : Pattern.read? Policy.defaultTicketText = some p.ticket) (source : NameSource σ)
    (title : String) (s : σ) :
    ((∃ i, Policy.ReadsTicketAt title.toList i) → validate p source title s =
      ({ issues := [.of p .ticketNumberPresent], loads := 0, warnings := [] }, s)) ∧
    ((¬ ∃ i, Policy.ReadsTicketAt title.toList i) →
      ∀ issue ∈ (validate p source title s).1.issues, issue.rule ≠ .ticketNumberPresent) := by
  have default : p.ticket = Policy.defaultTicket :=
    Option.some.inj (pattern.symm.trans Policy.read?_defaultTicketText)
  rw [← Policy.hasTicket_iff_readsTicketAt default]
  constructor
  · intro ticket
    simp [validate, ticket]
  · intro noTicket
    exact rule_ne_ticket (Bool.eq_false_iff.mpr noTicket)

theorem validate_readsTicket_behind_line :
    Pattern.read? Policy.defaultTicketText = some Policy.default.ticket ∧
      validate .default (.ofVocabulary .empty) "see\nN8n-001234 (Slack Node)" () =
        ({ issues := [.of .default .ticketNumberPresent], loads := 0, warnings := [] }, ()) := by
  have pattern : Pattern.read? Policy.defaultTicketText = some Policy.default.ticket :=
    Policy.read?_defaultTicketText
  refine ⟨pattern, (validate_readsTicket pattern _ _ ()).1 ⟨4, 'N', 'n', "001234".toList,
    " (Slack Node)".toList, by decide, by decide, by decide, by decide,
    List.all_eq_true.mp (by decide)⟩⟩

end Validation

end TitleLint
