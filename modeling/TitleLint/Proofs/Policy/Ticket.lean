import Mathlib
import TitleLint.Policy
import TitleLint.Proofs.Pattern.Matching
import TitleLint.Proofs.Unicode.CaseFolding

namespace TitleLint.Policy

/-- A ticket number as it begins: `n8n-` in either case and three decimal digits. -/
def IsTicket (run : List Char) : Prop := ∃ a b number, run = a :: '8' :: b :: '-' :: number ∧
  a ∈ ['n', 'N'] ∧ b ∈ ['n', 'N'] ∧ number.length = 3 ∧
    ∀ c ∈ number, Unicode.isDecimalDigit c = true

/-- The text of the default pattern stands for the default pattern. -/
theorem read?_defaultTicketText : Pattern.read? defaultTicketText = some defaultTicket := by cbv

theorem IsTicket.eight_mem {run : List Char} (h : IsTicket run) : '8' ∈ run := by
  obtain ⟨a, b, number, rfl, _⟩ := h
  simp

theorem IsTicket.space_not_mem {run : List Char} (h : IsTicket run) : ' ' ∉ run := by
  obtain ⟨a, b, number, rfl, ha, hb, _, digits⟩ := h
  have number_free : ' ' ∉ number := fun mem => absurd (digits ' ' mem) (by decide)
  have letters : ∀ c ∈ ['n', 'N'], ' ' ≠ c := by simp
  simp [letters a ha, letters b hb, number_free]

section

open Unicode Pattern

variable {c d : Char}

theorem mem_folded_single_iff : (CharClass.folded (.single d)).mem c = true ↔
    d ∈ caseVariants c := by
  simp only [CharClass.single, CharClass.mem, List.any_eq_true, Bool.and_eq_true,
    decide_eq_true_eq]
  constructor
  · rintro ⟨x, mem, le, ge⟩
    rwa [Char.le_antisymm le ge]
  · exact fun mem => ⟨d, mem, Char.le_refl d, Char.le_refl d⟩

/-- Among the characters that fold with an ASCII character, only the Kelvin sign and the long s are
not ASCII, so the others can be tried one by one. -/
theorem mem_folded_iff {others : List Char} (ascii : d.toNat < 128)
    (kelvin : d ∉ caseVariants '\u212a') (longS : d ∉ caseVariants '\u017f')
    (folds : (others.all fun c => decide (d ∈ caseVariants c)) = true)
    (tried : ∀ n < 128, d ∈ caseVariants (Char.ofNat n) → Char.ofNat n ∈ others) :
    (CharClass.folded (.single d)).mem c = true ↔ c ∈ others := by
  rw [mem_folded_single_iff]
  refine ⟨fun mem => ?_, fun mem => of_decide_eq_true (List.all_eq_true.mp folds c mem)⟩
  rcases ascii_of_mem_caseVariants mem ascii with lt | rfl | rfl
  · have found := tried c.toNat lt
    rw [Char.ofNat_toNat] at found
    exact found mem
  · exact absurd mem kelvin
  · exact absurd mem longS

theorem mem_letter_iff : (CharClass.folded (.single 'n')).mem c = true ↔ c ∈ ['n', 'N'] :=
  mem_folded_iff (by decide) (by decide) (by decide) (by decide) (by decide +kernel)

theorem mem_eight_iff : (CharClass.folded (.single '8')).mem c = true ↔ c ∈ ['8'] :=
  mem_folded_iff (by decide) (by decide) (by decide) (by decide) (by decide +kernel)

theorem mem_hyphen_iff : (CharClass.folded (.single '-')).mem c = true ↔ c ∈ ['-'] :=
  mem_folded_iff (by decide) (by decide) (by decide) (by decide) (by decide +kernel)

theorem exists_spans_digits_iff {s : Cursor} :
    (∃ e, (Pattern.repeated (.one .digit) 3 (some 5)).Spans s e) ↔
      ∃ number, number.length = 3 ∧ (∀ c ∈ number, isDecimalDigit c = true) ∧
        number <+: s.rest := by
  simp only [exists_spans_repeated_iff, steps_one_iff]
  constructor
  · rintro ⟨e, number, len, digits, leads⟩
    exact ⟨number, len, digits, e.rest, leads.rest.symm⟩
  · rintro ⟨number, len, digits, rest, eq⟩
    exact ⟨⟨number.getLast?.or s.last, rest⟩, number, len, digits, eq.symm, rfl⟩

theorem exists_spans_ticket_iff {s : Cursor} :
    (∃ e, defaultTicket.Spans s e) ↔ ∃ run, IsTicket run ∧ run <+: s.rest := by
  simp only [defaultTicket, exists_spans_append_one_iff, mem_letter_iff, mem_eight_iff,
    mem_hyphen_iff, exists_spans_digits_iff, List.mem_singleton]
  constructor
  · rintro ⟨a, _, eq, ha, _, _, rfl, rfl, b, _, rfl, hb, _, _, rfl, rfl, number, len, digits,
      start⟩
    refine ⟨_, ⟨a, b, number, rfl, ha, hb, len, digits⟩, ?_⟩
    rw [eq]
    simpa using start
  · rintro ⟨_, ⟨a, b, number, rfl, ha, hb, len, digits⟩, rest, eq⟩
    exact ⟨a, _, eq.symm, ha, _, _, rfl, rfl, b, _, rfl, hb, _, _, rfl, rfl, number, len, digits,
      rest, rfl⟩

end

/-- The default pattern finds a ticket number wherever one begins. -/
theorem hasTicket_iff {p : Policy} (default : p.ticket = defaultTicket) {title : String} :
    p.hasTicket title = true ↔ ∃ run, IsTicket run ∧ run <:+: title.toList := by
  rw [hasTicket, default, Pattern.isMatch_iff]
  constructor
  · rintro ⟨s, e, reached, spans⟩
    obtain ⟨run, ticket, start⟩ := exists_spans_ticket_iff.mp ⟨e, spans⟩
    have later := Pattern.reaches_rest_iff.mp ⟨s, reached, rfl⟩
    exact ⟨run, ticket, start.isInfix.trans later.isInfix⟩
  · rintro ⟨run, ticket, before, after, eq⟩
    have later : run ++ after <:+ title.toList := ⟨before, by rw [← eq, List.append_assoc]⟩
    obtain ⟨s, reached, rest⟩ := (@Pattern.reaches_rest_iff none _ _).mpr later
    obtain ⟨e, spans⟩ := exists_spans_ticket_iff.mpr ⟨run, ticket, after, rest.symm⟩
    exact ⟨s, e, reached, spans⟩

end TitleLint.Policy
