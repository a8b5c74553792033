import TitleLint.Proofs.Policy.Ticket
import TitleLint.Proofs.Subject.Marker
import TitleLint.Proofs.Text.Infix
import TitleLint.Proofs.Title.Extension
import TitleLint.Proofs.Validation.Parts

namespace TitleLint

/-- The capitals of the ASCII letters. -/
def capitals : List Char := "ABCDEFGHIJKLMNOPQRSTUVWXYZ".toList

/-- The title with the first letter of its subject in lower case. -/
def Title.lowerSubject (title : String) (t : Title) : String :=
  String.ofList (title.toList.modify (title.length - t.subject.length) Char.toLower)

section

variable {c : Char}

theorem mem_capitals_of_isUpper (h : c.isUpper = true) : c ∈ capitals := by
  have tried : ∀ n < 128, (Char.ofNat n).isUpper = true → Char.ofNat n ∈ capitals := by decide
  have range : 'A'.val ≤ c.val ∧ c.val ≤ 'Z'.val := by simpa [Char.isUpper] using h
  have le : c.toNat ≤ 90 := range.2
  have found := tried c.toNat (by omega)
  rw [Char.ofNat_toNat] at found
  exact found h

theorem forall_capitals {P : Char → Prop} [DecidablePred P]
    (each : capitals.all (fun u => decide (P u)) = true) : ∀ u ∈ capitals, P u := by
  simpa using each

theorem toLower_eq_self (h : c.isUpper = false) : c.toLower = c := by
  unfold Char.toLower
  rw [dif_neg]
  simpa [Char.isUpper] using h

/-- What holds between a character and itself and between each capital and its small letter holds
between every character and its lower case. -/
theorem toLower_induction {P : Char → Char → Prop} (same : ∀ c, P c c)
    (small : ∀ u ∈ capitals, P u u.toLower) (c : Char) : P c c.toLower := by
  cases upper : c.isUpper with
  | true => exact small c (mem_capitals_of_isUpper upper)
  | false =>
    rw [toLower_eq_self upper]
    exact same c

end

namespace Policy

theorem isTicket_map_toLower_iff {run : List Char} :
    IsTicket (run.map Char.toLower) ↔ IsTicket run := by
  have letter := toLower_induction (P := fun c d => d ∈ ['n', 'N'] ↔ c ∈ ['n', 'N'])
    (fun _ => Iff.rfl) (forall_capitals (by decide))
  have eight := toLower_induction (P := fun c d => d = '8' ↔ c = '8') (fun _ => Iff.rfl)
    (forall_capitals (by decide))
  have hyphen := toLower_induction (P := fun c d => d = '-' ↔ c = '-') (fun _ => Iff.rfl)
    (forall_capitals (by decide))
  have digit := toLower_induction
    (P := fun c d => Unicode.isDecimalDigit d = Unicode.isDecimalDigit c) (fun _ => rfl) (forall_capitals (by decide))
  constructor
  · rintro ⟨_, _, _, whole, ha, hb, len, digits⟩
    obtain ⟨a, _, rfl, rfl, behind_a⟩ := List.map_eq_cons_iff.mp whole
    obtain ⟨c, _, rfl, hc, behind_c⟩ := List.map_eq_cons_iff.mp behind_a
    obtain ⟨b, _, rfl, rfl, behind_b⟩ := List.map_eq_cons_iff.mp behind_c
    obtain ⟨d, number, rfl, hd, rfl⟩ := List.map_eq_cons_iff.mp behind_b
    obtain rfl := (eight c).mp hc
    obtain rfl := (hyphen d).mp hd
    refine ⟨a, b, number, rfl, (letter a).mp ha, (letter b).mp hb, by simpa using len, ?_⟩
    exact fun e mem => (digit e).symm.trans (digits _ (List.mem_map_of_mem mem))
  · rintro ⟨a, b, number, rfl, ha, hb, len, digits⟩
    refine ⟨a.toLower, b.toLower, number.map Char.toLower, rfl, (letter a).mpr ha,
      (letter b).mpr hb, by simpa using len, ?_⟩
    intro _ lowered
    obtain ⟨e, mem, rfl⟩ := List.mem_map.mp lowered
    exact (digit e).trans (digits e mem)

/-- Texts that differ in the case of ASCII letters only hold ticket numbers alike. -/
theorem hasTicket_congr {p : Policy} (pattern : p.ticket = defaultTicket) {title title' : String}
    (same : title.toList.map Char.toLower = title'.toList.map Char.toLower) :
    p.hasTicket title = p.hasTicket title' := by
  have lowered (title : String) : p.hasTicket title = true ↔
      ∃ run, IsTicket run ∧ run <:+: title.toList.map Char.toLower := by
    rw [hasTicket_iff pattern]
    constructor
    · rintro ⟨run, ticket, inside⟩
      exact ⟨_, isTicket_map_toLower_iff.mpr ticket, inside.map Char.toLower⟩
    · rintro ⟨_, ticket, lowered⟩
      obtain ⟨run, inside, rfl⟩ := List.infix_map_iff.mp lowered
      exact ⟨run, isTicket_map_toLower_iff.mp ticket, inside⟩
  rw [Bool.eq_iff_iff, lowered, lowered, same]

end Policy

/-! ### The first character of a subject -/

section

variable {c d : Char} {cs : List Char}

theorem Title.closesScope_cons (other : c ≠ ')') :
    closesScope (String.ofList (c :: cs)) = closesScope (String.ofList cs) := by
  have apart : some ')' ≠ some c := by simpa [eq_comm] using other
  have plain := @Text.infix_cons_iff_of_head "): ".toList cs c (by decide) apart
  have marked := @Text.infix_cons_iff_of_head ")!: ".toList cs c (by decide) apart
  rw [Bool.eq_iff_iff]
  simp only [closesScope, Bool.or_eq_true, Text.occurs_iff, String.toList_ofList]
  exact or_congr plain marked

namespace Subject

theorem startsUppercase_of_capital (capital : c ∈ capitals) :
    startsUppercase (String.ofList (c :: cs)) = true ∧
      startsUppercase (String.ofList (c.toLower :: cs)) = false := by
  have cases : ∀ u ∈ capitals,
      Unicode.isUppercase u = true ∧ Unicode.isUppercase u.toLower = false :=
    forall_capitals (by decide)
  simpa only [startsUppercase, String.toList_ofList] using cases c capital

theorem endsWithPeriod_cons (other : c ≠ '.') :
    endsWithPeriod (String.ofList (c :: cs)) = endsWithPeriod (String.ofList cs) := by
  rw [Bool.eq_iff_iff]
  simp only [endsWithPeriod, List.isSuffixOf_iff_suffix, String.toList_ofList]
  exact Text.suffix_cons_iff_of_head (by simpa [eq_comm] using other)

theorem isPastTense_congr (word : c ≠ ' ') (word' : d ≠ ' ') (same : lowered c = lowered d) :
    isPastTense (String.ofList (c :: cs)) = isPastTense (String.ofList (d :: cs)) := by
  simp [isPastTense, firstWord, word, word', same]

theorem endsInOneSpace_cons_iff (word : c ≠ ' ') :
    EndsInOneSpace (c :: cs) ↔ EndsInOneSpace cs := by
  have apart : some ' ' ≠ some c := by simpa [eq_comm] using word
  have one := @Text.suffix_cons_iff_of_head [' '] cs c apart
  have two := @Text.suffix_cons_iff_of_head [' ', ' '] cs c apart
  exact ⟨fun h => ⟨one.mp h.space, mt two.mpr h.single⟩,
    fun h => ⟨one.mpr h.space, mt two.mp h.single⟩⟩

/-- A first character with which no marker begins has no bearing on where the marker stands. -/
theorem hasMisplacedMarker_cons {marker : String} (ne : marker ≠ "")
    (other : marker.toList.head? ≠ some c) (word : c ≠ ' ') :
    hasMisplacedMarker (String.ofList (c :: cs)) marker =
      hasMisplacedMarker (String.ofList cs) marker := by
  have chars : marker.toList ≠ [] := fun e => ne (String.toList_eq_nil_iff.mp e)
  have inside (s : List Char) : marker.toList <:+: c :: s ↔ marker.toList <:+: s :=
    Text.infix_cons_iff_of_head chars other
  -- With the character and without it the marker is at the end, elsewhere, or nowhere.
  by_cases present : marker.toList <:+: cs
  · by_cases last : marker.toList <:+ cs
    · obtain ⟨front, rfl⟩ := last
      have here := @hasMisplacedMarker_of_last (String.ofList (front ++ marker.toList)) marker front
        ne (by simp)
      have longer := @hasMisplacedMarker_of_last (String.ofList (c :: (front ++ marker.toList)))
        marker (c :: front) ne (by simp)
      rw [endsInOneSpace_cons_iff word, inside, ← here] at longer
      rw [Bool.eq_iff_iff, ← not_iff_not, Bool.not_eq_true, Bool.not_eq_true, longer]
    · have behind := mt (Text.suffix_cons_iff_of_head other).mp last
      rw [hasMisplacedMarker_of_not_last ne (by simpa [inside] using present) (by simpa using behind),
        hasMisplacedMarker_of_not_last ne (by simpa using present) (by simpa using last)]
  · rw [hasMisplacedMarker_of_absent (by simpa [inside] using present),
      hasMisplacedMarker_of_absent (by simpa using present)]

end Subject

end

/-! ### Lowering the first letter of a subject -/

namespace Title

section

variable {title : String} {t : Title} {c : Char} {cs : List Char}

theorem modify_append_cons (front back : List Char) (c : Char) (f : Char → Char) :
    (front ++ c :: back).modify front.length f = front ++ f c :: back := by
  induction front with
  | nil => rfl
  | cons d front ih => simp [ih]

theorem lowerSubject_eq {front : String} (whole : title = front ++ t.subject)
    (first : t.subject.toList = c :: cs) :
    lowerSubject title t = front ++ String.ofList (c.toLower :: cs) := by
  have place : title.length - t.subject.length = front.toList.length := by
    simp [whole, String.length_toList]
  have chars : title.toList = front.toList ++ c :: cs := by
    simp [whole, first]
  rw [lowerSubject, place, chars, modify_append_cons]
  simp

/-- The lowered letter leaves the type, the mark and the scope as they are. -/
theorem parse_lowerSubject (parsed : parse title = some t) (first : t.subject.toList = c :: cs)
    (capital : c ∈ capitals) : parse (lowerSubject title t) =
      some { t with subject := String.ofList (c.toLower :: cs) } := by
  have others : ∀ u ∈ capitals, u ≠ ')' ∧ u.toLower ≠ ')' ∧ '\n' ≠ u.toLower :=
    forall_capitals (by decide)
  obtain ⟨upper, lower, noFeed⟩ := others c capital
  have line : '\n' ∉ t.subject.toList := by
    obtain ⟨w, longest, _, rfl⟩ := parse_eq_some_iff.mp parsed
    exact longest.toReads.subject_line
  have subject : t.subject = String.ofList (c :: cs) := by rw [← first, String.ofList_toList]
  have free : ¬ OpensScope title t.type ∨ closesScope (String.ofList (c.toLower :: cs)) = false := by
    rw [closesScope_cons lower, ← closesScope_cons upper, ← subject]
    by_cases opened : OpensScope title t.type
    · exact .inr (closesScope_eq_false_of_parse parsed opened)
    · exact .inl opened
  rw [first, List.mem_cons, not_or] at line
  obtain ⟨front, whole, parsed'⟩ := @parse_with_subject title (String.ofList (c.toLower :: cs)) t
    parsed (by simp) (by simp [noFeed, line.2]) free
  rw [lowerSubject_eq whole first, parsed']

end

theorem map_toLower_modify (s : List Char) (i : Nat) :
    (s.modify i Char.toLower).map Char.toLower = s.map Char.toLower := by
  have twice := toLower_induction (P := fun c d => d.toLower = c.toLower) (fun _ => rfl)
    (forall_capitals (by decide))
  induction s generalizing i with
  | nil => cases i <;> rfl
  | cons c s ih =>
    cases i with
    | zero => simp [twice]
    | succ i => simp [ih]

theorem map_toLower_lowerSubject (title : String) (t : Title) :
    (lowerSubject title t).toList.map Char.toLower = title.toList.map Char.toLower := by
  rw [lowerSubject, String.toList_ofList, map_toLower_modify]

end Title

namespace Validation

section

variable {p : Policy} {names : Option Vocabulary} {t : Title} {c : Char} {cs : List Char}

/-- Of the rules for the subject only the one about the case looks at the case of its first letter. -/
theorem breaksSubjectRule_lowered {r : Rule} (mem : r ∈ subjectRules.tail)
    (marker : p.changelogMarker = Policy.defaultMarker) (capital : c ∈ capitals) :
    breaksSubjectRule p (String.ofList (c.toLower :: cs)) r =
      breaksSubjectRule p (String.ofList (c :: cs)) r := by
  simp only [subjectRules, List.tail_cons, List.mem_cons, List.not_mem_nil, or_false] at mem
  rcases mem with rfl | rfl | rfl
  · have others : ∀ u ∈ capitals, u ≠ '.' ∧ u.toLower ≠ '.' := forall_capitals (by decide)
    obtain ⟨upper, lower⟩ := others c capital
    simp only [breaksSubjectRule, Subject.endsWithPeriod_cons lower,
      Subject.endsWithPeriod_cons upper]
  · have alike : ∀ u ∈ capitals, u.toLower ≠ ' ' ∧ u ≠ ' ' ∧
        Subject.lowered u.toLower = Subject.lowered u := forall_capitals (by decide)
    obtain ⟨lower, upper, same⟩ := alike c capital
    simp only [breaksSubjectRule, Subject.isPastTense_congr lower upper same]
  · have others : ∀ u ∈ capitals, (Policy.defaultMarker.toList.head? ≠ some u ∧ u ≠ ' ') ∧
        Policy.defaultMarker.toList.head? ≠ some u.toLower ∧ u.toLower ≠ ' ' :=
      forall_capitals (by decide)
    have ne : Policy.defaultMarker ≠ "" := by decide
    obtain ⟨⟨upper, word⟩, lower, word'⟩ := others c capital
    simp only [breaksSubjectRule, marker, Subject.hasMisplacedMarker_cons ne upper word,
      Subject.hasMisplacedMarker_cons ne lower word']

/-- The issue about the case comes first of those about the subject. -/
theorem subjectIssues_of_capital (marker : p.changelogMarker = Policy.defaultMarker)
    (capital : c ∈ capitals) :
    subjectIssues p { t with subject := String.ofList (c :: cs) } = .of p .subjectCaseViolation ::
      subjectIssues p { t with subject := String.ofList (c.toLower :: cs) } := by
  have rules : subjectRules = .subjectCaseViolation :: subjectRules.tail := rfl
  obtain ⟨upper, lower⟩ := @Subject.startsUppercase_of_capital c cs capital
  have broken : breaksSubjectRule p (String.ofList (c :: cs)) .subjectCaseViolation = true := upper
  have kept : ¬ breaksSubjectRule p (String.ofList (c.toLower :: cs)) .subjectCaseViolation =
      true := Bool.eq_false_iff.mp lower
  have others : ∀ r ∈ subjectRules.tail, breaksSubjectRule p (String.ofList (c.toLower :: cs)) r =
      breaksSubjectRule p (String.ofList (c :: cs)) r :=
    fun r mem => breaksSubjectRule_lowered mem marker capital
  rw [subjectIssues_eq, subjectIssues_eq, rules, List.filter_cons_of_pos broken,
    List.filter_cons_of_neg kept, List.filter_congr others, List.map_cons]

end

/-- Writing the first letter of the subject small takes away the issue about its case and changes no
other. -/
theorem issues_lowerSubject {σ : Type} {p : Policy} {source : NameSource σ} (pure : source.IsPure)
    (pattern : p.ticket = Policy.defaultTicket)
    (marker : p.changelogMarker = Policy.defaultMarker) {title : String} {t : Title}
    (noTicket : p.hasTicket title = false) (parsed : Title.parse title = some t)
    (capital : t.subject.toList.head?.any Char.isUpper = true) (s r : σ) :
    ∃ before after,
      (validate p source title s).1.issues = before ++ .of p .subjectCaseViolation :: after ∧
      (validate p source (Title.lowerSubject title t) r).1.issues = before ++ after ∧
      ∀ issue ∈ before ++ after, issue.rule ≠ .subjectCaseViolation := by
  obtain ⟨c, cs, first, upper⟩ : ∃ c cs, t.subject.toList = c :: cs ∧ c.isUpper = true := by
    cases first : t.subject.toList with
    | nil => simp [first] at capital
    | cons c cs => exact ⟨c, cs, rfl, by simpa [first] using capital⟩
  have capital' := mem_capitals_of_isUpper upper
  let t' : Title := { t with subject := String.ofList (c.toLower :: cs) }
  have parsed' : Title.parse (Title.lowerSubject title t) = some t' :=
    Title.parse_lowerSubject parsed first capital'
  have noTicket' : p.hasTicket (Title.lowerSubject title t) = false := by
    rw [Policy.hasTicket_congr pattern (Title.map_toLower_lowerSubject title t), noTicket]
  have subject : subjectIssues p t = .of p .subjectCaseViolation :: subjectIssues p t' := by
    have capitalized := @subjectIssues_of_capital p t c cs marker capital'
    rwa [← first, String.ofList_toList] at capitalized
  let names := (source.load s).1.usable?
  have issues' : titleIssues p names t' =
      (typeIssues p t ++ scopeIssues p names t) ++ subjectIssues p t' :=
    titleIssues_eq_parts p names t'
  refine ⟨typeIssues p t ++ scopeIssues p names t, subjectIssues p t', ?_, ?_, ?_⟩
  · rw [issues_of_title noTicket parsed, titleIssues_eq_parts, subject]
  · rw [issues_of_title noTicket' parsed', pure r s]
    exact issues'
  · intro issue mem case
    rw [← issues'] at mem
    have broken := breaksSubjectRule_of_mem mem (by rw [case]; decide)
    have small := (@Subject.startsUppercase_of_capital c cs capital').2
    rw [case] at broken
    exact Bool.false_ne_true (small.symm.trans broken)

theorem issues_lowerSubject_of_fixed :
    let title := "fix(core): Needed n8n-12 in (no-changelog) mode."
    ∃ before after,
      issuesWith .default .empty title = before ++ .of .default .subjectCaseViolation :: after ∧
      issuesWith .default .empty "fix(core): needed n8n-12 in (no-changelog) mode." =
        before ++ after ∧
      ∀ issue ∈ before ++ after, issue.rule ≠ .subjectCaseViolation := by
  intro title
  let t : Title := ⟨"fix", some "core", false, "Needed n8n-12 in (no-changelog) mode."⟩
  have parsed : Title.parse title = some t := by decide
  have noTicket : Policy.default.hasTicket title = false := by decide +kernel
  have small : Title.lowerSubject title t =
    "fix(core): needed n8n-12 in (no-changelog) mode." := by decide
  have removed := @issues_lowerSubject Unit .default (.ofVocabulary .empty)
    (NameSource.isPure_always _) rfl rfl title t noTicket parsed (by decide) () ()
  rw [small] at removed
  exact removed

end Validation

end TitleLint
