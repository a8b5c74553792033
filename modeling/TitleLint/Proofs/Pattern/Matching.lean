import Mathlib.Data.List.Basic
import Mathlib.Data.Nat.Init
import TitleLint.Pattern.Basic

namespace TitleLint.Pattern

/-- The place `e` lies behind `s`, where `run` stands between the two. -/
structure Leads (s : Cursor) (run : List Char) (e : Cursor) : Prop where
  rest : s.rest = run ++ e.rest
  last : e.last = run.getLast?.or s.last

def Reaches (s e : Cursor) : Prop := ∃ run, Leads s run e

theorem Leads.append {s m e : Cursor} {run more : List Char} (h : Leads s run m)
    (h' : Leads m more e) : Leads s (run ++ more) e := by
  refine ⟨by rw [h.rest, h'.rest, List.append_assoc], ?_⟩
  rw [h'.last, h.last, List.getLast?_append, Option.or_assoc]

theorem leads_nil_iff {s e : Cursor} : Leads s [] e ↔ e = s := by
  constructor
  · rintro ⟨rest, last⟩
    cases s
    cases e
    simp_all
  · rintro rfl
    exact ⟨rfl, rfl⟩

theorem leads_singleton_iff {s e : Cursor} {c : Char} :
    Leads s [c] e ↔ s.rest = c :: e.rest ∧ e.last = some c :=
  ⟨fun h => ⟨h.rest, h.last⟩, fun h => ⟨h.1, h.2⟩⟩

namespace Reaches

variable {s m e e' : Cursor}

theorem refl (s : Cursor) : Reaches s s := ⟨[], leads_nil_iff.mpr rfl⟩

theorem trans (h : Reaches s m) (h' : Reaches m e) : Reaches s e := by
  obtain ⟨run, h⟩ := h
  obtain ⟨more, h'⟩ := h'
  exact ⟨run ++ more, h.append h'⟩

theorem length_le (h : Reaches s e) : e.rest.length ≤ s.rest.length := by
  obtain ⟨run, h⟩ := h
  rw [h.rest, List.length_append]
  exact Nat.le_add_left _ _

/-- In one text a place is known by how much text follows it. -/
theorem eq_of_length (h : Reaches s e) (h' : Reaches s e')
    (same : e.rest.length = e'.rest.length) : e = e' := by
  obtain ⟨run, h⟩ := h
  obtain ⟨run', h'⟩ := h'
  obtain ⟨rfl, rest⟩ := List.append_inj' (h.rest.symm.trans h'.rest) same
  have last := h.last.trans h'.last.symm
  cases e
  cases e'
  simp_all

theorem eq_or_lt (h : Reaches s e) : e = s ∨ e.rest.length < s.rest.length := by
  rcases Nat.lt_or_eq_of_le h.length_le with lt | eq
  · exact .inr lt
  · exact .inl (h.eq_of_length (refl s) eq)

theorem cons_iff {last : Option Char} {c : Char} {cs : List Char} :
    Reaches ⟨last, c :: cs⟩ e ↔ e = ⟨last, c :: cs⟩ ∨ Reaches ⟨some c, cs⟩ e := by
  constructor
  · rintro ⟨run, h⟩
    cases run with
    | nil => exact .inl (leads_nil_iff.mp h)
    | cons d run =>
      obtain ⟨rfl, rest⟩ := List.cons.inj h.rest
      refine .inr ⟨run, rest, ?_⟩
      rw [h.last, List.getLast?_cons]
      cases run.getLast? <;> rfl
  · rintro (rfl | later)
    · exact refl _
    · exact trans ⟨[c], leads_singleton_iff.mpr ⟨rfl, rfl⟩⟩ later

end Reaches

/-- A number of steps from one place to the next. -/
def Steps (step : Cursor → Cursor → Prop) : Nat → Cursor → Cursor → Prop
  | 0, s, e => e = s
  | n + 1, s, e => ∃ m, step s m ∧ Steps step n m e

/-- What a pattern stands for: the places to which it leads from a place. -/
def Spans : Pattern → Cursor → Cursor → Prop
  | empty, s, e => e = s
  | one cls, s, e => ∃ c, cls.mem c = true ∧ Leads s [c] e
  | place wordChars a, s, e => a.holds wordChars.mem s = true ∧ e = s
  | append p q, s, e => ∃ m, p.Spans s m ∧ q.Spans m e
  | either p q, s, e => p.Spans s e ∨ q.Spans s e
  | repeated p least most, s, e => ∃ n, least ≤ n ∧ (∀ m, most = some m → n ≤ max least m) ∧
      Steps p.Spans n s e

section

variable {step : Cursor → Cursor → Prop} {s m e : Cursor} {j k n : Nat}

theorem steps_add : Steps step (j + k) s e ↔ ∃ m, Steps step j s m ∧ Steps step k m e := by
  induction j generalizing s with
  | zero => simp [Steps]
  | succ j ih =>
    rw [Nat.succ_add]
    simp only [Steps, ih]
    constructor
    · rintro ⟨a, first, m, others, rest⟩
      exact ⟨m, ⟨a, first, others⟩, rest⟩
    · rintro ⟨m, ⟨a, first, others⟩, rest⟩
      exact ⟨a, first, m, others, rest⟩

theorem Steps.reaches (forward : ∀ s e, step s e → Reaches s e) (h : Steps step n s e) :
    Reaches s e := by
  induction n generalizing s with
  | zero =>
    obtain rfl : e = s := h
    exact .refl e
  | succ n ih =>
    obtain ⟨m, first, others⟩ := h
    exact (forward s m first).trans (ih others)

/-- Among more steps than there are characters one stands still, and can be left out or repeated. -/
theorem steps_succ_iff (forward : ∀ s e, step s e → Reaches s e) (h : s.rest.length < n) :
    Steps step (n + 1) s e ↔ Steps step n s e := by
  induction n generalizing s with
  | zero => exact absurd h (Nat.not_lt_zero _)
  | succ n ih =>
    constructor
    · rintro ⟨m, first, others⟩
      rcases (forward s m first).eq_or_lt with rfl | lt
      · exact others
      · exact ⟨m, first, (ih (by omega)).mp others⟩
    · rintro ⟨m, first, others⟩
      rcases (forward s m first).eq_or_lt with rfl | lt
      · exact ⟨m, first, m, first, others⟩
      · exact ⟨m, first, (ih (by omega)).mpr others⟩

theorem steps_min_iff (forward : ∀ s e, step s e → Reaches s e) :
    Steps step (min n (s.rest.length + 1)) s e ↔ Steps step n s e := by
  rcases Nat.le_total n (s.rest.length + 1) with le | le
  · rw [Nat.min_eq_left le]
  · rw [Nat.min_eq_right le]
    induction n, le using Nat.le_induction with
    | base => rfl
    | succ n le ih => rw [steps_succ_iff forward le, ih]

/-- Repetitions need not be counted beyond the length of the text. -/
theorem exists_steps_iff (forward : ∀ s e, step s e → Reaches s e) (least : Nat)
    (most : Option Nat) :
    (∃ n, least ≤ n ∧ (∀ m, most = some m → n ≤ max least m) ∧ Steps step n s e) ↔
      ∃ k ≤ (match most with
        | some most => min (most - least) (s.rest.length + 1)
        | none => s.rest.length + 1),
        Steps step (min least (s.rest.length + 1) + k) s e := by
  constructor
  · rintro ⟨n, enough, within, steps⟩
    refine ⟨min (n - least) (s.rest.length + 1), ?_, ?_⟩
    · cases most with
      | none => exact Nat.min_le_right _ _
      | some m =>
        have le := within m rfl
        dsimp only
        omega
    · rw [← steps_min_iff forward] at steps ⊢
      convert steps using 1
      omega
  · rintro ⟨k, few, steps⟩
    refine ⟨least + k, Nat.le_add_right _ _, ?_, ?_⟩
    · rintro m rfl
      dsimp only at few
      omega
    · rw [← steps_min_iff forward] at steps ⊢
      convert steps using 1
      omega

end

theorem Spans.reaches {p : Pattern} {s e : Cursor} (h : p.Spans s e) : Reaches s e := by
  induction p generalizing s e with
  | empty =>
    obtain rfl : e = s := h
    exact .refl e
  | one cls =>
    obtain ⟨c, _, leads⟩ := h
    exact ⟨[c], leads⟩
  | place wordChars a =>
    obtain ⟨_, rfl⟩ := h
    exact .refl e
  | append p q ihp ihq =>
    obtain ⟨m, first, second⟩ := h
    exact (ihp first).trans (ihq second)
  | either p q ihp ihq => exact h.elim ihp ihq
  | repeated p least most ih =>
    obtain ⟨n, _, _, steps⟩ := h
    exact steps.reaches fun _ _ => ih

theorem mem_of_mem_distinct {e : Cursor} {ps : List Cursor} (h : e ∈ distinct ps) : e ∈ ps := by
  induction ps with
  | nil => exact h
  | cons p ps ih =>
    simp only [distinct] at h
    split at h
    next => exact List.mem_cons_of_mem p (ih h)
    next =>
      rcases List.mem_cons.mp h with rfl | later
      · exact List.mem_cons_self
      · exact List.mem_cons_of_mem p (ih later)

/-- Of places in one text only repetitions are dropped. -/
theorem mem_distinct_iff {s e : Cursor} {ps : List Cursor} (one : ∀ p ∈ ps, Reaches s p) :
    e ∈ distinct ps ↔ e ∈ ps := by
  refine ⟨mem_of_mem_distinct, fun h => ?_⟩
  induction ps with
  | nil => exact h
  | cons p ps ih =>
    have later : e ∈ ps → e ∈ distinct ps := ih fun q hq => one q (List.mem_cons_of_mem p hq)
    simp only [distinct]
    split
    next dropped =>
      rcases List.mem_cons.mp h with rfl | mem
      · obtain ⟨q, hq, same⟩ := List.any_eq_true.mp dropped
        have inside := List.mem_cons_of_mem e (mem_of_mem_distinct hq)
        rwa [(one e List.mem_cons_self).eq_of_length (one q inside) (eq_of_beq same).symm]
      · exact later mem
    next =>
      rcases List.mem_cons.mp h with rfl | mem
      · exact List.mem_cons_self
      · exact List.mem_cons_of_mem p (later mem)

section

variable {next : Cursor → List Cursor} {step : Cursor → Cursor → Prop} {s e : Cursor}
  {ps : List Cursor}

theorem mem_advance_iff (agree : ∀ s e, e ∈ next s ↔ step s e)
    (forward : ∀ s e, step s e → Reaches s e) (one : ∀ p ∈ ps, Reaches s p) :
    e ∈ advance next ps ↔ ∃ p ∈ ps, step p e := by
  rw [advance, @mem_distinct_iff s, List.mem_flatMap]
  · simp only [agree]
  · intro q hq
    obtain ⟨p, hp, here⟩ := List.mem_flatMap.mp hq
    exact (one p hp).trans (forward p q ((agree p q).mp here))

theorem advance_reaches (agree : ∀ s e, e ∈ next s ↔ step s e)
    (forward : ∀ s e, step s e → Reaches s e) (one : ∀ p ∈ ps, Reaches s p) :
    ∀ q ∈ advance next ps, Reaches s q := by
  intro q hq
  obtain ⟨p, hp, here⟩ := (mem_advance_iff agree forward one).mp hq
  exact (one p hp).trans (forward p q here)

theorem mem_times_iff (agree : ∀ s e, e ∈ next s ↔ step s e)
    (forward : ∀ s e, step s e → Reaches s e) (n : Nat) (one : ∀ p ∈ ps, Reaches s p) :
    e ∈ times next n ps ↔ ∃ p ∈ ps, Steps step n p e := by
  induction n generalizing ps with
  | zero => simp [times, Steps]
  | succ n ih =>
    rw [times, ih (advance_reaches agree forward one)]
    simp only [mem_advance_iff agree forward one, Steps]
    constructor
    · rintro ⟨m, ⟨p, hp, first⟩, others⟩
      exact ⟨p, hp, m, first, others⟩
    · rintro ⟨p, hp, m, first, others⟩
      exact ⟨m, ⟨p, hp, first⟩, others⟩

theorem mem_upTo_iff (agree : ∀ s e, e ∈ next s ↔ step s e)
    (forward : ∀ s e, step s e → Reaches s e) (n : Nat) (one : ∀ p ∈ ps, Reaches s p) :
    e ∈ upTo next n ps ↔ ∃ k ≤ n, ∃ p ∈ ps, Steps step k p e := by
  induction n generalizing e ps with
  | zero => simp [upTo, Steps]
  | succ n ih =>
    have later := advance_reaches agree forward one
    have all : ∀ q ∈ ps ++ upTo next n (advance next ps), Reaches s q := by
      intro q hq
      rcases List.mem_append.mp hq with hq | hq
      · exact one q hq
      · obtain ⟨_, _, m, hm, steps⟩ := (ih later).mp hq
        exact (later m hm).trans (steps.reaches forward)
    rw [upTo, mem_distinct_iff all, List.mem_append, ih later]
    constructor
    · rintro (hp | ⟨k, few, m, hm, steps⟩)
      · exact ⟨0, Nat.zero_le _, e, hp, rfl⟩
      · obtain ⟨p, hp, first⟩ := (mem_advance_iff agree forward one).mp hm
        exact ⟨k + 1, by omega, p, hp, m, first, steps⟩
    · rintro ⟨k, few, p, hp, steps⟩
      cases k with
      | zero =>
        obtain rfl : e = p := steps
        exact .inl hp
      | succ k =>
        obtain ⟨m, first, steps⟩ := steps
        exact .inr ⟨k, by omega, m, (mem_advance_iff agree forward one).mpr ⟨p, hp, first⟩, steps⟩

end

/-- The places that are computed for a pattern are those to which it leads. -/
theorem mem_ends_iff {p : Pattern} {s e : Cursor} : e ∈ p.ends s ↔ p.Spans s e := by
  induction p generalizing s e with
  | empty => simp [ends, Spans]
  | one cls =>
    obtain ⟨last, rest⟩ := s
    cases rest with
    | nil => simp [ends, Spans, leads_singleton_iff]
    | cons c cs =>
      have leads : (∃ d, cls.mem d = true ∧ Leads ⟨last, c :: cs⟩ [d] e) ↔
          cls.mem c = true ∧ e = ⟨some c, cs⟩ := by
        constructor
        · rintro ⟨d, mem, h⟩
          obtain ⟨rest, last⟩ := leads_singleton_iff.mp h
          obtain ⟨rfl, rfl⟩ := List.cons.inj rest
          exact ⟨mem, by cases e; simp_all⟩
        · rintro ⟨mem, rfl⟩
          exact ⟨c, mem, leads_singleton_iff.mpr ⟨rfl, rfl⟩⟩
      rw [Spans, leads, ends]
      split <;> simp_all
  | place wordChars a => simp [ends, Spans]
  | append p q ihp ihq =>
    have all : ∀ m ∈ (p.ends s).flatMap q.ends, Reaches s m := by
      intro m hm
      obtain ⟨a, ha, hm⟩ := List.mem_flatMap.mp hm
      exact (ihp.mp ha).reaches.trans (ihq.mp hm).reaches
    simp only [ends, Spans, mem_distinct_iff all, List.mem_flatMap, ihp, ihq]
  | either p q ihp ihq =>
    have all : ∀ m ∈ p.ends s ++ q.ends s, Reaches s m := by
      intro m hm
      rcases List.mem_append.mp hm with hm | hm
      · exact (ihp.mp hm).reaches
      · exact (ihq.mp hm).reaches
    simp only [ends, Spans, mem_distinct_iff all, List.mem_append, ihp, ihq]
  | repeated p least most ih =>
    have forward : ∀ s e, p.Spans s e → Reaches s e := fun _ _ => Spans.reaches
    have agree : ∀ s e, e ∈ p.ends s ↔ p.Spans s e := fun _ _ => ih
    have alone : ∀ m ∈ [s], Reaches s m := by
      simp [Reaches.refl]
    have all : ∀ m ∈ times p.ends (min least (s.rest.length + 1)) [s], Reaches s m := by
      intro m hm
      obtain ⟨a, ha, steps⟩ := (mem_times_iff agree forward _ alone).mp hm
      exact (alone a ha).trans (steps.reaches forward)
    simp only [ends, Spans, mem_upTo_iff agree forward _ all]
    refine Iff.trans (exists_congr fun k => and_congr_right fun _ => ?_)
      (exists_steps_iff forward least most).symm
    simp only [mem_times_iff agree forward _ alone, List.mem_singleton, exists_eq_left, steps_add]

theorem matchesFrom_iff {p : Pattern} {last : Option Char} {cs : List Char} :
    p.matchesFrom last cs = true ↔ ∃ s e, Reaches ⟨last, cs⟩ s ∧ p.Spans s e := by
  have here (s : Cursor) : (!(p.ends s).isEmpty) = true ↔ ∃ e, p.Spans s e := by
    simp only [← mem_ends_iff]
    cases p.ends s <;> simp
  induction cs generalizing last with
  | nil =>
    rw [matchesFrom, here]
    constructor
    · rintro ⟨e, spans⟩
      exact ⟨_, e, .refl _, spans⟩
    · rintro ⟨s, e, ⟨run, leads⟩, spans⟩
      obtain ⟨rfl, _⟩ := List.append_eq_nil_iff.mp leads.rest.symm
      exact ⟨e, leads_nil_iff.mp leads ▸ spans⟩
  | cons c cs ih =>
    simp only [matchesFrom, Bool.or_eq_true, here, ih, Reaches.cons_iff, or_and_right, exists_or,
      exists_eq_left, exists_and_left]

/-- A pattern is found in a text exactly if it leads from some place in it to another. -/
theorem isMatch_iff {p : Pattern} {s : String} :
    p.isMatch s = true ↔ ∃ a e, Reaches ⟨none, s.toList⟩ a ∧ p.Spans a e := matchesFrom_iff

theorem reaches_rest_iff {last : Option Char} {cs rest : List Char} :
    (∃ s, Reaches ⟨last, cs⟩ s ∧ s.rest = rest) ↔ rest <:+ cs := by
  constructor
  · rintro ⟨s, ⟨run, leads⟩, rfl⟩
    exact ⟨run, leads.rest.symm⟩
  · rintro ⟨run, rfl⟩
    exact ⟨⟨run.getLast?.or last, rest⟩, ⟨run, rfl, rfl⟩, rfl⟩

section

variable {cls : CharClass} {p : Pattern} {s e : Cursor}

theorem exists_spans_append_one_iff : (∃ e, (append (one cls) p).Spans s e) ↔
    ∃ c cs, s.rest = c :: cs ∧ cls.mem c = true ∧ ∃ e, p.Spans ⟨some c, cs⟩ e := by
  constructor
  · rintro ⟨e, m, ⟨c, mem, leads⟩, spans⟩
    obtain ⟨rest, last⟩ := leads_singleton_iff.mp leads
    exact ⟨c, m.rest, rest, mem, e, last ▸ spans⟩
  · rintro ⟨c, cs, rest, mem, e, spans⟩
    exact ⟨e, ⟨some c, cs⟩, ⟨c, mem, leads_singleton_iff.mpr ⟨rest, rfl⟩⟩, spans⟩

theorem steps_one_iff {n : Nat} : Steps (one cls).Spans n s e ↔
    ∃ run, run.length = n ∧ (∀ c ∈ run, cls.mem c = true) ∧ Leads s run e := by
  induction n generalizing s with
  | zero =>
    simp only [Steps, List.length_eq_zero_iff, exists_eq_left, List.not_mem_nil, false_implies,
      implies_true, true_and, leads_nil_iff]
  | succ n ih =>
    simp only [Steps, ih]
    constructor
    · rintro ⟨m, ⟨c, mem, first⟩, run, rfl, mems, leads⟩
      exact ⟨c :: run, rfl, List.forall_mem_cons.mpr ⟨mem, mems⟩, first.append leads⟩
    · rintro ⟨run, len, mems, leads⟩
      obtain ⟨c, run, rfl⟩ := List.exists_cons_of_length_eq_add_one len
      obtain ⟨mem, mems⟩ := List.forall_mem_cons.mp mems
      refine ⟨⟨some c, run ++ e.rest⟩, ⟨c, mem, leads.rest, rfl⟩, run, Nat.succ.inj len, mems, rfl,
        ?_⟩
      rw [leads.last, List.getLast?_cons]
      cases run.getLast? <;> rfl

/-- For a match to be found the least number of repetitions is enough. -/
theorem exists_spans_repeated_iff {least : Nat} {most : Option Nat} :
    (∃ e, (repeated p least most).Spans s e) ↔ ∃ e, Steps p.Spans least s e := by
  constructor
  · rintro ⟨e, n, enough, _, steps⟩
    obtain ⟨k, rfl⟩ := Nat.exists_eq_add_of_le enough
    obtain ⟨m, first, _⟩ := steps_add.mp steps
    exact ⟨m, first⟩
  · rintro ⟨e, steps⟩
    exact ⟨e, least, Nat.le_refl _, fun m _ => Nat.le_max_left _ _, steps⟩

end

end TitleLint.Pattern
