import TitleLint.Text.Split

namespace TitleLint.Text

/-- A text is empty, begins with the separator, or begins with a character of a piece. -/
theorem split_induction {sep : List Char} {motive : List Char → Prop} (ne : sep ≠ [])
    (nil : motive []) (separator : ∀ s, motive s → motive (sep ++ s))
    (char : ∀ c s, ¬ sep <+: c :: s → motive s → motive (c :: s)) (s : List Char) : motive s := by
  induction hn : s.length using Nat.strongRecOn generalizing s with
  | ind n ih =>
    cases s with
    | nil => exact nil
    | cons c s =>
      by_cases start : sep <+: c :: s
      · obtain ⟨rest, eq⟩ := start
        have len := congrArg List.length eq
        have pos := List.length_pos_iff.mpr ne
        rw [List.length_append] at len
        rw [← eq]
        exact separator rest (ih rest.length (by omega) rest rfl)
      · exact char c s start (ih s.length (by simp [← hn]) s rfl)

theorem splitFrom_append {sep skipped s : List Char} {skip : Nat} (h : skipped.length = skip) :
    splitFrom sep skip (skipped ++ s) = splitFrom sep 0 s := by
  induction skipped generalizing skip with
  | nil => simp [← h]
  | cons c skipped ih =>
    simp only [← h, List.length_cons, List.cons_append, splitFrom]
    exact ih rfl

theorem splitOn_nil (sep : List Char) : splitOn sep [] = [[]] := rfl

theorem splitOn_ne_nil (sep s : List Char) : splitOn sep s ≠ [] := splitFrom_ne_nil sep 0 s

theorem splitOn_separator {sep : List Char} (ne : sep ≠ []) (s : List Char) :
    splitOn sep (sep ++ s) = [] :: splitOn sep s := by
  cases sep with
  | nil => exact absurd rfl ne
  | cons c rest =>
    have start : (c :: rest).isPrefixOf (c :: (rest ++ s)) = true :=
      List.isPrefixOf_iff_prefix.mpr (List.prefix_append (c :: rest) s)
    simp only [splitOn, List.cons_append, splitFrom, start, if_true, List.length_cons,
      Nat.add_sub_cancel]
    rw [splitFrom_append rfl]

theorem splitOn_char {sep s : List Char} {c : Char} (h : ¬ sep <+: c :: s) :
    splitOn sep (c :: s) = growFirst c (splitOn sep s) := by
  have start : sep.isPrefixOf (c :: s) = false := by
    simpa [← List.isPrefixOf_iff_prefix] using h
  simp [splitOn, splitFrom, start]

theorem growFirst_append {c : Char} {parts : List (List Char)} (ne : parts ≠ [])
    (others : List (List Char)) : growFirst c (parts ++ others) = growFirst c parts ++ others := by
  cases parts with
  | nil => exact absurd rfl ne
  | cons part parts => rfl

theorem splitOn_cons_self (c : Char) (s : List Char) :
    splitOn [c] (c :: s) = [] :: splitOn [c] s :=
  splitOn_separator (List.cons_ne_nil c []) s

theorem splitOn_cons_of_ne {c d : Char} (h : d ≠ c) (s : List Char) :
    splitOn [c] (d :: s) = growFirst d (splitOn [c] s) :=
  splitOn_char (by simpa using Ne.symm h)

/-- A separator of one character cuts a text wherever it stands. -/
theorem splitOn_append_char (c : Char) (s t : List Char) :
    splitOn [c] (s ++ c :: t) = splitOn [c] s ++ splitOn [c] t := by
  induction s with
  | nil => exact splitOn_cons_self c t
  | cons d s ih =>
    by_cases same : d = c
    · rw [List.cons_append, same, splitOn_cons_self, splitOn_cons_self, ih, List.cons_append]
    · rw [List.cons_append, splitOn_cons_of_ne same, splitOn_cons_of_ne same, ih,
        growFirst_append (splitOn_ne_nil [c] s)]

theorem length_splitOn_char (c : Char) (s : List Char) :
    (splitOn [c] s).length = s.count c + 1 := by
  induction s with
  | nil => rfl
  | cons d s ih =>
    by_cases same : d = c
    · rw [same, splitOn_cons_self, List.length_cons, ih, List.count_cons_self]
    · rw [splitOn_cons_of_ne same, List.count_cons_of_ne same, ← ih]
      cases whole : splitOn [c] s with
      | nil => exact absurd whole (splitOn_ne_nil [c] s)
      | cons part parts => rfl

theorem intercalate_growFirst {sep : List Char} {c : Char} {parts : List (List Char)}
    (ne : parts ≠ []) : sep.intercalate (growFirst c parts) = c :: sep.intercalate parts := by
  cases parts with
  | nil => exact absurd rfl ne
  | cons part parts => exact List.intercalate_cons_cons_left

/-- Splitting loses nothing but the separators. -/
theorem intercalate_splitOn {sep : List Char} (ne : sep ≠ []) (s : List Char) :
    sep.intercalate (splitOn sep s) = s := by
  induction s using split_induction ne with
  | nil => simp [splitOn_nil]
  | separator s ih =>
    rw [splitOn_separator ne, List.intercalate_cons_of_ne_nil (splitOn_ne_nil sep s), ih]
    simp
  | char c s h ih => rw [splitOn_char h, intercalate_growFirst (splitOn_ne_nil sep s), ih]

theorem infix_intercalate {sep part : List Char} {parts : List (List Char)} (mem : part ∈ parts) :
    part <:+: sep.intercalate parts := by
  obtain ⟨front, rest, rfl⟩ := List.append_of_mem mem
  induction front with
  | nil =>
    cases rest with
    | nil => simp
    | cons next rest =>
      rw [List.nil_append, List.intercalate_cons_cons, List.append_assoc]
      exact (List.prefix_append part _).isInfix
  | cons first front ih =>
    rw [List.cons_append, List.intercalate_cons_of_ne_nil (by simp)]
    exact (ih (by simp)).trans (List.suffix_append _ _).isInfix

theorem mem_intercalate {sep : List Char} {parts : List (List Char)} {c : Char}
    (mem : c ∈ sep.intercalate parts) : c ∈ sep ∨ ∃ part ∈ parts, c ∈ part := by
  induction parts with
  | nil => simp at mem
  | cons part parts ih =>
    cases parts with
    | nil => exact .inr ⟨part, List.mem_singleton_self part, by simpa using mem⟩
    | cons next parts =>
      rw [List.intercalate_cons_cons, List.append_assoc, List.mem_append, List.mem_append] at mem
      rcases mem with here | inside | later
      · exact .inr ⟨part, List.mem_cons_self, here⟩
      · exact .inl inside
      · exact (ih later).imp_right fun ⟨other, hm, hc⟩ => ⟨other, List.mem_cons_of_mem part hm, hc⟩

theorem prefix_of_splitOn_eq_cons {sep s part : List Char} {parts : List (List Char)}
    (ne : sep ≠ []) (h : splitOn sep s = part :: parts) : part <+: s := by
  have whole := intercalate_splitOn ne s
  rw [h] at whole
  cases parts with
  | nil => simp [← whole]
  | cons next parts =>
    rw [List.intercalate_cons_cons, List.append_assoc] at whole
    exact ⟨_, whole⟩

theorem not_infix_of_mem_splitOn {sep s part : List Char} (ne : sep ≠ [])
    (h : part ∈ splitOn sep s) : ¬ sep <:+: part := by
  induction s using split_induction ne generalizing part with
  | nil =>
    have empty : part = [] := by simpa [splitOn_nil] using h
    simp [empty, ne]
  | separator s ih =>
    rw [splitOn_separator ne] at h
    rcases List.mem_cons.mp h with rfl | h
    · simp [ne]
    · exact ih h
  | char c s start ih =>
    rw [splitOn_char start] at h
    cases hs : splitOn sep s with
    | nil => exact absurd hs (splitOn_ne_nil sep s)
    | cons first parts =>
      rw [hs] at h ih
      rcases List.mem_cons.mp h with rfl | h
      · intro occurs
        rcases List.infix_cons_iff.mp occurs with here | later
        · obtain ⟨rest, eq⟩ := prefix_of_splitOn_eq_cons ne hs
          exact start (here.trans ⟨rest, by simp [← eq]⟩)
        · exact ih List.mem_cons_self later
      · exact ih (List.mem_cons_of_mem _ h)

theorem splitOn_eq_singleton {sep s : List Char} (h : ¬ sep <:+: s) : splitOn sep s = [s] := by
  induction s with
  | nil => rfl
  | cons c s ih =>
    rw [splitOn_char fun start => h start.isInfix,
      ih fun later => h (later.trans (List.suffix_cons c s).isInfix)]
    rfl

theorem not_mem_of_mem_splitOn {s part : List Char} {c : Char} (h : part ∈ splitOn [c] s) :
    c ∉ part := by
  intro mem
  obtain ⟨before, after, eq⟩ := List.append_of_mem mem
  exact not_infix_of_mem_splitOn (List.cons_ne_nil c []) h ⟨before, after, by simp [eq]⟩

theorem splitOn_of_not_mem {s : List Char} {c : Char} (free : c ∉ s) : splitOn [c] s = [s] :=
  splitOn_eq_singleton fun inside => free (inside.subset (List.mem_singleton_self c))

section

variable {c : Char} {rest : List Char}

/-- A separator whose first character comes once in it cannot begin in the piece before it. -/
theorem splitOn_append_separator {part s : List Char} (once : c ∉ rest)
    (free : ¬ c :: rest <:+: part) :
    splitOn (c :: rest) (part ++ (c :: rest ++ s)) = part :: splitOn (c :: rest) s := by
  induction part with
  | nil => exact splitOn_separator (List.cons_ne_nil c rest) s
  | cons d part ih =>
    have start : ¬ c :: rest <+: d :: (part ++ (c :: rest ++ s)) := by
      intro occurs
      obtain ⟨rfl, inside⟩ := List.cons_prefix_cons.mp occurs
      -- A separator that begins here would have to reach into the one behind the piece, and so
      -- contain its first character a second time.
      have border : part ++ [c] <+: part ++ (c :: rest ++ s) := by simp
      have short : rest <+: part := by
        rcases List.prefix_or_prefix_of_prefix inside border with here | beyond
        · rcases List.prefix_concat_iff.mp here with eq | short
          · simp [eq] at once
          · exact short
        · exact absurd (beyond.subset (by simp)) once
      exact free (List.cons_prefix_cons.mpr ⟨rfl, short⟩).isInfix
    rw [List.cons_append, splitOn_char start,
      ih fun later => free (later.trans (List.suffix_cons d part).isInfix)]
    rfl

theorem splitOn_intercalate {parts : List (List Char)} (once : c ∉ rest) (ne : parts ≠ [])
    (free : ∀ part ∈ parts, ¬ c :: rest <:+: part) :
    splitOn (c :: rest) ((c :: rest).intercalate parts) = parts := by
  induction parts with
  | nil => exact absurd rfl ne
  | cons part parts ih =>
    have hp := free part List.mem_cons_self
    cases parts with
    | nil => rw [List.intercalate_singleton, splitOn_eq_singleton hp]
    | cons next parts =>
      rw [List.intercalate_cons_cons, List.append_assoc, splitOn_append_separator once hp,
        ih (List.cons_ne_nil next parts) fun p hm => free p (List.mem_cons_of_mem _ hm)]

/-- The pieces of a text are the only ones that make it up with separators between them and have
none inside. -/
theorem splitOn_eq_iff {s : List Char} {parts : List (List Char)} (once : c ∉ rest) :
    splitOn (c :: rest) s = parts ↔
      parts ≠ [] ∧ (c :: rest).intercalate parts = s ∧ ∀ part ∈ parts, ¬ c :: rest <:+: part := by
  constructor
  · rintro rfl
    have ne := List.cons_ne_nil c rest
    exact ⟨splitOn_ne_nil _ s, intercalate_splitOn ne s, fun _ => not_infix_of_mem_splitOn ne⟩
  · intro h
    obtain ⟨ne, rfl, free⟩ := h
    exact splitOn_intercalate once ne free

end

/-- `front` is what comes before the first occurrence of `mark`. -/
structure IsUpTo (mark s front : List Char) : Prop where
  occurs : front ++ mark <+: s
  first : ∀ other, other ++ mark <+: s → front.length ≤ other.length

section

variable {mark s front other : List Char}

theorem IsUpTo.unique (h : IsUpTo mark s front) (h' : IsUpTo mark s other) : front = other := by
  have length := Nat.le_antisymm (h.first other h'.occurs) (h'.first front h.occurs)
  have left := (List.prefix_append front mark).trans h.occurs
  have right := (List.prefix_append other mark).trans h'.occurs
  exact (List.prefix_of_prefix_length_le left right (Nat.le_of_eq length)).eq_of_length length

theorem isUpTo_upTo (ne : mark ≠ []) (occurs : mark <:+: s) : IsUpTo mark s (upTo mark s) := by
  induction s with
  | nil => exact absurd (List.infix_nil.mp occurs) ne
  | cons c s ih =>
    by_cases start : mark <+: c :: s
    · have nothing : upTo mark (c :: s) = [] := by simp [upTo, start]
      rw [nothing]
      exact ⟨start, fun _ _ => Nat.zero_le _⟩
    · have later := ih ((List.infix_cons_iff.mp occurs).resolve_left start)
      have grown : upTo mark (c :: s) = c :: upTo mark s := by simp [upTo, start]
      rw [grown]
      refine ⟨List.cons_prefix_cons.mpr ⟨rfl, later.occurs⟩, fun other inside => ?_⟩
      cases other with
      | nil => exact absurd inside start
      | cons d other =>
        have shorter := later.first other (List.cons_prefix_cons.mp inside).2
        simp only [List.length_cons]
        omega

end

end TitleLint.Text
