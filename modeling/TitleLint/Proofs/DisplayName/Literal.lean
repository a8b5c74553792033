import TitleLint.DisplayName

namespace TitleLint.DisplayName

/-- The letters that stand for other characters behind a backslash, with these characters. -/
def escapeLetters : List (Char × Char) := [('n', '\n'), ('t', '\t'), ('r', '\r')]

/-- A way to write a text between quotes: each of its characters stands for itself, with or without
a backslash in front of it, or is written by a letter behind a backslash. -/
inductive Spells : List Char → List Char → Prop where
  | nil : Spells [] []
  | raw {c : Char} {spelling s : List Char} (plain : c ≠ '\\') (rest : Spells spelling s) :
      Spells (c :: spelling) (c :: s)
  | escaped {c : Char} {spelling s : List Char} (own : c ∉ escapeLetters.map Prod.fst)
      (rest : Spells spelling s) : Spells ('\\' :: c :: spelling) (c :: s)
  | lettered {letter c : Char} {spelling s : List Char} (names : (letter, c) ∈ escapeLetters)
      (rest : Spells spelling s) : Spells ('\\' :: letter :: spelling) (c :: s)

/-- What stands between quotes is empty, begins with a backslash, or begins with a character that
stands for itself. -/
theorem unescape_induction {motive : List Char → Prop} (nil : motive []) (alone : motive ['\\'])
    (behind : ∀ c cs, motive cs → motive ('\\' :: c :: cs))
    (raw : ∀ c cs, c ≠ '\\' → motive cs → motive (c :: cs)) (cs : List Char) : motive cs := by
  induction cs using unescape.induct with
  | case1 => exact nil
  | case2 => exact alone
  | case3 c cs ih => exact behind c cs ih
  | case4 c cs single pair ih =>
    refine raw c cs ?_ ih
    rintro rfl
    cases cs with
    | nil => exact single rfl rfl
    | cons d cs => exact pair d cs rfl rfl

section

variable {quote c letter : Char} {spelling s : List Char}

theorem unescape_raw (plain : c ≠ '\\') : unescape (c :: spelling) = c :: unescape spelling := by
  simp [unescape, plain]

theorem unescape_escaped (own : c ∉ escapeLetters.map Prod.fst) :
    unescape ('\\' :: c :: spelling) = c :: unescape spelling := by
  simp only [escapeLetters, List.map_cons, List.map_nil, List.mem_cons, List.not_mem_nil, or_false,
    not_or] at own
  simp [unescape, own]

theorem unescape_lettered (names : (letter, c) ∈ escapeLetters) :
    unescape ('\\' :: letter :: spelling) = c :: unescape spelling := by
  simp only [escapeLetters, List.mem_cons, List.not_mem_nil, or_false, Prod.mk.injEq] at names
  obtain ⟨rfl, rfl⟩ | ⟨rfl, rfl⟩ | ⟨rfl, rfl⟩ := names
  · rfl
  · rfl
  · rfl

/-- A spelling is read alike whatever stands behind it. -/
theorem Spells.unescape_append (h : Spells spelling s) (rest : List Char) :
    unescape (spelling ++ rest) = s ++ unescape rest := by
  induction h with
  | nil => rfl
  | raw plain _ ih => rw [List.cons_append, unescape_raw plain, ih, List.cons_append]
  | escaped own _ ih =>
    rw [List.cons_append, List.cons_append, unescape_escaped own, ih, List.cons_append]
  | lettered names _ ih =>
    rw [List.cons_append, List.cons_append, unescape_lettered names, ih, List.cons_append]

/-- Every character may stand behind a backslash. It makes a line feed there if it is one, or its
letter. -/
theorem exists_behind_backslash (c : Char) :
    ∃ d, (∀ cs, unescape ('\\' :: c :: cs) = d :: unescape cs) ∧
      (∀ spelling s, Spells spelling s → Spells ('\\' :: c :: spelling) (d :: s)) ∧
      (d = '\n' ↔ c = 'n' ∨ c = '\n') := by
  by_cases letter : c ∈ escapeLetters.map Prod.fst
  · obtain ⟨⟨_, d⟩, names, rfl⟩ := List.mem_map.mp letter
    refine ⟨d, fun _ => unescape_lettered names, fun _ _ => .lettered names, ?_⟩
    simp only [escapeLetters, List.mem_cons, List.not_mem_nil, or_false, Prod.mk.injEq] at names
    obtain ⟨rfl, rfl⟩ | ⟨rfl, rfl⟩ | ⟨rfl, rfl⟩ := names <;> decide
  · refine ⟨c, fun _ => unescape_escaped letter, fun _ _ => .escaped letter, ?_⟩
    have other : c ≠ 'n' := by
      rintro rfl
      exact letter (by decide)
    simp [other]

/-- Whatever stands between quotes is read as a spelling, except for a backslash at its end with
nothing behind it. -/
theorem spells_unescape (cs : List Char) :
    Spells cs (unescape cs) ∨ ∃ front, cs = front ++ ['\\'] ∧ Spells front (unescape cs) := by
  induction cs using unescape_induction with
  | nil => exact .inl .nil
  | alone => exact .inr ⟨[], rfl, .nil⟩
  | behind c cs ih =>
    obtain ⟨d, read, spells, _⟩ := exists_behind_backslash c
    rw [read]
    rcases ih with whole | ⟨front, eq, whole⟩
    · exact .inl (spells cs _ whole)
    · exact .inr ⟨'\\' :: c :: front, by simp [eq], spells front _ whole⟩
  | raw c cs plain ih =>
    rw [unescape_raw plain]
    rcases ih with whole | ⟨front, eq, whole⟩
    · exact .inl (.raw plain whole)
    · exact .inr ⟨c :: front, by simp [eq], .raw plain whole⟩

theorem literal?_quoted (mark : quote = '\'' ∨ quote = '"') (cs : List Char) :
    literal? (String.ofList (quote :: cs ++ [quote])) = some (String.ofList (unescape cs)) := by
  have ascii : quote.utf8Size = 1 := by rcases mark with rfl | rfl <;> rfl
  have last : (cs ++ [quote]).getLastD quote = quote := by simp
  have inner : (cs ++ [quote]).dropLast = cs := List.dropLast_concat
  rw [literal?, String.toList_ofList, List.cons_append]
  cases whole : cs ++ [quote] with
  | nil => simp at whole
  | cons next rest =>
    rw [whole] at last inner
    simp only [last, inner, ascii, and_self, if_true]

/-- A literal is read as exactly those texts that it spells. A backslash right before its closing
quote counts for nothing. -/
theorem literal?_eq_some_iff {name : String} (mark : quote = '\'' ∨ quote = '"') (cs : List Char) :
    literal? (String.ofList (quote :: cs ++ [quote])) = some name ↔
      Spells cs name.toList ∨ ∃ front, cs = front ++ ['\\'] ∧ Spells front name.toList := by
  rw [literal?_quoted mark, Option.some.injEq]
  constructor
  · rintro rfl
    simpa using spells_unescape cs
  · rintro (spells | ⟨front, rfl, spells⟩)
    · have read := spells.unescape_append []
      simp only [List.append_nil, unescape] at read
      rw [read, String.ofList_toList]
    · rw [spells.unescape_append, unescape, List.append_nil, String.ofList_toList]

/-- A line feed stands in what is quoted, or its letter behind a backslash. -/
def WritesLineFeed (cs : List Char) : Prop :=
  '\n' ∈ cs ∨ ∃ front s rest, Spells front s ∧ cs = front ++ '\\' :: 'n' :: rest

theorem not_writesLineFeed_of_length (cs : List Char) (short : cs.length < 2) (free : '\n' ∉ cs) :
    ¬ WritesLineFeed cs := by
  rintro (here | ⟨front, s, rest, _, rfl⟩)
  · exact free here
  · simp only [List.length_append, List.length_cons] at short
    omega

theorem writesLineFeed_raw (plain : c ≠ '\\') :
    WritesLineFeed (c :: spelling) ↔ c = '\n' ∨ WritesLineFeed spelling := by
  constructor
  · rintro (here | ⟨front, s, rest, spells, eq⟩)
    · exact (List.mem_cons.mp here).imp Eq.symm .inl
    · cases spells with
      | nil => simp [plain] at eq
      | raw _ later => exact .inr (.inr ⟨_, _, rest, later, (List.cons.inj eq).2⟩)
      | escaped => simp [plain] at eq
      | lettered => simp [plain] at eq
  · rintro (rfl | here | ⟨front, s, rest, spells, rfl⟩)
    · exact .inl List.mem_cons_self
    · exact .inl (List.mem_cons_of_mem _ here)
    · exact .inr ⟨c :: front, c :: s, rest, .raw plain spells, rfl⟩

theorem writesLineFeed_behind_backslash :
    WritesLineFeed ('\\' :: c :: spelling) ↔ (c = 'n' ∨ c = '\n') ∨ WritesLineFeed spelling := by
  constructor
  · rintro (here | ⟨front, s, rest, spells, eq⟩)
    · simp only [List.mem_cons, Char.reduceEq, false_or] at here
      exact here.imp (.inr ·.symm) .inl
    · cases spells with
      | nil => exact .inl (.inl (List.cons.inj (List.cons.inj eq).2).1)
      | raw plain => exact absurd (List.cons.inj eq).1.symm plain
      | escaped _ later =>
        exact .inr (.inr ⟨_, _, rest, later, (List.cons.inj (List.cons.inj eq).2).2⟩)
      | lettered _ later =>
        exact .inr (.inr ⟨_, _, rest, later, (List.cons.inj (List.cons.inj eq).2).2⟩)
  · obtain ⟨d, _, spells, _⟩ := exists_behind_backslash c
    rintro ((rfl | rfl) | here | ⟨front, s, rest, whole, rfl⟩)
    · exact .inr ⟨[], [], spelling, .nil, rfl⟩
    · exact .inl (by simp)
    · exact .inl (by simp [here])
    · exact .inr ⟨'\\' :: c :: front, d :: s, rest, spells front s whole, rfl⟩

/-- A literal stands for a text with a line feed exactly if one is written in it. -/
theorem feed_mem_unescape_iff (cs : List Char) : '\n' ∈ unescape cs ↔ WritesLineFeed cs := by
  induction cs using unescape_induction with
  | nil => simpa [unescape] using not_writesLineFeed_of_length [] (by decide) (by decide)
  | alone =>
    simpa [unescape] using not_writesLineFeed_of_length ['\\'] (by decide) (by decide)
  | behind c cs ih =>
    obtain ⟨d, read, _, feed⟩ := exists_behind_backslash c
    rw [read, List.mem_cons, ih, writesLineFeed_behind_backslash, eq_comm, feed]
  | raw c cs plain ih =>
    rw [unescape_raw plain, List.mem_cons, ih, writesLineFeed_raw plain, eq_comm]

end

/-- However a text is spelled between quotes, the literal is read as that text. -/
theorem literal?_of_spells {quote : Char} {spelling : List Char} {s : String}
    (mark : quote = '\'' ∨ quote = '"') (spells : Spells spelling s.toList) :
    literal? (String.ofList (quote :: spelling ++ [quote])) = some s := by
  rw [literal?_eq_some_iff mark]
  exact .inl spells

/-- Behind two backslashes, a letter stands for itself. A quote may stand behind one at the end. -/
theorem literal?_of_spells_mixed :
    Spells ['\\', 'é', '\\', '\\', 'n', '\\', 'n', '"', '\\', '"'] "é\\n\n\"\"".toList ∧
      literal? (String.ofList
        ('"' :: ['\\', 'é', '\\', '\\', 'n', '\\', 'n', '"', '\\', '"'] ++ ['"'])) =
          some "é\\n\n\"\"" := by
  have spells : Spells ['\\', 'é', '\\', '\\', 'n', '\\', 'n', '"', '\\', '"'] "é\\n\n\"\"".toList :=
    .escaped (by decide) <| .escaped (by decide) <| .raw (by decide) <| .lettered (by decide) <|
      .raw (by decide) <| .escaped (by decide) .nil
  exact ⟨spells, literal?_of_spells (.inr rfl) spells⟩

end TitleLint.DisplayName
