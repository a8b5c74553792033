import TitleLint.Proofs.Json.Reading

namespace TitleLint.Json

/-- What is read of a character as it is written in a string. -/
def piece (c : Char) : Piece :=
  if c.toNat < 32 ∧ c ∉ ['\x08', '\x0c', '\n', '\r', '\t'] then .unit c.toNat else .char c

mutual

/-- The parts of the text of a value. -/
def tokens : Json → List Token
  | bool b => [.bool b]
  | string s => [.string s]
  | list [] => [.openList, .closeList]
  | list (v :: vs) => .openList :: (tokens v ++ (itemTokens vs ++ [.closeList]))
  | object [] => [.openObject, .closeObject]
  | object ((name, v) :: fields) =>
    .openObject :: .string name :: .colon :: (tokens v ++ (fieldTokens fields ++ [.closeObject]))

def itemTokens : List Json → List Token
  | [] => []
  | v :: vs => .comma :: (tokens v ++ itemTokens vs)

def fieldTokens : List (String × Json) → List Token
  | [] => []
  | (name, v) :: fields => .comma :: .string name :: .colon :: (tokens v ++ fieldTokens fields)

end

section

variable {c : Char} {cs s : List Char} {before : List Piece}

theorem scan_blank (blank : isBlank c = true) : scan (c :: cs) = scan cs := by
  have cases := blank
  simp only [isBlank, List.contains_eq_mem, List.mem_cons, List.not_mem_nil, or_false,
    decide_eq_true_eq] at cases
  rcases cases with rfl | rfl | rfl | rfl <;> simp [scan, isBlank]

theorem scan_newLine (depth : Nat) : scan (newLine depth ++ cs) = scan cs := by
  have spaces (n : Nat) : scan (List.replicate n ' ' ++ cs) = scan cs := by
    induction n with
    | zero => rfl
    | succ n ih => rw [List.replicate_succ, List.cons_append, scan_blank rfl, ih]
  rw [newLine, List.cons_append, scan_blank rfl, spaces]

theorem scan_mark {t : Token} (mark : mark? c = some t) :
    scan (c :: cs) = (scan cs).map (t :: ·) := by
  have own := mark
  unfold mark? at mark
  split at mark
  rotate_right
  next => cases mark
  all_goals simp [scan, isBlank, own]

theorem joined_unit {n : Nat} (small : n < 0xd800) (pieces : List Piece) :
    joined (.unit n :: pieces) = (joined pieces).map (Char.ofNat n :: ·) := by
  cases pieces with
  | nil => simp [joined, small]
  | cons next pieces => cases next <;> simp [joined, small]

theorem joined_map_piece (s : List Char) : joined (s.map piece) = some s := by
  induction s with
  | nil => rfl
  | cons c s ih =>
    rw [List.map_cons, piece]
    split
    next control => simp [joined_unit (Nat.lt_trans control.1 (by decide)), ih]
    next => simp [joined, ih]

theorem scanString_raw (printed : ¬ c.toNat < 32) (quote : c ≠ '"') (backslash : c ≠ '\\') :
    scanString before (c :: cs) = scanString (.char c :: before) cs := by
  rw [scanString]
  · simp [printed]
  · simpa
  · simp [backslash]
  · simp [backslash]

theorem hexValue?_of_control : ∀ n < 32,
    hexValue? ['0', '0', Nat.digitChar (n / 16), Nat.digitChar (n % 16)] = some n := by
  decide

theorem scanString_escaped :
    scanString before (escaped c ++ cs) = scanString (piece c :: before) cs := by
  by_cases short : c ∈ ['"', '\\', '\x08', '\x0c', '\n', '\r', '\t']
  · simp only [List.mem_cons, List.not_mem_nil, or_false] at short
    rcases short with rfl | rfl | rfl | rfl | rfl | rfl | rfl <;>
      simp [escaped, scanString, shortEscape?, piece]
  · simp only [List.mem_cons, List.not_mem_nil, or_false, not_or] at short
    obtain ⟨quote, backslash, backspace, formFeed, lineFeed, carriageReturn, tab⟩ := short
    by_cases control : c.toNat < 32
    · have unit : piece c = .unit c.toNat := by simp [piece, *]
      simp only [escaped, control, if_true, unit, List.cons_append, List.nil_append, scanString,
        hexValue?_of_control _ control]
    · have char : piece c = .char c := by simp [piece, control]
      simp only [escaped, control, if_false, char]
      exact scanString_raw control quote backslash

theorem scanString_flatMap_escaped :
    scanString before (s.flatMap escaped ++ cs) =
      scanString ((s.map piece).reverse ++ before) cs := by
  induction s generalizing before with
  | nil => rfl
  | cons c s ih =>
    rw [List.flatMap_cons, List.append_assoc, scanString_escaped, ih]
    simp

theorem scan_writeString (s : String) :
    scan (writeString s ++ cs) = (scan cs).map (Token.string s :: ·) := by
  simp only [writeString, List.cons_append, List.append_assoc, List.nil_append, scan]
  rw [scanString_flatMap_escaped]
  simp [scanString, joined_map_piece]

end

mutual

/-- Scanning gives the parts of a value wherever its text stands. -/
theorem scan_write (depth : Nat) (v : Json) (cs : List Char) :
    scan (write depth v ++ cs) = (scan cs).map (v.tokens ++ ·) := by
  cases v with
  | bool b => cases b <;> simp [write, tokens, scan]
  | string s => simp [write, tokens, scan_writeString]
  | list vs =>
    cases vs with
    | nil =>
      simp only [write, List.cons_append, List.nil_append, tokens]
      rw [scan_mark rfl, scan_mark rfl, Option.map_map]
      rfl
    | cons v vs =>
      simp only [write, List.cons_append, List.append_assoc, List.nil_append, tokens]
      rw [scan_mark rfl, scan_newLine, scan_write, scan_writeItems, scan_newLine, scan_mark rfl]
      simp [Function.comp_def]
  | object fields =>
    cases fields with
    | nil =>
      simp only [write, List.cons_append, List.nil_append, tokens]
      rw [scan_mark rfl, scan_mark rfl, Option.map_map]
      rfl
    | cons field fields =>
      obtain ⟨name, v⟩ := field
      simp only [write, List.cons_append, List.append_assoc, List.nil_append, tokens]
      rw [scan_mark rfl, scan_newLine, scan_writeString, scan_mark rfl, scan_blank rfl,
        scan_write, scan_writeFields, scan_newLine, scan_mark rfl]
      simp [Function.comp_def]

theorem scan_writeItems (depth : Nat) (vs : List Json) (cs : List Char) :
    scan (writeItems depth vs ++ cs) = (scan cs).map (itemTokens vs ++ ·) := by
  cases vs with
  | nil => simp [writeItems, itemTokens]
  | cons v vs =>
    simp only [writeItems, List.cons_append, List.append_assoc, itemTokens]
    rw [scan_mark rfl, scan_newLine, scan_write, scan_writeItems]
    simp [Function.comp_def]

theorem scan_writeFields (depth : Nat) (fields : List (String × Json)) (cs : List Char) :
    scan (writeFields depth fields ++ cs) = (scan cs).map (fieldTokens fields ++ ·) := by
  cases fields with
  | nil => simp [writeFields, fieldTokens]
  | cons field fields =>
    obtain ⟨name, v⟩ := field
    simp only [writeFields, List.cons_append, List.append_assoc, List.nil_append, fieldTokens]
    rw [scan_mark rfl, scan_newLine, scan_writeString, scan_mark rfl, scan_blank rfl,
      scan_write, scan_writeFields]
    simp [Function.comp_def]

end

/-- A value does not begin with the end of a list. -/
theorem readValue_openList (outer : List Unclosed) (v : Json) (ts : List Token) :
    readValue outer (.openList :: (v.tokens ++ ts)) =
      readValue (.list [] :: outer) (v.tokens ++ ts) := by
  rw [readValue]
  intro others closed
  cases v with
  | bool b => simp [tokens] at closed
  | string s => simp [tokens] at closed
  | list vs => cases vs <;> simp [tokens] at closed
  | object fields => cases fields <;> simp [tokens] at closed

mutual

theorem readValue_tokens (outer : List Unclosed) (v : Json) (ts : List Token) :
    readValue outer (v.tokens ++ ts) = readBehind v outer ts := by
  cases v with
  | bool b => simp [tokens, readValue]
  | string s => simp [tokens, readValue]
  | list vs =>
    cases vs with
    | nil => simp [tokens, readValue]
    | cons v vs =>
      simp only [tokens, List.cons_append, List.append_assoc, List.nil_append]
      rw [readValue_openList, readValue_tokens, readBehind_itemTokens]
      rfl
  | object fields =>
    cases fields with
    | nil => simp [tokens, readValue]
    | cons field fields =>
      obtain ⟨name, v⟩ := field
      simp only [tokens, List.cons_append, List.append_assoc, List.nil_append, readValue]
      rw [readValue_tokens, readBehind_fieldTokens]
      rfl

theorem readBehind_itemTokens (outer : List Unclosed) (items : List Json) (v : Json)
    (vs : List Json) (ts : List Token) :
    readBehind v (.list items :: outer) (itemTokens vs ++ .closeList :: ts) =
      readBehind (.list (items.reverse ++ v :: vs)) outer ts := by
  cases vs with
  | nil => simp [itemTokens, readBehind]
  | cons w vs =>
    simp only [itemTokens, List.cons_append, List.append_assoc, readBehind]
    rw [readValue_tokens, readBehind_itemTokens]
    simp

theorem readBehind_fieldTokens (outer : List Unclosed) (before : List (String × Json))
    (name : String) (v : Json) (fields : List (String × Json)) (ts : List Token) :
    readBehind v (.object before name :: outer) (fieldTokens fields ++ .closeObject :: ts) =
      readBehind (.object (before.reverse ++ (name, v) :: fields)) outer ts := by
  cases fields with
  | nil => simp [fieldTokens, readBehind]
  | cons field fields =>
    obtain ⟨next, w⟩ := field
    simp only [fieldTokens, List.cons_append, List.append_assoc, readBehind]
    rw [readValue_tokens, readBehind_fieldTokens]
    simp

end

/-- The output is the text of a value, with one line feed behind it. -/
structure IsOutput (output : String) (v : Json) : Prop where
  text : ∃ text : String, output = text ++ "\n" ∧ ¬ ['\n'] <:+ text.toList ∧ read? text = some v
  /-- The line feed does not keep the output from being a text of the value. -/
  whole : read? output = some v

theorem not_feed_suffix_concat {front : List Char} {last : Char} (other : last ≠ '\n') :
    ¬ ['\n'] <:+ front ++ [last] := by
  rintro ⟨before, eq⟩
  exact other (List.cons.inj (List.append_inj_right' eq rfl)).1.symm

theorem not_feed_suffix_write (depth : Nat) (v : Json) : ¬ ['\n'] <:+ write depth v := by
  cases v with
  | bool b => cases b <;> simp only [write] <;> decide
  | string s =>
    rw [write, writeString]
    exact not_feed_suffix_concat (by decide)
  | list vs =>
    cases vs with
    | nil => simp only [write]; decide
    | cons v vs =>
      rw [write]
      exact not_feed_suffix_concat (by decide)
  | object fields =>
    cases fields with
    | nil => simp only [write]; decide
    | cons field fields =>
      rw [write]
      exact not_feed_suffix_concat (by decide)

/-- What is written of a value is read as that value. -/
theorem isOutput_document (v : Json) : IsOutput v.document v := by
  -- A blank behind the value makes no difference, and a line feed is one.
  have read (blanks : List Char) (blank : scan blanks = some []) :
      read? (String.ofList (write 0 v ++ blanks)) = some v := by
    rw [read?, String.toList_ofList, scan_write, blank, Option.map_some, Option.bind_some,
      readValue_tokens]
    rfl
  refine ⟨⟨String.ofList (write 0 v), ?_, ?_, ?_⟩, read ['\n'] (by rw [scan_blank rfl]; rfl)⟩
  · rw [document, String.ofList_append]
  · rw [String.toList_ofList]
    exact not_feed_suffix_write 0 v
  · have own := read [] rfl
    rwa [List.append_nil] at own

/-- A value is also read from a text that is written in another way. -/
example : (read? " [\"\\u00E9\\ud83d\\ude00\\/\", \x7b\x7d\t]").map document =
    some "[\n  \"é😀/\",\n  \x7b\x7d\n]\n" := by
  decide +kernel

theorem document_inj {v w : Json} (same : v.document = w.document) : v = w := by
  have own := (isOutput_document v).whole
  rw [same, (isOutput_document w).whole, Option.some.injEq] at own
  exact own.symm

/-- What would stand in the place of a value that cannot be written. -/
def failureText (cause : String) : String := "\x7b\"error\": \"" ++ cause ++ "\"\x7d\n"

/-- What is written of a value is never taken for a failure to write it. -/
theorem document_ne_failureText (v : Json) (cause : String) : v.document ≠ failureText cause := by
  intro same
  have chars := congrArg String.toList same
  simp only [document, failureText, String.toList_ofList, String.toList_append] at chars
  cases v with
  | bool b => cases b <;> simp [write] at chars
  | string s => simp [write, writeString] at chars
  | list vs => cases vs <;> simp [write] at chars
  | object fields =>
    cases fields with
    | nil => simp [write] at chars
    | cons field fields => simp [write, newLine] at chars

end TitleLint.Json
