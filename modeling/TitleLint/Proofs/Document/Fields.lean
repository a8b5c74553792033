import TitleLint.Document.Decode
import TitleLint.Proofs.Except

namespace TitleLint.Document

/-- The text of a scalar. -/
def textOf? (d : Document) (n : Node Nat) : Option String :=
  match d.view? n with
  | some (.scalar s _ _) => some s
  | _ => none

/-- The texts in a sequence. A blank that bears a tag is taken for a sequence of none. -/
def textsOf? (d : Document) (n : Node Nat) : Option (List String) :=
  match d.view? n with
  | some (.sequence ns _) => ns.mapM d.textOf?
  | some (.scalar "" .plain (some _)) => some []
  | _ => none

def valueOf? (d : Document) (key : String) (es : List (Node Nat × Node Nat)) : Option (Node Nat) :=
  (es.find? fun e => d.textOf? e.1 = some key).map Prod.snd

/-- The value under keys, each of which is looked up in the value of the one before it. -/
def under? (d : Document) : Node Nat → List String → Option (Node Nat)
  | n, [] => some n
  | n, key :: keys =>
    match d.view? n with
    | some (.mapping es _) => (d.valueOf? key es).bind fun v => d.under? v keys
    | _ => none

namespace Decoder

section

variable {α β : Type} {d : Document} {place : Place} {n : Node Nat} {expected : String}

theorem refuse_ne_ok {v : View} {x : α} : refuse expected place v ≠ .ok x := by
  unfold refuse
  split <;> simp

theorem text_eq_ok_iff {s : String} : text expected d place n = .ok s ↔ d.textOf? n = some s := by
  unfold text viewing textOf?
  cases d.view? n with
  | none => simp
  | some v => cases v <;> simp [refuse_ne_ok]

theorem items_text_eq_ok_iff {i : Nat} {ns : List (Node Nat)} {ss : List String} :
    items (text expected) d place i ns = .ok ss ↔ ns.mapM d.textOf? = some ss := by
  induction ns generalizing i ss with
  | nil => simp [items]
  | cons n ns ih =>
    rw [items, Except.bind_eq_ok_iff, List.mapM_cons]
    simp [text_eq_ok_iff, Except.bind_eq_ok_iff, Option.bind_eq_some_iff, ih, pure, Except.pure]

theorem list_text_cases {ss : List String} (read : list (text expected) d place n = .ok ss) :
    (∃ ns tag, d.view? n = some (.sequence ns tag) ∧ ns.mapM d.textOf? = some ss) ∨
      ∃ tag, d.view? n = some (.scalar "" .plain tag) ∧ ss = [] := by
  unfold list viewing at read
  split at read
  next v own =>
    dsimp only at read
    split at read
    next ns tag => exact .inl ⟨ns, tag, own, items_text_eq_ok_iff.mp read⟩
    next tag => exact .inr ⟨tag, own, (Except.ok.inj read).symm⟩
    next => exact absurd read refuse_ne_ok
  next => cases read

/-- A list of texts is what is given, or empty where nothing is. -/
theorem eq_of_list_text {ss : List String} (read : list (text expected) d place n = .ok ss) :
    ss = (d.textsOf? n).getD [] := by
  obtain ⟨ns, tag, own, items⟩ | ⟨tag, own, rfl⟩ := list_text_cases read
  · simp [textsOf?, own, items]
  · cases tag <;> simp [textsOf?, own]

theorem eq_of_optional_list_text {given : Option (List String)}
    (read : optional (list (text expected)) d place n = .ok given) : given = d.textsOf? n := by
  have written (tagged : d.view? n ≠ some (.scalar "" .plain none))
      (read : (list (text expected) d place n).map some = .ok given) : given = d.textsOf? n := by
    obtain ⟨ss, read', rfl⟩ := Except.map_eq_ok_iff.mp read
    obtain ⟨ns, tag, own, items⟩ | ⟨tag, own, rfl⟩ := list_text_cases read'
    · simp [textsOf?, own, items]
    · cases tag with
      | none => exact absurd own tagged
      | some tag => simp [textsOf?, own]
  unfold optional at read
  split at read
  next s own =>
    split at read
    next =>
      obtain rfl := Except.ok.inj read
      simp [textsOf?, own]
    next filled =>
      refine written (fun blank => filled (.inl ?_)) read
      obtain rfl : s = "" := by simpa [own] using blank
      rfl
  next s own =>
    split at read
    next null =>
      obtain rfl := Except.ok.inj read
      have filled : s ≠ "" := by
        rintro rfl
        exact absurd null (by decide)
      unfold textsOf?
      rw [own]
      split <;> simp_all
    next => cases read
  next other _ =>
    exact written (fun blank => other "" blank) read

/-! ### Records -/

/-- Whether a field puts what it reads where `get` finds it. -/
def Field.Sets (field : Field α) (inner : Decoder β) (get : α → β) : Prop :=
  ∀ r d place n r', field.read r d place n = .ok r' → inner d place n = .ok (get r')

def Field.Keeps (field : Field α) (get : α → β) : Prop :=
  ∀ r d place n r', field.read r d place n = .ok r' → get r' = get r

/-- Among fields, only those with a key put something where `get` finds it. -/
def Owns (fields : List (Field α)) (key : String) (inner : Decoder β) (get : α → β) : Prop :=
  ∀ field ∈ fields, if field.name = key then field.Sets inner get else field.Keeps get

variable {fields : List (Field α)} {key : String} {inner : Decoder β} {get : α → β}
  {es : List (Node Nat × Node Nat)} {seen : List String} {r r' : α}

theorem entries_cons_eq_ok_iff {k v : Node Nat} :
    entries fields d place r seen ((k, v) :: es) = .ok r' ↔
      ∃ name field next, d.textOf? k = some name ∧ fields.find? (·.name = name) = some field ∧
        name ∉ seen ∧ field.read r d (place ++ [stepOf k]) v = .ok next ∧
        entries fields d place next (name :: seen) es = .ok r' := by
  rw [entries, Except.bind_eq_ok_iff]
  simp only [text_eq_ok_iff]
  constructor
  · rintro ⟨name, own, read⟩
    split at read
    next => cases read
    next field found =>
      split at read
      next => cases read
      next fresh =>
        obtain ⟨next, set, rest⟩ := Except.bind_eq_ok_iff.mp read
        exact ⟨name, field, next, own, found, fresh, set, rest⟩
  · rintro ⟨name, field, next, own, found, fresh, set, rest⟩
    refine ⟨name, own, ?_⟩
    rw [found]
    simp only [fresh, if_false]
    exact Except.bind_eq_ok_iff.mpr ⟨next, set, rest⟩

/-- A key that was seen does not come again. -/
theorem get_entries_of_seen (owns : Owns fields key inner get) (mem : key ∈ seen)
    (read : entries fields d place r seen es = .ok r') : get r' = get r := by
  induction es generalizing r seen with
  | nil =>
    obtain rfl := Except.ok.inj read
    rfl
  | cons e es ih =>
    obtain ⟨name, field, next, _, found, fresh, set, rest⟩ := entries_cons_eq_ok_iff.mp read
    have named : field.name = name := by simpa using List.find?_some found
    have other : field.name ≠ key := fun same => fresh (named.symm.trans same ▸ mem)
    have kept := owns field (List.mem_of_find?_eq_some found)
    rw [if_neg other] at kept
    rw [ih (List.mem_cons_of_mem name mem) rest, kept _ _ _ _ _ set]

/-- The value of a key is what the record gets by it. -/
theorem get_entries (owns : Owns fields key inner get)
    (read : entries fields d place r seen es = .ok r') :
    (∀ v, d.valueOf? key es = some v → ∃ place', inner d place' v = .ok (get r')) ∧
      (d.valueOf? key es = none → get r' = get r) := by
  induction es generalizing r seen with
  | nil =>
    obtain rfl := Except.ok.inj read
    simp [valueOf?]
  | cons e es ih =>
    obtain ⟨name, field, next, own, found, fresh, set, rest⟩ := entries_cons_eq_ok_iff.mp read
    have named : field.name = name := by simpa using List.find?_some found
    have owned := owns field (List.mem_of_find?_eq_some found)
    by_cases same : name = key
    -- The key stands here, and what it gives is kept: it is among those seen from now on.
    · subst same
      rw [if_pos named] at owned
      have value : d.valueOf? name (e :: es) = some e.2 := by simp [valueOf?, own]
      rw [value]
      refine ⟨?_, nofun⟩
      rintro _ ⟨⟩
      rw [get_entries_of_seen owns List.mem_cons_self rest]
      exact ⟨_, owned _ _ _ _ _ set⟩
    · rw [if_neg (named ▸ same)] at owned
      have value : d.valueOf? key (e :: es) = d.valueOf? key es := by simp [valueOf?, own, same]
      rw [value, ← owned _ _ _ _ _ set]
      exact ih rest

theorem get_record {name : String} {start : α} (owns : Owns fields key inner get)
    (read : record name fields start d place n = .ok r') :
    (∀ v, d.under? n [key] = some v → ∃ place', inner d place' v = .ok (get r')) ∧
      (d.under? n [key] = none → get r' = get start) := by
  unfold record viewing at read
  unfold under?
  split at read
  next v own =>
    rw [own]
    dsimp only at read ⊢
    split at read
    next es tag =>
      simpa [under?] using get_entries owns read
    next =>
      obtain rfl := Except.ok.inj read
      simp
    next => exact absurd read refuse_ne_ok
  next => cases read

theorem under?_cons (n : Node Nat) (key : String) (keys : List String) :
    d.under? n (key :: keys) = (d.under? n [key]).bind fun v => d.under? v keys := by
  rw [under?, under?]
  split
  next es tag own => cases d.valueOf? key es <;> simp [under?]
  next => rfl

variable {name : String} {start : α}

/-- An optional list of a record is what the document gives under its key. -/
theorem get_optional_texts {get : α → Option (List String)}
    (owns : Owns fields key (optional (list (text expected))) get) (blank : get start = none)
    (read : record name fields start d place n = .ok r') :
    get r' = (d.under? n [key]).bind d.textsOf? := by
  obtain ⟨given, left⟩ := get_record owns read
  cases value : d.under? n [key] with
  | none => rw [left value, blank, Option.bind_none]
  | some v =>
    obtain ⟨_, read'⟩ := given v value
    exact eq_of_optional_list_text read'

/-- A list of a record that may be left out is empty then. -/
theorem get_texts {get : α → List String} (owns : Owns fields key (list (text expected)) get)
    (blank : get start = []) (read : record name fields start d place n = .ok r') :
    get r' = ((d.under? n [key]).bind d.textsOf?).getD [] := by
  obtain ⟨given, left⟩ := get_record owns read
  cases value : d.under? n [key] with
  | none => rw [left value, blank, Option.bind_none, Option.getD_none]
  | some v =>
    obtain ⟨_, read'⟩ := given v value
    exact eq_of_list_text read'

end

end Decoder

end TitleLint.Document
