import TitleLint.EditDistance
import TitleLint.Text.Bytes

namespace TitleLint

open Text

/-- The known names of nodes: none is empty, and they are in byte order. -/
structure Vocabulary where
  names : List String
  sorted : names.Pairwise fun a b => byteLt a b = true
  nonempty : "" ∉ names

namespace Vocabulary

@[ext]
theorem ext {v w : Vocabulary} (h : v.names = w.names) : v = w := by
  cases v; cases w; simp_all

instance : DecidableEq Vocabulary := fun v w =>
  if h : v.names = w.names then isTrue (ext h) else isFalse fun e => h (e ▸ rfl)

/-- Puts a name at its place in a list that is in order, unless it is there. -/
def place (name : String) : List String → List String
  | [] => [name]
  | m :: ms =>
    if byteLt name m then name :: m :: ms
    else if name = m then m :: ms
    else m :: place name ms

theorem mem_place {name n : String} {ms : List String} :
    n ∈ place name ms ↔ n = name ∨ n ∈ ms := by
  induction ms with
  | nil => simp [place]
  | cons m ms ih => grind [place]

theorem pairwise_place {name : String} {ms : List String}
    (h : ms.Pairwise fun a b => byteLt a b = true) :
    (place name ms).Pairwise fun a b => byteLt a b = true := by
  induction ms with
  | nil => simp [place]
  | cons m ms ih =>
    obtain ⟨hm, hs⟩ := List.pairwise_cons.mp h
    simp only [place]
    split
    next hlt =>
      refine List.pairwise_cons.mpr ⟨fun n hn => ?_, h⟩
      rcases List.mem_cons.mp hn with rfl | hn
      · exact hlt
      · exact byteLt_trans hlt (hm n hn)
    next hlt =>
      split
      · exact h
      next hne =>
        have hml : byteLt m name = true := by
          cases hc : byteLt m name with
          | true => rfl
          | false => exact absurd (eq_of_not_byteLt (by simpa using hlt) hc) hne
        refine List.pairwise_cons.mpr ⟨fun n hn => ?_, ih hs⟩
        rcases mem_place.mp hn with rfl | hn
        · exact hml
        · exact hm n hn

protected def empty : Vocabulary := ⟨[], .nil, List.not_mem_nil⟩

instance : Inhabited Vocabulary := ⟨.empty⟩

def size (v : Vocabulary) : Nat := v.names.length

def isEmpty (v : Vocabulary) : Bool := v.names.isEmpty

def contains (v : Vocabulary) (name : String) : Bool := v.names.contains name

/-- Adds a name; the empty name is ignored. -/
def insert (v : Vocabulary) (name : String) : Vocabulary :=
  if h : name = "" then v
  else
    ⟨place name v.names, pairwise_place v.sorted, fun hm =>
      (mem_place.mp hm).elim (fun e => h e.symm) v.nonempty⟩

/-- Whether inserting the name adds it. -/
def isNew (v : Vocabulary) (name : String) : Bool := name != "" && !v.contains name

def extend (v : Vocabulary) (names : List String) : Vocabulary := names.foldl insert v

def ofList (names : List String) : Vocabulary := Vocabulary.empty.extend names

def merge (v w : Vocabulary) : Vocabulary := v.extend w.names

/-- The nearest name to `needle`, and the first in order among equally near ones. -/
def closestIn (needle : String) (best : String) (distance : Nat) : List String → String
  | [] => best
  | name :: names =>
    let d := EditDistance.between needle name
    if d < distance then closestIn needle name d names else closestIn needle best distance names

def closest? (v : Vocabulary) (needle : String) : Option String :=
  match v.names with
  | [] => none
  | name :: names => some (closestIn needle name (EditDistance.between needle name) names)

theorem mem_insert {v : Vocabulary} {name n : String} :
    n ∈ (v.insert name).names ↔ n ∈ v.names ∨ (n = name ∧ name ≠ "") := by
  unfold insert
  split
  next h => simp [h]
  next h => simp [mem_place, h, or_comm]

theorem mem_extend {v : Vocabulary} {names : List String} {n : String} :
    n ∈ (v.extend names).names ↔ n ∈ v.names ∨ n ∈ names ∧ n ≠ "" := by
  unfold extend
  induction names generalizing v with
  | nil => simp
  | cons name names ih =>
    rw [List.foldl_cons, ih, mem_insert, List.mem_cons]
    grind

theorem mem_ofList {names : List String} {n : String} :
    n ∈ (ofList names).names ↔ n ∈ names ∧ n ≠ "" := by
  rw [ofList, mem_extend]
  simp [Vocabulary.empty]

theorem mem_merge {v w : Vocabulary} {n : String} :
    n ∈ (v.merge w).names ↔ n ∈ v.names ∨ n ∈ w.names := by
  rw [merge, mem_extend]
  constructor
  · rintro (known | ⟨known, _⟩)
    · exact .inl known
    · exact .inr known
  · rintro (known | known)
    · exact .inl known
    · exact .inr ⟨known, fun empty => w.nonempty (empty ▸ known)⟩

end Vocabulary

end TitleLint
