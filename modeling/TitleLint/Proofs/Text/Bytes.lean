import Mathlib.Data.List.Induction
import TitleLint.Text.Bytes

namespace TitleLint.Text

theorem bytes_ofList (cs : List Char) :
    bytes (String.ofList cs) = cs.flatMap String.utf8EncodeChar := by
  rw [bytes, String.toByteArray_ofList, List.utf8Encode, List.toList_data_toByteArray]

theorem bytes_eq (s : String) : bytes s = s.toList.flatMap String.utf8EncodeChar := by
  rw [← bytes_ofList, String.ofList_toList]

theorem utf8EncodeChar_of_ascii {d : Char} (ascii : d.val.toNat < 128) :
    String.utf8EncodeChar d = [UInt8.ofNat d.val.toNat] := by
  have single : d.val.toNat ≤ 127 := by omega
  simp only [String.utf8EncodeChar, single, if_true]

/-- A character outside ASCII ends in a byte of 128 or more. -/
theorem getLast?_utf8EncodeChar {c : Char} (other : ¬ c.val.toNat < 128) :
    ∃ n, (String.utf8EncodeChar c).getLast? = some (UInt8.ofNat (n % 64 + 128)) := by
  have long : ¬ c.val.toNat ≤ 127 := by omega
  simp only [String.utf8EncodeChar, long, if_false]
  refine ⟨c.val.toNat, ?_⟩
  split
  next => rfl
  next =>
    split
    next => rfl
    next => rfl

theorem getLast?_append_utf8EncodeChar (bs : List UInt8) (c : Char) :
    (bs ++ String.utf8EncodeChar c).getLast? = (String.utf8EncodeChar c).getLast? := by
  cases own : (String.utf8EncodeChar c).getLast? with
  | none => exact absurd (List.getLast?_eq_none_iff.mp own) String.utf8EncodeChar_ne_nil
  | some b => rw [List.getLast?_append, own, Option.some_or]

theorem eq_of_getLast?_utf8EncodeChar {c d : Char} (ascii : d.val.toNat < 128)
    (last : (String.utf8EncodeChar c).getLast? = (String.utf8EncodeChar d).getLast?) : c = d := by
  rw [utf8EncodeChar_of_ascii ascii, List.getLast?_singleton] at last
  by_cases own : c.val.toNat < 128
  · rw [utf8EncodeChar_of_ascii own, List.getLast?_singleton, Option.some.injEq] at last
    have same := congrArg UInt8.toNat last
    simp only [UInt8.toNat_ofNat'] at same
    exact Char.ext (UInt32.toNat_inj.mp (by omega))
  · obtain ⟨n, high⟩ := getLast?_utf8EncodeChar own
    rw [high, Option.some.injEq] at last
    have same := congrArg UInt8.toNat last
    simp only [UInt8.toNat_ofNat'] at same
    omega

/-- An ASCII text that ends a text byte by byte ends it character by character. -/
theorem suffix_of_flatMap_suffix {tail cs : List Char} (ascii : ∀ d ∈ tail, d.val.toNat < 128)
    (h : tail.flatMap String.utf8EncodeChar <:+ cs.flatMap String.utf8EncodeChar) : tail <:+ cs := by
  induction tail using List.reverseRecOn generalizing cs with
  | nil => exact List.nil_suffix
  | append_singleton tail d ih =>
    have last := ascii d (by simp)
    obtain ⟨front, eq⟩ := h
    rw [List.flatMap_append, List.flatMap_singleton, ← List.append_assoc] at eq
    cases cs using List.reverseRecOn with
    | nil =>
      simp only [List.flatMap_nil, List.append_eq_nil_iff] at eq
      exact absurd eq.2 String.utf8EncodeChar_ne_nil
    | append_singleton cs c =>
      rw [List.flatMap_append, List.flatMap_singleton] at eq
      have ends := congrArg List.getLast? eq
      rw [getLast?_append_utf8EncodeChar, getLast?_append_utf8EncodeChar] at ends
      obtain rfl := eq_of_getLast?_utf8EncodeChar last ends.symm
      rw [List.append_cancel_right_eq] at eq
      have before : tail <:+ cs := ih (fun e mem => ascii e (by simp [mem])) ⟨front, eq⟩
      exact (List.suffix_append_inj_of_length_eq rfl).mpr ⟨before, rfl⟩

theorem suffix_of_bytes {tail s : String} (ascii : tail.toList.all (·.val.toNat < 128) = true)
    (h : bytes tail <:+ bytes s) : tail.toList <:+ s.toList := by
  have each : ∀ d ∈ tail.toList, d.val.toNat < 128 := by simpa using ascii
  rw [bytes_eq, bytes_eq] at h
  exact suffix_of_flatMap_suffix each h

theorem bytesLt_append (front s t : List UInt8) :
    bytesLt (front ++ s) (front ++ t) = bytesLt s t := by
  induction front with
  | nil => rfl
  | cons b front ih => simp [bytesLt, ih]

/-- Texts that differ first in two ASCII characters are in the order of these. -/
theorem byteLt_of_ascii {c d : Char} (lt : c.val.toNat < d.val.toNat) (ascii : d.val.toNat < 128)
    (front s t : List Char) :
    byteLt (String.ofList (front ++ c :: s)) (String.ofList (front ++ d :: t)) = true := by
  simp only [byteLt, bytes_ofList, List.flatMap_append, List.flatMap_cons, bytesLt_append,
    utf8EncodeChar_of_ascii ascii, utf8EncodeChar_of_ascii (Nat.lt_trans lt ascii),
    List.singleton_append, bytesLt, UInt8.toNat_ofNat', Bool.or_eq_true, decide_eq_true_eq]
  omega

end TitleLint.Text
