namespace TitleLint.Text

def bytes (s : String) : List UInt8 := s.toByteArray.data.toList

/-- Lexicographic order of byte strings; a proper beginning comes first. -/
def bytesLt : List UInt8 → List UInt8 → Bool
  | _, [] => false
  | [], _ :: _ => true
  | a :: as, b :: bs => a.toNat < b.toNat || (a.toNat == b.toNat && bytesLt as bs)

def byteLt (s t : String) : Bool := bytesLt (bytes s) (bytes t)

theorem bytes_inj {s t : String} (h : bytes s = bytes t) : s = t := by
  simp only [bytes, Array.toList_inj] at h
  exact String.toByteArray_inj.mp (ByteArray.ext h)

theorem bytesLt_irrefl (s : List UInt8) : bytesLt s s = false := by
  induction s with
  | nil => rfl
  | cons a as ih => simp [bytesLt, ih]

theorem bytesLt_trans {s t u : List UInt8} (h : bytesLt s t = true) (h' : bytesLt t u = true) :
    bytesLt s u = true := by
  induction s generalizing t u with
  | nil =>
    cases t with
    | nil => simp [bytesLt] at h
    | cons b bs => cases u <;> simp_all [bytesLt]
  | cons a as ih =>
    cases t with
    | nil => simp [bytesLt] at h
    | cons b bs =>
      cases u with
      | nil => simp [bytesLt] at h'
      | cons c cs =>
        simp only [bytesLt, Bool.or_eq_true, decide_eq_true_eq, Bool.and_eq_true, beq_iff_eq] at h h' ⊢
        rcases h with h | ⟨h, hs⟩ <;> rcases h' with h' | ⟨h', hs'⟩
        · exact .inl (by omega)
        · exact .inl (by omega)
        · exact .inl (by omega)
        · exact .inr ⟨by omega, ih hs hs'⟩

theorem eq_of_not_bytesLt {s t : List UInt8} (h : bytesLt s t = false) (h' : bytesLt t s = false) :
    s = t := by
  induction s generalizing t with
  | nil => cases t <;> simp_all [bytesLt]
  | cons a as ih =>
    cases t with
    | nil => simp [bytesLt] at h'
    | cons b bs =>
      simp only [bytesLt, Bool.or_eq_false_iff, decide_eq_false_iff_not, Bool.and_eq_false_iff,
        beq_eq_false_iff_ne] at h h'
      have hab : a.toNat = b.toNat := by omega
      rw [UInt8.toNat_inj.mp hab, ih (h.2.resolve_left (by simpa using hab))
        (h'.2.resolve_left (by simpa using hab.symm))]

theorem byteLt_irrefl (s : String) : byteLt s s = false := bytesLt_irrefl _

theorem byteLt_trans {s t u : String} (h : byteLt s t = true) (h' : byteLt t u = true) :
    byteLt s u = true := bytesLt_trans h h'

theorem eq_of_not_byteLt {s t : String} (h : byteLt s t = false) (h' : byteLt t s = false) : s = t :=
  bytes_inj (eq_of_not_bytesLt h h')

end TitleLint.Text
