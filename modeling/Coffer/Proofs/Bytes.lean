import Mathlib.Tactic.Ring
import Coffer.Bytes

/-!
# Proofs/Bytes — numbers come back from their bytes

A number that fits comes back from its bytes in either order, and taking the exclusive or with the
same bytes twice changes nothing.  Bytes one after the other are cut in the first or behind it
(`Bytes.cut_append`).
-/

namespace Coffer.Bytes

/-! ## Numbers -/

@[simp] theorem littleEndian_succ (width value : Nat) :
    littleEndian (width + 1) value = UInt8.ofNat value :: littleEndian width (value / 256) := rfl

@[simp] theorem ofLittleEndian_cons (byte : UInt8) (bytes : Bytes) :
    ofLittleEndian (byte :: bytes) = byte.toNat + 256 * ofLittleEndian bytes := rfl

/-- **A number on `width` bytes, lowest first**, comes back as far as it fits. -/
theorem ofLittleEndian_littleEndian (width value : Nat) :
    ofLittleEndian (littleEndian width value) = value % 256 ^ width := by
  induction width generalizing value with
  | zero => rw [pow_zero, Nat.mod_one]; rfl
  | succ width ih =>
    have hbyte : (UInt8.ofNat value).toNat = value % 256 := UInt8.toNat_ofNat'
    rw [littleEndian_succ, ofLittleEndian_cons, ih, hbyte, pow_succ', Nat.mod_mul]

/-- Bytes hold no larger number than there is room for. -/
theorem ofLittleEndian_lt (bytes : Bytes) : ofLittleEndian bytes < 256 ^ bytes.length := by
  induction bytes with
  | nil => exact Nat.one_pos
  | cons byte bytes ih =>
    have hbyte := byte.toNat_lt
    rw [ofLittleEndian_cons, List.length_cons, pow_succ]
    omega

/-- **Bytes come back from their number.** -/
theorem littleEndian_ofLittleEndian (bytes : Bytes) :
    littleEndian bytes.length (ofLittleEndian bytes) = bytes := by
  induction bytes with
  | nil => rfl
  | cons byte bytes ih =>
    have hbyte := byte.toNat_lt
    have hlow : UInt8.ofNat (byte.toNat + 256 * ofLittleEndian bytes) = byte := by
      apply UInt8.toNat.inj
      rw [UInt8.toNat_ofNat']
      omega
    have hhigh : (byte.toNat + 256 * ofLittleEndian bytes) / 256 = ofLittleEndian bytes := by omega
    rw [List.length_cons, littleEndian_succ, ofLittleEndian_cons, hlow, hhigh, ih]

/-- **Numbers that fit are told apart** by their bytes. -/
theorem eq_of_littleEndian_eq {width value other : Nat} (hvalue : value < 256 ^ width)
    (hother : other < 256 ^ width) (h : littleEndian width value = littleEndian width other) :
    value = other := by
  have hback := congrArg ofLittleEndian h
  rwa [ofLittleEndian_littleEndian, ofLittleEndian_littleEndian, Nat.mod_eq_of_lt hvalue,
    Nat.mod_eq_of_lt hother] at hback

theorem ofBigEndian_eq (bytes : Bytes) : ofBigEndian bytes = ofLittleEndian bytes.reverse := by
  rw [ofBigEndian, ofLittleEndian, List.foldr_reverse]
  simp only [Nat.add_comm]

/-- **A number on `width` bytes, highest first**, comes back as far as it fits. -/
theorem ofBigEndian_bigEndian (width value : Nat) :
    ofBigEndian (bigEndian width value) = value % 256 ^ width := by
  rw [ofBigEndian_eq, bigEndian, List.reverse_reverse, ofLittleEndian_littleEndian]

theorem bigEndian_ofBigEndian (bytes : Bytes) :
    bigEndian bytes.length (ofBigEndian bytes) = bytes := by
  rw [bigEndian, ofBigEndian_eq, ← List.length_reverse, littleEndian_ofLittleEndian,
    List.reverse_reverse]

/-! ## Exclusive or -/

theorem length_xor (a b : Bytes) : (xor a b).length = min a.length b.length := by
  rw [xor, List.length_zipWith]

/-- **The exclusive or with the same bytes twice changes nothing**, as far as they reach. -/
theorem xor_xor_cancel {a b : Bytes} (h : a.length ≤ b.length) : xor (xor a b) b = a := by
  induction a generalizing b with
  | nil => rfl
  | cons x xs ih =>
    cases b with
    | nil => simp at h
    | cons y ys =>
      have htail : xor (xor xs ys) ys = xs := ih (by simpa using h)
      have hhead : x ^^^ y ^^^ y = x := by rw [UInt8.xor_assoc, UInt8.xor_self, UInt8.xor_zero]
      rw [xor, xor, List.zipWith_cons_cons, List.zipWith_cons_cons, hhead]
      exact congrArg (x :: ·) htail

/-! ## Cuts -/

/-- **Where bytes one after the other are cut**: inside the first, or behind it. -/
theorem cut_append {first second piece missing : Bytes}
    (h : first ++ second = piece ++ missing) :
    (∃ rest, rest ≠ [] ∧ first = piece ++ rest)
      ∨ ∃ more, piece = first ++ more ∧ second = more ++ missing := by
  rcases List.append_eq_append_iff.1 h with hbehind | ⟨rest, hfirst, hmissing⟩
  · exact .inr hbehind
  · by_cases hrest : rest = []
    · rw [hrest, List.append_nil] at hfirst
      rw [hrest, List.nil_append] at hmissing
      exact .inr ⟨[], by rw [hfirst, List.append_nil], hmissing.symm⟩
    · exact .inl ⟨rest, hrest, hfirst⟩

end Coffer.Bytes
