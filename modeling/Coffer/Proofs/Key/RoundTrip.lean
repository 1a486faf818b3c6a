import Coffer.Key.Public
import Coffer.Proofs.Bytes
import Coffer.Proofs.Curve.Field

/-!
# Proofs/Key/RoundTrip — public keys read back

The first coordinate and the parity of the second determine a point of the curve: the second
coordinate is a root, the other root is its negative, and only one of the two is odd.  So a public
key reads back from its bytes, and no two keys share theirs.
-/

namespace Coffer

open Curve

namespace Curve

variable {x y : Coordinate}

/-- **Of a coordinate and its negative, one is odd**, unless both are zero. -/
theorem Coordinate.neg_val_mod_two (h : y ≠ 0) : (-y).val % 2 = 1 - y.val % 2 := by
  have hlt := y.isLt
  have hpos : 0 < y.val := Nat.pos_of_ne_zero fun hzero => h (Fin.ext hzero)
  have hodd : prime % 2 = 1 := by decide
  have hneg : (-y).val = prime - y.val := by
    rw [Fin.neg_def]
    exact Nat.mod_eq_of_lt (by omega)
  omega

end Curve

namespace PublicKey

variable {x y : Coordinate}

theorem ofBigEndian_coordinateBytes (x : Coordinate) :
    Bytes.ofBigEndian (coordinateBytes x) = x.val := by
  have hlt : x.val < 256 ^ 32 := x.isLt.trans (by decide)
  rw [coordinateBytes, Bytes.ofBigEndian_bigEndian, Nat.mod_eq_of_lt hlt]

theorem coordinate?_coordinateBytes (x : Coordinate) :
    coordinate? (coordinateBytes x) = some x := by
  rw [coordinate?, ofBigEndian_coordinateBytes]
  exact dif_pos x.isLt

theorem length_coordinateBytes (x : Coordinate) : (coordinateBytes x).length = 32 :=
  Bytes.length_bigEndian _ _

theorem length_encode (key : PublicKey) : key.encode.length = 33 := by
  rw [encode, List.length_cons, length_coordinateBytes]

/-- **A point is known by its first coordinate and the parity of its second.** -/
theorem decompress?_eq (point : FinitePoint) :
    decompress? (decide (point.y.val % 2 = 1)) point.x = some point := by
  obtain ⟨x, y, honCurve⟩ := point
  obtain ⟨root, hroot, hcases⟩ := Coordinate.root?_mul_self y
  have hy : (if (root.val % 2 == 1) == decide (y.val % 2 = 1) then root else -root) = y := by
    obtain rfl | rfl := hcases
    · rw [if_pos (by simp [beq_eq_decide])]
    · by_cases hzero : y = 0
      · rw [hzero]
        rfl
      · have hparity := Coordinate.neg_val_mod_two hzero
        rw [if_neg, neg_neg]
        rw [hparity]
        rcases Nat.mod_two_eq_zero_or_one y.val with h | h <;> simp [h]
  rw [decompress?, ← honCurve, hroot]
  change FinitePoint.ofCoordinates? x (if _ then root else -root) = _
  rw [hy]
  exact dif_pos honCurve

/-- The tag tells whether the second coordinate is odd. -/
theorem point?_tag (point : FinitePoint) :
    point? (UInt8.ofNat (2 + point.y.val % 2)) (coordinateBytes point.x) = some point := by
  have htag : UInt8.ofNat (2 + point.y.val % 2) ≠ 4
      ∧ decide (UInt8.ofNat (2 + point.y.val % 2) = 3) = decide (point.y.val % 2 = 1) := by
    rcases Nat.mod_two_eq_zero_or_one point.y.val with h | h
    · rw [h]
      decide
    · rw [h]
      decide
  rw [point?, if_neg htag.1, coordinate?_coordinateBytes, Option.bind_eq_bind, Option.bind_some,
    htag.2, decompress?_eq]

theorem tag_eq_two_or_three (y : Coordinate) :
    UInt8.ofNat (2 + y.val % 2) = 2 ∨ UInt8.ofNat (2 + y.val % 2) = 3 := by
  rcases Nat.mod_two_eq_zero_or_one y.val with h | h
  · exact .inl (by rw [h]; rfl)
  · exact .inr (by rw [h]; rfl)

/-- **A public key reads back.** -/
theorem decode_encode (key : PublicKey) : decode key.encode = .ok key := by
  have hsize : (coordinateBytes key.point.x).length + 1 = 33 := by rw [length_coordinateBytes]
  simp only [encode, decode]
  rw [if_pos (.inl ⟨hsize, tag_eq_two_or_three key.point.y⟩), point?_tag]

theorem encode_injective : Function.Injective encode := by
  intro first second h
  have hread := decode_encode first
  rw [h, decode_encode second] at hread
  exact (Except.ok.inj hread).symm

end PublicKey

end Coffer
