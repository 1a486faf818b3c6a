import Mathlib.NumberTheory.LegendreSymbol.Basic
import Coffer.Proofs.Curve.Primality

/-!
# Proofs/Curve/Field — coordinates are the elements of a field

The **residue** of a coordinate is that coordinate as an element of the field with `prime` elements.
Taking residues loses nothing and goes along with the arithmetic of coordinates, so inverses are
inverses (`residue_inverse`) and roots are roots (`root?_mul_self`).
-/

namespace Coffer.Curve

instance : Fact prime.Prime := ⟨prime_prime⟩

namespace Coordinate

/-- **The residue** of a coordinate. -/
def residue (x : Coordinate) : ZMod prime := (x.val : ZMod prime)

variable (x y : Coordinate)

/-! ## Arithmetic -/

theorem residue_injective : Function.Injective residue := by
  intro x y h
  have hmod := (ZMod.natCast_eq_natCast_iff' _ _ _).1 h
  rw [Nat.mod_eq_of_lt x.isLt, Nat.mod_eq_of_lt y.isLt] at hmod
  exact Fin.ext hmod

@[simp] theorem residue_inj {x y : Coordinate} : residue x = residue y ↔ x = y :=
  residue_injective.eq_iff

@[simp] theorem residue_zero : residue 0 = 0 := Nat.cast_zero

@[simp] theorem residue_one : residue 1 = 1 := Nat.cast_one

@[simp] theorem residue_ofNat (n : Nat) [n.AtLeastTwo] :
    residue (no_index (OfNat.ofNat n : Coordinate)) = OfNat.ofNat n :=
  ZMod.natCast_mod n prime

@[simp] theorem residue_add : residue (x + y) = residue x + residue y := by
  rw [residue, Fin.val_add, ZMod.natCast_mod, Nat.cast_add]
  rfl

@[simp] theorem residue_mul : residue (x * y) = residue x * residue y := by
  rw [residue, Fin.val_mul, ZMod.natCast_mod, Nat.cast_mul]
  rfl

@[simp] theorem residue_sub : residue (x - y) = residue x - residue y := by
  rw [residue, Fin.sub_def, ZMod.natCast_mod, Nat.cast_add, Nat.cast_sub y.isLt.le,
    ZMod.natCast_self]
  change 0 - residue y + residue x = _
  ring

@[simp] theorem residue_neg : residue (-x) = -residue x := by
  rw [residue, Fin.neg_def, ZMod.natCast_mod, Nat.cast_sub x.isLt.le, ZMod.natCast_self, zero_sub]
  rfl

@[simp] theorem residue_eq_zero_iff {x : Coordinate} : residue x = 0 ↔ x = 0 := by
  rw [← residue_zero, residue_inj]

/-! ## Powers, inverses and roots -/

theorem residue_power {exponent : Nat} (h : exponent < 2 ^ 256) :
    residue (power x exponent) = residue x ^ exponent := by
  refine foldl_bits (fun value number => residue value = residue x ^ number) residue_one ?_ h
  intro value number bit hvalue
  have hsquare : residue (value * value) = residue x ^ (2 * number) := by
    rw [residue_mul, hvalue, two_mul, pow_add]
  cases bit with
  | false => exact hsquare
  | true => rw [if_pos rfl, residue_mul, hsquare, Bool.toNat_true, pow_succ]

/-- **Inverses are inverses**, and zero has itself. -/
@[simp] theorem residue_inverse : residue (inverse x) = (residue x)⁻¹ := by
  rw [inverse, residue_power _ (by decide)]
  by_cases hzero : residue x = 0
  · rw [hzero, inv_zero, zero_pow (by decide)]
  · have hone := ZMod.pow_card_sub_one_eq_one hzero
    have hsplit : residue x ^ (prime - 1) = residue x ^ (prime - 2) * residue x := by
      rw [← pow_succ]
      rfl
    exact eq_inv_of_mul_eq_one_left (hsplit.symm.trans hone)

theorem residue_two_ne_zero : (2 : ZMod prime) ≠ 0 := by
  rw [← residue_ofNat 2, Ne, residue_eq_zero_iff]
  decide

/-- **A square has a root**: the one it was made from, or its negative. -/
theorem root?_mul_self : ∃ root, root? (y * y) = some root ∧ (root = y ∨ root = -y) := by
  have hpower : residue (power (y * y) ((prime + 1) / 4))
      = residue y ^ (prime / 2) * residue y := by
    rw [residue_power _ (by decide), residue_mul, ← pow_two, ← pow_mul, ← pow_succ]
    rfl
  have hcases : power (y * y) ((prime + 1) / 4) = y ∨ power (y * y) ((prime + 1) / 4) = -y := by
    by_cases hzero : residue y = 0
    · left
      rw [← residue_inj, hpower, hzero, mul_zero]
    · rcases ZMod.pow_div_two_eq_neg_one_or_one prime hzero with hone | hneg
      · left
        rw [← residue_inj, hpower, hone, one_mul]
      · right
        rw [← residue_inj, hpower, hneg, residue_neg, neg_one_mul]
  refine ⟨power (y * y) ((prime + 1) / 4), ?_, hcases⟩
  have hsquare : power (y * y) ((prime + 1) / 4) * power (y * y) ((prime + 1) / 4) = y * y := by
    rcases hcases with h | h
    · rw [h]
    · rw [h, ← residue_inj]
      simp
  rw [root?]
  exact if_pos hsquare

end Coordinate

end Coffer.Curve
