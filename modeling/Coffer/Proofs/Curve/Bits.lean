import Mathlib.Data.Nat.Bitwise
import Coffer.Curve.Field

/-!
# Proofs/Curve/Bits — what a walk over the bits of a number computes

Powers and multiples are computed by a walk over the bits of a number, highest first.  Whatever the
walk does, it has to be looked at for one bit only (`foldl_bits`): it doubles the number reached so
far and adds the bit.
-/

namespace Coffer.Curve

/-- The lowest bit of a number comes last. -/
theorem bits_succ (width value : Nat) :
    bits (width + 1) value = bits width (value / 2) ++ [value.testBit 0] := by
  rw [bits, List.range_succ_eq_map, List.reverse_cons, List.map_append, ← List.map_reverse,
    List.map_map, bits]
  congr 1
  refine List.map_congr_left fun index _ => ?_
  rw [Function.comp_apply, Nat.testBit_succ]

/-- **A walk over bits**: if its start stands for zero, and every step takes what stands for a
number to what stands for twice that number plus the bit, then its end stands for the number. -/
theorem foldl_bits {α : Type} {step : α → Bool → α} {start : α} (Stands : α → Nat → Prop)
    (hstart : Stands start 0)
    (hstep : ∀ sum number bit, Stands sum number → Stands (step sum bit) (2 * number + bit.toNat))
    {width value : Nat} (h : value < 2 ^ width) :
    Stands ((bits width value).foldl step start) value := by
  induction width generalizing value with
  | zero =>
    obtain rfl : value = 0 := by simpa using h
    exact hstart
  | succ width ih =>
    have hhalf : value / 2 < 2 ^ width := by
      rw [Nat.div_lt_iff_lt_mul (by decide), ← pow_succ]
      exact h
    have hlast := hstep _ _ (value.testBit 0) (ih hhalf)
    have hvalue : 2 * (value / 2) + (value.testBit 0).toNat = value := by
      rw [Nat.toNat_testBit, pow_zero, Nat.div_one]
      omega
    rw [hvalue] at hlast
    rw [bits_succ, List.foldl_append]
    exact hlast

end Coffer.Curve
