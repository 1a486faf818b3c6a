import Mathlib.AlgebraicGeometry.EllipticCurve.Affine.Point
import Mathlib.Tactic.FieldSimp
import Mathlib.Tactic.LinearCombination
import Coffer.Proofs.Curve.Field

/-!
# Proofs/Curve/Group — multiples are multiples in a group

The points of the curve form a commutative group.  A triple **stands for** a point of that group,
and doubling and adding triples doubles and adds the points (`stands_double`, `stands_add`), in
every special case.  So the walk over the bits of a scalar computes the multiple of a point
(`toGroup_multiple`), and multiples of multiples can be taken in either order.
-/

namespace Coffer.Curve

open Coordinate WeierstrassCurve.Affine

/-! ## The group -/

/-- The curve over the field of residues. -/
@[simps]
def curve : WeierstrassCurve.Affine (ZMod prime) := ⟨0, 0, 0, -3, residue constant⟩

theorem discriminant_ne_zero : curve.Δ ≠ 0 := by
  have hvalue : curve.Δ = residue (-(16 * (27 * (constant * constant) - 4 * 27))) := by
    simp only [WeierstrassCurve.Δ, WeierstrassCurve.b₂, WeierstrassCurve.b₄, WeierstrassCurve.b₆,
      WeierstrassCurve.b₈, curve, residue_neg, residue_sub, residue_mul, residue_ofNat]
    ring
  rw [hvalue, Ne, residue_eq_zero_iff]
  decide +kernel

theorem equation_iff (x y : Coordinate) :
    curve.Equation (residue x) (residue y) ↔ OnCurve x y := by
  rw [WeierstrassCurve.Affine.equation_iff, OnCurve, ← residue_inj]
  simp only [curve, residue_add, residue_mul, residue_sub, residue_ofNat]
  constructor <;> intro h <;> linear_combination h

/-- The point of the group that a finite point is. -/
def FinitePoint.toGroup (point : FinitePoint) : curve.Point :=
  .some (residue point.x) (residue point.y)
    ((equation_iff_nonsingular_of_Δ_ne_zero discriminant_ne_zero).1
      ((equation_iff point.x point.y).2 point.onCurve))

/-- The point of the group that a point is. -/
def Point.toGroup : Point → curve.Point
  | .identity => 0
  | .finite point => point.toGroup

theorem Point.toGroup_injective : Function.Injective Point.toGroup := by
  intro p q h
  cases p with
  | identity =>
    cases q with
    | identity => rfl
    | finite q => simp [toGroup, FinitePoint.toGroup, WeierstrassCurve.Affine.Point.zero_def] at h
  | finite p =>
    cases q with
    | identity => simp [toGroup, FinitePoint.toGroup, WeierstrassCurve.Affine.Point.zero_def] at h
    | finite q =>
      obtain ⟨px, py, hp⟩ := p
      obtain ⟨qx, qy, hq⟩ := q
      simp only [toGroup, FinitePoint.toGroup, Point.some.injEq, residue_inj] at h
      obtain ⟨rfl, rfl⟩ := h
      rfl

/-! ## Triples -/

namespace Triple

/-- **A triple stands for** the point `(x / z², y / z³)`, or for the identity when `z` is zero. -/
def Stands (t : Triple) : curve.Point → Prop
  | .zero => residue t.z = 0
  | .some x y _ =>
    residue t.z ≠ 0 ∧ residue t.x = x * residue t.z ^ 2 ∧ residue t.y = y * residue t.z ^ 3

theorem stands_identity : identity.Stands 0 := residue_zero

theorem Stands.eq_zero_iff {t : Triple} {p : curve.Point} (h : t.Stands p) : t.z = 0 ↔ p = 0 := by
  rw [← residue_eq_zero_iff]
  cases p with
  | zero => exact iff_of_true h rfl
  | some x y hp => exact iff_of_false h.1 (Point.some_ne_zero hp)

theorem stands_ofFinite (point : FinitePoint) : (ofFinite point).Stands point.toGroup := by
  simp [Stands, ofFinite, FinitePoint.toGroup]

theorem negY_eq (x y : ZMod prime) : curve.negY x y = -y := by
  rw [negY, curve_a₁, curve_a₃, zero_mul, sub_zero, sub_zero]

/-- Only a point with second coordinate zero is its own negative. -/
theorem eq_negY_iff {x y : ZMod prime} : y = curve.negY x y ↔ y = 0 := by
  rw [negY_eq]
  constructor
  · intro h
    have hdouble : 2 * y = 0 := by linear_combination h
    exact (mul_eq_zero.1 hdouble).resolve_left residue_two_ne_zero
  · rintro rfl
    exact neg_zero.symm

/-- The slope of the tangent. -/
theorem slope_self {x y : ZMod prime} (h : y ≠ 0) :
    curve.slope x x y y = (3 * x ^ 2 - 3) / (2 * y) := by
  have hdouble : y - -y = 2 * y := by ring
  rw [slope_of_Y_ne rfl (mt eq_negY_iff.1 h), negY_eq, hdouble, curve_a₁, curve_a₂, curve_a₄]
  ring

/-- **Doubling a triple doubles the point**, also a point that is its own negative. -/
theorem stands_double {t : Triple} {p : curve.Point} (h : t.Stands p) :
    (double t).Stands (p + p) := by
  cases p with
  | zero =>
    change residue (2 * (t.y * t.z)) = 0
    have hz : residue t.z = 0 := h
    rw [residue_mul, residue_mul, hz, mul_zero, mul_zero]
  | some x y hp =>
    obtain ⟨hz, hx, hy⟩ := h
    by_cases hzero : y = 0
    · rw [Point.add_self_of_Y_eq (eq_negY_iff.2 hzero)]
      change residue (2 * (t.y * t.z)) = 0
      rw [residue_mul, residue_mul, hy, hzero, zero_mul, zero_mul, mul_zero]
    · have htwo := residue_two_ne_zero
      have hdz : residue (double t).z = 2 * (y * residue t.z ^ 3 * residue t.z) := by
        simp [double, hy]
      rw [Point.add_self_of_Y_ne (mt eq_negY_iff.1 hzero)]
      refine ⟨?_, ?_, ?_⟩
      · rw [hdz]
        simp [hzero, hz, htwo]
      · rw [hdz, addX, slope_self hzero]
        simp only [double, residue_sub, residue_mul, residue_add, residue_ofNat, hx, hy, curve]
        field_simp
        ring
      · rw [hdz, addY, negAddY, negY, addX, slope_self hzero]
        simp only [double, residue_sub, residue_mul, residue_add, residue_ofNat, hx, hy, curve]
        field_simp
        ring

section

variable {t u : Triple} {x₁ y₁ x₂ y₂ : ZMod prime} {hp : curve.Nonsingular x₁ y₁}
  {hq : curve.Nonsingular x₂ y₂} (ht : t.Stands (.some x₁ y₁ hp)) (hu : u.Stands (.some x₂ y₂ hq))

include ht hu

/-- How far apart the first coordinates are. -/
theorem residue_first_difference :
    residue (u.x * (t.z * t.z) - t.x * (u.z * u.z))
      = (x₂ - x₁) * (residue t.z * residue u.z) ^ 2 := by
  simp only [residue_sub, residue_mul, ht.2.1, hu.2.1]
  ring

/-- How far apart the second coordinates are. -/
theorem residue_second_difference :
    residue (u.y * (t.z * (t.z * t.z)) - t.y * (u.z * (u.z * u.z)))
      = (y₂ - y₁) * (residue t.z * residue u.z) ^ 3 := by
  simp only [residue_sub, residue_mul, ht.2.2, hu.2.2]
  ring

theorem first_difference_eq_zero_iff :
    u.x * (t.z * t.z) - t.x * (u.z * u.z) = 0 ↔ x₁ = x₂ := by
  rw [← residue_eq_zero_iff, residue_first_difference ht hu, mul_eq_zero, sub_eq_zero,
    or_iff_left (pow_ne_zero 2 (mul_ne_zero ht.1 hu.1)), eq_comm]

theorem second_difference_eq_zero_iff :
    u.y * (t.z * (t.z * t.z)) - t.y * (u.z * (u.z * u.z)) = 0 ↔ y₁ = y₂ := by
  rw [← residue_eq_zero_iff, residue_second_difference ht hu, mul_eq_zero, sub_eq_zero,
    or_iff_left (pow_ne_zero 3 (mul_ne_zero ht.1 hu.1)), eq_comm]

/-- Adding points one above the other: they are equal or opposite. -/
theorem stands_add_of_X_eq (hx : x₁ = x₂) :
    (add t u).Stands (.some x₁ y₁ hp + .some x₂ y₂ hq) := by
  have hfirst := (first_difference_eq_zero_iff ht hu).2 hx
  have hsecond := second_difference_eq_zero_iff ht hu
  simp only [add, if_neg (mt residue_eq_zero_iff.2 ht.1), if_neg (mt residue_eq_zero_iff.2 hu.1)]
  rw [if_pos hfirst]
  subst hx
  by_cases hy : y₁ = y₂
  · rw [if_pos (hsecond.2 hy)]
    subst hy
    exact stands_double ht
  · rw [if_neg (mt hsecond.1 hy),
      Point.add_of_Y_eq rfl ((Y_eq_of_X_eq hp.1 hq.1 rfl).resolve_left hy)]
    exact stands_identity

/-- Adding points that are not one above the other: the line through them. -/
theorem stands_add_of_X_ne (hx : x₁ ≠ x₂) :
    (add t u).Stands (.some x₁ y₁ hp + .some x₂ y₂ hq) := by
  have hfirst := mt (first_difference_eq_zero_iff ht hu).1 hx
  simp only [add, if_neg (mt residue_eq_zero_iff.2 ht.1), if_neg (mt residue_eq_zero_iff.2 hu.1)]
  rw [if_neg hfirst, Point.add_of_X_ne hx]
  obtain ⟨hz₁, hx₁, hy₁⟩ := ht
  obtain ⟨hz₂, hx₂, hy₂⟩ := hu
  have hdiff : x₁ - x₂ ≠ 0 := sub_ne_zero.2 hx
  refine ⟨?_, ?_, ?_⟩
  · rw [residue_mul, residue_mul]
    exact mul_ne_zero (mt residue_eq_zero_iff.1 hfirst) (mul_ne_zero hz₁ hz₂)
  · rw [addX, slope_of_X_ne hx]
    simp only [residue_sub, residue_mul, residue_ofNat, hx₁, hx₂, hy₁, hy₂, curve_a₁, curve_a₂]
    field_simp
    ring
  · rw [addY, negAddY, negY, addX, slope_of_X_ne hx]
    simp only [residue_sub, residue_mul, residue_ofNat, hx₁, hx₂, hy₁, hy₂, curve_a₁, curve_a₂,
      curve_a₃]
    field_simp
    ring

end

/-- **Adding triples adds the points**, also when they are equal, opposite or the identity. -/
theorem stands_add {t u : Triple} {p q : curve.Point} (ht : t.Stands p) (hu : u.Stands q) :
    (add t u).Stands (p + q) := by
  by_cases htz : t.z = 0
  · rw [add, if_pos htz, ht.eq_zero_iff.1 htz, zero_add]
    exact hu
  by_cases huz : u.z = 0
  · rw [add, if_neg htz, if_pos huz, hu.eq_zero_iff.1 huz, add_zero]
    exact ht
  obtain _ | ⟨x₁, y₁, hp⟩ := p
  · exact absurd (ht.eq_zero_iff.2 rfl) htz
  obtain _ | ⟨x₂, y₂, hq⟩ := q
  · exact absurd (hu.eq_zero_iff.2 rfl) huz
  by_cases hx : x₁ = x₂
  · exact stands_add_of_X_eq ht hu hx
  · exact stands_add_of_X_ne ht hu hx

/-- **The point of a triple** is the one that the triple stands for. -/
theorem toGroup_toPoint {t : Triple} {p : curve.Point} (h : t.Stands p) :
    t.toPoint.toGroup = p := by
  by_cases hz : t.z = 0
  · rw [toPoint, if_pos hz, h.eq_zero_iff.1 hz]
    rfl
  obtain _ | ⟨x, y, hp⟩ := p
  · exact absurd (h.eq_zero_iff.2 rfl) hz
  obtain ⟨hne, hx, hy⟩ := h
  have hfirst : residue (t.x * (inverse t.z * inverse t.z)) = x := by
    simp only [residue_mul, residue_inverse, hx]
    field_simp
  have hsecond : residue (t.y * (inverse t.z * (inverse t.z * inverse t.z))) = y := by
    simp only [residue_mul, residue_inverse, hy]
    field_simp
  have honCurve : OnCurve (t.x * (inverse t.z * inverse t.z))
      (t.y * (inverse t.z * (inverse t.z * inverse t.z))) := by
    rw [← Curve.equation_iff, hfirst, hsecond]
    exact hp.1
  simp only [toPoint, if_neg hz, FinitePoint.ofCoordinates?, dif_pos honCurve]
  simp only [Point.toGroup, FinitePoint.toGroup, hfirst, hsecond]

theorem stands_multiple {scalar : Nat} (h : scalar < 2 ^ 256) (point : FinitePoint) :
    (multiple scalar (ofFinite point)).Stands (scalar • point.toGroup) := by
  refine foldl_bits (fun (sum : Triple) number => sum.Stands (number • point.toGroup)) ?_ ?_ h
  · rw [zero_nsmul]
    exact stands_identity
  · intro sum number bit hsum
    have hdouble := stands_double hsum
    rw [← two_nsmul, ← mul_nsmul'] at hdouble
    cases bit with
    | false => exact hdouble
    | true =>
      rw [Bool.toNat_true, succ_nsmul]
      exact stands_add hdouble (stands_ofFinite point)

end Triple

/-! ## Multiples -/

namespace FinitePoint

/-- **Multiples are multiples**, of any point and for any scalar of 256 bits. -/
theorem toGroup_multiple {scalar : Nat} (h : scalar < 2 ^ 256) (point : FinitePoint) :
    (point.multiple scalar).toGroup = scalar • point.toGroup :=
  Triple.toGroup_toPoint (Triple.stands_multiple h point)

theorem toGroup_ne_zero (point : FinitePoint) : point.toGroup ≠ 0 := Point.some_ne_zero _

/-- The base point generates as many points as the order says. -/
theorem addOrderOf_base : addOrderOf base.toGroup = order := by
  have : Fact order.Prime := ⟨prime_order⟩
  refine addOrderOf_eq_prime ?_ (toGroup_ne_zero base)
  have hmultiple : base.multiple order = .identity := by decide +kernel
  rw [← toGroup_multiple (by decide) base, hmultiple]
  rfl

end FinitePoint

end Coffer.Curve
